import ApiScaffold.Proofs.Partition
import ApiScaffold.Proofs.Service.Compilation
/-!
# Skipping more components

What a component becomes does not depend on which others are skipped. A context that skips more
components than another one compiles everything that the other one does, and to the same service
but for the records and enumerations of these components.
-/
namespace ApiScaffold

/-- Everything that a file with these records has to import. -/
def Record.importsOfAll (records : List Record) : List Dependency :=
  records.foldl (fun done r => Dependency.union r.imports done) []

private theorem Group.group_eq (name : String) (records : List Record) :
    Group.grouping.group name records = ⟨name, records, Record.importsOfAll records⟩ := by
  induction records using List.reverseRecOn with
  | nil => rfl
  | append_singleton records r ih =>
    rw [Grouping.group_append, ih, Record.importsOfAll, Record.importsOfAll, List.foldl_append]
    rfl

namespace Context

variable {c c' : Context}

def keeps (c : Context) (name : String) : Bool := !c.isSkipped name

private theorem isSkipped_of_subset (more : c.skipped ⊆ c'.skipped) {name : String}
    (h : c.isSkipped name = true) : c'.isSkipped name = true :=
  List.contains_iff_mem.mpr (more (List.contains_iff_mem.mp h))

end Context

/-! ## What remains -/

def Group.without (c : Context) (g : Group) : Group :=
  let records := g.records.filter fun r => c.keeps r.name
  ⟨g.name, records, Record.importsOfAll records⟩

/-- The data types without those that the context skips. A group without records disappears. -/
def DataTypes.without (c : Context) (types : DataTypes) : DataTypes where
  groups := (types.groups.map (Group.without c)).filter (!·.records.isEmpty)
  enums := types.enums.filter fun e => c.keeps e.name

def Service.without (c : Context) (s : Service) : Service :=
  { s with types := s.types.without c }

namespace DataTypes

section

variable {α : Type} {f : Emitted → Option α} {nameOf : α → String} {keeps : String → Bool}
  {name : String} {e : Emitted} (named : ∀ a, f e = some a → nameOf a = name)
  (parts : List Emitted)

include named

private theorem filter_of_skipped (skipped : keeps name = false) :
    ((e :: parts).filterMap f).filter (fun a => keeps (nameOf a)) =
      (parts.filterMap f).filter fun a => keeps (nameOf a) := by
  cases found : f e with
  | none => rw [List.filterMap_cons_none found]
  | some a =>
    rw [List.filterMap_cons_some found, List.filter_cons_of_neg]
    rw [named a found, skipped]
    exact Bool.false_ne_true

private theorem filter_of_kept (kept : keeps name = true) (rest : List Emitted)
    (same : rest.filterMap f = (parts.filterMap f).filter fun a => keeps (nameOf a)) :
    (e :: rest).filterMap f = ((e :: parts).filterMap f).filter fun a => keeps (nameOf a) := by
  cases found : f e with
  | none => rw [List.filterMap_cons_none found, List.filterMap_cons_none found, same]
  | some a =>
    rw [List.filterMap_cons_some found, List.filterMap_cons_some found, List.filter_cons_of_pos,
      same]
    rw [named a found, kept]

end

variable {d : Document} {c c' : Context} (more : c.skipped ⊆ c'.skipped)

include more

private theorem Emits.skipping {name : String} {schema : Schema} {e : Emitted}
    (h : Emits d c name schema e) (kept : c'.isSkipped name = false) :
    Emits d c' name schema e := by
  cases h with
  | skipped skipped => cases (Context.isSkipped_of_subset more skipped).symm.trans kept
  | enum _ literals defined => exact .enum kept literals defined
  | page _ structured marked => exact .page kept structured marked
  | record _ structured marked grouped built => exact .record kept structured marked grouped built

private theorem exists_parts_skipping {schemas : Keyed Schema} {parts : List Emitted}
    (all : List.Forall₂ (fun (name, schema) e => Emits d c name schema e) schemas parts) :
    ∃ rest, List.Forall₂ (fun (name, schema) e => Emits d c' name schema e) schemas rest ∧
      rest.filterMap Emitted.definition? =
        (parts.filterMap Emitted.definition?).filter (fun e => c'.keeps e.name) ∧
      rest.filterMap Emitted.record? =
        (parts.filterMap Emitted.record?).filter (fun entry => c'.keeps entry.2.name) := by
  induction all with
  | nil => exact ⟨[], .nil, rfl, rfl⟩
  | @cons entry e _ parts emits _ ih =>
    obtain ⟨rest, all, definitions, records⟩ := ih
    have definition (definition : Enumeration) (found : e.definition? = some definition) :
        definition.name = entry.1 := by
      rw [Emitted.definition?_eq_some.mp found] at emits
      exact emits.name_definition
    have record (made : String × Record) (found : e.record? = some made) :
        made.2.name = entry.1 := by
      rw [Emitted.record?_eq_some.mp found] at emits
      exact emits.name_record
    cases skips : c'.isSkipped entry.1 with
    | true =>
      have skipped : c'.keeps entry.1 = false := by rw [Context.keeps, skips]; rfl
      refine ⟨.skipped :: rest, .cons (.skipped skips) all, ?_, ?_⟩
      · rw [filter_of_skipped definition parts skipped]
        exact definitions
      · rw [filter_of_skipped record parts skipped]
        exact records
    | false =>
      have kept : c'.keeps entry.1 = true := by rw [Context.keeps, skips]; rfl
      refine ⟨e :: rest, .cons (emits.skipping more skips) all, ?_, ?_⟩
      · exact filter_of_kept definition parts kept rest definitions
      · exact filter_of_kept record parts kept rest records

/-- Groups are made of the records that remain, from the start. -/
theorem ofDocument_without {types : DataTypes} (h : (ofDocument d c).result = .ok types) :
    (ofDocument d c').result = .ok (types.without c') := by
  obtain ⟨parts, all, enums, groups⟩ := exists_parts h
  obtain ⟨rest, others, definitions, records⟩ := exists_parts_skipping more all
  have emitted : (ofDocument d c').result = .ok (rest.foldl add ⟨[], []⟩) :=
    addSchemas_of_emits others _
  have keep : Group.grouping.keep (fun r : Record => c'.keeps r.name) = Group.without c' := by
    funext g
    exact Group.group_eq g.name _
  have kept := Group.grouping.grouped_filter (fun r : Record => c'.keeps r.name)
    (parts.filterMap Emitted.record?)
  rw [emitted, foldl_add, definitions, records, kept, keep, ← groups, ← enums]
  rfl

end DataTypes

/-- A context that skips more compiles to the same service, without what it skips. The imports of
each group that is left are those of its records. -/
theorem Service.ofDocument_of_subset {d : Document} {c c' : Context} {s : Service}
    (module : c.module = c'.module) (more : c.skipped ⊆ c'.skipped)
    (h : (Service.ofDocument d c).result = .ok s) :
    (Service.ofDocument d c').result = .ok (s.without c') ∧
      ∀ g ∈ (s.without c').types.groups, g.records ≠ [] ∧
        ∀ dependency, dependency ∈ g.dependencies ↔ ∃ r ∈ g.records, dependency ∈ r.imports := by
  have compiled := compiled_of_ofDocument h
  have types := DataTypes.ofDocument_without more compiled.types
  refine ⟨ofDocument_of_compiled ?_, ?_⟩
  · exact ⟨compiled.module.trans module, types, compiled.endpoints, compiled.handlers,
      compiled.routes, compiled.errors⟩
  · intro g member
    exact ⟨DataTypes.records_ne_nil types member, DataTypes.mem_dependencies_iff types member⟩

/-- Without its only record with a state a group has nothing to import any more, and the other
group disappears. -/
theorem Service.ofDocument_of_subset_counter :
    ∃ d c c' s, Description.read DataTypes.counterDescription = .ok d ∧
      Context.ofDocument d .go (some "example.com/queue") = .ok c ∧
      c' = c.skipping ("Base" :: "Counter" :: "Moments" :: c.skipped) ∧
      c.module = c'.module ∧ c.skipped ⊆ c'.skipped ∧
      (Service.ofDocument d c).result = .ok s ∧
      (Service.ofDocument d c').result = .ok (s.without c') ∧
      (∀ g ∈ (s.without c').types.groups, g.records ≠ [] ∧
        ∀ dependency, dependency ∈ g.dependencies ↔ ∃ r ∈ g.records, dependency ∈ r.imports) ∧
      s.types.groups.map (fun g => (g.name, g.records.map (·.name), g.dependencies)) =
        [("common", ["Base", "Moments"], [.timestamp]),
          ("ticket", ["Counter", "Ticket"], [.enum "State"])] ∧
      (s.without c').types.groups.map (fun g => (g.name, g.records.map (·.name), g.dependencies)) =
        [("ticket", ["Ticket"], [])] := by
  have compiled : ∃ d c s, Description.read DataTypes.counterDescription = .ok d ∧
      Context.ofDocument d .go (some "example.com/queue") = .ok c ∧
      (Service.ofDocument d c).result = .ok s ∧
      s.types.groups.map (fun g => (g.name, g.records.map (·.name), g.dependencies)) =
        [("common", ["Base", "Moments"], [.timestamp]),
          ("ticket", ["Counter", "Ticket"], [.enum "State"])] ∧
      (s.without (c.skipping ("Base" :: "Counter" :: "Moments" :: c.skipped))).types.groups.map
          (fun g => (g.name, g.records.map (·.name), g.dependencies)) =
        [("ticket", ["Ticket"], [])] :=
    ⟨_, _, _, rfl, rfl, rfl, by decide +kernel, by decide +kernel⟩
  obtain ⟨d, c, s, read, context, compiled, groups, rest⟩ := compiled
  have module : c.module = (c.skipping ("Base" :: "Counter" :: "Moments" :: c.skipped)).module :=
    rfl
  have more : c.skipped ⊆ (c.skipping ("Base" :: "Counter" :: "Moments" :: c.skipped)).skipped := by
    intro name member
    simp [Context.skipping, member]
  obtain ⟨again, imports⟩ := ofDocument_of_subset module more compiled
  exact ⟨d, c, _, s, read, context, rfl, module, more, compiled, again, imports, groups, rest⟩

end ApiScaffold
