import ApiScaffold.Proofs.Description.Assembly
import ApiScaffold.Proofs.Description.Declarations
import ApiScaffold.Proofs.Emission
import ApiScaffold.Proofs.Enumeration.RoundTrip
/-!
# How components are divided

A component goes one of four ways: the shared library provides it, or it is an enumeration, a
paging envelope or a record. The data types of a document show each component that is one of the
two kinds in between exactly once, and in its place, whatever the order in which the members of
groups stand among each other.
-/
namespace ApiScaffold

/-! ## The four ways -/

inductive Fate where
  | skipped
  | enumeration
  | envelope
  | record (group : String)
  deriving DecidableEq

def Fate.places : Fate → List Fate
  | .skipped | .envelope => []
  | fate => [fate]

/-- The context and the schema alone say what is to become of a component. -/
def Document.Destines (d : Document) (c : Context) (name : String) (schema : Schema) : Fate → Prop
  | .skipped => name ∈ c.skipped
  | .enumeration => name ∉ c.skipped ∧ schema.literals ≠ []
  | .envelope =>
    name ∉ c.skipped ∧ schema.literals = [] ∧ Extension.isPage d schema = .ok true
  | .record group =>
    name ∉ c.skipped ∧ schema.literals = [] ∧ Extension.isPage d schema = .ok false ∧
      Keyed.get? "x-group" schema.extensions = some (.string group)

private theorem Document.Destines.unique {d : Document} {c : Context} {name : String}
    {schema : Schema} {fate other : Fate} (h : d.Destines c name schema fate)
    (h' : d.Destines c name schema other) : fate = other := by
  cases fate <;> cases other <;> simp_all [Destines]

private theorem Extension.get?_of_group {name group : String} {schema : Schema}
    (h : Extension.group name schema = .ok (some group)) :
    Keyed.get? "x-group" schema.extensions = some (.string group) := by
  unfold Extension.group at h
  split at h
  · cases h
  · cases h
  next found =>
    split at h
    · cases h
    · cases h
      exact found
  · cases h

/-! ## Dependencies -/

namespace Dependency

@[simp] theorem mem_insert {new dependency : Dependency} {old : List Dependency} :
    dependency ∈ insert new old ↔ dependency = new ∨ dependency ∈ old := by
  induction old with
  | nil => simp [insert]
  | cons first rest ih =>
    by_cases same : new = first
    · simp [insert, same]
    · by_cases less : before new first = true
      · simp [insert, same, less]
      · simp [insert, same, less, ih, or_left_comm]

@[simp] theorem mem_union {dependency : Dependency} {new old : List Dependency} :
    dependency ∈ union new old ↔ dependency ∈ new ∨ dependency ∈ old := by
  induction new with
  | nil => simp [union]
  | cons first rest ih =>
    have step : union (first :: rest) old = insert first (union rest old) := rfl
    simp [step, ih, or_assoc]

end Dependency

theorem Record.mem_imports {r : Record} {dependency : Dependency} :
    dependency ∈ r.imports ↔ (∃ f ∈ r.fields, dependency ∈ f.type.imports) ∨
      ∃ type ∈ r.aliasOf, dependency ∈ type.imports := by
  have collected (fields : List Field) (done : List Dependency) :
      dependency ∈ fields.foldl (fun done f => Dependency.union f.type.imports done) done ↔
        dependency ∈ done ∨ ∃ f ∈ fields, dependency ∈ f.type.imports := by
    induction fields generalizing done with
    | nil => simp
    | cons f rest ih =>
      simp only [List.foldl_cons, ih, Dependency.mem_union, List.exists_mem_cons_iff]
      rw [or_comm (a := dependency ∈ f.type.imports), or_assoc]
  unfold imports
  cases r.aliasOf with
  | none => simp [collected]
  | some type => simp [collected, or_comm]

private theorem Group.mem_dependencies {name : String} {records : List Record}
    {dependency : Dependency} :
    dependency ∈ (grouping.group name records).dependencies ↔
      ∃ r ∈ records, dependency ∈ r.imports := by
  induction records using List.reverseRecOn with
  | nil => simp [Grouping.group, grouping]
  | append_singleton records r ih =>
    have step : (grouping.push (grouping.group name records) r).dependencies =
        Dependency.union r.imports (grouping.group name records).dependencies := rfl
    rw [Grouping.group_append, step, Dependency.mem_union, ih]
    simp [or_comm, or_and_right, exists_or]

/-! ## Lists without repetitions -/

private theorem filter_eq_singleton {α : Type} {f : α → String} {l : List α}
    (distinct : (l.map f).Nodup) {a : α} (member : a ∈ l) :
    l.filter (f · = f a) = [a] := by
  induction l with
  | nil => cases member
  | cons first rest ih =>
    obtain ⟨fresh, tail⟩ := List.nodup_cons.mp distinct
    rcases List.mem_cons.mp member with rfl | member
    · have others : rest.filter (f · = f a) = [] := by
        rw [List.filter_eq_nil_iff]
        intro b inside same
        rw [← of_decide_eq_true same] at fresh
        exact fresh (List.mem_map_of_mem inside)
      simp [others]
    · have different : f first ≠ f a := by
        intro same
        rw [same] at fresh
        exact fresh (List.mem_map_of_mem member)
      rw [List.filter_cons_of_neg (by simpa using different), ih tail member]

private theorem filter_eq_nil {α : Type} {name : α → String} {l : List α} {text : String}
    (h : ∀ a ∈ l, name a ≠ text) : l.filter (name · = text) = [] := by
  rw [List.filter_eq_nil_iff]
  intro a member same
  exact h a member (of_decide_eq_true same)

namespace DataTypes

variable {d : Document} {c : Context}

def places (types : DataTypes) (name : String) : List Fate :=
  (types.enums.filter (·.name = name)).map (fun _ => .enumeration) ++
    (types.entries.filter (·.2.name = name)).map fun entry => .record entry.1

/-- The data types are made of the components that are enumerations or records, each in its place
and once, in the order of names. -/
structure Divides (types : DataTypes) (d : Document) (c : Context) : Prop where
  fate {name : String} {schema : Schema} :
    (name, schema) ∈ d.schemas → ∃! fate, d.Destines c name schema fate
  places {name : String} {schema : Schema} {fate : Fate} :
    (name, schema) ∈ d.schemas → d.Destines c name schema fate → types.places name = fate.places
  definitions {e : Enumeration} :
    e ∈ types.enums → ∃ schema, (e.name, schema) ∈ d.schemas ∧
      Enumeration.ofSchema e.name schema = .ok e
  records {g : Group} {r : Record} :
    g ∈ types.groups → r ∈ g.records → ∃ schema, (r.name, schema) ∈ d.schemas ∧
      (Record.ofSchema d r.name schema).result = .ok r
  groupOrder : Texts.Increasing (types.groups.map (·.name))
  filled {g : Group} : g ∈ types.groups → g.records ≠ []
  recordOrder {g : Group} : g ∈ types.groups → Texts.Increasing (g.records.map (·.name))
  enumOrder : Texts.Increasing (types.enums.map (·.name))
  dependencies {g : Group} {dependency : Dependency} :
    g ∈ types.groups → (dependency ∈ g.dependencies ↔
      ∃ r ∈ g.records, (∃ f ∈ r.fields, dependency ∈ f.type.imports) ∨
        ∃ type ∈ r.aliasOf, dependency ∈ type.imports)

/-! ## What is emitted goes by the fate -/

def Emitted.fate : Emitted → Fate
  | .skipped => .skipped
  | .enum _ => .enumeration
  | .page => .envelope
  | .record group _ => .record group

private theorem Emits.destines {name : String} {schema : Schema} {e : Emitted}
    (h : Emits d c name schema e) : d.Destines c name schema e.fate := by
  cases h with
  | skipped skipped => exact List.contains_iff_mem.mp skipped
  | enum kept literals =>
    exact ⟨by simpa [Context.isSkipped] using kept, by simpa [Schema.isEnum] using literals⟩
  | page kept structured marked =>
    exact ⟨by simpa [Context.isSkipped] using kept, by simpa [Schema.isEnum] using structured,
      marked⟩
  | record kept structured marked grouped =>
    exact ⟨by simpa [Context.isSkipped] using kept, by simpa [Schema.isEnum] using structured,
      marked, Extension.get?_of_group grouped⟩

theorem Emits.name_definition {name : String} {schema : Schema} {e : Enumeration}
    (h : Emits d c name schema (.enum e)) : e.name = name := by
  cases h with
  | enum _ _ defined =>
    obtain ⟨-, -, named⟩ := Enumeration.distinguished_of_ofSchema defined
    exact named

theorem Emits.name_record {name group : String} {schema : Schema} {r : Record}
    (h : Emits d c name schema (.record group r)) : r.name = name := by
  cases h with
  | record _ _ _ _ built => exact (Record.ofSchema_eq_ok built).1

private theorem names_sublist {α : Type} {schemas : Keyed Schema} {parts : List Emitted}
    {f : Emitted → Option α} {nameOf : α → String}
    (all : List.Forall₂ (fun (name, schema) e => Emits d c name schema e) schemas parts)
    (named : ∀ {name schema e a}, Emits d c name schema e → f e = some a → nameOf a = name) :
    ((parts.filterMap f).map nameOf).Sublist (Keyed.keys schemas) := by
  induction all with
  | nil => exact List.Sublist.refl _
  | @cons entry e _ _ emits _ ih =>
    cases found : f e with
    | none =>
      rw [List.filterMap_cons_none found]
      exact ih.cons _
    | some a =>
      rw [List.filterMap_cons_some found, List.map_cons, named emits found]
      exact ih.cons_cons _

private theorem names_definitions_sublist {schemas : Keyed Schema} {parts : List Emitted}
    (all : List.Forall₂ (fun (name, schema) e => Emits d c name schema e) schemas parts) :
    ((parts.filterMap Emitted.definition?).map (·.name)).Sublist (Keyed.keys schemas) := by
  apply names_sublist all
  intro name schema e definition emits found
  rw [Emitted.definition?_eq_some.mp found] at emits
  exact emits.name_definition

private theorem names_entries_sublist {schemas : Keyed Schema} {parts : List Emitted}
    (all : List.Forall₂ (fun (name, schema) e => Emits d c name schema e) schemas parts) :
    ((parts.filterMap Emitted.record?).map (·.2.name)).Sublist (Keyed.keys schemas) := by
  apply names_sublist all
  intro name schema e entry emits found
  rw [Emitted.record?_eq_some.mp found] at emits
  exact emits.name_record

section

variable {types : DataTypes} (h : (ofDocument d c).result = .ok types)

include h

private theorem emits_of_mem_enums {e : Enumeration} (member : e ∈ types.enums) :
    ∃ schema, (e.name, schema) ∈ d.schemas ∧ Emits d c e.name schema (.enum e) := by
  obtain ⟨name, schema, inside, emits⟩ := (mem_enums_iff h).mp member
  have named := emits.name_definition
  subst named
  exact ⟨schema, inside, emits⟩

private theorem emits_of_mem_entries {group : String} {r : Record}
    (member : (group, r) ∈ types.entries) :
    ∃ schema, (r.name, schema) ∈ d.schemas ∧ Emits d c r.name schema (.record group r) := by
  have holds := holds_iff_mem_entries.mpr member
  obtain ⟨name, schema, inside, emits⟩ := (holds_iff h).mp holds
  have named := emits.name_record
  subst named
  exact ⟨schema, inside, emits⟩

theorem mem_dependencies_iff {g : Group} (member : g ∈ types.groups) (dependency : Dependency) :
    dependency ∈ g.dependencies ↔ ∃ r ∈ g.records, dependency ∈ r.imports := by
  obtain ⟨parts, -, -, groups⟩ := exists_parts h
  rw [groups] at member
  obtain ⟨name, -, rfl⟩ := (Grouping.mem_grouped _).mp member
  have records := Group.grouping.things_group name
    (Grouping.under name (parts.filterMap Emitted.record?))
  rw [Group.mem_dependencies]
  change _ ↔ ∃ r ∈ Group.grouping.things _, _
  rw [records]

theorem records_ne_nil {g : Group} (member : g ∈ types.groups) : g.records ≠ [] := by
  obtain ⟨parts, -, -, groups⟩ := exists_parts h
  rw [groups] at member
  exact Grouping.things_ne_nil member

private theorem increasing_groups : Texts.Increasing (types.groups.map (·.name)) := by
  obtain ⟨parts, -, -, groups⟩ := exists_parts h
  rw [groups]
  exact Group.grouping.increasing_names _

variable (ordered : Keyed.Increasing d.schemas)

include ordered

private theorem increasing_enums : Texts.Increasing (types.enums.map (·.name)) := by
  obtain ⟨parts, all, enums, -⟩ := exists_parts h
  rw [enums]
  exact List.Pairwise.sublist (names_definitions_sublist all) ordered

private theorem increasing_records {g : Group} (member : g ∈ types.groups) :
    Texts.Increasing (g.records.map (·.name)) := by
  obtain ⟨parts, all, -, groups⟩ := exists_parts h
  rw [groups] at member
  have records : g.records = Grouping.under g.name (parts.filterMap Emitted.record?) :=
    Grouping.things_of_mem_grouped member
  rw [records, Grouping.under, List.map_map]
  have part := (List.filter_sublist (p := fun entry : String × Record => entry.1 = g.name)
    (l := parts.filterMap Emitted.record?)).map (·.2.name)
  exact List.Pairwise.sublist (part.trans (names_entries_sublist all)) ordered

theorem nodup_entries : (types.entries.map (·.2.name)).Nodup := by
  obtain ⟨parts, all, -, groups⟩ := exists_parts h
  rw [((entries_perm groups).map (·.2.name)).nodup_iff]
  exact (List.Pairwise.sublist (names_entries_sublist all) ordered).imp ne_of_lt

private theorem places_of_emits {name : String} {schema : Schema} {e : Emitted}
    (inside : (name, schema) ∈ d.schemas) (emits : Emits d c name schema e) :
    types.places name = e.fate.places := by
  have only {other : Schema} {e' : Emitted} (inside' : (name, other) ∈ d.schemas)
      (emits' : Emits d c name other e') : e' = e := by
    have found := (Keyed.get?_eq_some_iff ordered).mpr inside
    have found' := (Keyed.get?_eq_some_iff ordered).mpr inside'
    cases found.symm.trans found'
    exact emits'.unique emits
  have enum (definition : Enumeration) (member : definition ∈ types.enums)
      (named : definition.name = name) : .enum definition = e := by
    subst named
    obtain ⟨_, inside', emits'⟩ := emits_of_mem_enums h member
    exact only inside' emits'
  have record (entry : String × Record) (member : entry ∈ types.entries)
      (named : entry.2.name = name) : .record entry.1 entry.2 = e := by
    subst named
    obtain ⟨_, inside', emits'⟩ := emits_of_mem_entries h member
    exact only inside' emits'
  cases e with
  | skipped | page =>
    have noEnum := filter_eq_nil fun definition member named =>
      Emitted.noConfusion (enum definition member named)
    have noRecord := filter_eq_nil fun entry member named =>
      Emitted.noConfusion (record entry member named)
    simp only [places, noEnum, noRecord]
    rfl
  | enum definition =>
    have member := (mem_enums_iff h).mpr ⟨name, schema, inside, emits⟩
    have one := filter_eq_singleton ((increasing_enums h ordered).imp ne_of_lt) member
    have noRecord := filter_eq_nil fun entry member named =>
      Emitted.noConfusion (record entry member named)
    rw [emits.name_definition] at one
    simp only [places, one, noRecord]
    rfl
  | record group r =>
    have member := holds_iff_mem_entries.mp
      ((holds_iff h).mpr ⟨name, schema, inside, emits⟩)
    have noEnum := filter_eq_nil fun definition member named =>
      Emitted.noConfusion (enum definition member named)
    have one := filter_eq_singleton (f := fun entry : String × Record => entry.2.name)
      (nodup_entries h ordered) member
    simp only [emits.name_record] at one
    simp only [places, noEnum, one]
    rfl

end

/-- Components are divided by their fates. -/
theorem divides_of_ofDocument {types : DataTypes} (ordered : Keyed.Increasing d.schemas)
    (h : (ofDocument d c).result = .ok types) : types.Divides d c where
  fate := by
    intro name schema inside
    obtain ⟨e, emits⟩ := exists_emits h inside
    exact ⟨e.fate, emits.destines, fun _ destined => destined.unique emits.destines⟩
  places := by
    intro name schema fate inside destined
    obtain ⟨e, emits⟩ := exists_emits h inside
    rw [destined.unique emits.destines]
    exact places_of_emits h ordered inside emits
  definitions := by
    intro e member
    obtain ⟨schema, inside, emits⟩ := emits_of_mem_enums h member
    cases emits with
    | enum _ _ defined => exact ⟨schema, inside, defined⟩
  records := by
    intro g r member inGroup
    have holds := holds_iff_mem_entries.mp ⟨g, member, rfl, inGroup⟩
    obtain ⟨schema, inside, emits⟩ := emits_of_mem_entries h holds
    cases emits with
    | record _ _ _ _ built => exact ⟨schema, inside, built⟩
  groupOrder := increasing_groups h
  filled := records_ne_nil h
  recordOrder := increasing_records h ordered
  enumOrder := increasing_enums h ordered
  dependencies := by
    intro g dependency member
    simp only [mem_dependencies_iff h member, Record.mem_imports]

/-- Members of two groups in turns, among them an enumeration, a component that is skipped, and a
paging envelope that is composed of it. -/
def counterDescription : Json :=
  let text : String × Json := ("type", .string "string")
  Description.assemble [
    ("Base", .object [
      ("properties", .object [("id", .object [text])]), ("x-group", .string "common")]),
    ("Counter", .object [
      ("properties", .object [
        ("name", .object [text]), ("state", Description.referenceTo "State")]),
      ("x-group", .string "ticket")]),
    ("Moments", .object [
      ("items", .object [("format", .string "date-time"), text]), ("type", .string "array"),
      ("x-group", .string "common")]),
    ("Page", .object [("x-page", .bool true)]),
    ("State", .object [("enum", .array [.string "OPEN", .string "DONE"]), text]),
    ("Ticket", .object [
      ("allOf", .array [Description.referenceTo "Base"]), ("x-group", .string "ticket")]),
    ("TicketPage", .object [("allOf", .array [Description.referenceTo "Page"])])] [] []

theorem divides_of_ofDocument_counter :
    ∃ d c types, Description.read counterDescription = .ok d ∧
      Context.ofDocument d .go (some "example.com/queue") = .ok c ∧
      Keyed.Increasing d.schemas ∧ (ofDocument d c).result = .ok types ∧ types.Divides d c ∧
      types.entries.map (fun entry => (entry.1, entry.2.name)) =
        [("common", "Base"), ("common", "Moments"), ("ticket", "Counter"), ("ticket", "Ticket")] ∧
      types.groups.map (·.dependencies) = [[.timestamp], [.enum "State"]] ∧
      ["Page", "State", "TicketPage"].map types.places = [[], [.enumeration], []] := by
  have emitted : ∃ d c types, Description.read counterDescription = .ok d ∧
      Context.ofDocument d .go (some "example.com/queue") = .ok c ∧
      (ofDocument d c).result = .ok types ∧
      types.entries.map (fun entry => (entry.1, entry.2.name)) =
        [("common", "Base"), ("common", "Moments"), ("ticket", "Counter"), ("ticket", "Ticket")] ∧
      types.groups.map (·.dependencies) = [[.timestamp], [.enum "State"]] ∧
      ["Page", "State", "TicketPage"].map types.places = [[], [.enumeration], []] :=
    ⟨_, _, _, rfl, rfl, rfl, rfl, rfl, by decide +kernel⟩
  obtain ⟨d, c, types, read, context, emitted, shown⟩ := emitted
  have ordered := Description.increasing_schemas read (by decide)
  exact ⟨d, c, types, read, context, ordered, emitted, divides_of_ofDocument ordered emitted, shown⟩

end DataTypes

end ApiScaffold
