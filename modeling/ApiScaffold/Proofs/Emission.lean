import ApiScaffold.Model.Record
import ApiScaffold.Proofs.Grouping
import ApiScaffold.Proofs.Resolution.Shapes
/-!
# What component schemas become

The data types of a document are put together from its component schemas one by one. Each is left
out, or becomes an enumeration or the record of a group, and nothing else becomes one.
-/
namespace ApiScaffold

/-! ## Fields of records -/

namespace Record

variable {d : Document}

/-- A component that is lent to a record is there, and any other type ends in what the resolver
gives. -/
def FieldGrounds (d : Document) : Shape → Prop
  | .composed name => (d.schema? name).isSome = true
  | shape => d.Grounds shape

theorem fieldGrounds_of_grounds {shape : Shape} (h : d.Grounds shape) : FieldGrounds d shape := by
  cases shape with
  | composed => cases h
  | _ => exact h

def declaredRules (owner property : String) : SchemaRef → Except Failure (List String)
  | .inline schema => Extension.validationTokens (owner ++ "." ++ property) schema
  | .reference _ => .ok []

theorem field_eq_ok_iff {owner property : String} {holder : Schema} {xmlBound : Bool}
    {position : SchemaRef} {f : Field} :
    (field d owner holder xmlBound property position).result = .ok f ↔
      ∃ type rules, (Resolution.resolve d position (holder.isRequired property)).result = .ok type ∧
        declaredRules owner property position = .ok rules ∧
        f = {
          name := property
          ident := Naming.exported property
          type
          rules := addRules rules type (holder.isRequired property)
          key := property
          omitEmpty := !holder.isRequired property
          embedded := false
          xml := fieldXml property xmlBound ((inlineSchema? position).bind (·.xml)) } := by
  cases position with
  | reference target =>
    constructor
    · intro h
      obtain ⟨type, resolved, h⟩ := Diagnosed.bind_result_eq_ok.mp h
      cases h
      exact ⟨type, [], resolved, rfl, rfl⟩
    · intro h
      obtain ⟨type, rules, resolved, given, rfl⟩ := h
      cases given
      exact Diagnosed.bind_result_eq_ok.mpr ⟨type, resolved, rfl⟩
  | inline schema =>
    constructor
    · intro h
      obtain ⟨type, resolved, h⟩ := Diagnosed.bind_result_eq_ok.mp h
      obtain ⟨rules, given, h⟩ := Diagnosed.bind_result_eq_ok.mp h
      cases h
      exact ⟨type, rules, resolved, given, rfl⟩
    · intro h
      obtain ⟨type, rules, resolved, given, rfl⟩ := h
      exact Diagnosed.bind_result_eq_ok.mpr ⟨type, resolved,
        Diagnosed.bind_result_eq_ok.mpr ⟨rules, given, rfl⟩⟩

theorem declaredField_component_eq_ok_iff {owner name : String} {xmlBound : Bool} {f : Field} :
    (declaredField d owner xmlBound (.component name)).result = .ok f ↔
      (d.schema? name).isSome = true ∧ f = embeddedField name := by
  rw [declaredField]
  by_cases found : (d.schema? name).isSome = true
  · rw [if_neg (by simpa [Option.isSome_iff_ne_none] using found)]
    constructor
    · intro h
      cases h
      exact ⟨found, rfl⟩
    · intro h
      obtain ⟨-, rfl⟩ := h
      rfl
  · rw [if_pos (by simpa using found)]
    exact iff_of_false nofun fun h => found h.1

private theorem fieldGrounds_of_declaredField {owner : String} {xmlBound : Bool}
    {declaration : Declaration} {f : Field}
    (h : (declaredField d owner xmlBound declaration).result = .ok f) :
    FieldGrounds d f.type.shape.core := by
  cases declaration with
  | component name =>
    obtain ⟨found, rfl⟩ := declaredField_component_eq_ok_iff.mp h
    exact found
  | property holder name position =>
    obtain ⟨type, _, resolved, -, rfl⟩ := field_eq_ok_iff.mp h
    exact fieldGrounds_of_grounds (Resolution.grounds_resolve resolved)

theorem eq_or_mem_of_mem_putField {field other : Field} {fields : List Field}
    (h : other ∈ putField field fields) : other = field ∨ other ∈ fields := by
  induction fields with
  | nil => exact .inl (List.mem_singleton.mp h)
  | cons f rest ih =>
    unfold putField at h
    split at h
    · rcases List.mem_cons.mp h with h | h
      · exact .inl h
      · exact .inr (List.mem_cons_of_mem _ h)
    · rcases List.mem_cons.mp h with h | h
      · exact .inr (h ▸ List.mem_cons_self)
      · exact (ih h).imp_right (List.mem_cons_of_mem _)

private theorem fieldGrounds_of_putDeclared {owner : String} {xmlBound : Bool}
    {declarations : List Declaration} {fields last : List Field}
    (before : ∀ f ∈ fields, FieldGrounds d f.type.shape.core)
    (h : (putDeclared d owner xmlBound fields declarations).result = .ok last) :
    ∀ f ∈ last, FieldGrounds d f.type.shape.core := by
  induction declarations generalizing fields with
  | nil =>
    cases h
    exact before
  | cons declaration rest ih =>
    obtain ⟨field, declared, h⟩ := Diagnosed.bind_result_eq_ok.mp h
    refine ih ?_ h
    intro f member
    rcases eq_or_mem_of_mem_putField member with rfl | member
    · exact fieldGrounds_of_declaredField declared
    · exact before f member

def shapes (r : Record) : List Shape :=
  r.fields.map (·.type.shape) ++ r.aliasOf.toList.map (·.shape)

theorem ofSchema_eq_ok_iff {name : String} {schema : Schema} {r : Record} :
    (ofSchema d name schema).result = .ok r ↔
      ∃ aliasOf fields,
        (if isAlias schema = true then
          ∃ type, (Resolution.resolve d (.inline schema) true).result = .ok type ∧
            aliasOf = some type
        else aliasOf = none) ∧
        (putDeclared d name schema.xml.isSome [] (declarations schema)).result = .ok fields ∧
        r = ⟨name, schema.description, fields,
          schema.xml.map fun xml => ⟨xml.name.getD name, xml.nsPrefix⟩, aliasOf⟩ := by
  have isSome : (schema.xml.map fun xml => (⟨xml.name.getD name, xml.nsPrefix⟩ : XmlRoot)).isSome =
      schema.xml.isSome := Option.isSome_map
  simp only [ofSchema, isSome]
  split
  case isTrue named =>
    constructor
    · intro h
      obtain ⟨aliasOf, found, h⟩ := Diagnosed.bind_result_eq_ok.mp h
      obtain ⟨type, resolved, found⟩ := Diagnosed.bind_result_eq_ok.mp found
      obtain ⟨fields, declared, h⟩ := Diagnosed.bind_result_eq_ok.mp h
      cases found
      cases h
      exact ⟨_, fields, ⟨type, resolved, rfl⟩, declared, rfl⟩
    · intro h
      obtain ⟨_, fields, ⟨type, resolved, rfl⟩, declared, rfl⟩ := h
      refine Diagnosed.bind_result_eq_ok.mpr ⟨some type, ?_,
        Diagnosed.bind_result_eq_ok.mpr ⟨fields, declared, rfl⟩⟩
      exact Diagnosed.bind_result_eq_ok.mpr ⟨type, resolved, rfl⟩
  case isFalse own =>
    constructor
    · intro h
      obtain ⟨aliasOf, found, h⟩ := Diagnosed.bind_result_eq_ok.mp h
      obtain ⟨fields, declared, h⟩ := Diagnosed.bind_result_eq_ok.mp h
      cases found
      cases h
      exact ⟨none, fields, rfl, declared, rfl⟩
    · intro h
      obtain ⟨_, fields, rfl, declared, rfl⟩ := h
      exact Diagnosed.bind_result_eq_ok.mpr ⟨none, rfl,
        Diagnosed.bind_result_eq_ok.mpr ⟨fields, declared, rfl⟩⟩

theorem ofSchema_eq_ok {name : String} {schema : Schema} {r : Record}
    (h : (ofSchema d name schema).result = .ok r) :
    r.name = name ∧
      (putDeclared d name r.xmlRoot.isSome [] (declarations schema)).result = .ok r.fields ∧
      ∀ type ∈ r.aliasOf, (Resolution.resolve d (.inline schema) true).result = .ok type := by
  obtain ⟨aliasOf, fields, found, declared, rfl⟩ := ofSchema_eq_ok_iff.mp h
  refine ⟨rfl, ?_, ?_⟩
  · rwa [Option.isSome_map]
  · intro type same
    split at found
    · obtain ⟨_, resolved, rfl⟩ := found
      cases same
      exact resolved
    · cases found.symm.trans same

theorem fieldGrounds_of_ofSchema {name : String} {schema : Schema} {r : Record}
    (h : (ofSchema d name schema).result = .ok r) :
    ∀ shape ∈ r.shapes, FieldGrounds d shape.core := by
  obtain ⟨-, declared, named⟩ := ofSchema_eq_ok h
  intro shape member
  rcases List.mem_append.mp member with member | member
  · obtain ⟨f, inside, rfl⟩ := List.mem_map.mp member
    exact fieldGrounds_of_putDeclared (List.forall_mem_nil _) declared f inside
  · obtain ⟨type, inside, rfl⟩ := List.mem_map.mp member
    have resolved := named type (Option.mem_toList.mp inside)
    exact fieldGrounds_of_grounds (Resolution.grounds_resolve resolved)

end Record

/-! ## Groups of records -/

/-- A group is begun without records and extended by one record at a time. -/
def Group.grouping : Grouping Record Group where
  name := Group.name
  things := Group.records
  start name := ⟨name, [], []⟩
  push := Group.add
  name_start _ := rfl
  things_start _ := rfl
  name_push _ _ := rfl
  things_push _ _ := rfl

private theorem Group.insert_eq (name : String) (r : Record) (groups : List Group) :
    Group.insert name r groups = Group.grouping.insert name r groups := by
  induction groups with
  | nil => rfl
  | cons first rest ih =>
    rw [Group.insert, ih]
    rfl

namespace DataTypes

variable {d : Document} {c : Context}

/-! ## One schema -/

/-- The ways in which a component schema can go. -/
inductive Emits (d : Document) (c : Context) (name : String) (schema : Schema) : Emitted → Prop
  | skipped : c.isSkipped name = true → Emits d c name schema .skipped
  | enum {definition : Enumeration} : c.isSkipped name = false → schema.isEnum = true →
      Enumeration.ofSchema name schema = .ok definition → Emits d c name schema (.enum definition)
  | page : c.isSkipped name = false → schema.isEnum = false →
      Extension.isPage d schema = .ok true → Emits d c name schema .page
  | record {group : String} {r : Record} : c.isSkipped name = false → schema.isEnum = false →
      Extension.isPage d schema = .ok false → Extension.group name schema = .ok (some group) →
      (Record.ofSchema d name schema).result = .ok r → Emits d c name schema (.record group r)

private theorem emits_of_emitted {name : String} {schema : Schema} {e : Emitted}
    (h : (emitted d c name schema).result = .ok e) : Emits d c name schema e := by
  unfold emitted at h
  split at h
  next skipped =>
    cases h
    exact .skipped skipped
  next kept =>
    have kept : c.isSkipped name = false := Bool.eq_false_iff.mpr kept
    split at h
    next literals =>
      obtain ⟨definition, defined, h⟩ := Diagnosed.bind_result_eq_ok.mp h
      cases h
      exact .enum kept literals defined
    next structured =>
      have structured : schema.isEnum = false := Bool.eq_false_iff.mpr structured
      obtain ⟨page, marked, h⟩ := Diagnosed.bind_result_eq_ok.mp h
      cases page with
      | true =>
        cases h
        exact .page kept structured marked
      | false =>
        obtain ⟨group, grouped, h⟩ := Diagnosed.bind_result_eq_ok.mp h
        cases group with
        | none => cases h
        | some group =>
          obtain ⟨r, built, h⟩ := Diagnosed.bind_result_eq_ok.mp h
          cases h
          exact .record kept structured marked grouped built

private theorem emitted_of_emits {name : String} {schema : Schema} {e : Emitted}
    (h : Emits d c name schema e) : (emitted d c name schema).result = .ok e := by
  unfold emitted
  cases h with
  | skipped skipped =>
    rw [if_pos skipped]
    rfl
  | enum kept literals defined =>
    rw [if_neg (Bool.eq_false_iff.mp kept), if_pos literals]
    exact Diagnosed.bind_result_eq_ok.mpr ⟨_, defined, rfl⟩
  | page kept structured marked =>
    rw [if_neg (Bool.eq_false_iff.mp kept), if_neg (Bool.eq_false_iff.mp structured)]
    exact Diagnosed.bind_result_eq_ok.mpr ⟨true, marked, rfl⟩
  | record kept structured marked grouped built =>
    rw [if_neg (Bool.eq_false_iff.mp kept), if_neg (Bool.eq_false_iff.mp structured)]
    refine Diagnosed.bind_result_eq_ok.mpr ⟨false, marked, ?_⟩
    refine Diagnosed.bind_result_eq_ok.mpr ⟨_, grouped, ?_⟩
    exact Diagnosed.bind_result_eq_ok.mpr ⟨_, built, rfl⟩

theorem Emits.unique {name : String} {schema : Schema} {e e' : Emitted}
    (h : Emits d c name schema e) (h' : Emits d c name schema e') : e = e' := by
  cases h <;> cases h' <;> simp_all

/-! ## All schemas -/

private theorem addSchemas_eq_ok {schemas : Keyed Schema} {types last : DataTypes}
    (h : (addSchemas d c types schemas).result = .ok last) :
    ∃ parts, List.Forall₂ (fun (name, schema) e => Emits d c name schema e) schemas parts ∧
      last = parts.foldl add types := by
  induction schemas generalizing types with
  | nil =>
    cases h
    exact ⟨[], .nil, rfl⟩
  | cons entry rest ih =>
    obtain ⟨e, emits, h⟩ := Diagnosed.bind_result_eq_ok.mp h
    obtain ⟨parts, all, rfl⟩ := ih h
    exact ⟨e :: parts, .cons (emits_of_emitted emits) all, rfl⟩

theorem addSchemas_of_emits {schemas : Keyed Schema} {parts : List Emitted}
    (all : List.Forall₂ (fun (name, schema) e => Emits d c name schema e) schemas parts)
    (types : DataTypes) :
    (addSchemas d c types schemas).result = .ok (parts.foldl add types) := by
  induction all generalizing types with
  | nil => rfl
  | cons emits _ ih =>
    exact Diagnosed.bind_result_eq_ok.mpr ⟨_, emitted_of_emits emits, ih (types.add _)⟩

private theorem mem_parts {schemas : Keyed Schema} {parts : List Emitted} {e : Emitted}
    (all : List.Forall₂ (fun (name, schema) e => Emits d c name schema e) schemas parts) :
    e ∈ parts ↔ ∃ name schema, (name, schema) ∈ schemas ∧ Emits d c name schema e := by
  constructor
  · intro member
    obtain ⟨⟨name, schema⟩, inside, emits⟩ := Outcome.left_of_mem all member
    exact ⟨name, schema, inside, emits⟩
  · intro emitted
    obtain ⟨name, schema, inside, emits⟩ := emitted
    obtain ⟨e', member, emits'⟩ := Outcome.right_of_mem all inside
    rwa [emits.unique emits']

namespace Emitted

def definition? : Emitted → Option Enumeration
  | .enum definition => some definition
  | _ => none

def record? : Emitted → Option (String × Record)
  | .record group r => some (group, r)
  | _ => none

theorem definition?_eq_some {e : Emitted} {definition : Enumeration} :
    e.definition? = some definition ↔ e = .enum definition := by
  cases e <;> simp [definition?]

theorem record?_eq_some {e : Emitted} {group : String} {r : Record} :
    e.record? = some (group, r) ↔ e = .record group r := by
  cases e <;> simp [record?]

end Emitted

private theorem enums_foldl_add (parts : List Emitted) (types : DataTypes) :
    (parts.foldl add types).enums = types.enums ++ parts.filterMap Emitted.definition? := by
  induction parts generalizing types with
  | nil => simp
  | cons e rest ih =>
    rw [List.foldl_cons, ih]
    cases e <;> simp [add, Emitted.definition?, List.filterMap_cons]

private theorem groups_foldl_add (parts : List Emitted) (types : DataTypes) :
    (parts.foldl add types).groups =
      (parts.filterMap Emitted.record?).foldl
        (fun groups entry => Group.grouping.insert entry.1 entry.2 groups) types.groups := by
  induction parts generalizing types with
  | nil => simp
  | cons e rest ih =>
    rw [List.foldl_cons, ih]
    cases e <;> simp [add, Emitted.record?, Group.insert_eq, List.filterMap_cons]

theorem foldl_add (parts : List Emitted) :
    parts.foldl add ⟨[], []⟩ = ⟨Group.grouping.grouped (parts.filterMap Emitted.record?),
      parts.filterMap Emitted.definition?⟩ := by
  have groups := groups_foldl_add parts ⟨[], []⟩
  have enums := enums_foldl_add parts ⟨[], []⟩
  have grouped := Group.grouping.foldl_insert (parts.filterMap Emitted.record?) []
  exact congrArg₂ DataTypes.mk (groups.trans grouped) enums

def entries (types : DataTypes) : List (String × Record) :=
  types.groups.flatMap fun g => g.records.map (g.name, ·)

def Holds (types : DataTypes) (group : String) (r : Record) : Prop :=
  ∃ g ∈ types.groups, g.name = group ∧ r ∈ g.records

theorem holds_iff_mem_entries {types : DataTypes} {group : String} {r : Record} :
    types.Holds group r ↔ (group, r) ∈ types.entries := by
  simp only [Holds, entries, List.mem_flatMap, List.mem_map, Prod.mk.injEq]
  constructor
  · intro h
    obtain ⟨g, member, named, inside⟩ := h
    exact ⟨g, member, r, inside, named, rfl⟩
  · intro h
    obtain ⟨g, member, _, inside, named, rfl⟩ := h
    exact ⟨g, member, named, inside⟩

theorem entries_perm {types : DataTypes} {emitted : List (String × Record)}
    (h : types.groups = Group.grouping.grouped emitted) : types.entries.Perm emitted := by
  rw [entries, h]
  exact Group.grouping.entries_grouped_perm emitted

section

variable {types : DataTypes} (h : (ofDocument d c).result = .ok types)

include h

theorem exists_parts :
    ∃ parts, List.Forall₂ (fun (name, schema) e => Emits d c name schema e) d.schemas parts ∧
      types.enums = parts.filterMap Emitted.definition? ∧
      types.groups = Group.grouping.grouped (parts.filterMap Emitted.record?) := by
  obtain ⟨parts, all, rfl⟩ := addSchemas_eq_ok h
  refine ⟨parts, all, ?_, ?_⟩
  · rw [foldl_add]
  · rw [foldl_add]

theorem exists_emits {name : String} {schema : Schema} (member : (name, schema) ∈ d.schemas) :
    ∃ e, Emits d c name schema e := by
  obtain ⟨parts, all, -⟩ := exists_parts h
  obtain ⟨e, -, emits⟩ := Outcome.right_of_mem all member
  exact ⟨e, emits⟩

theorem holds_iff {group : String} {r : Record} :
    types.Holds group r ↔
      ∃ name schema, (name, schema) ∈ d.schemas ∧ Emits d c name schema (.record group r) := by
  obtain ⟨parts, all, -, groups⟩ := exists_parts h
  rw [holds_iff_mem_entries, (entries_perm groups).mem_iff, List.mem_filterMap, ← mem_parts all]
  simp only [Emitted.record?_eq_some, exists_eq_right]

theorem mem_enums_iff {definition : Enumeration} :
    definition ∈ types.enums ↔
      ∃ name schema, (name, schema) ∈ d.schemas ∧ Emits d c name schema (.enum definition) := by
  obtain ⟨parts, all, enums, -⟩ := exists_parts h
  rw [enums, List.mem_filterMap, ← mem_parts all]
  simp only [Emitted.definition?_eq_some, exists_eq_right]

end

end DataTypes

end ApiScaffold
