import ApiScaffold.Proofs.Resolution.Notes
import ApiScaffold.Proofs.Resolution.Termination
import ApiScaffold.Proofs.Service.Validation
/-!
# Kinds of components

A component without members of its own stands for the values of its schema. If it is a list or has
a schema for additional properties, it is another name for the type that the schema has where it is
written in place. Any other one becomes a structure without fields, which is right for objects
only. So a component keeps its kind unless it is a scalar, or says nothing of its kind.
-/
namespace ApiScaffold

/-- Lists, maps, and scalars, which are no objects and not left open. -/
def Shape.IsKnown : Shape → Prop
  | .primitive p => p ≠ .any ∧ p ≠ .record
  | .list _ | .map _ => True
  | _ => False

/-- The values are objects: by the type, or without one by the format or by what is said of their
members. -/
def Schema.DescribesObject (s : Schema) : Prop :=
  s.type = some "object" ∨ s.type = none ∧
    (s.format = some "map" ∨ s.additional.isSome = true ∨ s.properties ≠ [] ∨ s.allOf ≠ [])

instance (s : Schema) : Decidable s.DescribesObject :=
  inferInstanceAs (Decidable (_ ∨ _))

namespace Resolution

variable {d : Document} {schema : Schema} {required : Bool} {type : ResolvedType}

private theorem shape_inlineType (room : Nat) (schema : Schema) (required : Bool) :
    (inlineType d room schema required).result.map (·.shape) =
      (inlineType d room schema true).result.map (·.shape) := by
  cases room with
  | zero => rfl
  | succ room =>
    rw [inlineType, inlineType]
    cases schema.form with
    | list items => cases items <;> rfl
    | _ => rfl

private theorem resolve_true_of_isKnown
    (h : (resolve d (.inline schema) required).result = .ok type) (known : type.shape.IsKnown) :
    (resolve d (.inline schema) true).result = .ok ⟨type.shape, false⟩ := by
  have same : (resolve d (.inline schema) required).result.map (·.shape) =
      (resolve d (.inline schema) true).result.map (·.shape) := shape_inlineType _ schema required
  obtain ⟨shape, _⟩ := type
  rw [h] at same
  obtain ⟨⟨other, nullable⟩, resolved, equal⟩ := Outcome.map_eq_ok.mp same.symm
  obtain rfl : shape = other := equal.symm
  have present : nullable = false := by
    refine Bool.eq_false_iff.mpr fun absent => ?_
    have mayBe := (nullable_resolve resolved).mp absent
    cases shape with
    | primitive p => cases mayBe.1
    | list | map => exact mayBe
    | _ => exact known
  rw [resolved, present]

private theorem not_isKnown_of_object (describes : schema.DescribesObject)
    (list : schema.type ≠ some "array") (none : schema.additional = none)
    (properties : schema.properties = []) (allOf : schema.allOf = [])
    (h : (resolve d (.inline schema) required).result = .ok type) :
    ¬ type.shape.IsKnown := by
  have form : schema.form = .any ∨ schema.form = .record := by
    unfold Schema.DescribesObject at describes
    unfold Schema.form Schema.hasType
    grind
  obtain ⟨room, -, within⟩ := exists_room d schema
  rw [within, inlineType] at h
  rcases form with form | form
  · rw [form] at h
    cases h
    exact fun known => known.1 rfl
  · rw [form] at h
    cases h
    exact fun known => known.2 rfl

end Resolution

namespace Record

variable {d : Document} {name : String} {schema : Schema} {r : Record}

/-- The record is another name for what its schema resolves to, if that is known to be a list, a map
or a scalar, and a structure only if the schema describes an object. -/
structure KeepsKind (r : Record) (d : Document) (schema : Schema) : Prop where
  renamed : ∀ required type, (Resolution.resolve d (.inline schema) required).result = .ok type →
    type.shape.IsKnown → r.aliasOf = some ⟨type.shape, false⟩
  struct : r.aliasOf = none → schema.DescribesObject

private theorem isAlias_iff_of_memberless (properties : schema.properties = [])
    (allOf : schema.allOf = []) :
    isAlias schema = true ↔ schema.type = some "array" ∨ schema.additional.isSome = true := by
  simp [isAlias, Schema.hasType, properties, allOf]

private theorem keepsKind_iff (properties : schema.properties = []) (allOf : schema.allOf = [])
    (h : (ofSchema d name schema).result = .ok r) :
    r.KeepsKind d schema ↔ isAlias schema = true ∨ schema.DescribesObject := by
  have struct := aliasOf_eq_none_iff h
  constructor
  · intro keeps
    by_cases renamed : isAlias schema = true
    · exact .inl renamed
    · exact .inr (keeps.struct (struct.mpr (Bool.eq_false_iff.mpr renamed)))
  · intro either
    by_cases renamed : isAlias schema = true
    · refine ⟨?_, ?_⟩
      · intro required type resolved known
        have same := Resolution.resolve_true_of_isKnown resolved known
        obtain ⟨type', named⟩ : ∃ type', r.aliasOf = some type' := by
          refine Option.ne_none_iff_exists'.mp fun none => ?_
          cases renamed.symm.trans (struct.mp none)
        have found := (ofSchema_eq_ok h).2.2 type' named
        rw [named, Except.ok.inj (same.symm.trans found)]
      · intro none
        cases renamed.symm.trans (struct.mp none)
    · have describes := either.resolve_left renamed
      rw [isAlias_iff_of_memberless properties allOf, not_or] at renamed
      obtain ⟨list, values⟩ := renamed
      refine ⟨?_, fun _ => describes⟩
      intro required type resolved known
      exact absurd known (Resolution.not_isKnown_of_object describes list
        (Option.not_isSome_iff_eq_none.mp values) properties allOf resolved)

end Record

namespace DataTypes

variable {d : Document} {c : Context} {types : DataTypes}

def KeepsKinds (types : DataTypes) (d : Document) : Prop :=
  ∀ name schema, (name, schema) ∈ d.schemas → schema.properties = [] → schema.allOf = [] →
    ∀ r ∈ types.records, r.name = name → r.KeepsKind d schema

/-- Components without members keep their kinds exactly if each of them that becomes a record is a
list, has a schema for additional properties, or describes an object. -/
theorem keepsKinds_iff (ordered : Keyed.Increasing d.schemas)
    (h : (ofDocument d c).result = .ok types) :
    types.KeepsKinds d ↔
      ∀ name schema, (name, schema) ∈ d.schemas → schema.properties = [] → schema.allOf = [] →
        c.isSkipped name = false → d.IsRecord name →
          schema.type = some "array" ∨ schema.additional.isSome = true ∨
            schema.DescribesObject := by
  refine forall₅_congr fun name schema inside properties allOf => ?_
  simp only [← or_assoc, ← Record.isAlias_iff_of_memberless properties allOf]
  constructor
  · intro keeps kept becomes
    obtain ⟨r, member, named, built⟩ := exists_ofSchema ordered h inside kept becomes
    exact (Record.keepsKind_iff properties allOf built).mp (keeps r member named)
  · intro either r member named
    subst named
    obtain ⟨kept, becomes⟩ := (exists_record_iff ordered h).mp ⟨r, member, rfl⟩
    have built := ofSchema_of_mem_schemas ordered h member inside
    exact (Record.keepsKind_iff properties allOf built).mpr (either kept becomes)

def kindsDescription (schemas : List (String × List (String × Json))) : Json :=
  Description.assemble (schemas.map fun (name, members) =>
    (name, .object (members ++ [("x-group", .string "common")]))) [] []

/-- A list, and an object that says nothing of its members. -/
theorem keepsKinds_iff_batch :
    ∃ d c types, Description.read (kindsDescription [
        ("Batch", [("items", .object [("type", .string "string")]), ("type", .string "array")]),
        ("Marker", [("type", .string "object")])]) = .ok d ∧
      Context.ofDocument d .go (some "example.com/queue") = .ok c ∧
      Keyed.Increasing d.schemas ∧ (ofDocument d c).result = .ok types ∧
      (types.KeepsKinds d ↔
        ∀ name schema, (name, schema) ∈ d.schemas → schema.properties = [] → schema.allOf = [] →
          c.isSkipped name = false → d.IsRecord name →
            schema.type = some "array" ∨ schema.additional.isSome = true ∨
              schema.DescribesObject) ∧
      types.KeepsKinds d ∧
      types.records.map (fun r => (r.name, r.aliasOf.map (·.shape))) =
        [("Batch", some (.list (.primitive .string))), ("Marker", none)] := by
  have compiles : ∃ d c types, Description.read (kindsDescription [
        ("Batch", [("items", .object [("type", .string "string")]), ("type", .string "array")]),
        ("Marker", [("type", .string "object")])]) = .ok d ∧
      Context.ofDocument d .go (some "example.com/queue") = .ok c ∧
      Keyed.Increasing d.schemas ∧ (ofDocument d c).result = .ok types ∧
      (∀ entry ∈ d.schemas, entry.2.type = some "array" ∨ entry.2.DescribesObject) ∧
      types.records.map (fun r => (r.name, r.aliasOf.map (·.shape))) =
        [("Batch", some (.list (.primitive .string))), ("Marker", none)] :=
    ⟨_, _, _, rfl, rfl, by decide, rfl, by decide, rfl⟩
  obtain ⟨d, c, types, read, context, ordered, compiled, described, kinds⟩ := compiles
  have exactly := keepsKinds_iff ordered compiled
  refine ⟨d, c, types, read, context, ordered, compiled, exactly, exactly.mpr ?_, kinds⟩
  intro name schema inside _ _ _ _
  exact (described _ inside).imp_right .inr

/-- A component that is a text becomes a structure without fields. -/
theorem not_keepsKinds_code :
    ∃ d c types, Description.read (kindsDescription [("Code", [("type", .string "string")])]) =
        .ok d ∧
      Context.ofDocument d .go (some "example.com/queue") = .ok c ∧
      (ofDocument d c).result = .ok types ∧
      types.records.map (fun r => (r.name, r.aliasOf, r.fields)) = [("Code", none, [])] ∧
      ¬ types.KeepsKinds d := by
  refine ⟨_, _, _, rfl, rfl, rfl, rfl, ?_⟩
  intro keeps
  have struct := (keeps _ _ List.mem_cons_self rfl rfl _ List.mem_cons_self rfl).struct rfl
  exact absurd struct (by decide)

end DataTypes

end ApiScaffold
