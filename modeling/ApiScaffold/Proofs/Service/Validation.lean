import ApiScaffold.Proofs.Handlers
import ApiScaffold.Proofs.Service.Closure
/-!
# Validated bodies

The validator takes structures and refuses everything else. A body is validated when its type, or
the type of its items, is a reference, whatever the component is. Bodies are structures exactly if
none of these components is a paging envelope, for which nothing is generated, or another name for
a list or a map.
-/
namespace ApiScaffold

/-! ## Records with fields -/

/-- The component is another name for a list or a map. -/
def Document.IsAlias (d : Document) (name : String) : Prop :=
  ∃ schema, d.schema? name = some schema ∧ Record.isAlias schema = true

theorem Record.aliasOf_eq_none_iff {d : Document} {name : String} {schema : Schema} {r : Record}
    (h : (ofSchema d name schema).result = .ok r) : r.aliasOf = none ↔ isAlias schema = false := by
  obtain ⟨aliasOf, fields, found, -, rfl⟩ := ofSchema_eq_ok_iff.mp h
  split at found
  next named =>
    obtain ⟨type, -, rfl⟩ := found
    exact iff_of_false (Option.some_ne_none type) (by simp [named])
  next own => exact iff_of_true found (Bool.eq_false_iff.mpr own)

namespace DataTypes

def HasStruct (types : DataTypes) (name : String) : Prop :=
  ∃ r ∈ types.records, r.name = name ∧ r.aliasOf = none

instance (types : DataTypes) (name : String) : Decidable (types.HasStruct name) :=
  inferInstanceAs (Decidable (∃ r ∈ types.records, _))

section

variable {d : Document} {c : Context} {types : DataTypes}
  (ordered : Keyed.Increasing d.schemas) (h : (ofDocument d c).result = .ok types)

include ordered h

private theorem aliasOf_eq_none_iff {r : Record} (member : r ∈ types.records) :
    r.aliasOf = none ↔ ¬ d.IsAlias r.name := by
  obtain ⟨schema, inside, built⟩ := ofSchema_of_mem_records h member
  have found : d.schema? r.name = some schema := (Keyed.get?_eq_some_iff ordered).mpr inside
  rw [Record.aliasOf_eq_none_iff built]
  constructor
  · rintro own ⟨other, found', named⟩
    cases found.symm.trans found'
    cases own.symm.trans named
  · intro own
    rw [← Bool.not_eq_true]
    exact fun named => own ⟨schema, found, named⟩

theorem hasStruct_iff {name : String} :
    types.HasStruct name ↔ (c.isSkipped name = false ∧ d.IsRecord name) ∧ ¬ d.IsAlias name := by
  have generated : (∃ r ∈ types.records, r.name = name) ↔
      c.isSkipped name = false ∧ d.IsRecord name := exists_record_iff ordered h
  rw [← generated]
  constructor
  · rintro ⟨r, member, rfl, own⟩
    exact ⟨⟨r, member, rfl⟩, (aliasOf_eq_none_iff ordered h member).mp own⟩
  · rintro ⟨⟨r, member, rfl⟩, own⟩
    exact ⟨r, member, rfl, (aliasOf_eq_none_iff ordered h member).mpr own⟩

end

end DataTypes

/-! ## Bodies of handlers -/

def BodyDecode.validated? : BodyDecode → Option String
  | .record name | .recordList name => some name
  | .value _ => none

def Handlers.validated (handlers : Handlers) : List String :=
  handlers.packages.flatMap fun p => p.handlers.filterMap fun plan =>
    plan.body.bind BodyDecode.validated?

private theorem Handlers.isStructured_of_mem_validated {d : Document} {endpoints : List Endpoint}
    {handlers : Handlers} (he : (Endpoint.ofDocument d).result = .ok endpoints)
    (hh : (ofEndpoints endpoints).result = .ok handlers) {name : String}
    (h : name ∈ handlers.validated) : d.IsStructured name := by
  obtain ⟨p, inside, among⟩ := List.mem_flatMap.mp h
  obtain ⟨plan, planned, named⟩ := List.mem_filterMap.mp among
  obtain ⟨body, decoded, named⟩ := Option.bind_eq_some_iff.mp named
  obtain ⟨e, member, -, -, made⟩ := exists_endpoint_of_plan hh inside planned
  obtain ⟨_, found, -, -, -, bodies, -⟩ := HandlerPlan.exists_ofEndpoint e
  cases made.symm.trans found
  obtain ⟨_, -, classified⟩ := Outcome.left_of_mem (Endpoint.forall₂_of_ofDocument he) member
  have grounds := Endpoint.grounds_ofOperation classified
  have requested : HandlerPlan.bodyOf e.request = some body := bodies.symm.trans decoded
  have shaped : ∀ shape ∈ e.request.shapes, d.Grounds shape.core :=
    fun shape among => grounds shape (List.mem_append_right _ among)
  cases request : e.request with
  | empty =>
    rw [request] at requested
    cases requested
  | value type =>
    rw [request] at requested
    cases requested
    cases named
  | record component | recordList component =>
    rw [request] at requested shaped
    cases requested
    cases named
    exact shaped _ List.mem_cons_self

namespace Service

/-- Each component whose values are validated is generated as a structure or skipped. -/
def ValidatesStructs (s : Service) (c : Context) : Prop :=
  ∀ name ∈ s.handlers.validated, c.isSkipped name = true ∨ s.types.HasStruct name

instance (s : Service) (c : Context) : Decidable (s.ValidatesStructs c) :=
  inferInstanceAs (Decidable (∀ name ∈ s.handlers.validated, _))

/-- The validator is given structures exactly if no component that is validated, the skipped ones
apart, is a paging envelope or another name for a list or a map. -/
theorem validatesStructs_iff {d : Document} {c : Context} {s : Service}
    (ordered : Keyed.Increasing d.schemas) (h : (Service.ofDocument d c).result = .ok s) :
    s.ValidatesStructs c ↔ ∀ name ∈ s.handlers.validated,
      c.isSkipped name = true ∨ ¬ d.IsEnvelope name ∧ ¬ d.IsAlias name := by
  have compiled := compiled_of_ofDocument h
  refine forall₂_congr fun name validated => ?_
  have there :=
    Handlers.isStructured_of_mem_validated compiled.endpoints compiled.handlers validated
  rw [DataTypes.hasStruct_iff ordered compiled.types]
  cases kept : c.isSkipped name with
  | true => exact iff_of_true (.inl rfl) (.inl rfl)
  | false =>
    have record : d.IsRecord name ↔ ¬ d.IsEnvelope name :=
      ⟨Document.IsRecord.not_isEnvelope,
        DataTypes.isRecord_of_isStructured compiled.types kept there⟩
    simp only [Bool.false_eq_true, true_and, false_or, record]

def batchDescription (members : List (String × Json)) : Json :=
  let batch : Json := Description.referenceTo "Batch"
  let operation (id : String) (schema : Json) : Json :=
    .object [("post", Description.generatedOperation id "batch"
      [("requestBody", .object [("content", .object [
        ("application/json", .object [("schema", schema)])])])])]
  Description.assemble [("Batch", .object (members ++ [("x-group", .string "batch")]))]
    [("/batches", operation "storeBatches"
      (.object [("items", batch), ("type", .string "array")])),
    ("/batches/last", operation "storeBatch" batch)] []

/-- A batch with a size is a structure. -/
theorem validatesStructs_iff_sized :
    ∃ d c s, Description.read (batchDescription [
        ("properties", .object [("size", .object [("type", .string "integer")])]),
        ("type", .string "object")]) = .ok d ∧
      Context.ofDocument d .go (some "example.com/queue") = .ok c ∧
      Keyed.Increasing d.schemas ∧ (Service.ofDocument d c).result = .ok s ∧
      (s.ValidatesStructs c ↔ ∀ name ∈ s.handlers.validated,
        c.isSkipped name = true ∨ ¬ d.IsEnvelope name ∧ ¬ d.IsAlias name) ∧
      s.ValidatesStructs c ∧ s.handlers.validated = ["Batch", "Batch"] := by
  have compiles : ∃ d c s, Description.read (batchDescription [
        ("properties", .object [("size", .object [("type", .string "integer")])]),
        ("type", .string "object")]) = .ok d ∧
      Context.ofDocument d .go (some "example.com/queue") = .ok c ∧
      Keyed.Increasing d.schemas ∧ (Service.ofDocument d c).result = .ok s ∧
      s.ValidatesStructs c ∧ s.handlers.validated = ["Batch", "Batch"] :=
    ⟨_, _, _, rfl, rfl, by decide, rfl, by decide, rfl⟩
  obtain ⟨d, c, s, read, context, ordered, compiled, structs, validated⟩ := compiles
  exact ⟨d, c, s, read, context, ordered, compiled, validatesStructs_iff ordered compiled, structs,
    validated⟩

/-- A batch that is a list of texts is validated like a structure, and is none. -/
theorem not_validatesStructs_batch :
    ∃ d c s, Description.read (batchDescription [
        ("items", .object [("type", .string "string")]), ("type", .string "array")]) = .ok d ∧
      Context.ofDocument d .go (some "example.com/queue") = .ok c ∧
      (Service.ofDocument d c).result = .ok s ∧ s.handlers.validated = ["Batch", "Batch"] ∧
      s.types.records.map (fun r => (r.name, r.aliasOf.map (·.shape))) =
        [("Batch", some (.list (.primitive .string)))] ∧
      ¬ s.ValidatesStructs c :=
  ⟨_, _, _, rfl, rfl, rfl, rfl, rfl, by decide⟩

end Service

end ApiScaffold
