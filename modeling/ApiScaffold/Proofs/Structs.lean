import ApiScaffold.Proofs.Resolution.Chains
import ApiScaffold.Proofs.Resolution.Notes
import ApiScaffold.Proofs.Service.Validation
/-!
# References to structures

A property, an item of a list or a value of a map that refers to a structure has the type that
goes by its name. For properties and items that is always so. The values of a map are followed
through references as long as value schemas are found, and it is not asked whether the component
has members of its own. So a structure with a schema for additional properties is taken for a map,
unless a format ends the chain.
-/
namespace ApiScaffold

def Schema.mapTo (value : SchemaRef) : Schema :=
  { Schema.empty with type := some "object", additional := some value }

private theorem Schema.form_mapTo (value : SchemaRef) :
    (Schema.mapTo value).form = .map value := rfl

namespace Resolution

variable {d : Document} {name : String} {required : Bool} {schema : Schema}
  {value next : SchemaRef} {type : ResolvedType}

/-- A reference to the component resolves to its name as a property, as an item of a list and as
a value of a map. -/
structure RefersByName (d : Document) (name : String) : Prop where
  property : ∀ required,
    (resolve d (.reference name) required).result = .ok ⟨.reference name, true⟩
  item : ∀ schema required, schema.form = .list (some (.reference name)) →
    (resolve d (.inline schema) required).result = .ok ⟨.list (.reference name), false⟩
  value : ∀ schema required, schema.form = .map (.reference name) →
    (resolve d (.inline schema) required).result = .ok ⟨.map (.reference name), false⟩

private theorem ofReference_of_structured (found : d.schema? name = some schema)
    (structured : schema.isEnum = false) (required : Bool) :
    ofReference d name required = .ok ⟨.reference name, true⟩ := by
  rw [ofReference, Document.resolve_of_schema? found]
  simp [bind, Except.bind, pure, Except.pure, structured]

section

variable (named : ∀ required, ofReference d name required = .ok ⟨.reference name, true⟩)

include named

private theorem resolveElement_of_named :
    (resolveElement d (.reference name)).result = .ok (.reference name) := by
  rw [resolveElement, resolveElementWithin, elementShape, named]
  rfl

private theorem resolve_list_of_named (form : schema.form = .list (some (.reference name))) :
    (resolve d (.inline schema) required).result = .ok ⟨.list (.reference name), false⟩ := by
  obtain ⟨room, -, within⟩ := exists_room d schema
  rw [within, inlineType, form]
  dsimp only
  rw [elementShape, named]
  rfl

private theorem resolve_map_of_named (stops : Stops d (.reference name))
    (form : schema.form = .map (.reference name)) :
    (resolve d (.inline schema) required).result = .ok ⟨.map (.reference name), false⟩ := by
  rw [resolve_of_rounds required form (.stops stops)]
  show (resolveElement d (.reference name)).result.map _ = _
  rw [resolveElement_of_named named]
  rfl

end

private theorem exists_maps_of_continues (form : schema.form = .map value)
    (goesOn : Continues d value next)
    (h : (resolve d (.inline schema) required).result = .ok type) :
    ∃ element, type.shape = .map (.map element) := by
  rw [resolve_of_form required form] at h
  obtain ⟨⟨count, last⟩, chained, h⟩ := Outcome.bind_eq_ok.mp h
  obtain ⟨element, -, rfl⟩ := Outcome.map_eq_ok.mp h
  have chained : (valueChain d 62 next).map _ = .ok (count, last) :=
    (valueChain_of_continues 62 goesOn).symm.trans chained
  obtain ⟨⟨rest, _⟩, followed, same⟩ := Outcome.map_eq_ok.mp chained
  obtain ⟨rest, rfl⟩ := Nat.exists_eq_succ_of_ne_zero (valueChain_ne_zero followed)
  cases same
  refine ⟨Shape.map^[rest] element, ?_⟩
  rw [Function.iterate_succ_apply', Function.iterate_succ_apply']

/-- References resolve to the name exactly if no chain of maps goes on from there. -/
theorem refersByName_iff_stops (found : d.schema? name = some schema)
    (structured : schema.isEnum = false) :
    RefersByName d name ↔ Stops d (.reference name) := by
  have named := ofReference_of_structured found structured
  constructor
  · intro refers
    rcases stops_or_breaks_or_continues d (.reference name) with stops | breaks | ⟨next, goesOn⟩
    · exact stops
    · obtain ⟨_, same, missing⟩ := breaks
      cases same
      cases found.symm.trans missing
    · have byName := refers.value (.mapTo (.reference name)) true (Schema.form_mapTo _)
      obtain ⟨element, maps⟩ := exists_maps_of_continues (Schema.form_mapTo _) goesOn byName
      cases maps
  · intro stops
    refine ⟨?_, fun _ _ => resolve_list_of_named named, fun _ _ => resolve_map_of_named named stops⟩
    intro required
    rw [resolve, resolveWithin, named]
    rfl

end Resolution

namespace DataTypes

open Resolution

variable {d : Document} {c : Context} {types : DataTypes} {name : String}

/-- References to a structure resolve to its name exactly if it has no schema for additional
properties, or has a format. -/
theorem refersByName_iff (ordered : Keyed.Increasing d.schemas)
    (h : (ofDocument d c).result = .ok types) (struct : types.HasStruct name) :
    RefersByName d name ↔
      ∀ schema, d.schema? name = some schema → schema.additional = none ∨ schema.format ≠ none := by
  obtain ⟨⟨-, schema, found, structured, -⟩, own⟩ := (hasStruct_iff ordered h).mp struct
  have list : schema.type ≠ some "array" := by
    intro list
    exact own ⟨schema, found, by simp [Record.isAlias, Schema.hasType, list]⟩
  rw [refersByName_iff_stops found structured, stops_iff (Document.resolve_of_schema? found),
    Schema.nextValue_eq_none]
  constructor
  · intro ends other found'
    cases found.symm.trans found'
    exact ends.imp_right (Or.resolve_right · list)
  · intro ends
    exact (ends schema found).imp_right .inl

def ticketsDescription (more : List (String × Json)) : Json :=
  Description.assemble [
    ("Ticket", .object (more ++ [
      ("properties", .object [("id", .object [("type", .string "string")])]),
      ("type", .string "object"), ("x-group", .string "ticket")]))] [] []

/-- A ticket with nothing but its id goes by its name. -/
theorem refersByName_iff_ticket :
    ∃ d c types, Description.read (ticketsDescription []) = .ok d ∧
      Context.ofDocument d .go (some "example.com/queue") = .ok c ∧
      Keyed.Increasing d.schemas ∧ (ofDocument d c).result = .ok types ∧
      types.HasStruct "Ticket" ∧
      (RefersByName d "Ticket" ↔ ∀ schema, d.schema? "Ticket" = some schema →
        schema.additional = none ∨ schema.format ≠ none) ∧
      RefersByName d "Ticket" := by
  have compiles : ∃ d c types, Description.read (ticketsDescription []) = .ok d ∧
      Context.ofDocument d .go (some "example.com/queue") = .ok c ∧
      Keyed.Increasing d.schemas ∧ (ofDocument d c).result = .ok types ∧
      types.HasStruct "Ticket" ∧
      ∃ schema, d.schema? "Ticket" = some schema ∧ schema.additional = none :=
    ⟨_, _, _, rfl, rfl, by decide, rfl, by decide, _, rfl, rfl⟩
  obtain ⟨d, c, types, read, context, ordered, compiled, struct, schema, found, closed⟩ := compiles
  have exactly := refersByName_iff ordered compiled struct
  refine ⟨d, c, types, read, context, ordered, compiled, struct, exactly, exactly.mpr ?_⟩
  intro other found'
  cases found.symm.trans found'
  exact .inl closed

/-- Values that are tickets with further properties, which are texts, are taken for maps of
texts. -/
theorem not_refersByName_open :
    ∃ d c types, Description.read (ticketsDescription [
        ("additionalProperties", .object [("type", .string "string")])]) = .ok d ∧
      Context.ofDocument d .go (some "example.com/queue") = .ok c ∧
      (ofDocument d c).result = .ok types ∧ types.HasStruct "Ticket" ∧
      (resolve d (.inline (.mapTo (.reference "Ticket"))) true).result =
        .ok ⟨.map (.map (.primitive .string)), false⟩ ∧
      ¬ RefersByName d "Ticket" := by
  have compiles : ∃ d c types text, Description.read (ticketsDescription [
        ("additionalProperties", .object [("type", .string "string")])]) = .ok d ∧
      Context.ofDocument d .go (some "example.com/queue") = .ok c ∧
      (ofDocument d c).result = .ok types ∧ types.HasStruct "Ticket" ∧
      Continues d (.reference "Ticket") text ∧ Stops d text ∧
      (resolveElement d text).result = .ok (.primitive .string) :=
    ⟨_, _, _, _, rfl, rfl, rfl, by decide, ⟨_, rfl, rfl, rfl, by decide⟩, ⟨_, rfl, .inl rfl⟩, rfl⟩
  obtain ⟨d, c, types, text, read, context, compiled, struct, goesOn, stops, element⟩ := compiles
  have resolved : (resolve d (.inline (.mapTo (.reference "Ticket"))) true).result =
      .ok ⟨.map (.map (.primitive .string)), false⟩ := by
    rw [resolve_of_rounds true (Schema.form_mapTo _) (.next goesOn (by decide) (.stops stops))]
    exact congrArg (Except.map _) element
  refine ⟨d, c, types, read, context, compiled, struct, resolved, ?_⟩
  intro refers
  cases resolved.symm.trans (refers.value _ true (Schema.form_mapTo _))

end DataTypes

end ApiScaffold
