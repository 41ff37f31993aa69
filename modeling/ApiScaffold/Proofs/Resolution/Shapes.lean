import ApiScaffold.Model.Resolution
import ApiScaffold.Proofs.Outcome
/-!
# What types end in

Lists and maps wrap one shape. Where the resolver comes to a reference or an enumeration under
them, the component is there, and it declares literals exactly if it is given as an enumeration.
-/
namespace ApiScaffold

namespace Shape

def core : Shape → Shape
  | list element => element.core
  | map element => element.core
  | shape => shape

private theorem core_wrapMaps (n : Nat) (shape : Shape) :
    (Resolution.wrapMaps n shape).core = shape.core := by
  induction n with
  | zero => rfl
  | succ n ih => exact ih

theorem enum_mem_imports {shape : Shape} {name : String} :
    .enum name ∈ shape.imports ↔ shape.core = .enum name := by
  induction shape with
  | list element ih | map element ih => exact ih
  | primitive p => cases p <;> simp [imports, core]
  | _ => simp [imports, core, eq_comm]

theorem timestamp_mem_imports {shape : Shape} :
    .timestamp ∈ shape.imports ↔ shape.core = .primitive .dateTime := by
  induction shape with
  | list element ih | map element ih => exact ih
  | primitive p => cases p <;> simp [imports, core]
  | _ => simp [imports, core]

end Shape

namespace Document

def IsEnumeration (d : Document) (name : String) : Prop :=
  ∃ schema, d.schema? name = some schema ∧ schema.isEnum = true

def IsStructured (d : Document) (name : String) : Prop :=
  ∃ schema, d.schema? name = some schema ∧ schema.isEnum = false

/-- What a type that the resolver gives can end in. -/
def Grounds (d : Document) : Shape → Prop
  | .primitive _ => True
  | .reference name => d.IsStructured name
  | .enum name => d.IsEnumeration name
  | _ => False

private theorem schema?_of_resolve {d : Document} {name : String} {schema : Schema}
    (h : d.resolve (.reference name) = .ok schema) : d.schema? name = some schema := by
  simp only [resolve] at h
  split at h
  next found =>
    cases h
    exact found
  next => cases h

theorem resolve_of_schema? {d : Document} {name : String} {schema : Schema}
    (found : d.schema? name = some schema) : d.resolve (.reference name) = .ok schema := by
  rw [resolve, found]

end Document

namespace Resolution

variable {d : Document}

private theorem grounds_ofReference {name : String} {required : Bool} {type : ResolvedType}
    (h : ofReference d name required = .ok type) : d.Grounds type.shape.core := by
  obtain ⟨target, resolved, h⟩ := Outcome.bind_eq_ok.mp h
  have found := Document.schema?_of_resolve resolved
  cases literals : target.isEnum with
  | true =>
    rw [literals, if_pos rfl] at h
    cases h
    exact ⟨target, found, literals⟩
  | false =>
    rw [literals, if_neg Bool.false_ne_true] at h
    cases h
    exact ⟨target, found, literals⟩

section

variable {inner : Schema → Diagnosed ResolvedType}
  (grounds : ∀ schema type, (inner schema).result = .ok type → d.Grounds type.shape.core)

include grounds

private theorem grounds_elementShape {position : SchemaRef} {shape : Shape}
    (h : (elementShape d inner position).result = .ok shape) : d.Grounds shape.core := by
  cases position with
  | reference name =>
    obtain ⟨type, named, h⟩ := Diagnosed.bind_result_eq_ok.mp h
    cases h
    exact grounds_ofReference named
  | inline schema =>
    simp only [elementShape] at h
    split at h
    · cases h
      exact trivial
    · obtain ⟨type, resolved, h⟩ := Diagnosed.bind_result_eq_ok.mp h
      cases h
      exact grounds schema type resolved

private theorem grounds_mapShape {value : SchemaRef} {shape : Shape}
    (h : (mapShape d inner value).result = .ok shape) : d.Grounds shape.core := by
  obtain ⟨⟨count, last⟩, -, h⟩ := Diagnosed.bind_result_eq_ok.mp h
  obtain ⟨element, resolved, h⟩ := Diagnosed.bind_result_eq_ok.mp h
  cases h
  rw [Shape.core_wrapMaps]
  exact grounds_elementShape grounds resolved

end

private theorem grounds_inlineType {room : Nat} {schema : Schema} {required : Bool}
    {type : ResolvedType}
    (h : (inlineType d room schema required).result = .ok type) : d.Grounds type.shape.core := by
  induction room generalizing schema required type with
  | zero => cases h
  | succ room ih =>
    have inner (schema : Schema) (type : ResolvedType)
        (h : (inlineType d room schema true).result = .ok type) : d.Grounds type.shape.core := ih h
    rw [inlineType] at h
    cases form : schema.form with
    | list items =>
      rw [form] at h
      cases items with
      | none => cases h
      | some items =>
        obtain ⟨element, resolved, h⟩ := Diagnosed.bind_result_eq_ok.mp h
        cases h
        show d.Grounds element.core
        exact grounds_elementShape inner resolved
    | map value =>
      rw [form] at h
      obtain ⟨shape, resolved, h⟩ := Diagnosed.bind_result_eq_ok.mp h
      cases h
      exact grounds_mapShape inner resolved
    | untyped =>
      rw [form] at h
      cases h
      exact trivial
    | any | record | primitive =>
      rw [form] at h
      cases h
      exact trivial

/-- A resolved type ends in a primitive, in a component without literals, or in one with
literals that is given as an enumeration. -/
theorem grounds_resolve {position : SchemaRef} {required : Bool} {type : ResolvedType}
    (h : (resolve d position required).result = .ok type) : d.Grounds type.shape.core := by
  cases position with
  | reference name => exact grounds_ofReference h
  | inline schema => exact grounds_inlineType h

end Resolution

end ApiScaffold
