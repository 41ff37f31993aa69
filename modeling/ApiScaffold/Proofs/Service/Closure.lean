import ApiScaffold.Proofs.Description.Assembly
import ApiScaffold.Proofs.Emission
import ApiScaffold.Proofs.Endpoint
import ApiScaffold.Proofs.Service.Compilation
/-!
# Closed services

A service is closed if each component that its types name is generated for it, or skipped because
the shared library provides it. Enumerations are always generated where a type names them. A
reference may name a paging envelope, for which nothing is generated, a record may be composed of
an envelope or an enumeration, and the item of a page is taken as it is written. A service is
closed exactly if none of that happens.
-/
namespace ApiScaffold

/-! ## Components -/

namespace Document

def IsEnvelope (d : Document) (name : String) : Prop :=
  ∃ schema, d.schema? name = some schema ∧ schema.isEnum = false ∧
    Extension.isPage d schema = .ok true

/-- The component is neither an enumeration nor a paging envelope. -/
def IsRecord (d : Document) (name : String) : Prop :=
  ∃ schema, d.schema? name = some schema ∧ schema.isEnum = false ∧
    Extension.isPage d schema = .ok false

variable {d : Document} {name : String}

theorem IsRecord.not_isEnvelope (h : d.IsRecord name) : ¬ d.IsEnvelope name := by
  intro envelope
  obtain ⟨schema, found, -, unmarked⟩ := h
  obtain ⟨other, found', -, marked⟩ := envelope
  cases found.symm.trans found'
  cases unmarked.symm.trans marked

private theorem IsRecord.not_isEnumeration (h : d.IsRecord name) : ¬ d.IsEnumeration name := by
  intro enumeration
  obtain ⟨schema, found, structured, -⟩ := h
  obtain ⟨other, found', literals⟩ := enumeration
  cases found.symm.trans found'
  cases structured.symm.trans literals

end Document

/-! ## What is generated -/

namespace DataTypes

def records (types : DataTypes) : List Record := types.groups.flatMap (·.records)

private theorem mem_records_iff {types : DataTypes} {r : Record} :
    r ∈ types.records ↔ ∃ group, types.Holds group r := by
  simp only [records, List.mem_flatMap, Holds]
  constructor
  · intro h
    obtain ⟨g, member, inside⟩ := h
    exact ⟨g.name, g, member, rfl, inside⟩
  · intro h
    obtain ⟨_, g, member, -, inside⟩ := h
    exact ⟨g, member, inside⟩

section

variable {d : Document} {c : Context} {types : DataTypes} {name : String}
  (ordered : Keyed.Increasing d.schemas) (h : (ofDocument d c).result = .ok types)

include ordered h

theorem exists_record_iff :
    (∃ r ∈ types.records, r.name = name) ↔ c.isSkipped name = false ∧ d.IsRecord name := by
  constructor
  · intro found
    obtain ⟨r, member, rfl⟩ := found
    obtain ⟨group, holds⟩ := mem_records_iff.mp member
    obtain ⟨name, schema, inside, emits⟩ := (holds_iff h).mp holds
    cases emits with
    | record kept structured marked _ built =>
      rw [(Record.ofSchema_eq_ok built).1]
      exact ⟨kept, schema, (Keyed.get?_eq_some_iff ordered).mpr inside, structured, marked⟩
  · intro becomes
    obtain ⟨kept, schema, found, structured, marked⟩ := becomes
    have inside := Keyed.mem_of_get? found
    obtain ⟨e, emits⟩ := exists_emits h inside
    cases emits with
    | skipped skipped => cases skipped.symm.trans kept
    | enum _ literals => cases literals.symm.trans structured
    | page _ _ page => cases page.symm.trans marked
    | @record group r _ _ _ grouped built =>
      have emits := Emits.record kept structured marked grouped built
      have holds := (holds_iff h).mpr ⟨name, schema, inside, emits⟩
      exact ⟨r, mem_records_iff.mpr ⟨group, holds⟩, (Record.ofSchema_eq_ok built).1⟩

omit ordered in
theorem ofSchema_of_mem_records {r : Record} (member : r ∈ types.records) :
    ∃ schema, (r.name, schema) ∈ d.schemas ∧ (Record.ofSchema d r.name schema).result = .ok r := by
  obtain ⟨group, holds⟩ := mem_records_iff.mp member
  obtain ⟨name, schema, inside, emits⟩ := (holds_iff h).mp holds
  cases emits with
  | record _ _ _ _ built =>
    rw [(Record.ofSchema_eq_ok built).1]
    exact ⟨schema, inside, built⟩

theorem ofSchema_of_mem_schemas {r : Record} {schema : Schema} (member : r ∈ types.records)
    (inside : (r.name, schema) ∈ d.schemas) :
    (Record.ofSchema d r.name schema).result = .ok r := by
  obtain ⟨found, inside', built⟩ := ofSchema_of_mem_records h member
  have same := (Keyed.get?_eq_some_iff ordered).mpr inside
  cases same.symm.trans ((Keyed.get?_eq_some_iff ordered).mpr inside')
  exact built

theorem exists_ofSchema {schema : Schema} (inside : (name, schema) ∈ d.schemas)
    (kept : c.isSkipped name = false) (becomes : d.IsRecord name) :
    ∃ r ∈ types.records, r.name = name ∧ (Record.ofSchema d name schema).result = .ok r := by
  obtain ⟨r, member, rfl⟩ := (exists_record_iff ordered h).mpr ⟨kept, becomes⟩
  exact ⟨r, member, rfl, ofSchema_of_mem_schemas ordered h member inside⟩

omit ordered in
private theorem exists_enum_of_isEnumeration (kept : c.isSkipped name = false)
    (found : d.IsEnumeration name) : ∃ definition ∈ types.enums, definition.name = name := by
  obtain ⟨schema, found, literals⟩ := found
  have inside := Keyed.mem_of_get? found
  obtain ⟨e, emits⟩ := exists_emits h inside
  cases emits with
  | skipped skipped => cases skipped.symm.trans kept
  | page _ structured => cases literals.symm.trans structured
  | record _ structured => cases literals.symm.trans structured
  | @enum definition _ _ defined =>
    have emits : Emits d c name schema _ := .enum kept literals defined
    refine ⟨definition, (mem_enums_iff h).mpr ⟨name, schema, inside, emits⟩, ?_⟩
    obtain ⟨_, -, defined⟩ := Outcome.bind_eq_ok.mp defined
    obtain ⟨_, -, defined⟩ := Outcome.bind_eq_ok.mp defined
    cases defined
    rfl

omit ordered in
theorem isRecord_of_isStructured (kept : c.isSkipped name = false) (found : d.IsStructured name)
    (plain : ¬ d.IsEnvelope name) : d.IsRecord name := by
  obtain ⟨schema, found, structured⟩ := found
  obtain ⟨e, emits⟩ := exists_emits h (Keyed.mem_of_get? found)
  cases emits with
  | skipped skipped => cases skipped.symm.trans kept
  | enum _ literals => cases literals.symm.trans structured
  | page _ _ marked => exact (plain ⟨schema, found, structured, marked⟩).elim
  | record _ _ marked => exact ⟨schema, found, structured, marked⟩

end

end DataTypes

/-! ## What types name -/

namespace ResponseShape

def shapes : ResponseShape → List Shape
  | recordList name => [.list (.reference name)]
  | record name => [.reference name]
  | list type | value type => [type.shape]
  | paged _ | empty => []

def items : ResponseShape → List String
  | paged item => [item]
  | _ => []

end ResponseShape

def RequestShape.shapes : RequestShape → List Shape
  | record name => [.reference name]
  | recordList name => [.list (.reference name)]
  | value type => [type.shape]
  | empty => []

namespace Endpoint

def shapes (e : Endpoint) : List Shape := e.response.shapes ++ e.request.shapes

private theorem shapes_responseOf (type : ResolvedType) :
    (responseOf type).shapes = [type.shape] := by
  unfold responseOf
  split <;> simp_all [ResponseShape.shapes]

private theorem shapes_requestOf (type : ResolvedType) :
    (requestOf type).shapes = [type.shape] := by
  unfold requestOf
  split <;> simp_all [RequestShape.shapes]

variable {d : Document}

private theorem grounds_responseShape {label : String} {response : Response} {shape : ResponseShape}
    (h : (responseShape d label response).result = .ok shape) :
    ∀ type ∈ shape.shapes, d.Grounds type.core := by
  unfold responseShape at h
  split at h
  · split at h
    · obtain ⟨_, -, h⟩ := Diagnosed.bind_result_eq_ok.mp h
      cases h
      exact List.forall_mem_nil _
    · cases h
      exact List.forall_mem_nil _
  · cases h
    exact List.forall_mem_nil _
  · obtain ⟨envelope, -, h⟩ := Diagnosed.bind_result_eq_ok.mp h
    split at h
    · cases h
      exact List.forall_mem_nil _
    · cases h
    · obtain ⟨type, resolved, h⟩ := Diagnosed.bind_result_eq_ok.mp h
      cases h
      rw [shapes_responseOf, List.forall_mem_singleton]
      exact Resolution.grounds_resolve resolved

private theorem grounds_requestShape {label : String} {body : Option RequestBody}
    {shape : RequestShape} (h : (requestShape d label body).result = .ok shape) :
    ∀ type ∈ shape.shapes, d.Grounds type.core := by
  cases body with
  | none =>
    cases h
    exact List.forall_mem_nil _
  | some body =>
    simp only [requestShape] at h
    split at h
    · split at h
      · cases h
      · cases h
        exact List.forall_mem_nil _
    · cases h
      exact List.forall_mem_nil _
    · obtain ⟨type, resolved, h⟩ := Diagnosed.bind_result_eq_ok.mp h
      cases h
      rw [shapes_requestOf, List.forall_mem_singleton]
      exact Resolution.grounds_resolve resolved

theorem grounds_ofOperation {path : String} {shared : List Parameter} {method : Method}
    {operation : Operation} {e : Endpoint}
    (h : (ofOperation d path shared method operation).result = .ok e) :
    ∀ shape ∈ e.shapes, d.Grounds shape.core := by
  obtain ⟨directives, _, _, _, shape, request, _, -, -, -, answered, requested, rfl⟩ :=
    ofOperation_eq_ok h
  refine List.forall_mem_append.mpr ⟨grounds_responseShape answered, ?_⟩
  split at requested
  · obtain ⟨rfl, -⟩ := requested
    exact List.forall_mem_nil _
  · exact grounds_requestShape requested.1

end Endpoint

namespace Service

variable {d : Document} {c : Context} {s : Service}

def shapes (s : Service) : List Shape :=
  s.types.records.flatMap Record.shapes ++ s.endpoints.flatMap Endpoint.shapes

def items (s : Service) : List String := s.endpoints.flatMap (·.response.items)

/-- What the service names, under all lists and maps. -/
def leaves (s : Service) : List Shape := s.shapes.map Shape.core ++ s.items.map .reference

/-- What is named is generated or skipped. -/
def Provides (s : Service) (c : Context) : Shape → Prop
  | .reference name | .composed name =>
    c.isSkipped name = true ∨ ∃ r ∈ s.types.records, r.name = name
  | .enum name => c.isSkipped name = true ∨ ∃ e ∈ s.types.enums, e.name = name
  | _ => True

instance (s : Service) (c : Context) : DecidablePred (s.Provides c)
  | .reference _ | .composed _ => inferInstanceAs (Decidable (_ ∨ ∃ r ∈ s.types.records, _))
  | .enum _ => inferInstanceAs (Decidable (_ ∨ ∃ e ∈ s.types.enums, _))
  | .primitive _ | .list _ | .map _ => .isTrue trivial

/-- Everything that the service names is generated or skipped. -/
def Closed (s : Service) (c : Context) : Prop := ∀ leaf ∈ s.leaves, s.Provides c leaf

instance (s : Service) (c : Context) : Decidable (s.Closed c) :=
  inferInstanceAs (Decidable (∀ leaf ∈ s.leaves, _))

private theorem fieldGrounds_of_mem_shapes (h : s.Compiled d c) {leaf : Shape}
    (member : leaf ∈ s.shapes.map Shape.core) : Record.FieldGrounds d leaf := by
  obtain ⟨shape, inside, rfl⟩ := List.mem_map.mp member
  rcases List.mem_append.mp inside with inside | inside
  · obtain ⟨r, emitted, inside⟩ := List.mem_flatMap.mp inside
    obtain ⟨group, holds⟩ := DataTypes.mem_records_iff.mp emitted
    obtain ⟨_, _, _, emits⟩ := (DataTypes.holds_iff h.types).mp holds
    cases emits with
    | record _ _ _ _ built => exact Record.fieldGrounds_of_ofSchema built shape inside
  · obtain ⟨e, classified, inside⟩ := List.mem_flatMap.mp inside
    obtain ⟨_, -, made⟩ :=
      Outcome.left_of_mem (Endpoint.forall₂_of_ofDocument h.endpoints) classified
    exact Record.fieldGrounds_of_grounds (Endpoint.grounds_ofOperation made shape inside)

/-- A reference names no envelope, and what is composed is a record, unless it is skipped. -/
def Generated (d : Document) (c : Context) : Shape → Prop
  | .reference name => c.isSkipped name = true ∨ ¬ d.IsEnvelope name
  | .composed name => c.isSkipped name = true ∨ ¬ d.IsEnvelope name ∧ ¬ d.IsEnumeration name
  | _ => True

/-- The service names only components for which something of the kind is generated. -/
structure NamesGenerated (s : Service) (d : Document) (c : Context) : Prop where
  types : ∀ leaf ∈ s.shapes.map Shape.core, Generated d c leaf
  items : ∀ name ∈ s.items, c.isSkipped name = true ∨ d.IsRecord name

section

variable (ordered : Keyed.Increasing d.schemas) (compiled : s.Compiled d c)

include ordered compiled

private theorem provides_reference_iff {name : String} :
    s.Provides c (.reference name) ↔ c.isSkipped name = true ∨ d.IsRecord name := by
  have generated : (∃ r ∈ s.types.records, r.name = name) ↔
      c.isSkipped name = false ∧ d.IsRecord name :=
    DataTypes.exists_record_iff ordered compiled.types
  rw [Provides, generated]
  cases c.isSkipped name with
  | true => simp
  | false => simp

private theorem provides_of_isStructured {name : String} (there : d.IsStructured name) :
    s.Provides c (.reference name) ↔ c.isSkipped name = true ∨ ¬ d.IsEnvelope name := by
  rw [provides_reference_iff ordered compiled]
  constructor
  · exact fun provided => provided.imp_right Document.IsRecord.not_isEnvelope
  · intro provided
    cases kept : c.isSkipped name with
    | true => exact .inl rfl
    | false =>
      rw [kept] at provided
      have plain := provided.resolve_left Bool.false_ne_true
      exact .inr (DataTypes.isRecord_of_isStructured compiled.types kept there plain)

/-- The resolver tells enumerations from other components, and composition does not. -/
theorem provides_iff_generated {leaf : Shape} (grounds : Record.FieldGrounds d leaf) :
    s.Provides c leaf ↔ Generated d c leaf := by
  cases leaf with
  | reference name => exact provides_of_isStructured ordered compiled grounds
  | enum name =>
    refine iff_of_true ?_ trivial
    cases kept : c.isSkipped name with
    | true => exact .inl kept
    | false => exact .inr (DataTypes.exists_enum_of_isEnumeration compiled.types kept grounds)
  | composed name =>
    obtain ⟨schema, found⟩ := Option.isSome_iff_exists.mp grounds
    show s.Provides c (.reference name) ↔
      c.isSkipped name = true ∨ ¬ d.IsEnvelope name ∧ ¬ d.IsEnumeration name
    cases literals : schema.isEnum with
    | true =>
      have enumeration : d.IsEnumeration name := ⟨schema, found, literals⟩
      have noRecord : ¬ d.IsRecord name := fun is => is.not_isEnumeration enumeration
      rw [provides_reference_iff ordered compiled]
      simp [noRecord, enumeration]
    | false =>
      have noEnumeration : ¬ d.IsEnumeration name := by
        rintro ⟨other, found', literals'⟩
        cases found.symm.trans found'
        cases literals.symm.trans literals'
      rw [provides_of_isStructured ordered compiled ⟨schema, found, literals⟩]
      simp [noEnumeration]
  | primitive | list | map => exact Iff.rfl

end

/-- A compiled service is closed exactly if it names only what is generated. -/
theorem closed_iff_namesGenerated {d : Document} {c : Context} {s : Service}
    (ordered : Keyed.Increasing d.schemas) (h : (Service.ofDocument d c).result = .ok s) :
    s.Closed c ↔ s.NamesGenerated d c := by
  have compiled := compiled_of_ofDocument h
  have parts : s.Closed c ↔ (∀ leaf ∈ s.shapes.map Shape.core, s.Provides c leaf) ∧
      ∀ name ∈ s.items, s.Provides c (.reference name) := by
    rw [Closed, leaves, List.forall_mem_append]
    exact and_congr_right fun _ => List.forall_mem_map
  have types {leaf : Shape} (member : leaf ∈ s.shapes.map Shape.core) :
      s.Provides c leaf ↔ Generated d c leaf :=
    provides_iff_generated ordered compiled (fieldGrounds_of_mem_shapes compiled member)
  have items {name : String} :
      s.Provides c (.reference name) ↔ c.isSkipped name = true ∨ d.IsRecord name :=
    provides_reference_iff ordered compiled
  rw [parts]
  constructor
  · intro closed
    exact ⟨fun leaf member => (types member).mp (closed.1 leaf member),
      fun name member => items.mp (closed.2 name member)⟩
  · intro names
    exact ⟨fun leaf member => (types member).mpr (names.types leaf member),
      fun name member => items.mpr (names.items name member)⟩

def listingOperation (schema : Json) : Json :=
  .object [
    ("operationId", .string "listTickets"),
    ("responses", .object [("200", .object [("content", .object [
      ("application/json", .object [("schema", schema)])])])]),
    ("x-generated", .object [("package", .string "ticket")])]

/-- Tickets that lend themselves a base, name a state and other tickets, and are given out by the
page. -/
def pagedDescription : Json :=
  let list (items : Json) : Json := .object [("items", items), ("type", .string "array")]
  let grouped : String × Json := ("x-group", .string "ticket")
  Description.assemble
    [("Base", .object [
      ("properties", .object [("id", .object [("type", .string "string")])]),
      ("type", .string "object"), grouped]),
    ("State", .object [
      ("enum", .array [.string "OPEN", .string "DONE"]), ("type", .string "string"), grouped]),
    ("Ticket", .object [
      ("allOf", .array [Description.referenceTo "Base", .object [
        ("properties", .object [
          ("children", list (Description.referenceTo "Ticket")),
          ("state", Description.referenceTo "State")]),
        ("type", .string "object")]]),
      grouped]),
    ("TicketPage", .object [
      ("properties", .object [("content", list (Description.referenceTo "Ticket"))]),
      ("type", .string "object"), grouped, ("x-page", .bool true)])]
    [("/tickets", .object [("get", listingOperation (Description.referenceTo "TicketPage"))])] []

theorem closed_iff_namesGenerated_paged :
    ∃ d c s, Description.read pagedDescription = .ok d ∧ Keyed.Increasing d.schemas ∧
      (Service.ofDocument d c).result = .ok s ∧ (s.Closed c ↔ s.NamesGenerated d c) ∧ s.Closed c ∧
      s.leaves = [.primitive .string, .composed "Base", .reference "Ticket", .enum "State",
        .reference "Ticket"] := by
  have compiles : ∃ d s, Description.read pagedDescription = .ok d ∧
      Keyed.Increasing d.schemas ∧
      (Service.ofDocument d ⟨.go, "example.com/queue", [], ⟨"", "", "", ""⟩⟩).result = .ok s ∧
      s.Closed ⟨.go, "example.com/queue", [], ⟨"", "", "", ""⟩⟩ ∧
      s.leaves = [.primitive .string, .composed "Base", .reference "Ticket", .enum "State",
        .reference "Ticket"] :=
    ⟨_, _, rfl, by decide, rfl, by decide, rfl⟩
  obtain ⟨d, s, read, ordered, compiled, closed, leaves⟩ := compiles
  have iff := closed_iff_namesGenerated ordered compiled
  exact ⟨d, _, s, read, ordered, compiled, iff, closed, leaves⟩

def ghostDescription : Json :=
  let items : Json :=
    .object [("items", Description.referenceTo "Ghost"), ("type", .string "array")]
  Description.assemble []
    [("/tickets", .object [("get", listingOperation (.object [
      ("properties", .object [("content", items)]), ("x-page", .bool true)]))])] []

/-- The item of a page is not looked up. -/
theorem not_closed_ghost :
    ∃ d c s, Description.read ghostDescription = .ok d ∧
      Context.ofDocument d .go (some "example.com/queue") = .ok c ∧
      (Service.ofDocument d c).result = .ok s ∧ s.items = ["Ghost"] ∧ ¬ s.Closed c :=
  ⟨_, _, _, rfl, rfl, rfl, rfl, by decide⟩

end Service

end ApiScaffold
