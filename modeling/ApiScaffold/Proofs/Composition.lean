import ApiScaffold.Proofs.Description.Assembly
import ApiScaffold.Proofs.Presence
/-!
# Composed schemas

A schema is composed of components and of parts that are written in it, and a part may be composed
in the same way. All of them apply to a value. A record takes in the components and the properties
of its schema and of the parts that are written there, but not what these parts are composed of, and
whether a property is required it asks only the holder that declares it last. So a record loses
nothing exactly if everything that stands deeper is declared above as well, no property takes the
place of a component, and the holders that are asked list what any part requires.
-/
namespace ApiScaffold

namespace Schema

/-! ## Parts -/

/-- The parts of a schema: itself, and what is written in the composition of a part. -/
inductive HasPart (s : Schema) : Schema → Prop where
  | self : HasPart s s
  | member {part inner : Schema} : HasPart s part → .inline inner ∈ part.allOf → HasPart s inner

def Demands (s : Schema) (property : String) : Prop :=
  ∃ part, s.HasPart part ∧ part.isRequired property = true

variable {s part : Schema}

private theorem HasPart.of_shallow
    (shallow : ∀ first, .inline first ∈ s.allOf → ∀ inner, .inline inner ∉ first.allOf)
    (h : s.HasPart part) : part = s ∨ .inline part ∈ s.allOf := by
  induction h with
  | self => exact .inl rfl
  | member _ inside ih =>
    rcases ih with rfl | first
    · exact .inr inside
    · exact absurd inside (shallow _ first _)

end Schema

namespace Record

variable {d : Document} {owner : String} {schema : Schema} {r : Record}

/-! ## Holders -/

private theorem mem_ownDeclarations {holder other : Schema} {name : String}
    {position : SchemaRef} :
    .property holder name position ∈ ownDeclarations other ↔
      holder = other ∧ (name, position) ∈ holder.properties := by
  simp only [ownDeclarations, List.mem_map, Prod.exists, Declaration.property.injEq]
  constructor
  · intro h
    obtain ⟨_, _, member, rfl, rfl, rfl⟩ := h
    exact ⟨rfl, member⟩
  · intro h
    obtain ⟨rfl, member⟩ := h
    exact ⟨name, position, member, rfl, rfl, rfl⟩

private theorem mem_inlineSchemas {part : Schema} :
    part ∈ schema.allOf.filterMap inlineSchema? ↔ .inline part ∈ schema.allOf := by
  rw [List.mem_filterMap]
  constructor
  · intro h
    obtain ⟨position, member, found⟩ := h
    cases position with
    | reference target => cases found
    | inline other =>
      cases found
      exact member
  · intro member
    exact ⟨_, member, rfl⟩

private theorem mem_declarations {holder : Schema} {name : String} {position : SchemaRef} :
    .property holder name position ∈ declarations schema ↔
      (holder = schema ∨ .inline holder ∈ schema.allOf) ∧ (name, position) ∈ holder.properties := by
  have composed : .property holder name position ∉
      schema.allOf.filterMap (·.reference?.map Declaration.component) := by
    intro member
    cases lends_of_mem_composed member
  simp only [declarations, List.mem_append, composed, false_or, List.mem_flatMap,
    mem_inlineSchemas, mem_ownDeclarations]
  constructor
  · intro h
    rcases h with ⟨_, member, rfl, declared⟩ | ⟨rfl, declared⟩
    · exact ⟨.inr member, declared⟩
    · exact ⟨.inl rfl, declared⟩
  · intro h
    obtain ⟨rfl | member, declared⟩ := h
    · exact .inr ⟨rfl, declared⟩
    · exact .inl ⟨holder, member, rfl, declared⟩

section

variable {holder : Schema} {name : String} {position : SchemaRef}
  (last : lastDeclaration? schema name = some (.property holder name position))

include last

private theorem mem_of_last : .property holder name position ∈ declarations schema :=
  List.mem_reverse.mp (List.mem_of_find?_eq_some last)

private theorem hasPart_of_last : schema.HasPart holder := by
  obtain ⟨rfl | member, -⟩ := mem_declarations.mp (mem_of_last last)
  · exact .self
  · exact .member .self member

private theorem mem_propertyNames_of_last : name ∈ schema.propertyNames := by
  obtain ⟨place, declared⟩ := mem_declarations.mp (mem_of_last last)
  have key : name ∈ Keyed.keys holder.properties := List.mem_map_of_mem declared
  rw [Schema.propertyNames, List.mem_append, List.mem_flatMap]
  rcases place with rfl | member
  · exact .inr key
  · exact .inl ⟨holder, List.mem_filterMap.mpr ⟨_, member, rfl⟩, key⟩

end

/-! ## What a record takes in -/

def DeclaresRules (schema : Schema) (owner name : String) (rules : List String) : Prop :=
  ∃ holder position, lastDeclaration? schema name = some (.property holder name position) ∧
    declaredRules owner name position = .ok rules

/-- The record has all that the parts of the schema declare, and its fields are required to be there
exactly if some part requires them. -/
structure Composes (r : Record) (schema : Schema) : Prop where
  properties : ∀ part, schema.HasPart part → ∀ name ∈ Keyed.keys part.properties,
    ∃ f ∈ r.fields, f.embedded = false ∧ f.key = name
  components : ∀ part, schema.HasPart part → ∀ name, .reference name ∈ part.allOf →
    ∃ f ∈ r.fields, f.embedded = true ∧ f.type.shape = .composed name
  key : ∀ f ∈ r.fields, f.embedded = false → (f.omitEmpty = false ↔ schema.Demands f.key)
  rule : ∀ f ∈ r.fields, f.embedded = false →
    ∀ declared, DeclaresRules schema r.name f.name declared →
      (ruleRequired ∈ f.rules ↔ ruleRequired ∈ declared ∨
        schema.Demands f.key ∧ f.type.shape.isValuePrimitive = false)

end Record

/-- What the parts of the schema declare and require is declared and required where a record looks
for it. -/
structure Schema.IsFlat (s : Schema) : Prop where
  properties : ∀ part, s.HasPart part → ∀ name ∈ Keyed.keys part.properties,
    name ∈ s.propertyNames
  components : ∀ part, s.HasPart part → ∀ name, .reference name ∈ part.allOf → name ∈ s.lentNames
  required : ∀ name holder position,
    Record.lastDeclaration? s name = some (.property holder name position) → s.Demands name →
      holder.isRequired name = true

namespace Record

variable {d : Document} {owner : String} {schema : Schema} {r : Record} {f : Field}

private theorem Presence.omitEmpty_eq_false_iff {required : Bool} {declared : List String}
    (h : Presence f required declared) : f.omitEmpty = false ↔ required = true := by
  rw [h.omitted, Bool.not_eq_false_eq_eq_true]

private theorem Presence.required_mem_iff {required : Bool} {declared : List String}
    (h : Presence f required declared) :
    ruleRequired ∈ f.rules ↔
      ruleRequired ∈ declared ∨ required = true ∧ f.type.shape.isValuePrimitive = false := by
  constructor
  · intro member
    by_cases given : ruleRequired ∈ declared
    · exact .inl given
    · rcases h.implied _ member given with ⟨-, implied⟩ | ⟨dive, -⟩
      · exact .inr implied
      · exact absurd dive (by decide)
  · rintro (given | ⟨required, counts⟩)
    · exact h.first.subset given
    · exact h.present required counts

section

variable (h : (ofSchema d owner schema).result = .ok r)

include h

private theorem isFlat_of_composes (composes : r.Composes schema) : schema.IsFlat := by
  have fielded := fielded_of_ofSchema h
  refine ⟨?properties, ?components, ?required⟩
  case properties =>
    intro part isPart name declared
    obtain ⟨f, member, own, rfl⟩ := composes.properties part isPart name declared
    have key := (presence_of_mem h member own).1
    exact (fielded.own f.key).mp ⟨f, member, own, key.symm⟩
  case components =>
    intro part isPart name composed
    obtain ⟨f, member, lends, shape⟩ := composes.components part isPart name composed
    have same : f.name = name :=
      Shape.composed.inj (((fielded.named f member).lent lends).2.symm.trans shape)
    exact Schema.mem_lentNames.mpr ((fielded.lent name).mp ⟨f, member, lends, same⟩)
  case required =>
    intro name holder position last demanded
    obtain ⟨f, member, own, rfl⟩ := (fielded.own name).mpr (mem_propertyNames_of_last last)
    obtain ⟨key, _, _, _, last', -, presence⟩ := presence_of_mem h member own
    cases Option.some.inj (last.symm.trans last')
    rw [← key] at demanded
    exact presence.omitEmpty_eq_false_iff.mp ((composes.key f member own).mpr demanded)

private theorem composes_of_isFlat (flat : schema.IsFlat) : r.Composes schema := by
  have fielded := fielded_of_ofSchema h
  have named : r.name = owner := (ofSchema_eq_ok h).1
  have demands (f : Field) (member : f ∈ r.fields) (own : f.embedded = false)
      {holder : Schema} {position : SchemaRef}
      (last : lastDeclaration? schema f.name = some (.property holder f.name position)) :
      holder.isRequired f.name = true ↔ schema.Demands f.key := by
    rw [(presence_of_mem h member own).1]
    exact ⟨fun listed => ⟨holder, hasPart_of_last last, listed⟩, flat.required _ _ _ last⟩
  refine ⟨?properties, ?components, ?key, ?rule⟩
  case properties =>
    intro part isPart name declared
    obtain ⟨f, member, own, rfl⟩ :=
      (fielded.own name).mpr (flat.properties part isPart name declared)
    exact ⟨f, member, own, (presence_of_mem h member own).1⟩
  case components =>
    intro part isPart name composed
    have lent := Schema.mem_lentNames.mp (flat.components part isPart name composed)
    obtain ⟨f, member, lends, rfl⟩ := (fielded.lent name).mpr lent
    exact ⟨f, member, lends, ((fielded.named f member).lent lends).2⟩
  case key =>
    intro f member own
    obtain ⟨-, _, _, _, last, -, presence⟩ := presence_of_mem h member own
    rw [← demands f member own last]
    exact presence.omitEmpty_eq_false_iff
  case rule =>
    intro f member own declared declares
    obtain ⟨-, _, _, _, last, given, presence⟩ := presence_of_mem h member own
    obtain ⟨_, _, last', given'⟩ := declares
    cases Option.some.inj (last.symm.trans last')
    rw [named] at given'
    cases given.symm.trans given'
    rw [← demands f member own last]
    exact presence.required_mem_iff

/-- A record loses nothing of what its schema is composed of exactly if the schema is flat. -/
theorem composes_iff_isFlat : r.Composes schema ↔ schema.IsFlat :=
  ⟨isFlat_of_composes h, composes_of_isFlat h⟩

end

def ticketPart : Schema :=
  { Schema.empty with
    properties := [("extra", .inline { Schema.empty with type := some "string" })]
    required := ["extra"] }

def ticketSchema : Schema :=
  { Schema.empty with allOf := [.reference "Base", .inline ticketPart] }

def ticketDocument : Document :=
  ⟨"3.0.3", ⟨"Tickets", "1.0.0", none⟩, [], [("Base", Schema.empty)], []⟩

/-- Nothing stands deeper than the part, which requires what it declares. -/
theorem composes_iff_isFlat_ticket :
    ∃ r, (ofSchema ticketDocument "Ticket" ticketSchema).result = .ok r ∧
      (r.Composes ticketSchema ↔ ticketSchema.IsFlat) ∧ r.Composes ticketSchema ∧
      r.fields.map (fun f => (f.name, f.embedded, f.omitEmpty, f.rules)) =
        [("Base", true, false, []), ("extra", false, false, ["required"])] := by
  have built : ∃ r, (ofSchema ticketDocument "Ticket" ticketSchema).result = .ok r ∧
      r.fields.map (fun f => (f.name, f.embedded, f.omitEmpty, f.rules)) =
        [("Base", true, false, []), ("extra", false, false, ["required"])] := ⟨_, rfl, by decide⟩
  have inPlace (part : Schema) (member : .inline part ∈ ticketSchema.allOf) :
      part = ticketPart := by
    simpa [ticketSchema] using member
  have parts (part : Schema) (isPart : ticketSchema.HasPart part) :
      part = ticketSchema ∨ part = ticketPart := by
    refine (isPart.of_shallow fun first member => ?_).imp_right (inPlace part)
    rw [inPlace first member]
    exact fun inner => List.not_mem_nil
  have flat : ticketSchema.IsFlat := by
    refine ⟨?_, ?_, ?_⟩
    · intro part isPart
      rcases parts part isPart with rfl | rfl <;> decide
    · intro part isPart name composed
      rcases parts part isPart with rfl | rfl
      · obtain rfl : name = "Base" := by simpa [ticketSchema] using composed
        decide
      · cases composed
    · intro name holder position last _
      obtain ⟨place, declared⟩ := mem_declarations.mp (mem_of_last last)
      rcases place with rfl | member
      · cases declared
      · rw [inPlace holder member] at declared ⊢
        cases List.mem_singleton.mp declared
        decide
  obtain ⟨r, built, fields⟩ := built
  have exactly := composes_iff_isFlat built
  exact ⟨r, built, exactly, exactly.mpr flat, fields⟩

def nestedDescription : Json :=
  let text : Json := .object [("type", .string "string")]
  Description.assemble [
    ("Base", .object [("properties", .object [("id", text)]), ("x-group", .string "common")]),
    ("Ticket", .object [
      ("allOf", .array [
        .object [("allOf", .array [
          Description.referenceTo "Base", .object [("properties", .object [("note", text)])]])],
        .object [("required", .array [.string "extra"])]]),
      ("properties", .object [("extra", text)]),
      ("x-group", .string "ticket")])] [] []

/-- The record has neither the component nor the note, and leaves out what is required. -/
theorem not_composes_nested :
    ∃ d schema r, Description.read nestedDescription = .ok d ∧
      d.schema? "Ticket" = some schema ∧ (ofSchema d "Ticket" schema).result = .ok r ∧
      r.aliasOf = none ∧
      r.fields.map (fun f => (f.name, f.omitEmpty, f.rules)) = [("extra", true, [])] ∧
      ¬ r.Composes schema := by
  refine ⟨_, _, _, rfl, rfl, rfl, rfl, by decide, ?_⟩
  intro composes
  obtain ⟨f, member, lends, -⟩ :=
    composes.components _ (.member .self List.mem_cons_self) "Base" List.mem_cons_self
  cases List.mem_singleton.mp member
  cases lends

end Record

end ApiScaffold
