import ApiScaffold.Proofs.Resolution.Shapes
/-!
# Notes on the levels of a type

A type is put together level by level, and each level has a note that says whether values may be
absent there and what they need to be imported. A note is made from those of the parts; as an
element a type loses the permission to be absent. The resolver on types with notes gives the types
of the resolver without them, and the notes are what the shape of the type demands.
-/
namespace ApiScaffold

structure Note where
  nullable : Bool
  imports : List Dependency
  deriving DecidableEq

/-- A type with a note on each of its levels. -/
inductive NotedType where
  | primitive (p : Primitive) (note : Note)
  | list (element : NotedType) (note : Note)
  | map (element : NotedType) (note : Note)
  | reference (name : String) (note : Note)
  | enum (name : String) (note : Note)
  | composed (name : String) (note : Note)

namespace NotedType

def note : NotedType → Note
  | primitive _ note | list _ note | map _ note | reference _ note | enum _ note
  | composed _ note => note

def shape : NotedType → Shape
  | primitive p _ => .primitive p
  | list element _ => .list element.shape
  | map element _ => .map element.shape
  | reference name _ => .reference name
  | enum name _ => .enum name
  | composed name _ => .composed name

def mapNote (f : Note → Note) : NotedType → NotedType
  | primitive p note => primitive p (f note)
  | list element note => list element (f note)
  | map element note => map element (f note)
  | reference name note => reference name (f note)
  | enum name note => enum name (f note)
  | composed name note => composed name (f note)

def withNullable (nullable : Bool) : NotedType → NotedType :=
  mapNote fun note => { note with nullable }

@[simp] theorem note_mapNote (f : Note → Note) (t : NotedType) : (t.mapNote f).note = f t.note := by
  cases t <;> rfl

@[simp] theorem shape_mapNote (f : Note → Note) (t : NotedType) :
    (t.mapNote f).shape = t.shape := by
  cases t <;> rfl

def elements : NotedType → List NotedType
  | list element _ | map element _ => element :: element.elements
  | _ => []

def levels (t : NotedType) : List NotedType := t :: t.elements

@[simp] theorem elements_mapNote (f : Note → Note) (t : NotedType) :
    (t.mapNote f).elements = t.elements := by
  cases t <;> rfl

/-! ## How types are made -/

def ofPrimitive (p : Primitive) (nullable : Bool) : NotedType :=
  primitive p ⟨nullable, if p = .dateTime then [.timestamp] else []⟩

def ofReference (name : String) : NotedType := reference name ⟨true, []⟩

def ofEnum (name : String) (nullable : Bool) : NotedType := enum name ⟨nullable, [.enum name]⟩

def ofComponent (name : String) : NotedType := composed name ⟨false, []⟩

def listOf (element : NotedType) : NotedType := list element ⟨false, element.note.imports⟩

def mapOf (element : NotedType) : NotedType := map element ⟨false, element.note.imports⟩

def asElement : NotedType → NotedType := withNullable false

def mapsOf : Nat → NotedType → NotedType
  | 0, t => t
  | n + 1, t => mapsOf n t.mapOf

/-- The notes that a shape demands where values may not be absent. -/
def ofShape : Shape → NotedType
  | .primitive p => ofPrimitive p false
  | .list element => (ofShape element).listOf
  | .map element => (ofShape element).mapOf
  | .reference name => (ofReference name).asElement
  | .enum name => ofEnum name false
  | .composed name => ofComponent name

def ofType (type : ResolvedType) : NotedType := (ofShape type.shape).withNullable type.nullable

private theorem shape_ofShape (shape : Shape) : (ofShape shape).shape = shape := by
  induction shape with
  | list element ih => exact congrArg Shape.list ih
  | map element ih => exact congrArg Shape.map ih
  | _ => rfl

private theorem note_ofShape (shape : Shape) : (ofShape shape).note = ⟨false, shape.imports⟩ := by
  induction shape with
  | primitive p => cases p <;> rfl
  | list element ih | map element ih =>
    show Note.mk false (ofShape element).note.imports = _
    rw [ih]
    rfl
  | _ => rfl

private theorem shape_ofType (type : ResolvedType) : (ofType type).shape = type.shape := by
  rw [ofType, withNullable, shape_mapNote, shape_ofShape]

private theorem note_ofType (type : ResolvedType) :
    (ofType type).note = ⟨type.nullable, type.imports⟩ := by
  rw [ofType, withNullable, note_mapNote, note_ofShape]
  rfl

private theorem asElement_ofType (type : ResolvedType) :
    (ofType type).asElement = ofShape type.shape := by
  obtain ⟨shape, nullable⟩ := type
  cases shape <;> rfl

private theorem ofType_of_not_nullable (shape : Shape) : ofType ⟨shape, false⟩ = ofShape shape := by
  cases shape <;> rfl

private theorem mapsOf_ofShape (n : Nat) (shape : Shape) :
    mapsOf n (ofShape shape) = ofShape (Resolution.wrapMaps n shape) := by
  have inside (n : Nat) (t : NotedType) : mapsOf n t.mapOf = (mapsOf n t).mapOf := by
    induction n generalizing t with
    | zero => rfl
    | succ n ih => exact ih t.mapOf
  induction n with
  | zero => rfl
  | succ n ih =>
    rw [mapsOf, inside, ih]
    rfl

end NotedType

/-! ## The resolver with notes -/

namespace Resolution

open NotedType

variable (d : Document)

def notedReference (name : String) (required : Bool) : Except Failure NotedType := do
  let target ← d.resolve (.reference name)
  return if target.isEnum then ofEnum name (!required) else .ofReference name

def notedElement (inner : Schema → Diagnosed NotedType) : SchemaRef → Diagnosed NotedType
  | .reference name => do return (← notedReference d name true).asElement
  | .inline schema =>
    if schema.isPlainObject then return ofPrimitive .record false
    else do return (← inner schema).asElement

def notedMap (inner : Schema → Diagnosed NotedType) (value : SchemaRef) : Diagnosed NotedType := do
  let (count, last) ← valueChain d (chainLimit - 1) value
  return mapsOf count (← notedElement d inner last)

def notedInline : Nat → Schema → Bool → Diagnosed NotedType
  | 0, _, _ => .fail .endlessType
  | room + 1, schema, required =>
    let inner (part : Schema) := notedInline room part true
    match schema.form with
    | .any => return ofPrimitive .any false
    | .record => return ofPrimitive .record (!required)
    | .list (some items) => do return (← notedElement d inner items).listOf
    | .list none => .fail (.arrayWithoutItems (schema.description.getD "inline array"))
    | .map value => notedMap d inner value
    | .untyped => do
      .warn (.untyped (schema.description.getD ""))
      return ofPrimitive .any false
    | .primitive p => return ofPrimitive p (!required)

def resolveNoted (position : SchemaRef) (required : Bool) : Diagnosed NotedType :=
  match position with
  | .reference name => .ofExcept (notedReference d name required)
  | .inline schema => notedInline d (roomFor d position) schema required

variable {d}

private theorem notedReference_eq (name : String) (required : Bool) :
    notedReference d name required = (ofReference d name required).map ofType := by
  unfold notedReference ofReference
  cases d.resolve (.reference name) with
  | error failure => rfl
  | ok target =>
    show Except.ok _ = Except.ok (ofType _)
    cases target.isEnum <;> rfl

section

variable {inner : Schema → Diagnosed NotedType} {plain : Schema → Diagnosed ResolvedType}
  (same : ∀ schema, inner schema = ofType <$> plain schema)

include same

private theorem notedElement_eq (position : SchemaRef) :
    notedElement d inner position = ofShape <$> elementShape d plain position := by
  cases position with
  | reference name =>
    simp only [notedElement, elementShape, notedReference_eq]
    cases ofReference d name true with
    | error failure => rfl
    | ok type =>
      show pure (ofType type).asElement = pure (ofShape type.shape)
      rw [asElement_ofType]
  | inline schema =>
    simp only [notedElement, elementShape]
    split
    · rfl
    · simp only [same, map_eq_pure_bind, bind_assoc, pure_bind, asElement_ofType]

private theorem notedMap_eq (value : SchemaRef) :
    notedMap d inner value = ofShape <$> mapShape d plain value := by
  unfold notedMap mapShape
  simp only [notedElement_eq same, map_eq_pure_bind, bind_assoc, pure_bind, mapsOf_ofShape]

end

private theorem notedInline_eq (room : Nat) (schema : Schema) (required : Bool) :
    notedInline d room schema required = ofType <$> inlineType d room schema required := by
  induction room generalizing schema required with
  | zero => rfl
  | succ room ih =>
    rw [notedInline, inlineType]
    have inner (part : Schema) := ih part true
    cases form : schema.form with
    | list items =>
      cases items with
      | none => rfl
      | some items =>
        simp only [notedElement_eq inner, map_eq_pure_bind, bind_assoc, pure_bind,
          ofType_of_not_nullable]
        rfl
    | map value =>
      simp only [notedMap_eq inner, map_eq_pure_bind, bind_assoc, pure_bind,
        ofType_of_not_nullable]
    | _ => rfl

/-- The notes do not change what is resolved, nor when it fails or warns. -/
theorem resolveNoted_eq (position : SchemaRef) (required : Bool) :
    resolveNoted d position required = ofType <$> resolve d position required := by
  cases position with
  | reference name =>
    show Diagnosed.ofExcept (notedReference d name required) = _
    rw [notedReference_eq]
    show _ = ofType <$> Diagnosed.ofExcept (ofReference d name required)
    cases ofReference d name required <;> rfl
  | inline schema => exact notedInline_eq _ schema required

end Resolution

/-! ## What the notes say -/

/-- Values of the shape may be absent: records always, arrays, maps and untyped values never, and
any others unless they are required. -/
def Shape.MayBeAbsent (required : Bool) : Shape → Prop
  | .reference _ => True
  | .enum _ => required = false
  | .primitive p => required = false ∧ p ≠ .any
  | .list _ | .map _ | .composed _ => False

/-- A level of the type has what comes with the dependency. -/
def NotedType.Needs (t : NotedType) : Dependency → Prop
  | .enum name => ∃ level ∈ t.levels, level.shape = .enum name
  | .timestamp => ∃ level ∈ t.levels, level.shape = .primitive .dateTime

/-- The notes are those that the shape demands in a position that is `required` or not. -/
structure NotedType.Conforms (t : NotedType) (required : Bool) : Prop where
  nullable : t.note.nullable = true ↔ t.shape.MayBeAbsent required
  elements : ∀ element ∈ t.elements, element.note.nullable = false
  plain : ∀ level ∈ t.levels, ∀ name, level.shape ≠ .composed name
  imports : ∀ dependency, dependency ∈ t.note.imports ↔ t.Needs dependency

namespace NotedType

private theorem not_nullable_ofShape (shape : Shape) :
    ∀ element ∈ (ofShape shape).elements, element.note.nullable = false := by
  induction shape with
  | list element ih | map element ih =>
    have first : (ofShape element).note.nullable = false := by rw [note_ofShape]
    exact List.forall_mem_cons.mpr ⟨first, ih⟩
  | _ => exact List.forall_mem_nil _

private theorem exists_level_iff {shape leaf : Shape} (innermost : leaf.element? = none) :
    (∃ level ∈ (ofShape shape).levels, level.shape = leaf) ↔ shape.core = leaf := by
  induction shape with
  | list element ih | map element ih =>
    rw [Shape.core, ← ih]
    constructor
    · intro h
      obtain ⟨level, member, rfl⟩ := h
      rcases List.mem_cons.mp member with rfl | member
      · cases innermost
      · exact ⟨level, member, rfl⟩
    · intro h
      obtain ⟨level, member, rfl⟩ := h
      exact ⟨level, List.mem_cons_of_mem _ member, rfl⟩
  | _ =>
    constructor
    · intro h
      obtain ⟨level, member, rfl⟩ := h
      cases List.mem_singleton.mp member
      rfl
    · intro h
      exact ⟨_, List.mem_singleton_self _, h⟩

private theorem exists_level_ofType_iff {type : ResolvedType} {leaf : Shape} :
    (∃ level ∈ (ofType type).levels, level.shape = leaf) ↔
      ∃ level ∈ (ofShape type.shape).levels, level.shape = leaf := by
  simp only [levels, List.exists_mem_cons_iff, ofType, withNullable, shape_mapNote,
    elements_mapNote]

private theorem needs_ofType (type : ResolvedType) (dependency : Dependency) :
    (ofType type).Needs dependency ↔ dependency ∈ type.imports := by
  cases dependency with
  | enum name =>
    rw [Needs, exists_level_ofType_iff, exists_level_iff rfl]
    exact Shape.enum_mem_imports.symm
  | timestamp =>
    rw [Needs, exists_level_ofType_iff, exists_level_iff rfl]
    exact Shape.timestamp_mem_imports.symm

end NotedType

private theorem Primitive.ofType_ne_any (type : String) (format : Option String) :
    ofType type format ≠ .any := by
  unfold ofType
  split <;> decide

private theorem Schema.ne_any_of_form {s : Schema} {p : Primitive} (h : s.form = .primitive p) :
    p ≠ .any := by
  unfold form at h
  dsimp only at h
  split at h
  · cases h
  split at h
  · cases h
  split at h
  · cases h
  split at h
  · split at h
    · cases h
    · split at h <;> cases h
  · cases h
    exact Primitive.ofType_ne_any _ s.format

namespace Resolution

variable {d : Document}

private theorem nullable_ofReference {name : String} {required : Bool} {type : ResolvedType}
    (h : ofReference d name required = .ok type) :
    type.nullable = true ↔ type.shape.MayBeAbsent required := by
  obtain ⟨target, -, h⟩ := Outcome.bind_eq_ok.mp h
  cases literals : target.isEnum with
  | true =>
    rw [literals, if_pos rfl] at h
    cases h
    simp [Shape.MayBeAbsent]
  | false =>
    rw [literals, if_neg Bool.false_ne_true] at h
    cases h
    simp [Shape.MayBeAbsent]

theorem valueChain_ne_zero {more count : Nat} {value last : SchemaRef}
    (h : valueChain d more value = .ok (count, last)) : count ≠ 0 := by
  unfold valueChain at h
  obtain ⟨schema, -, h⟩ := Outcome.bind_eq_ok.mp h
  dsimp only at h
  split at h
  · cases h
    exact Nat.one_ne_zero
  · cases more with
    | zero => cases h
    | succ more =>
      obtain ⟨⟨rest, _⟩, -, h⟩ := Outcome.bind_eq_ok.mp h
      cases h
      exact Nat.succ_ne_zero rest

private theorem exists_map_of_mapShape {inner : Schema → Diagnosed ResolvedType} {value : SchemaRef}
    {shape : Shape} (h : (mapShape d inner value).result = .ok shape) :
    ∃ element, shape = .map element := by
  obtain ⟨⟨count, last⟩, chained, h⟩ := Diagnosed.bind_result_eq_ok.mp h
  obtain ⟨element, -, h⟩ := Diagnosed.bind_result_eq_ok.mp h
  cases h
  obtain ⟨rest, rfl⟩ := Nat.exists_eq_succ_of_ne_zero (valueChain_ne_zero chained)
  exact ⟨wrapMaps rest element, rfl⟩

private theorem nullable_inlineType {room : Nat} {schema : Schema} {required : Bool}
    {type : ResolvedType} (h : (inlineType d room schema required).result = .ok type) :
    type.nullable = true ↔ type.shape.MayBeAbsent required := by
  cases room with
  | zero => cases h
  | succ room =>
    rw [inlineType] at h
    cases form : schema.form with
    | list items =>
      rw [form] at h
      cases items with
      | none => cases h
      | some items =>
        obtain ⟨element, -, h⟩ := Diagnosed.bind_result_eq_ok.mp h
        cases h
        exact iff_of_false Bool.false_ne_true id
    | map value =>
      rw [form] at h
      obtain ⟨shape, mapped, h⟩ := Diagnosed.bind_result_eq_ok.mp h
      obtain ⟨element, rfl⟩ := exists_map_of_mapShape mapped
      cases h
      exact iff_of_false Bool.false_ne_true id
    | primitive p =>
      rw [form] at h
      cases h
      simp [Shape.MayBeAbsent, Schema.ne_any_of_form form]
    | any | record | untyped =>
      rw [form] at h
      cases h
      simp [Shape.MayBeAbsent]

theorem nullable_resolve {position : SchemaRef} {required : Bool} {type : ResolvedType}
    (h : (resolve d position required).result = .ok type) :
    type.nullable = true ↔ type.shape.MayBeAbsent required := by
  cases position with
  | reference name => exact nullable_ofReference h
  | inline schema => exact nullable_inlineType h

/-- Whatever is resolved has notes on all its levels, as they are made with the type, and they are
what the shape of the type demands. -/
theorem conforms_of_resolve {d : Document} {position : SchemaRef} {required : Bool}
    {type : ResolvedType} (h : (resolve d position required).result = .ok type) :
    ∃ t, (resolveNoted d position required).result = .ok t ∧ t.shape = type.shape ∧
      t.note = ⟨type.nullable, type.imports⟩ ∧ t.Conforms required := by
  refine ⟨.ofType type, ?_, NotedType.shape_ofType type, NotedType.note_ofType type, ?_⟩
  · rw [resolveNoted_eq, Diagnosed.result_map, h]
    rfl
  · constructor
    case nullable =>
      rw [NotedType.note_ofType, NotedType.shape_ofType]
      exact nullable_resolve h
    case elements =>
      rw [NotedType.ofType, NotedType.withNullable, NotedType.elements_mapNote]
      exact NotedType.not_nullable_ofShape type.shape
    case plain =>
      intro level member name composed
      have core : type.shape.core = .composed name :=
        (NotedType.exists_level_iff rfl).mp
          (NotedType.exists_level_ofType_iff.mp ⟨level, member, composed⟩)
      have grounds := grounds_resolve h
      rw [core] at grounds
      exact grounds
    case imports =>
      intro dependency
      rw [NotedType.note_ofType]
      exact (NotedType.needs_ofType type dependency).symm

def statesSchema : Schema :=
  let states := { Schema.empty with type := some "object", additional := some (.reference "State") }
  { Schema.empty with type := some "array", items := some (.inline states) }

def statesDocument : Document :=
  let state := { Schema.empty with type := some "string", literals := [.string "OPEN"] }
  ⟨"3.0.3", ⟨"States", "1.0.0", none⟩, [], [("State", state)], []⟩

/-- The state at the bottom is imported by every level, and none may be absent. -/
theorem conforms_of_resolve_states :
    ∃ type t, (resolve statesDocument (.inline statesSchema) false).result = .ok type ∧
      (resolveNoted statesDocument (.inline statesSchema) false).result = .ok t ∧
      t.shape = type.shape ∧ t.note = ⟨type.nullable, type.imports⟩ ∧ t.Conforms false ∧
      type.shape = .list (.map (.enum "State")) ∧
      t.levels.map (·.note) = List.replicate 3 ⟨false, [.enum "State"]⟩ := by
  have resolved : (resolve statesDocument (.inline statesSchema) false).result.toOption =
      some ⟨.list (.map (.enum "State")), false⟩ := by decide +kernel
  have notes : ((resolveNoted statesDocument (.inline statesSchema) false).result.toOption.map
      (·.levels.map (·.note))) = some (List.replicate 3 ⟨false, [.enum "State"]⟩) := by
    decide +kernel
  have resolved := Outcome.toOption_eq_some.mp resolved
  obtain ⟨t, made, shape, note, conforms⟩ := conforms_of_resolve resolved
  rw [made] at notes
  exact ⟨_, t, resolved, made, shape, note, conforms, rfl, Option.some.inj notes⟩

end Resolution

end ApiScaffold
