import ApiScaffold.Proofs.Merging
import ApiScaffold.Proofs.Resolution.Notes
/-!
# Values that have to be there

Whether the value of a field has to be there is decided by the holder that declares the field last.
The field says so in three ways: its key may be left out, its type may be absent, and its rules
require a value. Rules that are declared come first, and those that the type implies are added
unless they are among them.
-/
namespace ApiScaffold

/-! ## Types of values that may be left out -/

/-- A value of the type can say that nothing is there. -/
def ResolvedType.CanBeMissing (type : ResolvedType) : Prop :=
  type.nullable = true ∨ (∃ element, type.shape = .list element) ∨
    (∃ element, type.shape = .map element) ∨ type.shape = .primitive .any

namespace Resolution

variable {d : Document} {position : SchemaRef} {type : ResolvedType}

private theorem canBeMissing_of_resolve (h : (resolve d position false).result = .ok type) :
    type.CanBeMissing := by
  have absent := (nullable_resolve h).mpr
  have grounds := grounds_resolve h
  obtain ⟨shape, nullable⟩ := type
  cases shape with
  | primitive p =>
    by_cases untyped : p = .any
    · exact .inr (.inr (.inr (congrArg Shape.primitive untyped)))
    · exact .inl (absent ⟨rfl, untyped⟩)
  | list element => exact .inr (.inl ⟨element, rfl⟩)
  | map element => exact .inr (.inr (.inl ⟨element, rfl⟩))
  | reference name => exact .inl (absent trivial)
  | enum name => exact .inl (absent rfl)
  | composed name => cases grounds

private theorem exists_reference_of_nullable (h : (resolve d position true).result = .ok type)
    (nullable : type.nullable = true) : ∃ name, type.shape = .reference name := by
  have absent := (nullable_resolve h).mp nullable
  obtain ⟨shape, _⟩ := type
  cases shape with
  | reference name => exact ⟨name, rfl⟩
  | primitive p => cases absent.1
  | enum name => cases absent
  | list | map | composed => cases absent

end Resolution

private theorem Shape.isRecordList_iff {shape : Shape} :
    shape.isRecordList = true ↔ ∃ name, shape = .list (.reference name) := by
  constructor
  · intro h
    unfold isRecordList at h
    split at h
    · exact ⟨_, rfl⟩
    · cases h
  · intro h
    obtain ⟨name, rfl⟩ := h
    rfl

namespace Record

variable {d : Document} {owner : String} {schema : Schema}

/-! ## Rules -/

section

variable {rule other : String} {rules : List String}

theorem mem_addRule : other ∈ addRule rule rules ↔ other ∈ rules ∨ other = rule := by
  by_cases member : rule ∈ rules
  · simp only [addRule, List.contains_iff_mem, member, if_true]
    exact ⟨.inl, fun h => h.elim id fun same => same ▸ member⟩
  · simp [addRule, member]

private theorem prefix_addRule : rules <+: addRule rule rules := by
  unfold addRule
  split
  · exact List.prefix_rfl
  · exact List.prefix_append _ _

end

variable {rules : List String} {type : ResolvedType} {required : Bool}

theorem mem_addRules {rule : String} :
    rule ∈ addRules rules type required ↔
      rule ∈ rules ∨
        rule = ruleRequired ∧ required = true ∧ type.shape.isValuePrimitive = false ∨
        rule = ruleDive ∧ type.shape.isRecordList = true := by
  unfold addRules
  cases required <;> cases type.shape.isValuePrimitive <;> cases type.shape.isRecordList <;>
    simp [mem_addRule, or_assoc]

theorem prefix_addRules : rules <+: addRules rules type required := by
  have first : rules <+:
      if required && !type.shape.isValuePrimitive then addRule ruleRequired rules else rules := by
    split
    · exact prefix_addRule
    · exact List.prefix_rfl
  unfold addRules
  dsimp only
  split
  · exact first.trans prefix_addRule
  · exact first

/-! ## The declaration that a field goes by -/

def lastDeclaration? (schema : Schema) (name : String) : Option Declaration :=
  (declarations schema).reverse.find? (·.name = name)

private theorem lastDeclaration?_of_split {name : String} {before after : List Declaration}
    {declaration : Declaration} (split : declarations schema = before ++ declaration :: after)
    (named : declaration.name = name) (later : ∀ other ∈ after, other.name ≠ name) :
    lastDeclaration? schema name = some declaration := by
  have reversed : (declarations schema).reverse =
      after.reverse ++ declaration :: before.reverse := by simp [split]
  rw [lastDeclaration?, reversed]
  refine List.find?_eq_some_iff_append.mpr ⟨by simp [named], after.reverse, before.reverse, rfl, ?_⟩
  intro other member
  simpa using later other (List.mem_reverse.mp member)

variable {r : Record} {f : Field}

private theorem declaredField_of_mem (h : (ofSchema d owner schema).result = .ok r)
    (member : f ∈ r.fields) :
    ∃ declaration, lastDeclaration? schema f.name = some declaration ∧
      (declaredField d owner schema.xml.isSome declaration).result = .ok f := by
  obtain ⟨_, fields, -, declared, rfl⟩ := ofSchema_eq_ok_iff.mp h
  obtain ⟨before, declaration, after, split, named, later, gives⟩ :=
    (merges_of_putDeclared declared).last f member
  exact ⟨declaration, lastDeclaration?_of_split split named later, gives⟩

theorem field_of_mem (h : (ofSchema d owner schema).result = .ok r) (member : f ∈ r.fields)
    (own : f.embedded = false) :
    ∃ holder position, lastDeclaration? schema f.name = some (.property holder f.name position) ∧
      (field d owner holder schema.xml.isSome f.name position).result = .ok f := by
  obtain ⟨declaration, last, declared⟩ := declaredField_of_mem h member
  obtain ⟨named, lends, -⟩ := declaredField_eq_ok declared
  cases declaration with
  | component name => cases own.symm.trans lends
  | property holder name position =>
    obtain rfl : f.name = name := named
    exact ⟨holder, position, last, declared⟩

/-! ## Presence -/

/-- What a field says about the presence of its value agrees with whether the value is `required`.
The rules `declared` for it come first. -/
structure Presence (f : Field) (required : Bool) (declared : List String) : Prop where
  omitted : f.omitEmpty = !required
  nullable : required = true → f.type.nullable = true →
    (∃ name, f.type.shape = .reference name) ∧ ruleRequired ∈ f.rules
  present : required = true → f.type.shape.isValuePrimitive = false → ruleRequired ∈ f.rules
  missing : required = false → f.type.CanBeMissing
  first : declared <+: f.rules
  elements : ∀ name, f.type.shape = .list (.reference name) → ruleDive ∈ f.rules
  implied : ∀ rule ∈ f.rules, rule ∉ declared →
    rule = ruleRequired ∧ required = true ∧ f.type.shape.isValuePrimitive = false ∨
      rule = ruleDive ∧ ∃ name, f.type.shape = .list (.reference name)

private theorem presence_of_field {holder : Schema} {xmlBound : Bool} {property : String}
    {position : SchemaRef}
    (h : (field d owner holder xmlBound property position).result = .ok f) :
    ∃ rules, declaredRules owner property position = .ok rules ∧
      Presence f (holder.isRequired property) rules := by
  obtain ⟨type, rules, resolved, given, rfl⟩ := field_eq_ok_iff.mp h
  refine ⟨rules, given, rfl, ?nullable, ?present, ?missing, prefix_addRules, ?elements, ?implied⟩
  case nullable =>
    intro required nullable
    rw [required] at resolved
    obtain ⟨name, shape⟩ := Resolution.exists_reference_of_nullable resolved nullable
    have counts : type.shape.isValuePrimitive = false := by rw [shape]; rfl
    exact ⟨⟨name, shape⟩, mem_addRules.mpr (.inr (.inl ⟨rfl, required, counts⟩))⟩
  case present =>
    intro required counts
    exact mem_addRules.mpr (.inr (.inl ⟨rfl, required, counts⟩))
  case missing =>
    intro optional
    rw [optional] at resolved
    exact Resolution.canBeMissing_of_resolve resolved
  case elements =>
    intro name shape
    exact mem_addRules.mpr (.inr (.inr ⟨rfl, Shape.isRecordList_iff.mpr ⟨name, shape⟩⟩))
  case implied =>
    intro rule member undeclared
    rcases mem_addRules.mp member with declared | added | ⟨dive, records⟩
    · exact absurd declared undeclared
    · exact .inl added
    · exact .inr ⟨dive, Shape.isRecordList_iff.mp records⟩

/-- A field that is not embedded has its key and its presence from the last declaration of its
name. -/
theorem presence_of_mem (h : (ofSchema d owner schema).result = .ok r) (member : f ∈ r.fields)
    (own : f.embedded = false) :
    f.key = f.name ∧ ∃ holder position declared,
      lastDeclaration? schema f.name = some (.property holder f.name position) ∧
      declaredRules owner f.name position = .ok declared ∧
      Presence f (holder.isRequired f.name) declared := by
  obtain ⟨holder, position, last, made⟩ := field_of_mem h member own
  obtain ⟨declared, given, presence⟩ := presence_of_field made
  have key : f.key = f.name := by
    obtain ⟨_, _, -, -, same⟩ := field_eq_ok_iff.mp made
    exact congrArg Field.key same
  exact ⟨key, holder, position, declared, last, given, presence⟩

/-- A field whose value has to be there, in the holder that declares it last, has a key that is not
left out, a type that is not absent unless it is a record, and a rule that requires a value unless
its type always has one. Any other field can say that nothing is there. Embedded fields are always
there, and have no rules. -/
theorem fields_presence (h : (ofSchema d owner schema).result = .ok r) :
    ∀ f ∈ r.fields,
      (f.embedded = true → f.type.nullable = false ∧ f.rules = []) ∧
      (f.embedded = false → ∃ holder position declared,
        lastDeclaration? schema f.name = some (.property holder f.name position) ∧
        declaredRules owner f.name position = .ok declared ∧
        Presence f (holder.isRequired f.name) declared) := by
  intro f member
  constructor
  · intro lends
    obtain ⟨declaration, -, declared⟩ := declaredField_of_mem h member
    obtain ⟨-, kind, -⟩ := declaredField_eq_ok declared
    cases declaration with
    | component name =>
      obtain ⟨-, rfl⟩ := declaredField_component_eq_ok_iff.mp declared
      exact ⟨rfl, rfl⟩
    | property holder name position => cases lends.symm.trans kind
  · intro own
    exact (presence_of_mem h member own).2

def counterSchema : Schema :=
  let given (type : String) : Schema := { Schema.empty with type := some type }
  { Schema.empty with
    allOf := [.reference "Base"]
    properties := [
      ("name", .inline { given "string" with
        extensions := [("x-validate", .array [.string "max=32"])] }),
      ("open", .inline (given "boolean")),
      ("openedAt", .inline { given "string" with format := some "date-time" }),
      ("tickets", .inline { given "array" with items := some (.reference "Ticket") })]
    required := ["name", "open", "tickets"] }

def counterDocument : Document :=
  ⟨"3.0.3", ⟨"Counters", "1.0.0", none⟩, [], [("Base", Schema.empty), ("Ticket", Schema.empty)], []⟩

/-- The name has a rule of its own, the tickets are records, and nothing can require a truth
value. -/
theorem fields_presence_counter :
    ∃ r, (ofSchema counterDocument "Counter" counterSchema).result = .ok r ∧
      (∀ f ∈ r.fields,
        (f.embedded = true → f.type.nullable = false ∧ f.rules = []) ∧
        (f.embedded = false → ∃ holder position declared,
          lastDeclaration? counterSchema f.name = some (.property holder f.name position) ∧
          declaredRules "Counter" f.name position = .ok declared ∧
          Presence f (holder.isRequired f.name) declared)) ∧
      r.fields.map (fun f => (f.name, f.omitEmpty, f.type.nullable, f.rules)) =
        [("Base", false, false, []), ("name", false, false, ["max=32", "required"]),
          ("open", false, false, []), ("openedAt", true, true, []),
          ("tickets", false, false, ["required", "dive"])] := by
  have built : ∃ r, (ofSchema counterDocument "Counter" counterSchema).result = .ok r ∧
      r.fields.map (fun f => (f.name, f.omitEmpty, f.type.nullable, f.rules)) =
        [("Base", false, false, []), ("name", false, false, ["max=32", "required"]),
          ("open", false, false, []), ("openedAt", true, true, []),
          ("tickets", false, false, ["required", "dive"])] := ⟨_, rfl, by decide⟩
  obtain ⟨r, built, fields⟩ := built
  exact ⟨r, built, fields_presence built, fields⟩

end Record

end ApiScaffold
