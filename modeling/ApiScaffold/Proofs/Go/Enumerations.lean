import ApiScaffold.Go.Source
import ApiScaffold.Proofs.Enumeration.RoundTrip
import ApiScaffold.Proofs.Go.Literals
/-!
# Enumerations of texts in Go

The source of an enumeration of texts declares a constant for each literal, a method that gives the
text of a constant, and a function that looks up the constant of a text. What these do is told by
the literals in the source, and it is what the enumeration itself says. A name stands for the
constant that is declared by it; which names a compiler of Go accepts is a question of its own.
-/
namespace ApiScaffold.Go

open ApiScaffold.Text ApiScaffold.Enumeration

/-! ## Sources -/

/-- The literal of the unknown value, the other constants with their literals, and the cases of the
switch over texts with the constants that they return. -/
structure TextEnum where
  name : String
  unknown : String
  constants : List (String × String)
  cases : List (String × String)

namespace TextEnum

def constantText (name : String) (entry : String × String) : String :=
  s!"\n\t{entry.1} {name} = {entry.2}"

def caseText (entry : String × String) : String :=
  s!"\n\tcase {entry.1}:\n\t\treturn {entry.2}, nil"

def text (t : TextEnum) : String :=
  s!"\ntype {t.name} string\n" ++
    s!"\nconst (\n\tUNKNOWN_VALUE {t.name} = {t.unknown}" ++
    each t.constants (constantText t.name) ++ "\n)\n" ++
    s!"\nfunc (c {t.name}) String() string \x7b" ++ "\n\treturn string(c)" ++ "\n\x7d\n" ++
    s!"\nfunc StringTo{t.name}(source string) ({t.name}, error) \x7b\n\tswitch source \x7b" ++
    each t.cases caseText ++
    "\n\tdefault:\n\t\treturn UNKNOWN_VALUE, errors.Validation(fmt.Errorf(" ++
    s!"\"invalid value ('%s') passed to {t.name}\", source), nil)\n\t\x7d\n\x7d\n"

def ofView (view : EnumView) : TextEnum where
  name := view.name
  unknown := view.unknownValue
  constants := view.values.map fun v => (v.ident, v.value)
  cases := view.values.map fun v => (v.text, v.ident)

end TextEnum

def enumPreamble (module : String) (view : EnumView) : String :=
  header ++ s!"package {view.package}\n" ++
    s!"\nimport (\n\t\"fmt\"\n\n\t\"{module}/internal/errors\"\n)\n" ++
    each view.comment commentLine

theorem each_map {α β : Type} (f : α → β) (items : List α) (text : β → String) :
    each (items.map f) text = each items fun item => text (f item) := by
  rw [each, List.map_map]
  rfl

private theorem enumText_eq {view : EnumView} (backed : view.stringBacked = true)
    (base : view.baseType = "string") (module : String) :
    enumText module view = enumPreamble module view ++ (TextEnum.ofView view).text := by
  have shown (s : String) : toString s = s := rfl
  have word : " " ++ ("string" ++ "\n") = " string\n" := by decide
  have declared (rest : String) : " " ++ ("string" ++ ("\n" ++ rest)) = " string\n" ++ rest := by
    rw [← word]
    simp only [String.append_assoc]
  have constants :
      constantLine view = fun v => TextEnum.constantText view.name (v.ident, v.value) := rfl
  have cases : valueCase = fun v => TextEnum.caseText (v.text, v.ident) := rfl
  unfold enumText enumPreamble TextEnum.text TextEnum.ofView
  simp only [each_map, constants, cases, backed, base, if_true, shown, String.append_assoc,
    declared]

/-! ## What they do -/

/-- The constant that is returned, and whether an error comes with it. -/
structure Returned where
  constant : String
  failed : Bool
  deriving DecidableEq

/-- Constants with the bytes that they hold, and the bytes that are looked up. -/
structure TextEnumMeaning where
  constants : List (String × Bytes)
  cases : List (Bytes × String)

/-- Each literal has to denote something. -/
def TextEnum.meaning? (t : TextEnum) : Option TextEnumMeaning := do
  let unknown ← unquote t.unknown
  let constants ← t.constants.mapM fun (ident, literal) => (unquote literal).map (ident, ·)
  let cases ← t.cases.mapM fun (literal, ident) => (unquote literal).map (·, ident)
  return ⟨(unknownIdent, unknown) :: constants, cases⟩

namespace TextEnumMeaning

def value? (m : TextEnumMeaning) (ident : String) : Option Bytes :=
  (m.constants.find? (·.1 = ident)).map Prod.snd

def string? (m : TextEnumMeaning) (ident : String) : Option Bytes := m.value? ident

/-- The switch takes the first case that is equal. Its default returns the unknown value and an
error of validation. -/
def stringTo (m : TextEnumMeaning) (source : Bytes) : Returned :=
  match m.cases.find? (·.1 = source) with
  | some (_, ident) => ⟨ident, false⟩
  | none => ⟨unknownIdent, true⟩

/-- The declarations do what the enumeration says. -/
structure Mirrors (m : TextEnumMeaning) (e : Enumeration) : Prop where
  names : (m.constants.map Prod.fst).Nodup
  cases : (m.cases.map Prod.fst).Nodup
  text (ident : String) : m.string? ident = (e.textOf? ident).map bytes
  sentinel : ∀ constant ∈ m.constants, m.value? unknownIdent = some constant.2 →
    constant.1 = unknownIdent
  accepts (source : String) :
    (∃ ident, e.identOf? source = some ident ∧ m.stringTo (bytes source) = ⟨ident, false⟩) ↔
      ∃ literal, e.parse source = .ok literal
  back (source : String) : (m.stringTo (bytes source)).failed = false →
    m.string? (m.stringTo (bytes source)).constant = some (bytes source)
  rejects {source : String} {fault : ParseFault} : e.parse source = .error fault →
    m.stringTo (bytes source) = ⟨unknownIdent, true⟩
  foreign {source : Bytes} : (∀ text, bytes text ≠ source) →
    m.stringTo source = ⟨unknownIdent, true⟩

def ofValues (values : List EnumValue) : TextEnumMeaning where
  constants := (unknownIdent, bytes unknownIdent) :: values.map fun v => (v.ident, bytes v.literal)
  cases := values.map fun v => (bytes v.literal, v.ident)

end TextEnumMeaning

private theorem mapM_map {α β γ : Type} {f : α → β} {g : β → Option γ} {k : α → γ}
    (h : ∀ a, g (f a) = some (k a)) (l : List α) : (l.map f).mapM g = some (l.map k) := by
  induction l with
  | nil => rfl
  | cons a l ih =>
    rw [List.map_cons, List.mapM_cons, h, ih]
    rfl

private theorem meaning?_ofEnumeration {e : Enumeration} (backed : e.isStringBacked = true) :
    (TextEnum.ofView (.ofEnumeration e)).meaning? = some (.ofValues e.values) := by
  have constants := mapM_map (f := fun v : EnumValue => (v.ident, stringLiteral v.literal))
    (g := fun (ident, literal) => (unquote literal).map (ident, ·))
    (k := fun v => (v.ident, bytes v.literal))
    (fun v => by simp only [unquote_stringLiteral, Option.map_some]) e.values
  have cases := mapM_map (f := fun v : EnumValue => (stringLiteral v.literal, v.ident))
    (g := fun (literal, ident) => (unquote literal).map (·, ident))
    (k := fun v => (bytes v.literal, v.ident))
    (fun v => by simp only [unquote_stringLiteral, Option.map_some]) e.values
  simp only [TextEnum.meaning?, TextEnum.ofView, EnumView.ofEnumeration, backed, if_true,
    List.map_map, unquote_stringLiteral] at constants cases ⊢
  simp only [Function.comp_def, constants, cases]
  rfl

namespace TextEnumMeaning

variable {values : List EnumValue}

private theorem value?_unknownIdent :
    (ofValues values).value? unknownIdent = some (bytes unknownIdent) := by
  rw [value?, ofValues, List.find?_cons_of_pos (by simp)]
  rfl

private theorem value?_of_ne {ident : String} (h : ident ≠ unknownIdent) :
    (ofValues values).value? ident =
      (values.find? (·.ident = ident)).map fun v => bytes v.literal := by
  rw [value?, ofValues, List.find?_cons_of_neg (by simpa using Ne.symm h), List.find?_map,
    Option.map_map]
  rfl

private theorem stringTo_bytes (source : String) :
    (ofValues values).stringTo (bytes source) =
      match values.find? (·.literal = source) with
      | some v => ⟨v.ident, false⟩
      | none => ⟨unknownIdent, true⟩ := by
  have same : ((fun case : Bytes × String => decide (case.1 = bytes source)) ∘
      fun v : EnumValue => (bytes v.literal, v.ident)) = fun v => decide (v.literal = source) := by
    funext v
    simp only [Function.comp_apply, bytes_injective.eq_iff]
  rw [stringTo, ofValues, List.find?_map, same]
  cases values.find? (·.literal = source) <;> rfl

private theorem stringTo_foreign {source : Bytes} (h : ∀ text, bytes text ≠ source) :
    (ofValues values).stringTo source = ⟨unknownIdent, true⟩ := by
  have none : (ofValues values).cases.find? (·.1 = source) = none := by
    rw [ofValues, List.find?_map, Option.map_eq_none_iff, List.find?_eq_none]
    intro v _
    simpa using h v.literal
  rw [stringTo, none]

variable {e : Enumeration}

private theorem string?_eq (ident : String) :
    (ofValues e.values).string? ident = (e.textOf? ident).map bytes := by
  by_cases unknown : ident = unknownIdent
  · rw [unknown, string?, value?_unknownIdent]
    rfl
  · rw [string?, value?_of_ne unknown, textOf?, if_neg unknown, Option.map_map]
    rfl

private theorem stringTo_eq (source : String) :
    (ofValues e.values).stringTo (bytes source) =
      match e.identOf? source with
      | some ident => ⟨ident, false⟩
      | none => ⟨unknownIdent, true⟩ := by
  rw [stringTo_bytes, identOf?]
  cases e.values.find? (·.literal = source) <;> rfl

private theorem parse_isOk_iff {source : String} :
    (∃ literal, e.parse source = .ok literal) ↔ ∃ ident, e.identOf? source = some ident := by
  rw [parse, identOf?]
  cases e.values.find? (·.literal = source) <;> simp

private theorem mirrors_of_distinguished (h : Distinguished e.values) :
    (ofValues e.values).Mirrors e where
  names := by
    have same : (ofValues e.values).constants.map Prod.fst = unknownIdent :: e.idents := by
      rw [ofValues, List.map_cons, List.map_map]
      rfl
    rw [same, List.nodup_cons]
    refine ⟨?_, h.nodup⟩
    intro member
    obtain ⟨v, inside, unknown⟩ := List.mem_map.mp member
    exact h.ident_ne v inside unknown
  cases := by
    rw [ofValues, List.map_map]
    apply List.Nodup.map_on _ h.nodup.of_map
    intro v hv w hw same
    exact h.eq_of_literal hw hv (bytes_injective same)
  text := string?_eq
  sentinel := by
    intro constant member same
    rw [value?_unknownIdent] at same
    rcases List.mem_cons.mp member with rfl | member
    · rfl
    · obtain ⟨v, inside, rfl⟩ := List.mem_map.mp member
      have unknown := bytes_injective (Option.some.inj same)
      have declared : v.literal ∈ e.literals := List.mem_map_of_mem inside
      rw [← unknown] at declared
      exact absurd declared (unknownIdent_notMem_literals h)
  accepts := by
    intro source
    rw [parse_isOk_iff, stringTo_eq]
    constructor
    · intro accepted
      obtain ⟨ident, found, -⟩ := accepted
      exact ⟨ident, found⟩
    · intro known
      obtain ⟨ident, found⟩ := known
      exact ⟨ident, found, by rw [found]⟩
  rejects := by
    intro source fault rejected
    have unknown : e.identOf? source = none := by
      rw [Option.eq_none_iff_forall_ne_some]
      intro ident found
      obtain ⟨literal, accepted⟩ := parse_isOk_iff.mpr ⟨ident, found⟩
      cases accepted.symm.trans rejected
    rw [stringTo_eq, unknown]
  foreign := stringTo_foreign
  back := by
    intro source accepted
    by_cases declared : source ∈ e.literals
    · have found := identOf?_literal h declared
      rw [stringTo_eq, found, string?_eq, textOf?_identFor h declared]
      rfl
    · have missing : e.identOf? source = none := by
        rw [identOf?, find?_eq_none declared]
        rfl
      rw [stringTo_eq, missing] at accepted
      cases accepted

end TextEnumMeaning

/-- The source of an enumeration of texts does what the enumeration says. -/
theorem TextEnum.exists_mirrors {name : String} {schema : Schema} {e : Enumeration}
    (h : Enumeration.ofSchema name schema = .ok e) (backed : e.isStringBacked = true)
    (module : String) :
    enumText module (.ofEnumeration e) =
        enumPreamble module (.ofEnumeration e) ++ (ofView (.ofEnumeration e)).text ∧
      ∃ m, (ofView (.ofEnumeration e)).meaning? = some m ∧ m.Mirrors e := by
  obtain ⟨distinguished, -, -⟩ := distinguished_of_ofSchema h
  have base : (EnumView.ofEnumeration e).baseType = "string" := by
    rw [EnumView.ofEnumeration, of_decide_eq_true backed]
  exact ⟨enumText_eq backed base module, _, meaning?_ofEnumeration backed,
    TextEnumMeaning.mirrors_of_distinguished distinguished⟩

theorem TextEnum.exists_mirrors_channel :
    ∃ e m, Enumeration.ofSchema "Channel" channelSchema = .ok e ∧ e.isStringBacked = true ∧
      (ofView (.ofEnumeration e)).meaning? = some m ∧ m.Mirrors e ∧
      m.stringTo (bytes "MY.SOMETHING") = ⟨"MY_SOMETHING", false⟩ ∧
      m.stringTo (bytes "MY_SOMETHING") = ⟨"UNKNOWN_VALUE", true⟩ ∧
      m.string? "ENUM_1_SOMETHING" = some (bytes "1_SOMETHING") := by
  have built : ∃ e, Enumeration.ofSchema "Channel" channelSchema = .ok e ∧
      e.isStringBacked = true ∧ e.identOf? "MY.SOMETHING" = some "MY_SOMETHING" ∧
      e.parse "MY_SOMETHING" = .error (.invalidValue "Channel" "MY_SOMETHING") ∧
      e.parse "MY.SOMETHING" = .ok "MY.SOMETHING" ∧
      e.textOf? "ENUM_1_SOMETHING" = some "1_SOMETHING" :=
    ⟨_, rfl, rfl, by decide +kernel, by rfl, by rfl, by decide +kernel⟩
  obtain ⟨e, h, backed, ident, unknown, known, text⟩ := built
  obtain ⟨-, m, meaning, mirrors⟩ := exists_mirrors h backed "example.com/queue"
  refine ⟨e, m, h, backed, meaning, mirrors, ?_, mirrors.rejects unknown, ?_⟩
  · obtain ⟨found, same, returned⟩ := (mirrors.accepts "MY.SOMETHING").mpr ⟨_, known⟩
    cases ident.symm.trans same
    exact returned
  · rw [mirrors.text, text]
    rfl

end ApiScaffold.Go
