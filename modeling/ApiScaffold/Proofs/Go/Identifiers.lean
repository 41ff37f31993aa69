import ApiScaffold.Description.Reader
import ApiScaffold.Proofs.Go.DataNames
import ApiScaffold.Proofs.Go.Errors
import ApiScaffold.Proofs.Go.Locals
import ApiScaffold.Proofs.Methods
import ApiScaffold.Proofs.Naming
import ApiScaffold.Proofs.Routing
/-!
# Identifiers of Go

An identifier starts with a letter or an underscore, letters, digits and underscores follow, and it
is not a keyword. Each derivation of a name sees to a part of that for any text, and leaves the rest
to the texts of the description.
-/
namespace ApiScaffold.Go

open ApiScaffold.Text

/-! ## Identifiers -/

def keywords : List String := [
  "break", "case", "chan", "const", "continue", "default", "defer", "else", "fallthrough", "for",
  "func", "go", "goto", "if", "import", "interface", "map", "package", "range", "return", "select",
  "struct", "switch", "type", "var"]

/-- The letters and digits of a version of Unicode. Those of ASCII are the same in all of them. -/
structure Alphabet where
  letter : Char → Bool
  digit : Char → Bool
  letter_ascii (c : Char) : c.toNat < 128 → letter c = c.isAlpha
  digit_ascii (c : Char) : c.toNat < 128 → digit c = c.isDigit

def Alphabet.ascii : Alphabet where
  letter := Char.isAlpha
  digit := Char.isDigit
  letter_ascii _ _ := rfl
  digit_ascii _ _ := rfl

variable (A : Alphabet)

/-- The text is an identifier of Go. -/
def Alphabet.Identifies (s : String) : Prop :=
  (∃ c rest, s.toList = c :: rest ∧ (A.letter c = true ∨ c = '_') ∧
    ∀ x ∈ rest, A.letter x = true ∨ A.digit x = true ∨ x = '_') ∧ s ∉ keywords

/-! ## What makes an identifier -/

/-- A condition for identifiers. -/
inductive Clause where
  | nonempty
  | characters
  | start
  | foreign
  | keyword
  deriving DecidableEq

/-- Of ASCII there are only letters, digits and underscores, and no digit at the start. What is
beyond ASCII are letters and digits too, and no digit at the start. -/
def Clause.Holds : Clause → String → Prop
  | nonempty, s => s ≠ ""
  | characters, s => ∀ c ∈ s.toList, IsNameChar c
  | start, s => ∀ c ∈ s.toList.head?, ¬ c.isDigit = true
  | foreign, s => (∀ c ∈ s.toList, ¬ c.toNat < 128 → A.letter c = true ∨ A.digit c = true) ∧
      ∀ c ∈ s.toList.head?, ¬ c.toNat < 128 → A.letter c = true
  | keyword, s => s ∉ keywords

instance (clause : Clause) (s : String) : Decidable (clause.Holds A s) :=
  match clause with
  | .nonempty => inferInstanceAs (Decidable (s ≠ ""))
  | .characters => List.decidableBAll IsNameChar s.toList
  | .start => Option.decidableForallMem s.toList.head?
  | .foreign =>
    @instDecidableAnd _ _ (List.decidableBAll _ s.toList) (Option.decidableForallMem s.toList.head?)
  | .keyword => inferInstanceAs (Decidable (s ∉ keywords))

private theorem Clause.holds_iff {A B : Alphabet} {clause : Clause} {s : String}
    (own : clause ≠ .foreign) : clause.Holds A s ↔ clause.Holds B s := by
  cases clause with
  | foreign => exact absurd rfl own
  | nonempty | characters | start | keyword => rfl

private theorem stands_iff (c : Char) :
    A.letter c = true ∨ A.digit c = true ∨ c = '_' ↔
      IsNameChar c ∧ (¬ c.toNat < 128 → A.letter c = true ∨ A.digit c = true) := by
  by_cases ascii : c.toNat < 128
  · rw [A.letter_ascii c ascii, A.digit_ascii c ascii]
    simp [IsNameChar, ascii, Char.isAlphanum, or_assoc]
  · have other : c ≠ '_' := by
      rintro rfl
      exact ascii (by decide)
    simp [IsNameChar, ascii, other]

private theorem starts_iff (c : Char) :
    A.letter c = true ∨ c = '_' ↔
      IsNameChar c ∧ ¬ c.isDigit = true ∧ (¬ c.toNat < 128 → A.letter c = true) := by
  by_cases ascii : c.toNat < 128
  · have plain : ∀ n < 128, (Char.ofNat n).isAlpha = true ∨ Char.ofNat n = '_' ↔
        IsNameChar (Char.ofNat n) ∧ ¬ (Char.ofNat n).isDigit = true := by
      decide +kernel
    rw [A.letter_ascii c ascii]
    have same := forall_ascii (motive := fun c => c.isAlpha = true ∨ c = '_' ↔
      IsNameChar c ∧ ¬ c.isDigit = true) plain ascii
    simpa [ascii] using same
  · have other : c ≠ '_' := by
      rintro rfl
      exact ascii (by decide)
    have noDigit : ¬ c.isDigit = true := mt toNat_lt_of_isDigit ascii
    simp [IsNameChar, ascii, other, noDigit]

private theorem identifies_iff {s : String} :
    A.Identifies s ↔ ∀ clause : Clause, clause.Holds A s := by
  have clauses : (∀ clause : Clause, clause.Holds A s) ↔
      s ≠ "" ∧ (∀ c ∈ s.toList, IsNameChar c) ∧ (∀ c ∈ s.toList.head?, ¬ c.isDigit = true) ∧
        ((∀ c ∈ s.toList, ¬ c.toNat < 128 → A.letter c = true ∨ A.digit c = true) ∧
          ∀ c ∈ s.toList.head?, ¬ c.toNat < 128 → A.letter c = true) ∧ s ∉ keywords := by
    constructor
    · intro all
      exact ⟨all .nonempty, all .characters, all .start, all .foreign, all .keyword⟩
    · rintro ⟨nonempty, characters, start, foreign, keyword⟩ clause
      cases clause <;> assumption
  have spelled : s ≠ "" ↔ s.toList ≠ [] := by simp
  rw [clauses, Alphabet.Identifies, spelled]
  cases s.toList with
  | nil => simp
  | cons c rest =>
    constructor
    · rintro ⟨⟨_, _, same, first, others⟩, keyword⟩
      cases same
      obtain ⟨character, start, letter⟩ := (starts_iff A c).mp first
      have stands (x : Char) (member : x ∈ rest) := (stands_iff A x).mp (others x member)
      have head {motive : Char → Prop} (h : motive c) : ∀ x ∈ (c :: rest).head?, motive x := by
        intro x same
        cases same
        exact h
      refine ⟨List.cons_ne_nil c rest, ?_, head start, ⟨?_, head letter⟩, keyword⟩
      · exact List.forall_mem_cons.mpr ⟨character, fun x member => (stands x member).1⟩
      · exact List.forall_mem_cons.mpr
          ⟨fun high => .inl (letter high), fun x member => (stands x member).2⟩
    · rintro ⟨-, characters, start, ⟨foreign, letter⟩, keyword⟩
      refine ⟨⟨c, rest, rfl, ?_, ?_⟩, keyword⟩
      · exact (starts_iff A c).mpr ⟨characters c List.mem_cons_self, start c rfl, letter c rfl⟩
      · intro x member
        have inside : x ∈ c :: rest := List.mem_cons_of_mem c member
        exact (stands_iff A x).mpr ⟨characters x inside, foreign x inside⟩

/-! ## Derivations -/

private theorem notMem_keywords_of_head {s : String}
    (h : ∀ c ∈ s.toList.head?, ¬ c.isLower = true) :
    s ∉ keywords := by
  have small : ∀ word ∈ keywords, word.toList.head?.any Char.isLower = true := by decide +kernel
  intro member
  obtain ⟨c, first, lower⟩ := (Option.any_eq_true _ _).mp (small s member)
  exact h c first lower

theorem exported_holds (s : String) {clause : Clause}
    (checked : clause ∉ [Clause.nonempty, .foreign]) : clause.Holds A (Naming.exported s) := by
  obtain ⟨characters, head⟩ := Naming.exportable_exportedChars s.toList
  have spelled : (Naming.exported s).toList = Naming.exportedChars s.toList := String.toList_ofList
  rw [← spelled] at characters head
  cases clause with
  | characters => exact characters
  | start => exact fun c first => (head c first).2
  | keyword => exact notMem_keywords_of_head fun c first => (head c first).1
  | nonempty | foreign => exact absurd (by decide) checked

theorem properCase_holds (s : String) {clause : Clause}
    (checked : clause ∉ [Clause.nonempty, .start, .foreign]) :
    clause.Holds A (Naming.properCase s) := by
  have spelled : (Naming.properCase s).toList = Naming.properChars s.toList := String.toList_ofList
  cases clause with
  | characters =>
    intro c member
    exact Naming.isNameChar_of_mem_properChars c (spelled ▸ member)
  | keyword =>
    apply notMem_keywords_of_head
    rw [spelled]
    exact Naming.not_isLower_head_properChars s.toList
  | nonempty | start | foreign => exact absurd (by decide) checked

private theorem localName_notMem_keywords (s : String) : Naming.localName s ∉ keywords := by
  have reserved : ∀ word ∈ keywords, word ∈ Naming.reservedLocals := by decide +kernel
  exact fun member => Naming.localName_notMem s (reserved _ member)

private theorem isNameChar_of_mem_localName {s : String} (h : ∀ c ∈ s.toList, IsNameChar c) :
    ∀ c ∈ (Naming.localName s).toList, IsNameChar c := by
  have suffix : ∀ c ∈ Naming.localSuffix.toList, IsNameChar c := forall_isNameChar (by decide)
  by_cases reserved : s ∈ Naming.reservedLocals
  · rw [Naming.localName_of_mem reserved, String.toList_append]
    intro c member
    exact (List.mem_append.mp member).elim (h c) (suffix c)
  · rw [Naming.localName_of_notMem reserved]
    exact h

private theorem localName_camelCase_holds (s : String) {clause : Clause}
    (checked : clause ∉ [Clause.nonempty, .start, .foreign]) :
    clause.Holds A (Naming.localName (Naming.camelCase s)) := by
  have spelled : (Naming.camelCase s).toList = Naming.camelChars s.toList := String.toList_ofList
  cases clause with
  | characters =>
    apply isNameChar_of_mem_localName
    rw [spelled]
    exact Naming.isNameChar_of_mem_camelChars
  | keyword => exact localName_notMem_keywords _
  | nonempty | start | foreign => exact absurd (by decide) checked

end ApiScaffold.Go

namespace ApiScaffold

open ApiScaffold.Go ApiScaffold.Text

/-! ## Names from descriptions -/

namespace Enumeration

private theorem head_identChars (literal : List Char) :
    ∀ c ∈ (identChars literal).head?, ¬ c.isDigit = true := by
  cases literal with
  | nil => exact nofun
  | cons first rest =>
    intro c head
    rw [identChars] at head
    split at head
    case isTrue =>
      cases head
      decide
    case isFalse plain =>
      cases head
      dsimp only
      split
      · decide
      · exact plain

private theorem identChars_ne_nil {literal : List Char} (h : literal ≠ []) :
    identChars literal ≠ [] := by
  cases literal with
  | nil => exact absurd rfl h
  | cons first rest =>
    rw [identChars]
    split <;> simp

/-- A literal can be a keyword, and what counts as alphanumeric beyond ASCII need not be a letter
or a digit. -/
theorem constant_holds (A : Alphabet) {name : String} {schema : Schema} {e : Enumeration}
    (h : ofSchema name schema = .ok e) {v : EnumValue} (member : v ∈ e.values) {clause : Clause}
    (checked : clause ∉ [Clause.foreign, .keyword]) : clause.Holds A v.ident := by
  obtain ⟨before, given, added⟩ := exists_value_of_ofSchema h member
  obtain ⟨-, literal_ne, -, ident_eq, characters, -⟩ := value_eq_ok added
  have spelled : v.ident.toList = identChars v.literal.toList := by
    rw [ident_eq, identFor, String.toList_ofList]
  cases clause with
  | nonempty =>
    intro empty
    rw [empty] at spelled
    have literal : v.literal.toList ≠ [] := by simpa using literal_ne
    exact identChars_ne_nil literal spelled.symm
  | characters =>
    intro c inside
    rcases characters c inside with letter | rfl
    · exact isNameChar_of_isAlphanumeric letter
    · exact fun _ => .inr rfl
  | start =>
    rw [Clause.Holds, spelled]
    exact head_identChars v.literal.toList
  | foreign | keyword => exact absurd (by decide) checked

end Enumeration

private theorem Extension.isNameChar_of_isPackageChar {c : Char} (h : isPackageChar c = true) :
    c.toNat < 128 ∧ IsNameChar c := by
  simp only [isPackageChar, Bool.or_eq_true, decide_eq_true_eq] at h
  obtain (small | digit) | rfl := h
  · exact ⟨toNat_lt_of_isLower small, fun _ => .inl (by simp [isAlphanum_eq, small])⟩
  · exact ⟨toNat_lt_of_isDigit digit, fun _ => .inl (by simp [isAlphanum_eq, digit])⟩
  · decide

private theorem Extension.package_of_directives {method : Method} {path : String}
    {extensions : Keyed Json} {found : Directives}
    (h : directives method path extensions = .ok found) :
    found.package ≠ "" ∧ ∀ c ∈ found.package.toList, isPackageChar c = true := by
  obtain ⟨decoded, -, h⟩ := Outcome.bind_eq_ok.mp h
  split at h
  next package customHandler isPublic =>
    split at h
    · cases h
    next named =>
      split at h
      next letters =>
        cases h
        refine ⟨?_, List.all_eq_true.mp letters⟩
        rintro rfl
        exact named rfl
      next => cases h
  next => cases h

/-- Nothing is asked of the first character of a package, and it can be a keyword. -/
theorem Endpoint.package_holds (A : Alphabet) {d : Document} {endpoints : List Endpoint}
    (h : (ofDocument d).result = .ok endpoints) {e : Endpoint} (member : e ∈ endpoints)
    {clause : Clause} (checked : clause ∉ [Clause.start, .keyword]) :
    clause.Holds A e.package := by
  obtain ⟨_, -, classified⟩ := Outcome.left_of_mem (forall₂_of_ofDocument h) member
  obtain ⟨_, _, _, _, _, _, _, decoded, -, -, -, -, rfl⟩ := ofOperation_eq_ok classified
  obtain ⟨nonempty, letters⟩ := Extension.package_of_directives decoded
  have own (c : Char) (inside : c ∈ _) := Extension.isNameChar_of_isPackageChar (letters c inside)
  cases clause with
  | nonempty => exact nonempty
  | characters => exact fun c inside => (own c inside).2
  | foreign =>
    constructor
    · intro c inside high
      exact absurd (own c inside).1 high
    · intro c first high
      exact absurd (own c (List.mem_of_mem_head? first)).1 high
  | start | keyword => exact absurd (by decide) checked

namespace ParameterPlan

private theorem idents_of_plan {d : Document} {operation path : String}
    {shared own : List Parameter} {paged : Bool} {planned : ParameterPlan}
    (h : (plan d operation path shared own paged).result = .ok planned) :
    ∀ p ∈ planned.params, p.ident = Naming.camelCase p.name := by
  obtain ⟨specs, found, perm⟩ := exists_specs_of_plan h
  obtain ⟨all, -, -⟩ := specs_eq_ok_iff.mp found
  intro p member
  obtain ⟨_, -, specifies⟩ := Outcome.left_of_mem all (perm.mem_iff.mp member)
  rw [specifies.ident, specifies.name]

end ParameterPlan

private theorem Endpoint.idents_of_ofDocument {d : Document} {endpoints : List Endpoint}
    (h : (ofDocument d).result = .ok endpoints) {e : Endpoint} (member : e ∈ endpoints) :
    ∀ p ∈ e.params.params, p.ident = Naming.camelCase p.name := by
  obtain ⟨_, -, classified⟩ := Outcome.left_of_mem (forall₂_of_ofDocument h) member
  obtain ⟨directives, _, _, _, _, _, params, -, -, -, -, given, rfl⟩ := ofOperation_eq_ok classified
  split at given
  case isTrue =>
    obtain ⟨-, rfl⟩ := given
    exact List.forall_mem_nil _
  case isFalse => exact ParameterPlan.idents_of_plan given.2

end ApiScaffold

namespace ApiScaffold.Go

/-! ## Kinds of names -/

inductive NameKind where
  | enumPackage
  | constant
  | handlerPackage
  | method
  | field
  | extracted
  | receiver
  | errorConstructor
  deriving DecidableEq

def NameKind.all : List NameKind :=
  [enumPackage, constant, handlerPackage, method, field, extracted, receiver, errorConstructor]

private theorem NameKind.mem_all (kind : NameKind) : kind ∈ all := by
  cases kind <;> decide

/-- What the derivation of a name does not see to. -/
def NameKind.unchecked : NameKind → List Clause
  | enumPackage => [.nonempty, .characters, .start, .foreign, .keyword]
  | constant => [.foreign, .keyword]
  | handlerPackage => [.start, .keyword]
  | method | field => [.nonempty, .foreign]
  | extracted | errorConstructor => [.nonempty, .start, .foreign]
  | receiver => [.nonempty, .characters, .start, .foreign]

end ApiScaffold.Go

namespace ApiScaffold

open ApiScaffold.Go ApiScaffold.Text

/-- The fields that are written with an identifier. An alias is written without fields, and an
embedded type without an identifier. -/
def Record.writtenFields (r : Record) : List Field :=
  match r.aliasOf with
  | some _ => []
  | none => r.fields.filter (!·.embedded)

/-- The names of each kind in the sources of a service. A record has a receiver for each getter. -/
def Service.namesOf (s : Service) : NameKind → List String
  | .enumPackage => s.types.enums.map fun e => (EnumView.ofEnumeration e).package
  | .constant => s.types.enums.flatMap fun e => (EnumView.ofEnumeration e).values.map (·.ident)
  | .handlerPackage => s.handlers.packages.map (·.name) ++ s.routes.packages
  | .method => s.handlers.packages.flatMap (·.methods) ++
      (s.routes.free ++ s.routes.guarded).map (·.handler)
  | .field => s.types.records.flatMap fun r => r.writtenFields.map (·.ident)
  | .extracted => s.handlers.packages.flatMap fun p => p.handlers.flatMap fun plan =>
      plan.extractions.map fun x => Naming.localName x.param.ident
  | .receiver => s.types.records.flatMap fun r =>
      r.writtenFields.map fun _ => (RecordView.ofRecord r).receiver
  | .errorConstructor => s.errors.toList.flatMap fun c =>
      (ErrorsView.ofCatalog c).errors.map (·.ident)

namespace Service

def Identifies (s : Service) (A : Alphabet) : Prop :=
  ∀ kind, ∀ name ∈ s.namesOf kind, A.Identifies name

section

variable {d : Document} {c : Context} {s : Service} (h : s.Compiled d c) {name : String}

include h

private theorem exists_enumeration_of_constant (member : name ∈ s.namesOf .constant) :
    ∃ component schema e v, Enumeration.ofSchema component schema = .ok e ∧ v ∈ e.values ∧
      v.ident = name := by
  obtain ⟨e, inside, among⟩ := List.mem_flatMap.mp member
  rw [EnumView.ofEnumeration, List.map_map] at among
  obtain ⟨v, value, rfl⟩ := List.mem_map.mp among
  obtain ⟨_, schema, -, emits⟩ := (DataTypes.mem_enums_iff h.types).mp inside
  cases emits with
  | enum _ _ defined => exact ⟨_, _, e, v, defined, value, rfl⟩

theorem exists_endpoint_of_package (member : name ∈ s.namesOf .handlerPackage) :
    ∃ e ∈ s.endpoints, e.package = name := by
  rcases List.mem_append.mp member with member | member
  · obtain ⟨p, inside, rfl⟩ := List.mem_map.mp member
    obtain ⟨xs, -, -, packages, -⟩ := Handlers.eq_of_ofEndpoints h.handlers
    have filled : p.handlers ≠ [] := Grouping.things_ne_nil (packages ▸ inside)
    obtain ⟨plan, rest, handlers⟩ := List.exists_cons_of_ne_nil filled
    have among : plan ∈ p.handlers := handlers ▸ List.mem_cons_self
    obtain ⟨e, inside, -, package, -⟩ :=
      Handlers.exists_endpoint_of_plan h.handlers inside among
    exact ⟨e, inside, package⟩
  · rw [h.routes] at member
    exact List.mem_map.mp (Texts.mem_ofList.mp member)

private theorem exists_exported_of_method (member : name ∈ s.namesOf .method) :
    ∃ id, Naming.exported id = name := by
  rcases List.mem_append.mp member with member | member
  · obtain ⟨p, inside, among⟩ := List.mem_flatMap.mp member
    obtain ⟨e, -, -, called⟩ := Handlers.exists_endpoint h.handlers inside among
    exact ⟨e.operationId, congrArg Prod.snd called⟩
  · obtain ⟨route, inside, rfl⟩ := List.mem_map.mp member
    rw [h.routes] at inside
    obtain ⟨e, -, rfl⟩ := List.mem_map.mp ((RouteTable.routes_perm s.endpoints).mem_iff.mp inside)
    exact ⟨e.operationId, rfl⟩

private theorem exists_exported_of_field (member : name ∈ s.namesOf .field) :
    ∃ property, Naming.exported property = name := by
  obtain ⟨r, inside, among⟩ := List.mem_flatMap.mp member
  obtain ⟨f, written, rfl⟩ := List.mem_map.mp among
  obtain ⟨schema, -, built⟩ := DataTypes.ofSchema_of_mem_records h.types inside
  rw [Record.writtenFields] at written
  split at written
  · cases written
  · obtain ⟨field, own⟩ := List.mem_filter.mp written
    have named := (Record.fielded_of_ofSchema built).named f field
    exact ⟨f.name, (named.own (by simpa using own)).symm⟩

private theorem exists_local_of_extracted (member : name ∈ s.namesOf .extracted) :
    ∃ parameter, Naming.localName (Naming.camelCase parameter) = name := by
  obtain ⟨p, inside, among⟩ := List.mem_flatMap.mp member
  obtain ⟨plan, planned, among⟩ := List.mem_flatMap.mp among
  obtain ⟨x, taken, rfl⟩ := List.mem_map.mp among
  obtain ⟨e, endpoint, -, -, made⟩ := Handlers.exists_endpoint_of_plan h.handlers inside planned
  obtain ⟨_, found, -, params, -⟩ := HandlerPlan.exists_ofEndpoint e
  cases made.symm.trans found
  have declared : x.param ∈ e.params.params := by
    rw [ParameterPlan.params, ← params]
    exact List.mem_map_of_mem taken
  exact ⟨x.param.name, by rw [Endpoint.idents_of_ofDocument h.endpoints endpoint _ declared]⟩

private theorem exists_properCase_of_errorConstructor
    (member : name ∈ s.namesOf .errorConstructor) :
    ∃ code, Naming.properCase code = name := by
  obtain ⟨catalog, declared, among⟩ := List.mem_flatMap.mp member
  have compiled := h.errors
  rw [Option.mem_toList.mp declared] at compiled
  obtain ⟨table, -, -, idents⟩ := ErrorCatalog.entries_of_ofDocument compiled
  have named : name ∈ catalog.entries.map (·.ident) := by
    rw [ErrorsView.ofCatalog, List.map_map] at among
    exact among
  rw [idents] at named
  obtain ⟨code, -, rfl⟩ := List.mem_map.mp named
  exact ⟨code, rfl⟩

omit h in
private theorem exists_local_of_receiver (member : name ∈ s.namesOf .receiver) :
    ∃ text, Naming.localName text = name := by
  obtain ⟨r, -, among⟩ := List.mem_flatMap.mp member
  obtain ⟨f, -, rfl⟩ := List.mem_map.mp among
  exact ⟨Naming.lowerFirstLetter r.name, rfl⟩

private theorem holds_of_notMem_unchecked (A : Alphabet) {kind : NameKind}
    (member : name ∈ s.namesOf kind)
    {clause : Clause} (checked : clause ∉ kind.unchecked) : clause.Holds A name := by
  cases kind with
  | enumPackage => cases clause <;> exact absurd (by decide) checked
  | constant =>
    obtain ⟨_, _, _, _, defined, value, rfl⟩ := exists_enumeration_of_constant h member
    exact Enumeration.constant_holds A defined value checked
  | handlerPackage =>
    obtain ⟨e, inside, rfl⟩ := exists_endpoint_of_package h member
    exact Endpoint.package_holds A h.endpoints inside checked
  | method =>
    obtain ⟨id, rfl⟩ := exists_exported_of_method h member
    exact exported_holds A id checked
  | field =>
    obtain ⟨property, rfl⟩ := exists_exported_of_field h member
    exact exported_holds A property checked
  | extracted =>
    obtain ⟨parameter, rfl⟩ := exists_local_of_extracted h member
    exact localName_camelCase_holds A parameter checked
  | receiver =>
    obtain ⟨text, rfl⟩ := exists_local_of_receiver member
    cases clause with
    | keyword => exact localName_notMem_keywords text
    | nonempty | characters | start | foreign => exact absurd (by decide) checked
  | errorConstructor =>
    obtain ⟨code, rfl⟩ := exists_properCase_of_errorConstructor h member
    exact properCase_holds A code checked

end

/-- The names that the compiler derives are identifiers exactly if the texts they come from see to
what the derivation of each kind of name leaves open. -/
theorem identifies_iff_unchecked {d : Document} {c : Context} {s : Service} (A : Alphabet)
    (h : (Service.ofDocument d c).result = .ok s) :
    s.Identifies A ↔ ∀ kind, ∀ name ∈ s.namesOf kind,
      ∀ clause ∈ kind.unchecked, clause.Holds A name := by
  have compiled := compiled_of_ofDocument h
  refine forall_congr' fun kind => forall₂_congr fun name member => ?_
  rw [identifies_iff]
  constructor
  · intro all clause _
    exact all clause
  · intro left clause
    by_cases unchecked : clause ∈ kind.unchecked
    · exact left clause unchecked
    · exact holds_of_notMem_unchecked compiled A member unchecked

def deskDescription (package id parameter record property enumeration literal code : String) :
    Json :=
  let text : Json := .object [("type", .string "string")]
  Description.assemble
    [(record, .object [
      ("properties", .object [(property, text)]), ("x-group", .string "desk")]),
    (enumeration, .object [
      ("enum", .array [.string literal]), ("type", .string "string")])]
    [("/tickets", .object [("get", Description.generatedOperation id package
      [("parameters", .array [.object [
        ("in", .string "query"), ("name", .string parameter), ("schema", text)]])])])]
    [("x-errors", .object [(code, .object [
      ("httpCode", .number (.int 409)), ("message", .string "branch is closed")])])]

theorem identifies_iff_unchecked_desk :
    ∃ d c s, Description.read (deskDescription "ticket" "list-tickets" "page-size" "Slot" "start"
        "Priority" "low" "NOT_FOUND") = .ok d ∧
      Context.ofDocument d .go (some "example.com/queue") = .ok c ∧
      (Service.ofDocument d c).result = .ok s ∧
      (s.Identifies .ascii ↔ ∀ kind, ∀ name ∈ s.namesOf kind,
        ∀ clause ∈ kind.unchecked, clause.Holds .ascii name) ∧
      NameKind.all.map s.namesOf = [["priority"], ["low"], ["ticket", "ticket"],
        ["ListTickets", "ListTickets"], ["Start"], ["pageSize"], ["slot"], ["NotFound"]] ∧
      s.Identifies .ascii := by
  have compiles : ∃ d c s, Description.read (deskDescription "ticket" "list-tickets" "page-size"
        "Slot" "start" "Priority" "low" "NOT_FOUND") = .ok d ∧
      Context.ofDocument d .go (some "example.com/queue") = .ok c ∧
      (Service.ofDocument d c).result = .ok s ∧
      NameKind.all.map s.namesOf = [["priority"], ["low"], ["ticket", "ticket"],
        ["ListTickets", "ListTickets"], ["Start"], ["pageSize"], ["slot"], ["NotFound"]] ∧
      ∀ kind ∈ NameKind.all, ∀ name ∈ s.namesOf kind,
        ∀ clause ∈ kind.unchecked, clause.Holds .ascii name :=
    ⟨_, _, _, rfl, rfl, rfl, by decide +kernel⟩
  obtain ⟨d, c, s, read, context, compiled, names, holds⟩ := compiles
  have same := identifies_iff_unchecked .ascii compiled
  exact ⟨d, c, s, read, context, compiled, same, names,
    same.mpr fun kind => holds kind (NameKind.mem_all kind)⟩

/-- Keywords, digits at the start and texts of which nothing is left get through, so that each kind
can have a name that is no identifier in any version of Unicode. -/
theorem not_identifies_desk :
    ∃ d c s, Description.read (deskDescription "type" "-" "1st" "1Slot" "-" "Type" "func" "404") =
        .ok d ∧
      Context.ofDocument d .go (some "example.com/queue") = .ok c ∧
      (Service.ofDocument d c).result = .ok s ∧
      NameKind.all.map s.namesOf = [["type"], ["func"], ["type", "type"], ["", ""], [""], ["1st"],
        ["1Slot"], ["404"]] ∧
      ∀ A : Alphabet, (∀ kind, ∃ name ∈ s.namesOf kind, ¬ A.Identifies name) ∧
        ¬ s.Identifies A := by
  have compiles : ∃ d c s, Description.read (deskDescription "type" "-" "1st" "1Slot" "-" "Type"
        "func" "404") = .ok d ∧
      Context.ofDocument d .go (some "example.com/queue") = .ok c ∧
      (Service.ofDocument d c).result = .ok s ∧
      NameKind.all.map s.namesOf = [["type"], ["func"], ["type", "type"], ["", ""], [""], ["1st"],
        ["1Slot"], ["404"]] ∧
      ∀ kind ∈ NameKind.all, ∃ name ∈ s.namesOf kind,
        ∃ clause ∈ [Clause.nonempty, .start, .keyword], ¬ clause.Holds .ascii name :=
    ⟨_, _, _, rfl, rfl, rfl, by decide +kernel⟩
  obtain ⟨d, c, s, read, context, compiled, names, fails⟩ := compiles
  refine ⟨d, c, s, read, context, compiled, names, fun A => ?_⟩
  have wrong (kind : NameKind) : ∃ name ∈ s.namesOf kind, ¬ A.Identifies name := by
    obtain ⟨name, member, clause, among, fails⟩ := fails kind (NameKind.mem_all kind)
    have own : clause ≠ .foreign := by
      rintro rfl
      exact absurd among (by decide)
    exact ⟨name, member, fun all => fails ((Clause.holds_iff own).mp ((identifies_iff A).mp all _))⟩
  refine ⟨wrong, fun all => ?_⟩
  obtain ⟨name, member, fails⟩ := wrong .enumPackage
  exact fails (all _ name member)

end Service

end ApiScaffold
