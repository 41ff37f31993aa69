import Mathlib.Data.List.Nodup
import Mathlib.Data.Set.Function
import ApiScaffold.Model.Enumeration
import ApiScaffold.Proofs.Outcome
/-!
# Constants and texts of an enumeration

The constants of an enumeration are those of its literals, one for each. Hence the text of a
constant and the constant of a text are inverse to each other, although the constant of a literal
does not determine the literal.
-/
namespace ApiScaffold.Enumeration

def literals (e : Enumeration) : List String := e.values.map (·.literal)

def idents (e : Enumeration) : List String := e.values.map (·.ident)

def declaredText? : Json → Option String
  | .string literal => some literal
  | .number (.int n) => some (toString n)
  | _ => none

/-- What holds of the values found so far: no two literals share a constant, and none has the
constant of the unknown value. -/
structure Distinguished (values : List EnumValue) : Prop where
  ident_eq : ∀ v ∈ values, v.ident = identFor v.literal
  literal_ne : ∀ v ∈ values, v.literal ≠ ""
  ident_ne : ∀ v ∈ values, v.ident ≠ unknownIdent
  nodup : (values.map (·.ident)).Nodup

private theorem declaredText?_of_literalText {name : String} {base : EnumBase} {given : Json}
    {literal : String} (h : literalText name base given = .ok literal) :
    declaredText? given = some literal := by
  unfold literalText at h
  split at h
  · cases h
    rfl
  · split at h
    · cases h
      rfl
    · cases h
  · cases h

private theorem taken?_eq_none {done : List EnumValue} {ident : String}
    (h : taken? done ident = none) :
    ident ≠ unknownIdent ∧ ∀ v ∈ done, v.ident ≠ ident := by
  unfold taken? at h
  split at h
  · cases h
  · simp only [Option.map_eq_none_iff, List.find?_eq_none, decide_eq_true_eq] at h
    exact ⟨by assumption, h⟩

theorem value_eq_ok {name : String} {base : EnumBase} {done : List EnumValue} {given : Json}
    {next : EnumValue} (h : value name base done given = .ok next) :
    literalText name base given = .ok next.literal ∧ next.literal ≠ "" ∧
      (base ≠ .string → (integer? next.literal.toList).isSome) ∧
      next.ident = identFor next.literal ∧
      (∀ c ∈ next.ident.toList, Text.isAlphanumeric c ∨ c = '_') ∧
      taken? done next.ident = none := by
  unfold value at h
  obtain ⟨literal, hliteral, h⟩ := Outcome.bind_eq_ok.mp h
  dsimp only at h
  split at h
  · cases h
  rename_i hne
  split at h
  · cases h
  rename_i hinteger
  split at h
  · cases h
  rename_i hchars
  split at h
  · cases h
  rename_i hfree
  cases h
  refine ⟨hliteral, hne, ?_, rfl, ?_, hfree⟩
  · intro hbase
    by_contra hnone
    exact hinteger ⟨hbase, by simpa using hnone⟩
  · rw [Bool.not_eq_true', Bool.not_eq_false, List.all_eq_true] at hchars
    intro c hc
    simpa only [Bool.or_eq_true, decide_eq_true_eq] using hchars c hc

private theorem exists_value_of_valuesAfter {name : String} {base : EnumBase} {given : List Json}
    {done values : List EnumValue} (h : valuesAfter name base done given = .ok values)
    {v : EnumValue} (member : v ∈ values) :
    v ∈ done ∨ ∃ before one, value name base before one = .ok v := by
  induction given generalizing done with
  | nil =>
    cases h
    exact .inl member
  | cons first rest ih =>
    obtain ⟨next, added, h⟩ := Outcome.bind_eq_ok.mp h
    rcases ih h with before | found
    · rcases List.mem_append.mp before with before | last
      · exact .inl before
      · cases List.mem_singleton.mp last
        exact .inr ⟨done, first, added⟩
    · exact .inr found

theorem exists_value_of_ofSchema {name : String} {schema : Schema} {e : Enumeration}
    (h : ofSchema name schema = .ok e) {v : EnumValue} (member : v ∈ e.values) :
    ∃ before given, value name e.base before given = .ok v := by
  obtain ⟨base, -, h⟩ := Outcome.bind_eq_ok.mp h
  obtain ⟨values, found, h⟩ := Outcome.bind_eq_ok.mp h
  cases h
  exact (exists_value_of_valuesAfter found member).resolve_left List.not_mem_nil

private theorem distinguished_nil : Distinguished [] where
  ident_eq := by simp
  literal_ne := by simp
  ident_ne := by simp
  nodup := by simp

private theorem distinguished_append {name : String} {base : EnumBase} {done : List EnumValue}
    {given : Json} {next : EnumValue} (hdone : Distinguished done)
    (h : value name base done given = .ok next) : Distinguished (done ++ [next]) := by
  obtain ⟨-, hne, -, hident, -, hfree⟩ := value_eq_ok h
  obtain ⟨hunknown, hother⟩ := taken?_eq_none hfree
  constructor
  · intro v hv
    rcases List.mem_append.mp hv with hv | hv
    · exact hdone.ident_eq v hv
    · rwa [List.mem_singleton.mp hv]
  · intro v hv
    rcases List.mem_append.mp hv with hv | hv
    · exact hdone.literal_ne v hv
    · rwa [List.mem_singleton.mp hv]
  · intro v hv
    rcases List.mem_append.mp hv with hv | hv
    · exact hdone.ident_ne v hv
    · rwa [List.mem_singleton.mp hv]
  · rw [List.map_append, List.map_singleton]
    refine List.nodup_append.mpr ⟨hdone.nodup, List.nodup_singleton _, ?_⟩
    intro ident hin last hlast
    obtain ⟨v, hv, rfl⟩ := List.mem_map.mp hin
    rw [List.mem_singleton.mp hlast]
    exact hother v hv

/-- The loop over the literals: the constants stay apart, and each literal adds its text. -/
private theorem distinguished_valuesAfter {name : String} {base : EnumBase} {given : List Json}
    {done values : List EnumValue} (hdone : Distinguished done)
    (h : valuesAfter name base done given = .ok values) :
    Distinguished values ∧
      values.map (some ·.literal) = done.map (some ·.literal) ++ given.map declaredText? := by
  induction given generalizing done with
  | nil =>
    cases h
    exact ⟨hdone, by simp⟩
  | cons first rest ih =>
    obtain ⟨next, hnext, h⟩ := Outcome.bind_eq_ok.mp h
    obtain ⟨hvalues, htexts⟩ := ih (distinguished_append hdone hnext) h
    refine ⟨hvalues, ?_⟩
    rw [htexts, List.map_cons, declaredText?_of_literalText (value_eq_ok hnext).1]
    simp

theorem distinguished_of_ofSchema {name : String} {schema : Schema} {e : Enumeration}
    (h : ofSchema name schema = .ok e) :
    Distinguished e.values ∧ e.literals.map some = schema.literals.map declaredText? ∧
      e.name = name := by
  obtain ⟨base, -, h⟩ := Outcome.bind_eq_ok.mp h
  obtain ⟨values, hvalues, h⟩ := Outcome.bind_eq_ok.mp h
  cases h
  have h := distinguished_valuesAfter distinguished_nil hvalues
  refine ⟨h.1, ?_, rfl⟩
  rw [← List.nil_append (schema.literals.map declaredText?)]
  simpa [literals, Function.comp_def] using h.2

namespace Distinguished

variable {values : List EnumValue}

private theorem eq_of_ident (h : Distinguished values) {v w : EnumValue} (hv : v ∈ values)
    (hw : w ∈ values) (hident : w.ident = v.ident) : w = v :=
  List.inj_on_of_nodup_map h.nodup hw hv hident

theorem eq_of_literal (h : Distinguished values) {v w : EnumValue} (hv : v ∈ values)
    (hw : w ∈ values) (hliteral : w.literal = v.literal) : w = v := by
  apply h.eq_of_ident hv hw
  rw [h.ident_eq w hw, h.ident_eq v hv, hliteral]

private theorem find?_ident (h : Distinguished values) {v : EnumValue} (hv : v ∈ values) :
    values.find? (·.ident = v.ident) = some v := by
  obtain ⟨w, hw⟩ : ∃ w, values.find? (·.ident = v.ident) = some w := by
    rw [← Option.isSome_iff_exists, List.find?_isSome]
    exact ⟨v, hv, by simp⟩
  rw [hw, h.eq_of_ident hv (List.mem_of_find?_eq_some hw) (by simpa using List.find?_some hw)]

private theorem find?_literal (h : Distinguished values) {v : EnumValue} (hv : v ∈ values) :
    values.find? (·.literal = v.literal) = some v := by
  obtain ⟨w, hw⟩ : ∃ w, values.find? (·.literal = v.literal) = some w := by
    rw [← Option.isSome_iff_exists, List.find?_isSome]
    exact ⟨v, hv, by simp⟩
  rw [hw, h.eq_of_literal hv (List.mem_of_find?_eq_some hw) (by simpa using List.find?_some hw)]

end Distinguished

section Lookups

variable {e : Enumeration}

private theorem idents_eq (h : Distinguished e.values) : e.idents = e.literals.map identFor := by
  rw [idents, literals, List.map_map]
  apply List.map_congr_left
  intro v hv
  exact h.ident_eq v hv

theorem identOf?_literal (h : Distinguished e.values) {text : String}
    (htext : text ∈ e.literals) : e.identOf? text = some (identFor text) := by
  obtain ⟨v, hv, rfl⟩ := List.mem_map.mp htext
  rw [identOf?, h.find?_literal hv, Option.map_some, h.ident_eq v hv]

private theorem parse_literal (h : Distinguished e.values) {text : String}
    (htext : text ∈ e.literals) : e.parse text = .ok text := by
  obtain ⟨v, hv, rfl⟩ := List.mem_map.mp htext
  rw [parse, h.find?_literal hv]

theorem textOf?_identFor (h : Distinguished e.values) {text : String}
    (htext : text ∈ e.literals) : e.textOf? (identFor text) = some text := by
  obtain ⟨v, hv, rfl⟩ := List.mem_map.mp htext
  rw [← h.ident_eq v hv, textOf?, if_neg (h.ident_ne v hv), h.find?_ident hv, Option.map_some]

theorem find?_eq_none {text : String} (htext : text ∉ e.literals) :
    e.values.find? (·.literal = text) = none := by
  rw [List.find?_eq_none]
  intro v hv
  simp only [decide_eq_true_eq]
  rintro rfl
  exact htext (List.mem_map.mpr ⟨v, hv, rfl⟩)

private theorem textOf?_isSome (h : Distinguished e.values) (ident : String) :
    (e.textOf? ident).isSome ↔ ident = unknownIdent ∨ ident ∈ e.literals.map identFor := by
  rw [← idents_eq h, textOf?]
  split
  · simp [*]
  · simp [*, idents]

private theorem identFor_bijOn (h : Distinguished e.values) :
    Set.BijOn identFor {text | text ∈ e.literals} {ident | ident ∈ e.idents} := by
  rw [idents_eq h]
  refine ⟨fun text htext => List.mem_map_of_mem htext, ?_, ?_⟩
  · intro text htext other hother hident
    have hsome := textOf?_identFor h htext
    rw [hident, textOf?_identFor h hother] at hsome
    exact (Option.some.inj hsome).symm
  · intro ident hident
    exact List.mem_map.mp hident

theorem unknownIdent_notMem_literals (h : Distinguished e.values) :
    unknownIdent ∉ e.literals := by
  intro hmem
  obtain ⟨v, hv, hliteral⟩ := List.mem_map.mp hmem
  apply h.ident_ne v hv
  rw [h.ident_eq v hv, hliteral]
  decide

end Lookups

/-- The literals of an enumeration and its constants belong together one to one, in the order in
which the schema declares them, and the lookups go back and forth between them. Nothing else has
a constant or a text but the unknown value, whose constant stands for no literal. -/
theorem literals_bijective_idents {name : String} {schema : Schema} {e : Enumeration}
    (h : ofSchema name schema = .ok e) :
    e.literals.map some = schema.literals.map declaredText? ∧
      e.idents.Nodup ∧ unknownIdent ∉ e.idents ∧
      Set.BijOn identFor {text | text ∈ e.literals} {ident | ident ∈ e.idents} ∧
      (∀ text ∈ e.literals, e.identOf? text = some (identFor text) ∧
        e.textOf? (identFor text) = some text ∧
        (e.textOf? (identFor text)).map e.parse = some (.ok text)) ∧
      "" ∉ e.literals ∧ unknownIdent ∉ e.literals ∧
      (∀ text, text ∉ e.literals →
        e.parse text = .error (.invalidValue name text) ∧ e.identOf? text = none) ∧
      ∀ ident, (e.textOf? ident).isSome ↔
        ident = unknownIdent ∨ ident ∈ e.literals.map identFor := by
  obtain ⟨hvalues, hliterals, hname⟩ := distinguished_of_ofSchema h
  refine ⟨hliterals, hvalues.nodup, ?_, identFor_bijOn hvalues, ?_, ?_,
    unknownIdent_notMem_literals hvalues, ?_, textOf?_isSome hvalues⟩
  · intro hmem
    obtain ⟨v, hv, hident⟩ := List.mem_map.mp hmem
    exact hvalues.ident_ne v hv hident
  · intro text htext
    have htextOf := textOf?_identFor hvalues htext
    refine ⟨identOf?_literal hvalues htext, htextOf, ?_⟩
    rw [htextOf, Option.map_some, parse_literal hvalues htext]
  · intro hmem
    obtain ⟨v, hv, hliteral⟩ := List.mem_map.mp hmem
    exact hvalues.literal_ne v hv hliteral
  · intro text htext
    rw [parse, identOf?, find?_eq_none htext, hname]
    exact ⟨rfl, rfl⟩

def channelSchema : Schema :=
  { Schema.empty with
    type := some "string"
    literals := [.string "1_SOMETHING", .string "MY.SOMETHING", .string "KIOSK"] }

theorem literals_bijective_idents_channel :
    ∃ e, ofSchema "Channel" channelSchema = .ok e ∧
      e.idents = ["ENUM_1_SOMETHING", "MY_SOMETHING", "KIOSK"] ∧
      e.textOf? (identFor "MY.SOMETHING") = some "MY.SOMETHING" ∧
      e.parse "MY_SOMETHING" = .error (.invalidValue "Channel" "MY_SOMETHING") := by
  obtain ⟨e, he⟩ : ∃ e, ofSchema "Channel" channelSchema = .ok e := ⟨_, rfl⟩
  have hidents : e.idents = ["ENUM_1_SOMETHING", "MY_SOMETHING", "KIOSK"] := by
    cases he
    decide +kernel
  have hliterals : e.literals = ["1_SOMETHING", "MY.SOMETHING", "KIOSK"] := by
    cases he
    decide +kernel
  have h := literals_bijective_idents he
  refine ⟨e, he, hidents, ?_, ?_⟩
  · exact (h.2.2.2.2.1 "MY.SOMETHING" (by simp [hliterals])).2.1
  · exact (h.2.2.2.2.2.2.2.1 "MY_SOMETHING" (by simp [hliterals])).1

end ApiScaffold.Enumeration
