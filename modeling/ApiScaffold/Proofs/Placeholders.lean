import ApiScaffold.Model.Parameter
/-!
# Placeholders of a path

A placeholder is a name between braces. Names have neither braces nor slashes in them, so
placeholders do not overlap, and a scan that goes on behind each of them, or behind what turned out
not to be one, misses none.
-/
namespace ApiScaffold

namespace ParameterPlan

/-! ## Occurrences -/

def isPlain (c : Char) : Bool := c ≠ '\x7b' && c ≠ '\x7d' && c ≠ '/'

def IsPlaceholderName (name : List Char) : Prop := name ≠ [] ∧ ∀ c ∈ name, isPlain c = true

/-- The name stands between braces in the text, behind `before`. -/
def Occurs (cs before name : List Char) : Prop :=
  IsPlaceholderName name ∧ ∃ after, cs = before ++ '\x7b' :: (name ++ '\x7d' :: after)

/-- In a text that starts with `read`, no placeholder starts before the rest. -/
def Clear (read cs : List Char) : Prop :=
  ∀ before name, Occurs (read ++ cs) before name → read.length ≤ before.length

variable {c : Char} {cs before name read : List Char}

private theorem occurs_append {rest : List Char} :
    Occurs (read ++ cs) (read ++ rest) name ↔ Occurs cs rest name := by
  simp [Occurs, List.append_assoc]

private theorem mem_of_occurs (h : Occurs (c :: cs) before name) : '\x7d' ∈ cs := by
  obtain ⟨-, after, parts⟩ := h
  cases before with
  | nil => simp [(List.cons.inj parts).2]
  | cons _ before => simp [(List.cons.inj parts).2]

private theorem name_eq_of_occurs (plain : ∀ x ∈ read, isPlain x = true) (ends : isPlain c = false)
    (h : Occurs ('\x7b' :: (read ++ c :: cs)) [] name) : name = read ∧ c = '\x7d' := by
  obtain ⟨⟨-, named⟩, after, parts⟩ := h
  have parts : read ++ c :: cs = name ++ '\x7d' :: after := (List.cons.inj parts).2
  have taken := congrArg (List.takeWhile isPlain) parts
  rw [List.takeWhile_append_of_pos plain, List.takeWhile_append_of_pos named,
    List.takeWhile_cons_of_neg (by simp [ends]), List.takeWhile_cons_of_neg (by decide),
    List.append_nil, List.append_nil] at taken
  subst taken
  exact ⟨rfl, (List.cons.inj (List.append_cancel_left parts)).1⟩

/-! ## Texts in which no placeholder starts -/

private theorem Clear.occurs_iff (h : Clear read cs) :
    Occurs (read ++ cs) before name ↔ ∃ rest, before = read ++ rest ∧ Occurs cs rest name := by
  constructor
  · intro occurs
    have long := h before name occurs
    obtain ⟨_, after, parts⟩ := id occurs
    have starts : read <+: before :=
      List.prefix_of_prefix_length_le (List.prefix_append read cs) ⟨_, parts.symm⟩ long
    obtain ⟨rest, rfl⟩ := starts
    exact ⟨rest, rfl, occurs_append.mp occurs⟩
  · rintro ⟨rest, rfl, occurs⟩
    exact occurs_append.mpr occurs

private theorem clear_nil : Clear [] cs := fun _ _ _ => Nat.zero_le _

private theorem Clear.cons (free : ∀ name, ¬ Occurs (c :: (read ++ cs)) [] name)
    (h : Clear read cs) :
    Clear (c :: read) cs := by
  intro before name occurs
  cases before with
  | nil => exact absurd occurs (free name)
  | cons first before =>
    obtain ⟨named, after, parts⟩ := occurs
    exact Nat.succ_le_succ (h before name ⟨named, after, (List.cons.inj parts).2⟩)

private theorem clear_of_ne (closed : ∀ x ∈ read, x ≠ '\x7b') : Clear read cs := by
  induction read with
  | nil => exact clear_nil
  | cons c read ih =>
    obtain ⟨other, closed⟩ := List.forall_mem_cons.mp closed
    exact (ih closed).cons fun _ ⟨_, _, parts⟩ => other (List.cons.inj parts).1

private theorem ne_of_isPlain (plain : isPlain c = true) : c ≠ '\x7b' := by
  rintro rfl
  cases plain

/-! ## Scans -/

/-- Placeholders one after another: each is the first in what the one before leaves of the text. -/
inductive Scanned : List Char → List (List Char) → Prop
  | none {cs : List Char} (h : ∀ before name, ¬ Occurs cs before name) : Scanned cs []
  | next {before name after : List Char} {names : List (List Char)}
      (clear : Clear before ('\x7b' :: (name ++ '\x7d' :: after)))
      (named : IsPlaceholderName name) (rest : Scanned after names) :
      Scanned (before ++ '\x7b' :: (name ++ '\x7d' :: after)) (name :: names)

private theorem Scanned.append {names : List (List Char)} (clear : Clear read cs)
    (h : Scanned cs names) :
    Scanned (read ++ cs) names := by
  cases h with
  | none h =>
    refine .none fun before name occurs => ?_
    obtain ⟨rest, -, later⟩ := clear.occurs_iff.mp occurs
    exact h rest name later
  | next clear' named rest =>
    rw [← List.append_assoc]
    refine .next (fun before name occurs => ?_) named rest
    rw [List.append_assoc] at occurs
    obtain ⟨rest, rfl, later⟩ := clear.occurs_iff.mp occurs
    simpa using clear' rest name later

/-- What has been read of a placeholder that is still open, if any is. -/
def opened : Option (List Char) → List Char
  | none => []
  | some name => '\x7b' :: name.reverse

/-- At a brace or a slash an open placeholder turns out to be none, unless it is closed there. -/
theorem clear_opened {state : Option (List Char)}
    (plain : ∀ name ∈ state, ∀ x ∈ name, isPlain x = true) (ends : isPlain c = false)
    (fails : c = '\x7d' → ∀ name ∈ state, name = []) : Clear (opened state) (c :: cs) := by
  cases state with
  | none => exact clear_nil
  | some read =>
    have plain : ∀ x ∈ read.reverse, isPlain x = true := by simpa using plain read rfl
    refine (clear_of_ne fun x member => ne_of_isPlain (plain x member)).cons fun name occurs => ?_
    obtain ⟨rfl, closed⟩ := name_eq_of_occurs plain ends occurs
    exact occurs.1.1 (List.reverse_eq_nil_iff.mpr (fails closed read rfl))

private theorem scanned_placeholdersAfter (state : Option (List Char)) (cs : List Char)
    (plain : ∀ name ∈ state, ∀ x ∈ name, isPlain x = true) :
    Scanned (opened state ++ cs) (placeholdersAfter state cs) := by
  have passed {c : Char} {cs : List Char} {names : List (List Char)} (other : c ≠ '\x7b')
      (h : Scanned cs names) : Scanned (c :: cs) names := by
    have clear : Clear [c] cs := clear_of_ne (List.forall_mem_singleton.mpr other)
    exact h.append clear
  fun_induction placeholdersAfter state cs with
  | case1 state =>
    refine .none fun before name occurs => ?_
    cases state with
    | none =>
      obtain ⟨-, after, parts⟩ := occurs
      simpa [opened] using congrArg List.length parts
    | some read =>
      have closed : '\x7d' ∈ read := by simpa [opened] using mem_of_occurs occurs
      cases plain read rfl _ closed
  | case2 state rest ih =>
    have opens : Scanned ('\x7b' :: rest) (placeholdersAfter (some []) rest) := ih (by simp)
    exact opens.append (clear_opened plain (by decide) nofun)
  | case3 rest last before _ ih =>
    have named : IsPlaceholderName (last :: before).reverse :=
      ⟨by simp, fun x member => plain _ rfl x (List.mem_reverse.mp member)⟩
    simpa [opened] using Scanned.next clear_nil named (ih nofun)
  | case4 state rest empty _ ih =>
    have closed : Scanned ('\x7d' :: rest) (placeholdersAfter none rest) :=
      passed (by decide) (ih nofun)
    refine closed.append (clear_opened plain (by decide) fun _ name given => ?_)
    cases name with
    | nil => rfl
    | cons last before => exact (empty last before given).elim
  | case5 state rest _ _ ih =>
    have crossed : Scanned ('/' :: rest) (placeholdersAfter none rest) :=
      passed (by decide) (ih nofun)
    exact crossed.append (clear_opened plain (by decide) nofun)
  | case6 state c rest notOpen notClosed notSlash ih =>
    have own : isPlain c = true := by simp [isPlain, notOpen, notClosed, notSlash]
    cases state with
    | none => exact passed notOpen (ih nofun)
    | some read =>
      have plain : ∀ x ∈ c :: read, isPlain x = true :=
        List.forall_mem_cons.mpr ⟨own, plain read rfl⟩
      simpa [opened] using ih (by simpa using plain)

/-! ## All occurrences -/

/-- All placeholders of a text in their order, each with what stands before it. -/
structure Lists (cs : List Char) (found : List (List Char × List Char)) : Prop where
  ordered : found.Pairwise fun first second => first.1.length < second.1.length
  mem_iff {before name : List Char} : (before, name) ∈ found ↔ Occurs cs before name

/-- A name has no brace in it, so the next placeholder does not start before it is closed. -/
theorem occurs_opening_iff {after other : List Char} (named : IsPlaceholderName name) :
    Occurs ('\x7b' :: (name ++ '\x7d' :: after)) before other ↔
      before = [] ∧ other = name ∨
        ∃ rest, before = '\x7b' :: (name ++ '\x7d' :: rest) ∧ Occurs after rest other := by
  cases before with
  | nil =>
    constructor
    · intro occurs
      exact .inl ⟨rfl, (name_eq_of_occurs named.2 (by decide) occurs).1⟩
    · rintro (⟨-, rfl⟩ | ⟨_, none, -⟩)
      · exact ⟨named, after, rfl⟩
      · cases none
  | cons first before =>
    have closed : ∀ x ∈ name ++ ['\x7d'], x ≠ '\x7b' := by
      refine List.forall_mem_append.mpr ⟨fun x member => ne_of_isPlain (named.2 x member), ?_⟩
      exact List.forall_mem_singleton.mpr (by decide)
    constructor
    · rintro ⟨named', after', parts⟩
      obtain ⟨rfl, parts⟩ := List.cons.inj parts
      have occurs : Occurs ((name ++ ['\x7d']) ++ after) before other :=
        ⟨named', after', by simpa using parts⟩
      obtain ⟨rest, rfl, later⟩ := (clear_of_ne closed).occurs_iff.mp occurs
      exact .inr ⟨rest, by simp, later⟩
    · rintro (⟨none, -⟩ | ⟨rest, same, later⟩)
      · cases none
      · rw [same]
        have behind : Occurs (('\x7b' :: (name ++ ['\x7d'])) ++ after)
            (('\x7b' :: (name ++ ['\x7d'])) ++ rest) other := occurs_append.mpr later
        simpa using behind

private theorem Lists.next {after : List Char} {found : List (List Char × List Char)}
    (clear : Clear before ('\x7b' :: (name ++ '\x7d' :: after)))
    (named : IsPlaceholderName name) (h : Lists after found) :
    Lists (before ++ '\x7b' :: (name ++ '\x7d' :: after))
      ((before, name) :: found.map fun p =>
        (before ++ '\x7b' :: (name ++ '\x7d' :: p.1), p.2)) where
  ordered := by
    refine List.pairwise_cons.mpr ⟨List.forall_mem_map.mpr fun p _ => ?_, ?_⟩
    · simp
    · exact List.pairwise_map.mpr (h.ordered.imp fun shorter => by simpa using shorter)
  mem_iff := by
    intro earlier other
    simp only [clear.occurs_iff, occurs_opening_iff named, ← h.mem_iff, List.mem_cons,
      List.mem_map, Prod.mk.injEq, Prod.exists]
    constructor
    · rintro (⟨rfl, rfl⟩ | ⟨rest, _, member, rfl, rfl⟩)
      · exact ⟨[], by simp⟩
      · exact ⟨_, rfl, .inr ⟨rest, rfl, member⟩⟩
    · rintro ⟨_, rfl, ⟨rfl, rfl⟩ | ⟨rest, rfl, member⟩⟩
      · exact .inl (by simp)
      · exact .inr ⟨rest, other, member, rfl, rfl⟩

private theorem Scanned.exists_lists {names : List (List Char)} (h : Scanned cs names) :
    ∃ found, Lists cs found ∧ names = found.map Prod.snd := by
  induction h with
  | none h => exact ⟨[], ⟨.nil, iff_of_false List.not_mem_nil (h _ _)⟩, rfl⟩
  | next clear named _ ih =>
    obtain ⟨found, lists, rfl⟩ := ih
    exact ⟨_, lists.next clear named, by simp⟩

/-- The placeholders of a path are all that occur in it, in their order, and as often as they
do. -/
theorem placeholders_list (path : String) :
    ∃ found, Lists path.toList found ∧
      placeholders path = found.map fun p => String.ofList p.2 := by
  have scanned := scanned_placeholdersAfter none path.toList nofun
  obtain ⟨found, lists, same⟩ := Scanned.exists_lists scanned
  exact ⟨found, lists, by rw [placeholders, same, List.map_map]; rfl⟩

/-- Braces that are nested, empty, across a slash or left open. -/
example :
    placeholders "/\x7ba\x7bid\x7d\x7d/\x7b\x7d/\x7bb/c\x7d\x7bid\x7d/\x7b" = ["id", "id"] := by
  decide

end ParameterPlan

end ApiScaffold
