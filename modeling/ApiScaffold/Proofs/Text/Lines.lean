import Mathlib.Data.List.DropRight
import ApiScaffold.Text.Blank
/-!
# Pieces and lines of texts

The lines of a text are its pieces between line feeds, up to the blanks at their ends: the carriage
return of a line ending is one of these, and so is an empty piece after the last line feed.
-/
namespace ApiScaffold.Text

/-! ## Pieces -/

variable {p : Char → Bool}

theorem splitBy_ne_nil (cs : List Char) : splitBy p cs ≠ [] := by
  cases cs with
  | nil => exact List.cons_ne_nil _ _
  | cons c rest =>
    rw [splitBy]
    split
    · exact List.cons_ne_nil _ _
    · split <;> exact List.cons_ne_nil _ _

theorem splitBy_cons_of_not {c : Char} (own : ¬ p c = true) {cs piece : List Char}
    {others : List (List Char)} (h : splitBy p cs = piece :: others) :
    splitBy p (c :: cs) = (c :: piece) :: others := by
  rw [splitBy, if_neg own, h]

theorem splitBy_append_cons {c : Char} (parts : p c = true) (cs more : List Char) :
    splitBy p (cs ++ c :: more) = splitBy p cs ++ splitBy p more := by
  induction cs with
  | nil => simp [splitBy, parts]
  | cons first rest ih =>
    by_cases own : p first = true
    · simp [splitBy, own, ih]
    · obtain ⟨piece, others, pieces⟩ := List.exists_cons_of_ne_nil (splitBy_ne_nil (p := p) rest)
      rw [pieces] at ih
      rw [List.cons_append, splitBy_cons_of_not own ih, splitBy_cons_of_not own pieces]
      rfl

theorem prefix_of_splitBy {p : Char → Bool} {cs piece : List Char}
    {others : List (List Char)} (h : splitBy p cs = piece :: others) : piece <+: cs := by
  induction cs generalizing piece others with
  | nil =>
    obtain ⟨rfl, -⟩ := List.cons.inj h
    exact List.nil_prefix
  | cons c rest ih =>
    by_cases parts : p c = true
    · rw [splitBy, if_pos parts] at h
      obtain ⟨rfl, -⟩ := List.cons.inj h
      exact List.nil_prefix
    · obtain ⟨start, behind, pieces⟩ :=
        List.exists_cons_of_ne_nil (splitBy_ne_nil (p := p) rest)
      rw [splitBy_cons_of_not parts pieces] at h
      obtain ⟨rfl, -⟩ := List.cons.inj h
      exact List.cons_prefix_cons.mpr ⟨rfl, ih pieces⟩

theorem splitBy_of_forall_not {cs : List Char} (whole : ∀ c ∈ cs, ¬ p c = true) :
    splitBy p cs = [cs] := by
  induction cs with
  | nil => rfl
  | cons c cs ih =>
    obtain ⟨own, whole⟩ := List.forall_mem_cons.mp whole
    exact splitBy_cons_of_not own (ih whole)

theorem not_of_mem_splitBy {cs piece : List Char} (h : piece ∈ splitBy p cs) :
    ∀ c ∈ piece, ¬ p c = true := by
  induction cs generalizing piece with
  | nil =>
    obtain rfl := List.mem_singleton.mp h
    exact List.forall_mem_nil _
  | cons first rest ih =>
    by_cases own : p first = true
    · rw [splitBy, if_pos own] at h
      rcases List.mem_cons.mp h with rfl | h
      · exact List.forall_mem_nil _
      · exact ih h
    · obtain ⟨start, others, pieces⟩ := List.exists_cons_of_ne_nil (splitBy_ne_nil (p := p) rest)
      rw [splitBy_cons_of_not own pieces] at h
      rw [pieces] at ih
      rcases List.mem_cons.mp h with rfl | h
      · exact List.forall_mem_cons.mpr ⟨own, ih List.mem_cons_self⟩
      · exact ih (List.mem_cons_of_mem _ h)

theorem splitBy_append {more : List Char} (whole : ∀ c ∈ more, ¬ p c = true) (cs : List Char) :
    splitBy p (cs ++ more) =
      (splitBy p cs).dropLast ++ [(splitBy p cs).getLast (splitBy_ne_nil cs) ++ more] := by
  induction cs with
  | nil => exact splitBy_of_forall_not whole
  | cons first rest ih =>
    obtain ⟨piece, others, pieces⟩ := List.exists_cons_of_ne_nil (splitBy_ne_nil (p := p) rest)
    by_cases own : p first = true
    · have start : splitBy p (first :: rest) = [] :: piece :: others := by
        rw [splitBy, if_pos own, pieces]
      simp only [pieces] at ih
      rw [List.cons_append, splitBy, if_pos own, ih]
      simp [start]
    · have start := splitBy_cons_of_not own pieces
      simp only [pieces] at ih
      cases others with
      | nil => simpa [start] using splitBy_cons_of_not own ih
      | cons second others => simpa [start] using splitBy_cons_of_not own ih

/-! ## Blanks at the end -/

private theorem trimEnd_concat (cs : List Char) (c : Char) :
    trimEnd (cs ++ [c]) = if isBlank c then trimEnd cs else cs ++ [c] := by
  induction cs with
  | nil => simp [trimEnd]
  | cons first rest ih =>
    by_cases blank : isBlank c = true
    · simp only [blank, if_true] at ih ⊢
      simp only [List.cons_append, trimEnd, ih]
    · simp only [blank, Bool.false_eq_true, if_false] at ih ⊢
      simp [trimEnd, ih]

theorem trimEnd_eq_rdropWhile (cs : List Char) : trimEnd cs = cs.rdropWhile isBlank := by
  induction cs using List.reverseRecOn with
  | nil => rfl
  | append_singleton cs c ih => rw [trimEnd_concat, List.rdropWhile_concat, ih]

theorem trimEnd_sublist (cs : List Char) : (trimEnd cs).Sublist cs := by
  rw [trimEnd_eq_rdropWhile]
  exact (List.rdropWhile_prefix isBlank cs).sublist

private theorem trimEnd_of_concat_blank {c : Char} (blank : isBlank c = true) (cs : List Char) :
    trimEnd (cs ++ [c]) = trimEnd cs := by
  rw [trimEnd_concat, if_pos blank]

/-! ## Lines -/

theorem break_notMem_linesAfter {line : List Char} (h : '\n' ∉ line) (cs : List Char) :
    ∀ l ∈ linesAfter line cs, '\n' ∉ l := by
  fun_induction linesAfter line cs with
  | case1 => exact List.forall_mem_nil _
  | case2 line => simpa using h
  | case3 line rest ih =>
    rw [List.forall_mem_cons]
    refine ⟨?_, ih List.not_mem_nil⟩
    split
    · simpa using fun member => h (List.mem_cons_of_mem _ member)
    · simpa using h
  | case4 line c rest other ih => exact ih (List.not_mem_cons_of_ne_of_not_mem (Ne.symm other) h)

def pieces (cs : List Char) : List (List Char) := splitBy (· = '\n') cs

private theorem pieces_of_notMem {line : List Char} (h : '\n' ∉ line) : pieces line = [line] := by
  refine splitBy_of_forall_not fun c member => ?_
  simp only [decide_eq_true_eq]
  rintro rfl
  exact h member

theorem break_notMem_pieces {cs line : List Char} (h : line ∈ pieces cs) : '\n' ∉ line :=
  fun breaks => not_of_mem_splitBy h _ breaks (by decide)

private theorem pieces_break {line : List Char} (h : '\n' ∉ line) (rest : List Char) :
    pieces (line ++ '\n' :: rest) = line :: pieces rest := by
  have first := pieces_of_notMem h
  unfold pieces at first ⊢
  rw [splitBy_append_cons (by decide), first]
  rfl

/-- The lines of a text differ from its pieces in blanks at their ends, and in an empty piece that
may come last. -/
theorem pieces_eq_linesAfter {line : List Char} (h : '\n' ∉ line) (cs : List Char) :
    ∃ last : List (List Char), (∀ l ∈ last, l = []) ∧
      (pieces (line.reverse ++ cs)).map trimEnd = (linesAfter line cs).map trimEnd ++ last := by
  fun_induction linesAfter line cs with
  | case1 line empty =>
    obtain rfl : line = [] := List.isEmpty_iff.mp empty
    exact ⟨[[]], by simp, rfl⟩
  | case2 line _ =>
    have whole : '\n' ∉ line.reverse := by simpa using h
    refine ⟨[], List.forall_mem_nil _, ?_⟩
    rw [List.append_nil, pieces_of_notMem whole, List.append_nil]
  | case3 line rest ih =>
    obtain ⟨last, empty, same⟩ := ih List.not_mem_nil
    have whole : '\n' ∉ line.reverse := by simpa using h
    refine ⟨last, empty, ?_⟩
    rw [pieces_break whole, List.map_cons, List.map_cons, List.cons_append]
    rw [List.reverse_nil, List.nil_append] at same
    rw [same]
    congr 1
    split
    next line =>
      rw [List.reverse_cons]
      exact trimEnd_of_concat_blank (by decide) _
    next => rfl
  | case4 line c rest other ih =>
    obtain ⟨last, empty, same⟩ :=
      ih (List.not_mem_cons_of_ne_of_not_mem (Ne.symm other) h)
    refine ⟨last, empty, ?_⟩
    rw [← same, List.reverse_cons, List.append_assoc]
    rfl

theorem pieces_eq_lines (cs : List Char) :
    ∃ last : List (List Char), (∀ l ∈ last, l = []) ∧
      (pieces cs).map trimEnd = (lines cs).map trimEnd ++ last :=
  pieces_eq_linesAfter List.not_mem_nil cs

def unlines (ls : List (List Char)) : List Char := ls.flatMap (· ++ ['\n'])

private theorem unlines_cons (l : List Char) (ls : List (List Char)) :
    unlines (l :: ls) = l ++ '\n' :: unlines ls := by
  simp [unlines]

theorem pieces_unlines {ls : List (List Char)} (h : ∀ l ∈ ls, '\n' ∉ l) :
    pieces (unlines ls) = ls ++ [[]] := by
  induction ls with
  | nil => rfl
  | cons l ls ih =>
    obtain ⟨whole, others⟩ := List.forall_mem_cons.mp h
    rw [unlines_cons, pieces_break whole, ih others, List.cons_append]

end ApiScaffold.Text
