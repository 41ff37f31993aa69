import ApiScaffold.Artifact
import ApiScaffold.Proofs.Text.Lines
/-!
# Tidied texts

Tidying a text keeps its lines that are not blank, without the blanks at their ends. Of the blank
ones it leaves an empty line where any stand between two others, and tidying once more changes
nothing.
-/
namespace ApiScaffold.Artifact

open ApiScaffold.Text

/-! ## Lines that are kept -/

def tidyLines (started gap : Bool) : List (List Char) → List (List Char)
  | [] => []
  | [] :: rest => tidyLines started true rest
  | kept :: rest => (if started && gap then [[]] else []) ++ kept :: tidyLines true false rest

private theorem tidyLines_cons {l : List Char} (h : l ≠ []) (started gap : Bool)
    (rest : List (List Char)) :
    tidyLines started gap (l :: rest) =
      (if started && gap then [[]] else []) ++ l :: tidyLines true false rest := by
  cases l with
  | nil => exact absurd rfl h
  | cons c l => rfl

private theorem tidyAfter_eq (started gap : Bool) (ls : List (List Char)) :
    tidyAfter started gap ls = unlines (tidyLines started gap (ls.map trimEnd)) := by
  induction ls generalizing started gap with
  | nil => rfl
  | cons l ls ih =>
    rw [tidyAfter, List.map_cons]
    by_cases empty : trimEnd l = []
    · simp only [empty, ih, tidyLines]
    · rw [tidyLines_cons empty]
      cases started <;> cases gap <;> simp [unlines, ih]

private theorem mem_tidyLines {started gap : Bool} {ls : List (List Char)} {l : List Char}
    (h : l ∈ tidyLines started gap ls) : l = [] ∨ l ∈ ls := by
  fun_induction tidyLines started gap ls with
  | case1 => cases h
  | case2 started gap rest ih => exact (ih h).imp_right (List.mem_cons_of_mem _)
  | case3 started gap kept rest _ ih =>
    rcases List.mem_append.mp h with added | inside
    · refine .inl ?_
      split at added
      · exact List.mem_singleton.mp added
      · cases added
    · rcases List.mem_cons.mp inside with rfl | inside
      · exact .inr List.mem_cons_self
      · exact (ih inside).imp_right (List.mem_cons_of_mem _)

private theorem filter_tidyLines (started gap : Bool) (ls : List (List Char)) :
    (tidyLines started gap ls).filter (· ≠ []) = ls.filter (· ≠ []) := by
  induction ls generalizing started gap with
  | nil => rfl
  | cons l ls ih =>
    by_cases empty : l = []
    · subst empty
      simpa [tidyLines] using ih started true
    · have rest := ih true false
      rw [tidyLines_cons empty]
      cases started <;> cases gap <;> simp_all

/-! ## Empty lines that are left -/

private theorem head?_tidyLines (gap : Bool) (ls : List (List Char)) :
    (tidyLines false gap ls).head? ≠ some [] := by
  induction ls generalizing gap with
  | nil => simp [tidyLines]
  | cons l ls ih =>
    by_cases empty : l = []
    · subst empty
      exact ih true
    · rw [tidyLines_cons empty]
      simpa using empty

private theorem getLast?_tidyLines (started gap : Bool) (ls : List (List Char)) :
    (tidyLines started gap ls).getLast? ≠ some [] := by
  induction ls generalizing started gap with
  | nil => simp [tidyLines]
  | cons l ls ih =>
    by_cases empty : l = []
    · subst empty
      exact ih started true
    · rw [tidyLines_cons empty, List.getLast?_append_of_ne_nil _ (List.cons_ne_nil _ _)]
      cases rest : tidyLines true false ls with
      | nil => simpa using empty
      | cons second others =>
        rw [List.getLast?_cons_cons, ← rest]
        exact ih true false

private theorem tidyLines_append_empty {last : List (List Char)} (h : ∀ l ∈ last, l = [])
    (started gap : Bool) (ls : List (List Char)) :
    tidyLines started gap (ls ++ last) = tidyLines started gap ls := by
  induction ls generalizing started gap with
  | nil =>
    induction last generalizing gap with
    | nil => rfl
    | cons l last ih =>
      obtain ⟨rfl, others⟩ := List.forall_mem_cons.mp h
      exact ih others true
  | cons l ls ih =>
    by_cases empty : l = []
    · subst empty
      exact ih started true
    · rw [List.cons_append, tidyLines_cons empty, tidyLines_cons empty, ih]

private theorem tidyLines_append_cons {above : List Char} (h : above ≠ []) (started gap : Bool)
    (before rest : List (List Char)) :
    ∃ before', tidyLines started gap (before ++ above :: rest) =
        before' ++ above :: tidyLines true false rest ∧
      before'.filter (· ≠ []) = before.filter (· ≠ []) := by
  induction before generalizing started gap with
  | nil =>
    refine ⟨if started && gap then [[]] else [], tidyLines_cons h started gap rest, ?_⟩
    cases started <;> cases gap <;> simp
  | cons l before ih =>
    by_cases empty : l = []
    · subst empty
      obtain ⟨before', same, kept⟩ := ih started true
      exact ⟨before', same, by simpa using kept⟩
    · obtain ⟨before', same, kept⟩ := ih true false
      refine ⟨(if started && gap then [[]] else []) ++ l :: before', ?_, ?_⟩
      · rw [List.cons_append, tidyLines_cons empty, same]
        simp
      · cases started <;> cases gap <;> simp_all

/-- However many empty lines stand between two others, one is left. -/
theorem tidyLines_gap {gap : List (List Char)} (h : ∀ l ∈ gap, l = []) {below : List Char}
    (hb : below ≠ []) (after : List (List Char)) :
    tidyLines true false (gap ++ below :: after) =
      gap.take 1 ++ below :: tidyLines true false after := by
  have behind (gap : List (List Char)) (h : ∀ l ∈ gap, l = []) :
      tidyLines true true (gap ++ below :: after) = [] :: below :: tidyLines true false after := by
    induction gap with
    | nil => exact tidyLines_cons hb true true after
    | cons l gap ih =>
      obtain ⟨rfl, others⟩ := List.forall_mem_cons.mp h
      exact ih others
  cases gap with
  | nil => exact tidyLines_cons hb true false after
  | cons l gap =>
    obtain ⟨rfl, others⟩ := List.forall_mem_cons.mp h
    exact behind gap others

private theorem tidyLines_tidyLines (started gap : Bool) (ls : List (List Char)) :
    tidyLines started false (tidyLines started gap ls) = tidyLines started gap ls := by
  induction ls generalizing started gap with
  | nil => rfl
  | cons l ls ih =>
    by_cases empty : l = []
    · subst empty
      exact ih started true
    · have rest := ih true false
      rw [tidyLines_cons empty]
      cases started <;> cases gap <;> simp [tidyLines, tidyLines_cons empty, rest]

/-- The lines that are put out are those that are not empty, in their order. None is empty at the
start and at the end, and between two others there is one empty line for any number of them. -/
structure Spaces (ls out : List (List Char)) : Prop where
  kept : out.filter (· ≠ []) = ls.filter (· ≠ [])
  first : out.head? ≠ some []
  last : out.getLast? ≠ some []
  between {before gap after : List (List Char)} {above below : List Char} :
    ls = before ++ above :: (gap ++ below :: after) → above ≠ [] → below ≠ [] →
      (∀ l ∈ gap, l = []) →
      ∃ before' after', out = before' ++ above :: (gap.take 1 ++ below :: after') ∧
        before'.filter (· ≠ []) = before.filter (· ≠ [])

private theorem spaces_tidyLines (ls : List (List Char)) :
    Spaces ls (tidyLines false false ls) where
  kept := filter_tidyLines false false ls
  first := head?_tidyLines false ls
  last := getLast?_tidyLines false false ls
  between := by
    rintro before gap after above below rfl ha hb empty
    obtain ⟨before', same, kept⟩ :=
      tidyLines_append_cons ha false false before (gap ++ below :: after)
    rw [tidyLines_gap empty hb] at same
    exact ⟨before', tidyLines true false after, same, kept⟩

private theorem Spaces.eq_nil_iff {ls out : List (List Char)} (h : Spaces ls out) :
    out = [] ↔ ∀ l ∈ ls, l = [] := by
  have none : (∀ l ∈ ls, l = []) ↔ out.filter (· ≠ []) = [] := by
    rw [h.kept, List.filter_eq_nil_iff]
    simp
  rw [none]
  cases out with
  | nil => simp
  | cons l out =>
    have kept : l ≠ [] := by simpa using h.first
    simp [kept]

/-! ## Texts -/

def strippedLines (content : String) : List (List Char) :=
  (pieces content.toList).map fun line => line.rdropWhile isBlank

private theorem tidyText_eq (content : String) :
    tidyText content = String.ofList (unlines (tidyLines false false (strippedLines content))) := by
  obtain ⟨last, empty, same⟩ := pieces_eq_lines content.toList
  have stripped : strippedLines content = (lines content.toList).map trimEnd ++ last := by
    rw [← same]
    exact List.map_congr_left fun line _ => (trimEnd_eq_rdropWhile line).symm
  rw [tidyText, tidyAfter_eq, stripped, tidyLines_append_empty empty]

private theorem stripped_of_mem {content : String} {l : List Char}
    (h : l ∈ tidyLines false false (strippedLines content)) :
    '\n' ∉ l ∧ l.rdropWhile isBlank = l := by
  rcases mem_tidyLines h with rfl | inside
  · exact ⟨List.not_mem_nil, rfl⟩
  · obtain ⟨line, among, rfl⟩ := List.mem_map.mp inside
    refine ⟨fun breaks => ?_, List.rdropWhile_idempotent isBlank line⟩
    exact break_notMem_pieces among ((List.rdropWhile_prefix isBlank line).subset breaks)

private theorem strippedLines_tidyText (content : String) :
    strippedLines (tidyText content) = tidyLines false false (strippedLines content) ++ [[]] := by
  have whole (l) (h : l ∈ tidyLines false false (strippedLines content)) : '\n' ∉ l :=
    (stripped_of_mem h).1
  have same : (tidyLines false false (strippedLines content)).map (List.rdropWhile isBlank) =
      tidyLines false false (strippedLines content) := by
    exact (List.map_congr_left fun l h => (stripped_of_mem h).2).trans (List.map_id _)
  rw [strippedLines, tidyText_eq, String.toList_ofList, pieces_unlines whole, List.map_append, same]
  rfl

private theorem tidyText_tidyText (content : String) :
    tidyText (tidyText content) = tidyText content := by
  have empty : ∀ l ∈ [([] : List Char)], l = [] := by simp
  rw [tidyText_eq (tidyText content), strippedLines_tidyText, tidyLines_append_empty empty,
    tidyLines_tidyLines, ← tidyText_eq]

/-- A tidied text has the lines of the text that are not blank, each ended by a line feed, and
leaves one empty line where blank ones stand between two of them. It is empty if all are blank,
and tidying it again changes nothing. -/
theorem tidyText_spaces (content : String) :
    (∃ out, tidyText content = String.ofList (unlines out) ∧ Spaces (strippedLines content) out) ∧
      (tidyText content = "" ↔ ∀ line ∈ pieces content.toList, ∀ c ∈ line, isBlank c = true) ∧
      tidyText (tidyText content) = tidyText content := by
  have spaces := spaces_tidyLines (strippedLines content)
  refine ⟨⟨_, tidyText_eq content, spaces⟩, ?_, tidyText_tidyText content⟩
  have blank : (∀ l ∈ strippedLines content, l = []) ↔
      ∀ line ∈ pieces content.toList, ∀ c ∈ line, isBlank c = true := by
    simp only [strippedLines, List.forall_mem_map, List.rdropWhile_eq_nil_iff]
  rw [← blank, ← spaces.eq_nil_iff, tidyText_eq]
  cases tidyLines false false (strippedLines content) with
  | nil => simp [unlines]
  | cons l out => simp [unlines]

example : tidyText "\n\npackage dto  \r\n\n\n\ntype A = B\t\n// B\n\n\n" =
    "package dto\n\ntype A = B\n// B\n" := by decide

end ApiScaffold.Artifact
