import Mathlib.Data.String.Basic
import ApiScaffold.Path
import ApiScaffold.Proofs.Text.Lines
/-!
# Paths that are put together

A path is put together from directories and names, and a name is a text that can have slashes in it
as well. What a text adds to a path are the steps of its segments, and what is put behind it belongs
to the last one.
-/
namespace ApiScaffold

/-! ## Steps of paths -/

namespace Path

open Text

theorem segments_ne_nil (path : String) : segments path ≠ [] := splitBy_ne_nil _

def lastSegment (path : String) : List Char := (segments path).getLast (segments_ne_nil path)

theorem segments_join (directory rest : String) :
    segments (directory ++ "/" ++ rest) = segments directory ++ segments rest := by
  have spelled : (directory ++ "/" ++ rest).toList = directory.toList ++ '/' :: rest.toList := by
    simp
  rw [segments, spelled]
  exact splitBy_append_cons (by decide) _ _

theorem segments_append (name : String) {suffix : String} (whole : '/' ∉ suffix.toList) :
    segments (name ++ suffix) =
      (segments name).dropLast ++ [lastSegment name ++ suffix.toList] := by
  rw [segments, String.toList_append]
  refine splitBy_append ?_ name.toList
  intro c member
  rw [decide_eq_true_iff]
  rintro rfl
  exact whole member

private theorem lastSegment_append (name : String) {suffix : String} (whole : '/' ∉ suffix.toList) :
    lastSegment (name ++ suffix) = lastSegment name ++ suffix.toList := by
  have pieces := segments_append name whole
  simp only [lastSegment, pieces, List.getLast_append_singleton]

theorem dropLast_append_lastSegment (path : String) :
    (segments path).dropLast ++ [lastSegment path] = segments path :=
  List.dropLast_append_getLast (segments_ne_nil path)

theorem lastSegment_ne_nil {path : String} (some : path ≠ "")
    (ends : path.toList.getLast? ≠ .some '/') : lastSegment path ≠ [] := by
  have letters : path.toList ≠ [] := by simpa using some
  have whole : '/' ∉ (String.ofList [path.toList.getLast letters]).toList := by
    rw [List.getLast?_eq_some_getLast letters] at ends
    simpa [eq_comm] using ends
  have spelled : path =
      String.ofList path.toList.dropLast ++ String.ofList [path.toList.getLast letters] := by
    rw [← String.ofList_append, List.dropLast_append_getLast, String.ofList_toList]
  rw [spelled, lastSegment_append _ whole]
  simp

theorem segments_of_notMem {name : String} (whole : '/' ∉ name.toList) :
    segments name = [name.toList] := by
  have nothing : segments ("" ++ name) = [name.toList] := segments_append "" whole
  rwa [String.empty_append] at nothing

private theorem segments_ne_singleton {path : String} (h : path ≠ "") : segments path ≠ [[]] := by
  have letters : path.toList ≠ [] := by simpa using h
  obtain ⟨c, rest, spelled⟩ := List.exists_cons_of_ne_nil letters
  rw [segments, spelled, splitBy]
  split
  · simp [splitBy_ne_nil]
  · split <;> simp

def firstSteps : List Char → List PathStep
  | [] => [.root]
  | ['.'] => [.here]
  | first => (step? first).toList

private theorem steps_of_segments {path : String} {first : List Char} {others : List (List Char)}
    (h : segments path = first :: others) (more : first = [] → others ≠ []) :
    steps path = firstSteps first ++ others.filterMap step? := by
  rw [steps, h]
  split
  next none => cases none
  next empty =>
    cases empty
    exact absurd rfl (more rfl)
  next _ slash =>
    cases slash
    rfl
  next _ dot =>
    cases dot
    rfl
  next first others nonempty slash dot same =>
    cases same
    have named : firstSteps first = (step? first).toList := by
      unfold firstSteps
      split <;> simp_all
    rw [named, List.filterMap_cons]
    cases step? first <;> rfl

theorem steps_join {directory : String} (h : directory ≠ "") (rest : String) :
    steps (directory ++ "/" ++ rest) =
      steps directory ++ (segments rest).filterMap step? := by
  obtain ⟨first, others, pieces⟩ := List.exists_cons_of_ne_nil (segments_ne_nil directory)
  have more : first = [] → others ≠ [] := by
    rintro rfl rfl
    exact segments_ne_singleton h pieces
  have joined : segments (directory ++ "/" ++ rest) = first :: (others ++ segments rest) := by
    rw [segments_join, pieces, List.cons_append]
  rw [steps_of_segments pieces more, steps_of_segments joined (by simp [segments_ne_nil]),
    List.filterMap_append, List.append_assoc]

theorem steps_join_slash (directory rest : String) :
    steps (directory ++ "/" ++ rest) =
      steps (directory ++ "/") ++ (segments rest).filterMap step? := by
  obtain ⟨first, others, pieces⟩ := List.exists_cons_of_ne_nil (segments_ne_nil directory)
  have joined : segments (directory ++ "/" ++ rest) = first :: (others ++ segments rest) := by
    rw [segments_join, pieces, List.cons_append]
  have ended : segments (directory ++ "/") = first :: (others ++ [[]]) := by
    have both := segments_join directory ""
    rwa [String.append_empty, pieces] at both
  rw [steps_of_segments joined (by simp [segments_ne_nil]), steps_of_segments ended (by simp),
    List.filterMap_append, List.filterMap_append]
  simp [step?]

/-! ## Files in directories -/

def Idle (segment : List Char) : Prop := segment = [] ∨ segment = ['.']

instance (segment : List Char) : Decidable (Idle segment) :=
  inferInstanceAs (Decidable (segment = [] ∨ segment = ['.']))

private theorem step?_eq_none {segment : List Char} : step? segment = none ↔ Idle segment := by
  rw [step?, Idle]
  split
  · simp [*]
  · split <;> simp [*]

theorem step?_eq_up {segment : List Char} : step? segment = some .up ↔ segment = ['.', '.'] := by
  rw [step?]
  split
  case isTrue idle => rcases idle with rfl | rfl <;> simp
  case isFalse => split <;> simp [*]

theorem step?_of_notMem {segment : List Char} (h : segment ∉ [[], ['.'], ['.', '.']]) :
    step? segment = some (.named (String.ofList segment)) := by
  simp only [List.mem_cons, List.not_mem_nil, or_false, not_or] at h
  rw [step?, if_neg (not_or.mpr ⟨h.1, h.2.1⟩), if_neg h.2.2]

theorem exists_step?_eq_named {segment : List Char} :
    (∃ name, step? segment = some (.named name)) ↔ segment ∉ [[], ['.'], ['.', '.']] := by
  constructor
  · rintro ⟨name, same⟩ among
    simp only [List.mem_cons, List.not_mem_nil, or_false] at among
    rcases among with rfl | rfl | rfl <;> cases same
  · exact fun own => ⟨_, step?_of_notMem own⟩

/-- The path leads right into the directory, with one name after the steps to it. -/
def LiesIn (directory path : String) : Prop :=
  ∃ name, steps path = steps directory ++ [.named name]

theorem liesIn_join_iff {directory : String} (h : directory ≠ "") (rest : String) :
    LiesIn directory (directory ++ "/" ++ rest) ↔
      ∃ name, (segments rest).filterMap step? = [.named name] := by
  simp only [LiesIn, steps_join h, List.append_cancel_left_eq]

theorem filterMap_step?_eq_nil {pieces : List (List Char)} :
    pieces.filterMap step? = [] ↔ ∀ segment ∈ pieces, Idle segment := by
  simp only [List.filterMap_eq_nil_iff, step?_eq_none]

/-- If nothing before the last slash adds a step, the segment after it decides. -/
theorem filterMap_step?_of_idle {name : String}
    (idle : ∀ segment ∈ (segments name).dropLast, Idle segment) :
    (segments name).filterMap step? = (step? (lastSegment name)).toList := by
  rw [← dropLast_append_lastSegment name, List.filterMap_append, filterMap_step?_eq_nil.mpr idle,
    List.nil_append, List.filterMap_cons, List.filterMap_nil]
  cases step? (lastSegment name) <;> rfl

theorem filterMap_step?_append (name : String) {suffix : String} (whole : '/' ∉ suffix.toList)
    (long : 2 < suffix.toList.length) :
    (segments (name ++ suffix)).filterMap step? =
      (segments name).dropLast.filterMap step? ++
        [.named (String.ofList (lastSegment name ++ suffix.toList))] := by
  have last : lastSegment name ++ suffix.toList ∉ [[], ['.'], ['.', '.']] := by
    have longer : 2 < (lastSegment name ++ suffix.toList).length := by
      rw [List.length_append]
      omega
    intro among
    simp only [List.mem_cons, List.not_mem_nil, or_false] at among
    rcases among with same | same | same <;> simp [same] at longer
  rw [segments_append name whole, List.filterMap_append]
  simp [step?_of_notMem last]

theorem liesIn_append_iff {directory : String} (h : directory ≠ "") (name : String)
    {suffix : String} (whole : '/' ∉ suffix.toList) (long : 2 < suffix.toList.length) :
    LiesIn directory (directory ++ "/" ++ (name ++ suffix)) ↔
      ∀ segment ∈ (segments name).dropLast, Idle segment := by
  rw [liesIn_join_iff h, filterMap_step?_append name whole long, ← filterMap_step?_eq_nil]
  simp [List.append_eq_singleton_iff]

/-! ## Relative paths -/

private theorem isAbsolute_iff {path : String} (h : path ≠ "") {first : List Char}
    {others : List (List Char)} (pieces : segments path = first :: others) :
    isAbsolute path = true ↔ first = [] := by
  have letters : path.toList ≠ [] := by simpa using h
  obtain ⟨c, rest, spelled⟩ := List.exists_cons_of_ne_nil letters
  rw [segments, spelled] at pieces
  rw [isAbsolute, spelled]
  by_cases slash : c = '/'
  · have starts : splitBy (· = '/') (c :: rest) = [] :: splitBy (· = '/') rest := by
      rw [splitBy, if_pos (by simpa using slash)]
    cases starts.symm.trans pieces
    simp [slash]
  · obtain ⟨piece, later, parts⟩ :=
      List.exists_cons_of_ne_nil (splitBy_ne_nil (p := (· = '/')) rest)
    rw [splitBy_cons_of_not (by simpa using slash) parts] at pieces
    cases pieces
    simp [slash]

theorem isAbsolute_append {path : String} (h : path ≠ "") (more : String) :
    isAbsolute (path ++ more) = isAbsolute path := by
  have letters : path.toList ≠ [] := by simpa using h
  obtain ⟨c, rest, spelled⟩ := List.exists_cons_of_ne_nil letters
  simp [isAbsolute, spelled]

private theorem step?_ne_root (segment : List Char) : step? segment ≠ some .root := by
  rw [step?]
  split
  · simp
  · split <;> simp

theorem root_mem_steps_iff {path : String} (h : path ≠ "") :
    .root ∈ steps path ↔ isAbsolute path = true := by
  obtain ⟨first, others, pieces⟩ := List.exists_cons_of_ne_nil (segments_ne_nil path)
  have more : first = [] → others ≠ [] := by
    rintro rfl rfl
    exact segments_ne_singleton h pieces
  have later : .root ∉ others.filterMap step? := by
    intro member
    obtain ⟨segment, -, same⟩ := List.mem_filterMap.mp member
    exact step?_ne_root segment same
  rw [steps_of_segments pieces more, isAbsolute_iff h pieces, List.mem_append, or_iff_left later]
  unfold firstSteps
  split
  · simp
  · simp
  next nonempty _ =>
    rw [Option.mem_toList]
    exact iff_of_false (step?_ne_root first) nonempty

theorem up_mem_steps_iff {path : String} (h : path ≠ "") :
    .up ∈ steps path ↔ ['.', '.'] ∈ segments path := by
  obtain ⟨first, others, pieces⟩ := List.exists_cons_of_ne_nil (segments_ne_nil path)
  have more : first = [] → others ≠ [] := by
    rintro rfl rfl
    exact segments_ne_singleton h pieces
  have later : .up ∈ others.filterMap step? ↔ ['.', '.'] ∈ others := by
    rw [List.mem_filterMap]
    constructor
    · rintro ⟨segment, member, same⟩
      exact step?_eq_up.mp same ▸ member
    · exact fun member => ⟨_, member, step?_eq_up.mpr rfl⟩
  have now : .up ∈ firstSteps first ↔ first = ['.', '.'] := by
    unfold firstSteps
    split
    · simp
    · simp
    · rw [Option.mem_toList]
      exact step?_eq_up
  rw [steps_of_segments pieces more, pieces, List.mem_append, List.mem_cons, now, later, eq_comm]

/-! ## Paths above -/

private theorem slash_notMem_segments {path : String} {segment : List Char}
    (h : segment ∈ segments path) :
    '/' ∉ segment := by
  intro member
  exact not_of_mem_splitBy h '/' member rfl

private theorem segments_ofSegments {pieces : List (List Char)} (some : pieces ≠ [])
    (whole : ∀ segment ∈ pieces, '/' ∉ segment) : segments (ofSegments pieces) = pieces := by
  induction pieces with
  | nil => exact absurd rfl some
  | cons first rest ih =>
    obtain ⟨own, others⟩ := List.forall_mem_cons.mp whole
    have single : segments (String.ofList first) = [first] := by
      rw [segments_of_notMem (by simpa using own), String.toList_ofList]
    cases rest with
    | nil => exact single
    | cons second rest =>
      have joined : ofSegments (first :: second :: rest) =
          String.ofList first ++ "/" ++ ofSegments (second :: rest) := String.intercalate_cons_cons
      rw [joined, segments_join, single, ih (List.cons_ne_nil _ _) others]
      rfl

private theorem dropIdle_suffix (pieces : List (List Char)) : dropIdle pieces <:+ pieces := by
  induction pieces with
  | nil => exact List.suffix_refl _
  | cons segment before ih =>
    rw [dropIdle]
    split
    · exact ih.trans (List.suffix_cons _ _)
    · exact List.suffix_refl _

private theorem not_idle_of_dropIdle {pieces before : List (List Char)} {segment : List Char}
    (h : dropIdle pieces = segment :: before) : ¬ Idle segment := by
  induction pieces with
  | nil => cases h
  | cons first rest ih =>
    rw [dropIdle] at h
    split at h
    next => exact ih h
    next step =>
      cases h
      intro idle
      rw [step?_eq_none.mpr idle] at step
      exact step rfl

private theorem prefix_of_dropIdle {pieces before : List (List Char)} {last : List Char}
    (h : dropIdle pieces.reverse = last :: before) : (dropIdle before).reverse <+: pieces := by
  have whole := dropIdle_suffix pieces.reverse
  rw [h] at whole
  have above := (dropIdle_suffix before).trans ((List.suffix_cons last before).trans whole)
  exact List.reverse_suffix.mp (by rwa [List.reverse_reverse])

private theorem filterMap_segments_ofSegments {pieces : List (List Char)}
    (whole : ∀ segment ∈ pieces, '/' ∉ segment) :
    (segments (ofSegments pieces)).filterMap step? = pieces.filterMap step? := by
  cases pieces with
  | nil => rfl
  | cons first rest => rw [segments_ofSegments (List.cons_ne_nil _ _) whole]

private theorem steps_slash (path : String) :
    steps ("/" ++ path) = .root :: (segments path).filterMap step? := by
  have joined : segments ("/" ++ path) = [] :: segments path := by
    have both := segments_join "" path
    rwa [String.empty_append] at both
  exact steps_of_segments joined fun _ => segments_ne_nil path

private theorem prefix_steps_ofSegments {path : String} {pieces : List (List Char)}
    (part : pieces <+: segments path) (more : pieces ≠ [[]]) :
    steps (ofSegments pieces) <+: steps path := by
  have whole : ∀ segment ∈ pieces, '/' ∉ segment :=
    fun segment member => slash_notMem_segments (part.subset member)
  cases pieces with
  | nil => exact List.nil_prefix
  | cons first behind =>
    obtain ⟨others, parts⟩ := part
    have parts : segments path = first :: (behind ++ others) := parts.symm
    have again := segments_ofSegments (List.cons_ne_nil _ _) whole
    have followed : first = [] → behind ≠ [] := by
      rintro rfl rfl
      exact more rfl
    have followed' : first = [] → behind ++ others ≠ [] :=
      fun empty => List.append_ne_nil_of_left_ne_nil (followed empty) others
    rw [steps_of_segments parts followed', steps_of_segments again followed, List.filterMap_append]
    exact ⟨others.filterMap step?, List.append_assoc ..⟩

theorem steps_prefix_of_parent? {path parent : String} (h : parent? path = some parent) :
    steps parent <+: steps path := by
  unfold parent? at h
  split at h
  next rest first others pieces =>
    split at h
    next => cases h
    next last before kept =>
      cases h
      have part := prefix_of_dropIdle kept
      have whole : ∀ segment ∈ (dropIdle before).reverse, '/' ∉ segment := by
        intro segment member
        exact slash_notMem_segments (pieces ▸ List.mem_cons_of_mem _ (part.subset member))
      rw [steps_slash, filterMap_segments_ofSegments whole, steps_of_segments pieces (by simp)]
      exact List.cons_prefix_cons.mpr ⟨rfl, part.filterMap step?⟩
  next rest pieces =>
    split at h
    next =>
      cases h
      exact List.nil_prefix
    next last before kept =>
      cases h
      refine prefix_steps_ofSegments ?_ (by simp)
      rw [pieces]
      exact List.cons_prefix_cons.mpr ⟨rfl, prefix_of_dropIdle kept⟩
  next =>
    split at h
    next => cases h
    next last before kept =>
      cases h
      refine prefix_steps_ofSegments (prefix_of_dropIdle kept) fun single => ?_
      have idle : dropIdle before = [[]] := List.reverse_eq_iff.mp single
      exact not_idle_of_dropIdle idle (.inl rfl)

end Path

end ApiScaffold
