import Mathlib.Data.List.Lex
import Mathlib.Data.List.Sort
import Mathlib.Data.String.Basic
import ApiScaffold.Proofs.Description.Assembly
import ApiScaffold.Proofs.Go.Rendering
/-!
# The files of a service

Names of groups and of packages go into the paths of a service as they are, so files of different
kinds may meet. Paths are put in the order of their steps, where those that are the same stand
together, and the service has its files unless two of them are the same.
-/
namespace ApiScaffold

/-! ## The order of paths -/

namespace PathStep

private theorem before_named {a b : String} :
    (named a).before (named b) ↔ a < b := decide_eq_true_iff

private theorem before_irrefl (a : PathStep) : ¬ a.before a := by
  cases a with
  | named a => exact before_named.not.mpr (lt_irrefl a)
  | _ => decide

private theorem before_trans {a b c : PathStep} (h₁ : a.before b) (h₂ : b.before c) :
    a.before c := by
  cases a <;> cases b <;> cases c <;> try contradiction
  case named.named.named =>
    exact before_named.mpr (lt_trans (before_named.mp h₁) (before_named.mp h₂))
  all_goals rfl

private theorem eq_of_not_before {a b : PathStep} (h₁ : ¬ a.before b) (h₂ : ¬ b.before a) :
    a = b := by
  cases a <;> cases b <;> try contradiction
  case named.named a b =>
    have same : a = b := le_antisymm (not_lt.mp (before_named.not.mp h₂))
      (not_lt.mp (before_named.not.mp h₁))
    rw [same]
  all_goals rfl

instance : IsStrictTotalOrder PathStep fun a b => a.before b where
  irrefl := before_irrefl
  trans _ _ _ := before_trans
  trichotomous _ _ := eq_of_not_before

end PathStep

namespace Path

private theorem stepsBefore_iff {as bs : List PathStep} :
    stepsBefore as bs ↔ List.Lex (fun a b => a.before b) as bs := by
  induction as generalizing bs with
  | nil => cases bs <;> simp [stepsBefore]
  | cons a as ih =>
    cases bs with
    | nil => simp [stepsBefore]
    | cons b bs =>
      rw [stepsBefore]
      split
      case isTrue same =>
        subst same
        rw [List.lex_cons_iff, ih]
      case isFalse different =>
        constructor
        · intro h
          exact .rel h
        · intro h
          cases h with
          | rel h => exact h
          | cons _ => exact absurd rfl different

private theorem not_before_self (a : String) : ¬ before a a := by
  rw [before, stepsBefore_iff]
  exact irrefl_of (List.Lex _) _

private theorem before_asymm {a b : String} (h : before a b) : ¬ before b a := by
  rw [before, stepsBefore_iff] at h ⊢
  exact asymm h

private theorem not_before_trans {a b c : String} (h₁ : ¬ before a b) (h₂ : ¬ before b c) :
    ¬ before a c := by
  rw [before, stepsBefore_iff] at h₁ h₂ ⊢
  exact IsOrderConnected.neg_trans h₁ h₂

private theorem steps_eq_of_not_before {a b : String} (h₁ : ¬ before a b) (h₂ : ¬ before b a) :
    steps a = steps b := by
  rw [before, stepsBefore_iff] at h₁ h₂
  exact Std.Trichotomous.trichotomous _ _ h₁ h₂

private theorem steps_ne_of_before {a b : String} (h : before a b) : steps a ≠ steps b := by
  intro same
  rw [before, same] at h
  exact not_before_self b h

end Path

/-! ## Sorting -/

namespace Artifact

def Ordered (files : List Artifact) : Prop := files.Pairwise fun a b => ¬ Path.before b.path a.path

/-- Every path once, in order. -/
def Arranged (files : List Artifact) : Prop := files.Pairwise fun a b => Path.before a.path b.path

def steps (a : Artifact) : List PathStep := Path.steps a.path

private theorem insertByPath_perm (a : Artifact) (files : List Artifact) :
    (insertByPath a files).Perm (a :: files) := by
  induction files with
  | nil => exact .refl _
  | cons b files ih =>
    rw [insertByPath]
    split
    · exact .refl _
    · exact (ih.cons b).trans (.swap a b files)

private theorem Ordered.insertByPath {files : List Artifact} (h : Ordered files) (a : Artifact) :
    Ordered (insertByPath a files) := by
  induction files with
  | nil => exact List.pairwise_singleton _ a
  | cons b files ih =>
    obtain ⟨first, rest⟩ := List.pairwise_cons.mp h
    rw [Artifact.insertByPath]
    split
    case isTrue earlier =>
      have after : ¬ Path.before b.path a.path := Path.before_asymm earlier
      refine List.pairwise_cons.mpr ⟨List.forall_mem_cons.mpr ⟨after, ?_⟩, h⟩
      intro c member
      exact Path.not_before_trans (first c member) after
    case isFalse later =>
      refine List.pairwise_cons.mpr ⟨?_, ih rest⟩
      intro c member
      rcases List.mem_cons.mp ((insertByPath_perm a files).mem_iff.mp member) with rfl | member
      · exact later
      · exact first c member

private theorem foldl_insertByPath {sorted : List Artifact} (h : Ordered sorted)
    (files : List Artifact) :
    (files.foldl (fun sorted a => insertByPath a sorted) sorted).Perm (sorted ++ files) ∧
      Ordered (files.foldl (fun sorted a => insertByPath a sorted) sorted) := by
  induction files generalizing sorted with
  | nil => exact ⟨by simp, h⟩
  | cons a files ih =>
    obtain ⟨same, ordered⟩ := ih (h.insertByPath a)
    refine ⟨same.trans ?_, ordered⟩
    exact ((insertByPath_perm a sorted).append_right files).trans List.perm_middle.symm

private theorem sortByPath_perm (files : List Artifact) : (sortByPath files).Perm files :=
  (foldl_insertByPath .nil files).1

private theorem ordered_sortByPath (files : List Artifact) : Ordered (sortByPath files) :=
  (foldl_insertByPath .nil files).2

private theorem Arranged.ordered {files : List Artifact} (h : Arranged files) : Ordered files :=
  h.imp Path.before_asymm

theorem arranged_iff {files : List Artifact} :
    Arranged files ↔ Ordered files ∧ (files.map steps).Nodup := by
  rw [List.nodup_iff_pairwise_ne, List.pairwise_map]
  constructor
  · intro h
    exact ⟨h.ordered, h.imp Path.steps_ne_of_before⟩
  · intro h
    refine (h.1.and h.2).imp ?_
    intro a b both
    by_contra later
    exact both.2 (Path.steps_eq_of_not_before later both.1)

/-- There is one way to put files with different paths in order. -/
theorem Arranged.sortByPath_eq {files arranged : List Artifact} (h : Arranged arranged)
    (same : files.Perm arranged) : sortByPath files = arranged := by
  have perm := (sortByPath_perm files).trans same
  refine List.Perm.eq_of_pairwise ?_ (ordered_sortByPath files) h.ordered perm
  intro a b ha hb notAfter notBefore
  have steps : a.steps = b.steps := Path.steps_eq_of_not_before notBefore notAfter
  exact List.inj_on_of_nodup_map (arranged_iff.mp h).2 (perm.mem_iff.mp ha) hb steps

/-! ## The scan for paths that repeat -/

private theorem any_same_iff {a : Artifact} {seen : List String} :
    seen.any (Path.same a.path) ↔ a.steps ∈ seen.map Path.steps := by
  rw [List.any_eq_true, List.mem_map]
  apply exists_congr
  intro path
  rw [Path.same, decide_eq_true_iff, eq_comm]
  rfl

private theorem firstRepeated_eq_none {files : List Artifact} {seen : List String} :
    firstRepeated seen files = none ↔
      (∀ a ∈ files, a.steps ∉ seen.map Path.steps) ∧ (files.map steps).Nodup := by
  induction files generalizing seen with
  | nil => simp [firstRepeated]
  | cons a files ih =>
    rw [firstRepeated]
    split
    case isTrue again =>
      simp only [reduceCtorEq, false_iff]
      intro h
      exact h.1 a List.mem_cons_self (any_same_iff.mp again)
    case isFalse fresh =>
      rw [any_same_iff] at fresh
      rw [ih, List.forall_mem_cons, List.map_cons (l := files), List.nodup_cons]
      simp only [List.map_cons, List.mem_cons, not_or]
      constructor
      · intro h
        refine ⟨⟨fresh, fun b member => (h.1 b member).2⟩, ?_, h.2⟩
        intro repeated
        obtain ⟨b, member, same⟩ := List.mem_map.mp repeated
        exact (h.1 b member).1 same
      · intro h
        refine ⟨fun b member => ⟨?_, h.1.2 b member⟩, h.2.2⟩
        intro same
        exact h.2.1 (List.mem_map.mpr ⟨b, member, same⟩)

private theorem firstRepeated_eq_some {files : List Artifact} {seen : List String} {a : Artifact}
    (h : firstRepeated seen files = some a) :
    a ∈ files ∧ 2 ≤ (seen.map Path.steps ++ files.map steps).count a.steps := by
  induction files generalizing seen with
  | nil => cases h
  | cons b files ih =>
    rw [firstRepeated] at h
    split at h
    case isTrue again =>
      cases h
      refine ⟨List.mem_cons_self, ?_⟩
      have before := List.count_pos_iff.mpr (any_same_iff.mp again)
      rw [List.map_cons, List.count_append, List.count_cons_self]
      omega
    case isFalse =>
      obtain ⟨member, twice⟩ := ih h
      refine ⟨List.mem_cons_of_mem _ member, ?_⟩
      rw [List.map_cons, List.perm_middle.count_eq]
      exact twice

@[simp] theorem tidy_path (extension : String) (a : Artifact) :
    (a.tidy extension).path = a.path := by
  rw [tidy]
  split <;> rfl

@[simp] theorem steps_tidy (extension : String) (a : Artifact) :
    (a.tidy extension).steps = a.steps := congrArg Path.steps (tidy_path extension a)

end Artifact

/-! ## Arranging files -/

namespace Generation

theorem arrange_eq_ok {files arranged : List Artifact} :
    arrange files = .ok arranged ↔ files.Perm arranged ∧ Artifact.Arranged arranged := by
  constructor
  · intro h
    rw [arrange] at h
    split at h
    · cases h
    · rename_i once
      cases h
      have different := (Artifact.firstRepeated_eq_none.mp once).2
      exact ⟨(Artifact.sortByPath_perm files).symm,
        Artifact.arranged_iff.mpr ⟨Artifact.ordered_sortByPath files, different⟩⟩
  · rintro ⟨same, h⟩
    have once : Artifact.firstRepeated [] arranged = none :=
      Artifact.firstRepeated_eq_none.mpr ⟨by simp, (Artifact.arranged_iff.mp h).2⟩
    rw [arrange, h.sortByPath_eq same]
    simp only [once]

/-- Files are arranged if their paths differ. Otherwise one that repeats is reported. -/
theorem arrange_cases (files : List Artifact) :
    ((files.map Artifact.steps).Nodup ∧ ∃ arranged, arrange files = .ok arranged) ∨
      ∃ a ∈ files, 2 ≤ (files.map Artifact.steps).count a.steps ∧
        arrange files = .error (.unrenderable (.renderedTwice a.path)) := by
  have sorted := Artifact.sortByPath_perm files
  rw [arrange]
  split
  case h_1 a repeated =>
    obtain ⟨member, twice⟩ := Artifact.firstRepeated_eq_some repeated
    rw [List.map_nil, List.nil_append, (sorted.map _).count_eq] at twice
    exact .inr ⟨a, sorted.mem_iff.mp member, twice, rfl⟩
  case h_2 once =>
    have different := (Artifact.firstRepeated_eq_none.mp once).2
    exact .inl ⟨(sorted.map _).nodup_iff.mp different, _, rfl⟩

end Generation

/-! ## Services -/

open Generation in
def Service.paths (s : Service) : List String :=
  ["internal/data/dto/generated.go"] ++ s.types.groups.map (fun g => groupPath g.name) ++
    s.types.enums.map (fun e => enumPath e.package) ++
    s.handlers.packages.map (fun p => handlerPath p.name) ++
    ["internal/rest/register/generated.go"] ++
    s.errors.toList.map fun _ => "internal/errors/custom_generated.go"

namespace Generation

private theorem paths_of_sources {s : Service} {views : List Go.HandlerPackageView}
    (h : views.length = s.handlers.packages.length) :
    (s.sources views).map Prod.fst = s.paths := by
  have packages := List.map_fst_zip (Nat.le_of_eq h.symm)
  have handlers : (s.handlers.packages.zip views).map (fun x => handlerPath x.1.name) =
      s.handlers.packages.map (fun p => handlerPath p.name) := by
    conv_rhs => rw [← packages]
    rw [List.map_map]
    rfl
  simp [Service.sources, Service.paths, handlers, Function.comp_def]

theorem paths_of_render {s : Service} {files : List Artifact} (h : render s = .ok files) :
    files.map (·.path) = s.paths := by
  obtain ⟨views, spelled, rfl⟩ := sources_of_render h
  rw [List.map_map, ← paths_of_sources (Outcome.mapM_eq_ok.mp spelled).length_eq.symm]
  rfl

variable {d : Document} {c : Context} {s : Service} {files rendered : List Artifact}

theorem generate_of_render (valid : c.validate = .ok ())
    (compiled : (Service.ofDocument d c).result = .ok s) (h : render s = .ok rendered) :
    (generate d c).result = arrange (rendered.map (Artifact.tidy c.language.extension)) := by
  simp only [generate, Diagnosed.result_bind, compiled]
  show (c.validate >>= _) = _
  rw [valid]
  show (render s >>= _) = _
  rw [h]
  rfl

theorem exists_render_of_generate (h : (generate d c).result = .ok files) :
    ∃ s rendered, (Service.ofDocument d c).result = .ok s ∧ render s = .ok rendered ∧
      arrange (rendered.map (Artifact.tidy c.language.extension)) = .ok files := by
  obtain ⟨-, -, h⟩ := Diagnosed.bind_result_eq_ok.mp h
  obtain ⟨s, compiled, h⟩ := Diagnosed.bind_result_eq_ok.mp h
  obtain ⟨rendered, written, h⟩ := Diagnosed.bind_result_eq_ok.mp h
  exact ⟨s, rendered, compiled, written, h⟩

theorem steps_of_render (h : render s = .ok rendered) (extension : String) :
    (rendered.map (Artifact.tidy extension)).map Artifact.steps = s.paths.map Path.steps := by
  rw [← paths_of_render h, List.map_map, List.map_map]
  apply List.map_congr_left
  intro a _
  exact Artifact.steps_tidy extension a

/-- The finished files are the sources of the service at their paths, each once and in order. If two
of the paths of a service are the same, however they are spelled, one of them is reported, and there
are no files. -/
theorem files_of_generate (valid : c.validate = .ok ()) :
    (∀ files, (generate d c).result = .ok files → ∃ s rendered,
      (Service.ofDocument d c).result = .ok s ∧ render s = .ok rendered ∧
        rendered.map (·.path) = s.paths ∧
        (∃ views, s.handlers.packages.mapM (Go.HandlerPackageView.ofPackage s.module) = .ok views ∧
          rendered = (s.sources views).map fun (path, content) => ⟨path, content, none⟩) ∧
        (rendered.map (Artifact.tidy c.language.extension)).Perm files ∧
        Artifact.Arranged files) ∧
    ∀ s rendered, (Service.ofDocument d c).result = .ok s → render s = .ok rendered →
      ((∃ files, (generate d c).result = .ok files) ↔ (s.paths.map Path.steps).Nodup) ∧
      (¬ (s.paths.map Path.steps).Nodup → ∃ path ∈ s.paths,
        2 ≤ (s.paths.map Path.steps).count (Path.steps path) ∧
          (generate d c).result = .error (.unrenderable (.renderedTwice path))) := by
  constructor
  · intro files h
    obtain ⟨s, rendered, compiled, written, h⟩ := exists_render_of_generate h
    obtain ⟨same, arranged⟩ := arrange_eq_ok.mp h
    exact ⟨s, rendered, compiled, written, paths_of_render written, sources_of_render written,
      same, arranged⟩
  · intro s rendered compiled written
    have steps := steps_of_render written c.language.extension
    rw [generate_of_render valid compiled written, ← steps]
    rcases arrange_cases (rendered.map (Artifact.tidy c.language.extension)) with
      ⟨different, arranged⟩ | ⟨a, member, twice, failed⟩
    · exact ⟨iff_of_true arranged different, fun repeated => absurd different repeated⟩
    · have repeated : ¬ ((rendered.map (Artifact.tidy c.language.extension)).map
          Artifact.steps).Nodup := by
        intro different
        have once := List.nodup_iff_count_le_one.mp different a.steps
        omega
      have fails : ¬ ∃ files, arrange (rendered.map (Artifact.tidy c.language.extension)) =
          .ok files := by
        rw [failed]
        rintro ⟨files, h⟩
        cases h
      have place : a.path ∈ s.paths := by
        obtain ⟨b, inside, rfl⟩ := List.mem_map.mp member
        rw [Artifact.tidy_path, ← paths_of_render written]
        exact List.mem_map_of_mem inside
      exact ⟨iff_of_false fails repeated, fun _ => ⟨a.path, place, twice, failed⟩⟩

def groupedDescription (group : String) : Json :=
  Description.assemble [
    ("Batch", .object [("items", .object [("type", .string "string")]),
      ("type", .string "array"), ("x-group", .string group)])] [] []

/-- A group may be named as if its file were that of the time types, after a second slash. -/
theorem files_of_generate_grouped :
    (∃ d c s files, Description.read (groupedDescription "batch") = .ok d ∧
      Context.ofDocument d .go (some "example.com/queue") = .ok c ∧ c.validate = .ok () ∧
      (Service.ofDocument d c).result = .ok s ∧
      s.paths = ["internal/data/dto/generated.go", "internal/data/dto/batch.go",
        "internal/rest/register/generated.go"] ∧
      (generate d c).result = .ok files ∧ Artifact.Arranged files ∧
      ((s.sources []).map fun (path, content) =>
        Artifact.tidy "go" ⟨path, content, none⟩).Perm files) ∧
    ∃ d c s path, Description.read (groupedDescription "/generated") = .ok d ∧
      Context.ofDocument d .go (some "example.com/queue") = .ok c ∧ c.validate = .ok () ∧
      (Service.ofDocument d c).result = .ok s ∧
      s.paths = ["internal/data/dto/generated.go", "internal/data/dto//generated.go",
        "internal/rest/register/generated.go"] ∧
      path ∈ s.paths ∧ (generate d c).result = .error (.unrenderable (.renderedTwice path)) := by
  have batch : ∃ d c s, Description.read (groupedDescription "batch") = .ok d ∧
      Context.ofDocument d .go (some "example.com/queue") = .ok c ∧ c.validate = .ok () ∧
      (Service.ofDocument d c).result = .ok s ∧
      s.handlers.packages = [] ∧ c.language.extension = "go" ∧
      s.paths = ["internal/data/dto/generated.go", "internal/data/dto/batch.go",
        "internal/rest/register/generated.go"] := ⟨_, _, _, rfl, rfl, rfl, rfl, rfl, rfl, rfl⟩
  have slashed : ∃ d c s, Description.read (groupedDescription "/generated") = .ok d ∧
      Context.ofDocument d .go (some "example.com/queue") = .ok c ∧ c.validate = .ok () ∧
      (Service.ofDocument d c).result = .ok s ∧
      s.paths = ["internal/data/dto/generated.go", "internal/data/dto//generated.go",
        "internal/rest/register/generated.go"] := ⟨_, _, _, rfl, rfl, rfl, rfl, rfl⟩
  constructor
  · obtain ⟨d, c, s, read, context, valid, compiled, packages, extension, paths⟩ := batch
    obtain ⟨rendered, written⟩ := exists_render (Service.handlers_supported compiled)
    have different : (s.paths.map Path.steps).Nodup := by
      rw [paths]
      decide +kernel
    obtain ⟨files, done⟩ :=
      ((files_of_generate valid).2 s rendered compiled written).1.mpr different
    obtain ⟨own, rendered', compiled', -, -, ⟨views, spelled, sources⟩, same, arranged⟩ :=
      (files_of_generate valid).1 files done
    cases compiled.symm.trans compiled'
    rw [packages] at spelled
    cases spelled
    rw [sources, List.map_map, extension] at same
    exact ⟨d, c, s, files, read, context, valid, compiled, paths, done, arranged, same⟩
  · obtain ⟨d, c, s, read, context, valid, compiled, paths⟩ := slashed
    obtain ⟨rendered, written⟩ := exists_render (Service.handlers_supported compiled)
    have repeated : ¬ (s.paths.map Path.steps).Nodup := by
      rw [paths]
      decide +kernel
    obtain ⟨path, member, -, failed⟩ :=
      ((files_of_generate valid).2 s rendered compiled written).2 repeated
    exact ⟨d, c, s, path, read, context, valid, compiled, paths, member, failed⟩

end Generation

end ApiScaffold
