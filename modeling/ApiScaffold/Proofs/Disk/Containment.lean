import ApiScaffold.Proofs.Disk.Recorded
import ApiScaffold.Proofs.Placement
/-!
# How far a write reaches

All a write does to a disk are the operations that it performs. If one artifact has a path that
leads out of the root, it performs none. Otherwise each is on a path that follows the root and leads
on from it, or makes a directory above such a path, which may be the root or lie above that as well.
-/
namespace ApiScaffold

open Disk (Recorded lineage)

/-! ## Paths below a root -/

namespace Path

/-- A path that is empty, begins at the root of the disk or has a step upwards. -/
def Escapes (path : String) : Prop :=
  path = "" ∨ isAbsolute path = true ∨ .up ∈ steps path

instance : DecidablePred Escapes := fun _ => inferInstanceAs (Decidable (_ ∨ _ ∨ _))

private theorem isInside_iff {step : PathStep} :
    Staging.isInside step = true ↔ step ≠ .root ∧ step ≠ .up := by
  cases step <;> simp [Staging.isInside]

private theorem staysInside_iff_not_escapes {path : String} :
    StaysInside path ↔ ¬ Escapes path := by
  by_cases empty : path = ""
  · simp [StaysInside, Escapes, empty]
  · have steps : (∀ step ∈ steps path, Staging.isInside step = true) ↔
        .root ∉ steps path ∧ .up ∉ steps path := by
      simp only [isInside_iff]
      constructor
      · exact fun all => ⟨fun root => (all _ root).1 rfl, fun up => (all _ up).2 rfl⟩
      · rintro ⟨root, up⟩ step member
        exact ⟨fun same => root (same ▸ member), fun same => up (same ▸ member)⟩
    rw [StaysInside, Escapes, steps, root_mem_steps_iff empty]
    simp [empty]

private theorem StaysInside.relative {path : String} (h : StaysInside path) :
    isAbsolute path = false := by
  by_contra absolute
  exact staysInside_iff_not_escapes.mp h (.inr (.inl (by simpa using absolute)))

private theorem StaysInside.up_notMem {path : String} (h : StaysInside path) :
    ['.', '.'] ∉ segments path := by
  intro member
  exact staysInside_iff_not_escapes.mp h (.inr (.inr ((up_mem_steps_iff h.1).mpr member)))

/-- The steps of the path are those of the root, and others that lead on from there. -/
def Under (root path : String) : Prop :=
  ∃ rest, steps path = steps root ++ rest ∧ ∀ step ∈ rest, Staging.isInside step = true

private theorem under_join {path : String} (h : StaysInside path) (root : String) :
    Under root (join root path) := by
  have inside := (isInside_filterMap_iff (segments path)).mpr h.up_notMem
  rw [join, if_neg (by simp [h.relative])]
  split
  next none =>
    have empty : root = "" := by simpa using none
    subst empty
    exact ⟨steps path, rfl, h.2⟩
  next slash =>
    obtain ⟨before, spelled⟩ := List.getLast?_eq_some_iff.mp slash
    have ended : root = String.ofList before ++ "/" := by
      apply String.toList_inj.mp
      simp [spelled]
    rw [ended]
    exact ⟨_, steps_join_slash _ path, inside⟩
  next some =>
    have nonempty : root ≠ "" := by
      rintro rfl
      cases some
    exact ⟨_, steps_join nonempty path, inside⟩

private theorem stagingPath_join {path : String} (h : path ≠ "") (root : String) :
    Staging.stagingPath (join root path) = join root (Staging.stagingPath path) := by
  unfold join Staging.stagingPath
  rw [isAbsolute_append h]
  split
  · rfl
  · split
    · rfl
    · exact String.append_assoc
    · exact String.append_assoc

/-- The suffix makes a name of the last step, whatever that was. -/
theorem StaysInside.stagingPath {path : String} (h : StaysInside path) :
    StaysInside (Staging.stagingPath path) := by
  have nonempty : Staging.stagingPath path ≠ "" := by
    simp [Staging.stagingPath, h.1]
  have up : ['.', '.'] ∉ segments (Staging.stagingPath path) := by
    rw [Staging.stagingPath, segments_append path (by decide)]
    intro member
    rcases List.mem_append.mp member with member | member
    · exact h.up_notMem (List.dropLast_subset _ member)
    · have short := congrArg List.length (List.mem_singleton.mp member)
      rw [List.length_append] at short
      have long : 2 < Staging.stagingSuffix.toList.length := by decide
      simp only [List.length_cons, List.length_nil] at short
      omega
  rw [staysInside_iff_not_escapes, Escapes, up_mem_steps_iff nonempty, Staging.stagingPath,
    isAbsolute_append h.1, h.relative]
  simpa [Staging.stagingPath, h.1] using up

private theorem under_or_above {root path above : String} (h : Under root path)
    (part : steps above <+: steps path) : Under root above ∨ steps above <+: steps root := by
  obtain ⟨rest, whole, inside⟩ := h
  rw [whole] at part
  rcases List.prefix_or_prefix_of_prefix part (List.prefix_append _ _) with shorter | longer
  · exact .inr shorter
  · obtain ⟨more, same⟩ := longer
    rw [← same] at part
    have among := (List.prefix_append_right_inj _).mp part
    exact .inl ⟨more, same.symm, fun step member => inside step (among.subset member)⟩

private theorem prefix_of_mem_lineage {n : Nat} {path above : String} (h : above ∈ lineage n path) :
    steps above <+: steps path := by
  induction n generalizing path with
  | zero => cases h
  | succ n ih =>
    rw [lineage] at h
    rcases List.mem_cons.mp h with rfl | h
    · exact List.prefix_refl _
    · cases there : parent? path with
      | none =>
        rw [there] at h
        cases h
      | some parent =>
        rw [there] at h
        exact (ih h).trans (steps_prefix_of_parent? there)

end Path

/-! ## Operations -/

namespace Disk

def Operation.after (d : Disk) (operation : Operation) : Disk := (operation.run.run.run d).2

/-- Files are made, changed, moved and removed below the root. Directories are made there too, and
as the root, or above it. -/
def Operation.Contained (root : String) : Operation → Prop
  | makeDirectory path => Path.Under root path ∨ Path.steps path <+: Path.steps root
  | create path | write path _ | flush path | setMode path _ | remove path => Path.Under root path
  | move path destination => Path.Under root path ∧ Path.Under root destination

namespace Recorded

/-- Operations that stay with the root have been performed, and are recorded. -/
def Performs (root : String) (s t : Recorded) : Prop :=
  ∃ operations : List Operation, (∀ operation ∈ operations, operation.Contained root) ∧
    t.operations = s.operations ++ operations ∧ operations.foldl Operation.after s.disk = t.disk

namespace Performs

variable {root : String}

theorem refl (s : Recorded) : Performs root s s :=
  ⟨[], List.forall_mem_nil _, (List.append_nil _).symm, rfl⟩

theorem trans {s t u : Recorded} (h : Performs root s t) (h' : Performs root t u) :
    Performs root s u := by
  obtain ⟨first, all, listed, ended⟩ := h
  obtain ⟨later, all', listed', ended'⟩ := h'
  refine ⟨first ++ later, List.forall_mem_append.mpr ⟨all, all'⟩, ?_, ?_⟩
  · rw [listed', listed, List.append_assoc]
  · rw [List.foldl_append, ended, ended']

theorem keeps {operation : Operation} (h : operation.Contained root) :
    Stateful.Keeps (Performs root) (Storage.act operation) :=
  fun _ => ⟨[operation], List.forall_mem_singleton.mpr h, rfl, rfl⟩

theorem keeps_makeDirectories {path : String}
    (h : ∀ made ∈ lineage (path.length + 1) path, (Operation.makeDirectory made).Contained root) :
    Stateful.Keeps (Performs root) (makeDirectories path) :=
  keeps_makeDirectoriesWithin refl trans fun made member => keeps (h made member)

end Performs

end Recorded

end Disk

/-! ## Writes -/

namespace Staging

private theorem exists_destination_eq_error {artifacts : List Artifact}
    (h : ∃ a ∈ artifacts, Path.Escapes a.path) (root : String) :
    ∃ path, artifacts.mapM (destination root) = .error (.outside path) := by
  have escapes_iff {path : String} : ¬ Path.StaysInside path ↔ Path.Escapes path :=
    Path.staysInside_iff_not_escapes.not.trans not_not
  obtain ⟨b, member, leaves⟩ := h
  have fails : ¬ ∃ destinations, artifacts.mapM (destination root) = .ok destinations := by
    rw [Outcome.exists_mapM_iff]
    intro all
    obtain ⟨path, accepted⟩ := all b member
    cases (destination_of_not_staysInside (escapes_iff.mpr leaves) root).symm.trans accepted
  obtain ⟨fault, result⟩ := Outcome.exists_error_iff.mpr fails
  obtain ⟨-, a, -, -, -, refused⟩ :=
    Outcome.faults_iff.mp ((Outcome.covers_mapM _ _).faults result)
  have leaves : ¬ Path.StaysInside a.path := by
    intro stays
    cases (destination_of_staysInside stays root).symm.trans refused
  cases (destination_of_not_staysInside leaves root).symm.trans refused
  exact ⟨a.path, result⟩

private theorem run_write_of_escapes {σ : Type} [Storage σ] {artifacts : List Artifact}
    (h : ∃ a ∈ artifacts, Path.Escapes a.path) (root : String) (s : Logged σ) :
    ∃ path, (write root artifacts).run.run s = (.error (.outside path), s) := by
  obtain ⟨path, refused⟩ := exists_destination_eq_error h root
  exact ⟨path, by rw [run_write, refused]⟩

private theorem fault_of_stageAll {before : List String} {l : List (Artifact × String)}
    {fault : OutputFault} {s t : Logged Disk}
    (h : (stageAll before l).run.run s = (.error fault, t)) :
    ∃ step cause, fault = .notStaged step cause := by
  obtain ⟨_, _, _, _, _, _, -, -, failed, -⟩ := stageAll_eq_error h
  obtain ⟨step, -, cause, same⟩ := fault_of_perform failed
  exact ⟨step, cause, same⟩

private theorem exists_escapes_of_outside {root path : String} {artifacts : List Artifact}
    {s t : Logged Disk} (h : (write root artifacts).run.run s = (.error (.outside path), t)) :
    ∃ a ∈ artifacts, Path.Escapes a.path := by
  by_contra stay
  have named : ∃ destinations, artifacts.mapM (destination root) = .ok destinations := by
    refine Outcome.exists_mapM_iff.mpr fun a member => ?_
    have stays : Path.StaysInside a.path := Path.staysInside_iff_not_escapes.mpr fun leaves =>
      stay ⟨a, member, leaves⟩
    exact ⟨_, destination_of_staysInside stays root⟩
  obtain ⟨destinations, named⟩ := named
  rw [run_write, named] at h
  rcases staged : (stageAll [] (targets root artifacts)).run.run s with ⟨fault | _, u⟩
  · rw [Stateful.run_bind_error staged] at h
    obtain ⟨step, cause, rfl⟩ := fault_of_stageAll staged
    cases h
  · rw [Stateful.run_bind_ok staged] at h
    rcases moved : (moveAll ((targets root artifacts).map Prod.snd)).run.run u with ⟨fault | _, v⟩
    · rw [Stateful.run_bind_error moved] at h
      obtain ⟨_, _, _, _, _, _, rfl, -⟩ := moved_of_moveAll moved
      cases h
    · rw [Stateful.run_bind_ok moved] at h
      cases h

private theorem contained_of_mem_lineage {root path destination made : String}
    (under : Path.Under root destination) (there : Path.parent? destination = some path)
    (member : made ∈ lineage (path.length + 1) path) :
    Disk.Operation.Contained root (.makeDirectory made) := by
  have part := (Path.prefix_of_mem_lineage member).trans (Path.steps_prefix_of_parent? there)
  exact Path.under_or_above under part

private theorem keeps_contained_step {root destination : String} (a : Artifact)
    (under : Path.Under root destination) (staged : Path.Under root (stagingPath destination)) :
    ∀ step ∈ steps a destination, Stateful.Keeps (Recorded.Performs root) step.run :=
  forall_mem_steps
    (fun _ there => .keeps_makeDirectories fun _ => contained_of_mem_lineage under there)
    (.keeps staged) (.keeps staged) (.keeps staged) fun _ => .keeps staged

private theorem performs_write (root : String) (artifacts : List Artifact) (s : Logged Recorded) :
    Recorded.Performs root s.state ((write root artifacts).run.run s).2.state := by
  by_cases leaves : ∃ a ∈ artifacts, Path.Escapes a.path
  · obtain ⟨path, refused⟩ := run_write_of_escapes leaves root s
    rw [refused]
    exact .refl _
  · have under : ∀ x ∈ targets root artifacts,
        Path.Under root x.2 ∧ Path.Under root (stagingPath x.2) := by
      refine List.forall_mem_map.mpr fun a member => ?_
      have stays : Path.StaysInside a.path := Path.staysInside_iff_not_escapes.mpr fun escapes =>
        leaves ⟨a, member, escapes⟩
      refine ⟨Path.under_join stays root, ?_⟩
      rw [Path.stagingPath_join stays.1]
      exact Path.under_join stays.stagingPath root
    refine keeps_write Recorded.Performs.refl Recorded.Performs.trans ?_ ?_ ?_ s
    · intro x member
      obtain ⟨own, staged⟩ := under x member
      exact keeps_contained_step x.1 own staged
    · refine List.forall_mem_map.mpr fun x member => ?_
      obtain ⟨own, staged⟩ := under x member
      exact .keeps ⟨staged, own⟩
    · refine List.forall_mem_map.mpr fun x member => ?_
      exact .keeps (under x member).2

/-- A write is refused, and then nothing is done, exactly if the path of any artifact leads out of
the root. However it ends, what the run has performed are operations that stay with the root, and
the disk is the one that they lead to. -/
theorem write_contained (root : String) (artifacts : List Artifact) (s : Logged Disk) :
    ((∃ a ∈ artifacts, Path.Escapes a.path) ↔
        ∃ path, (write root artifacts).run.run s = (.error (.outside path), s)) ∧
      ∃ result t operations,
        (write root artifacts).run.run s = (result, t) ∧
        (write root artifacts).run.run (Logged.mk (Recorded.mk s.state []) s.warnings) =
          (result, ⟨⟨t.state, operations⟩, t.warnings⟩) ∧
        ((∃ a ∈ artifacts, Path.Escapes a.path) → operations = []) ∧
        (∀ operation ∈ operations, operation.Contained root) ∧
        operations.foldl Disk.Operation.after s.state = t.state := by
  let start : Logged Recorded := ⟨⟨s.state, []⟩, s.warnings⟩
  refine ⟨⟨fun leaves => run_write_of_escapes leaves root s,
    fun ⟨_, refused⟩ => exists_escapes_of_outside refused⟩, ?_⟩
  obtain ⟨operations, contained, listed, ended⟩ := performs_write root artifacts start
  refine ⟨_, _, operations, tracks_write root artifacts start, ?_, fun leaves => ?_, contained,
    ended⟩
  · rw [← List.nil_append operations, ← listed]
    rfl
  · obtain ⟨path, refused⟩ := run_write_of_escapes leaves root start
    rw [refused] at listed
    exact (List.nil_append operations).symm.trans listed.symm

def leavingArtifacts : List Artifact := [⟨"a", "new", none⟩, ⟨"b/../../c", "x", none⟩]

def nestedArtifacts : List Artifact := [⟨"a/b", "new", some 0o600⟩]

/-- What writing the nested artifact takes where neither the root nor what it lies in is there. -/
def nestedOperations : List Disk.Operation :=
  [.makeDirectory "out/a", .makeDirectory "out", .makeDirectory "out/a",
    .create "out/a/b.servicegen-tmp", .write "out/a/b.servicegen-tmp" "new",
    .flush "out/a/b.servicegen-tmp", .setMode "out/a/b.servicegen-tmp" 0o600,
    .move "out/a/b.servicegen-tmp" "out/a/b"]

theorem write_contained_nested :
    (∃ path, (write "out" leavingArtifacts).run.run ⟨Disk.withHome ["work"], []⟩ =
        (.error (.outside path), ⟨Disk.withHome ["work"], []⟩)) ∧
      ∃ t : Logged Disk, t.state.read "out/a/b" = .ok "new" ∧
        (write "out" nestedArtifacts).run.run ⟨Disk.withHome ["work"], []⟩ =
          (.ok ["out/a/b"], t) ∧
        (write "out" nestedArtifacts).run.run
            (Logged.mk (Recorded.mk (Disk.withHome ["work"]) []) []) =
          (.ok ["out/a/b"], ⟨⟨t.state, nestedOperations⟩, t.warnings⟩) ∧
        (∀ operation ∈ nestedOperations, operation.Contained "out") ∧
        nestedOperations.foldl Disk.Operation.after (Disk.withHome ["work"]) = t.state := by
  have leaves : ∃ a ∈ leavingArtifacts, Path.Escapes a.path := by decide
  have refused := (write_contained "out" leavingArtifacts ⟨Disk.withHome ["work"], []⟩).1.mp leaves
  obtain ⟨result, t, operations, ran, recorded, -, contained, led⟩ :=
    (write_contained "out" nestedArtifacts ⟨Disk.withHome ["work"], []⟩).2
  dsimp only at recorded led
  have written : ((write "out" nestedArtifacts).run.run ⟨Disk.withHome ["work"], []⟩).1 =
      .ok ["out/a/b"] := by
    decide +kernel
  have performed : ((write "out" nestedArtifacts).run.run
      (Logged.mk (Recorded.mk (Disk.withHome ["work"]) []) [])).2.state.operations =
        nestedOperations := by
    decide +kernel
  have there : ((write "out" nestedArtifacts).run.run
      ⟨Disk.withHome ["work"], []⟩).2.state.read "out/a/b" = .ok "new" := by
    decide +kernel
  rw [ran] at written there
  rw [recorded] at performed
  subst written performed
  exact ⟨refused, t, there, ran, recorded, contained, led⟩

end Staging

end ApiScaffold
