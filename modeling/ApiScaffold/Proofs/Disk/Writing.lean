import ApiScaffold.Disk.Staging
import ApiScaffold.Proofs.Disk.Operations
/-!
# Failed writes

Staging touches no destination, so a write that fails before anything is moved leaves all of them
as they are. Moves are not undone. What a failed write leaves is set by how far it came.
-/
namespace ApiScaffold

open Disk (Changes Moves placeOf lineage)

namespace Disk

/-- A file that was at the place still has its content, and nothing new is there. -/
def Kept (d d' : Disk) (place : Place) : Prop :=
  match d.entry? place with
  | some (.file content _) => d'.content? place = some content
  | other => d'.entry? place = other

instance (d d' : Disk) (place : Place) : Decidable (d.Kept d' place) := by
  unfold Kept
  split <;> infer_instance

private theorem kept_of_entry?_eq {d d' : Disk} {place : Place}
    (same : d'.entry? place = d.entry? place) : d.Kept d' place := by
  unfold Kept
  split
  next lies => exact content?_of_file (same.trans lies)
  next => exact same

private theorem kept_iff_of_content? {d d' : Disk} {place : Place} {content : String}
    (after : d'.content? place = some content) :
    d.Kept d' place ↔ d.content? place = some content := by
  have unlike {entry : Option Entry} (same : d'.entry? place = entry)
      (noFile : ∀ content mode, entry ≠ some (.file content mode)) : False := by
    unfold content? at after
    split at after
    next content' mode lies => exact noFile content' mode (same.symm.trans lies)
    next => cases after
  unfold Kept
  cases lies : d.entry? place with
  | none => simpa [content?, lies] using fun same => unlike same (by simp)
  | some entry =>
    cases entry with
    | directory => simpa [content?, lies] using fun same => unlike same (by simp)
    | file content' mode => simp [content?_of_file lies, after, eq_comm]

end Disk

namespace Staging

/-! ## Steps -/

def above (destination : String) : List String :=
  (Path.parent? destination).elim [] fun parent => lineage (parent.length + 1) parent

section

variable {σ : Type} [Storage σ]

theorem run_perform_cons (step : StagingStep) (rest : List StagingStep) (s : σ) :
    (perform (step :: rest)).run.run s =
      match step.run.run.run s with
      | (.ok (), t) => (perform rest).run.run t
      | (.error cause, t) => (.error (.notStaged step cause), t) := by
  rw [perform, Stateful.run_bind_ok (Stateful.run_liftState ..)]
  rcases step.run.run.run s with ⟨_ | _, t⟩ <;> rfl

theorem keeps_perform {R : σ → σ → Prop} (refl : ∀ s, R s s)
    (trans : ∀ {s t u}, R s t → R t u → R s u) {steps : List StagingStep}
    (h : ∀ step ∈ steps, Stateful.Keeps R step.run) : Stateful.Keeps R (perform steps) := by
  induction steps with
  | nil => exact refl
  | cons step rest ih =>
    obtain ⟨first, rest⟩ := List.forall_mem_cons.mp h
    intro s
    have before := first s
    rw [run_perform_cons]
    generalize step.run.run.run s = outcome at before
    rcases outcome with ⟨_ | _, t⟩
    · exact before
    · exact trans before (ih rest t)

end

theorem forall_mem_steps {P : StagingStep → Prop} {a : Artifact} {destination : String}
    (directory : ∀ parent, Path.parent? destination = some parent → P (.makeDirectories parent))
    (create : P (.create (stagingPath destination)))
    (write : P (.write (stagingPath destination) a.content))
    (flush : P (.flush (stagingPath destination)))
    (setMode : ∀ mode, P (.setMode (stagingPath destination) mode)) :
    ∀ step ∈ steps a destination, P step := by
  intro step member
  rcases List.mem_append.mp member with member | member
  · rcases List.mem_append.mp member with member | member
    · obtain ⟨parent, there, rfl⟩ := List.mem_map.mp member
      exact directory parent (Option.mem_toList.mp there)
    · simp only [List.mem_cons, List.not_mem_nil, or_false] at member
      rcases member with rfl | rfl | rfl
      · exact create
      · exact write
      · exact flush
  · obtain ⟨mode, -, rfl⟩ := List.mem_map.mp member
    exact setMode mode

theorem keeps_step (a : Artifact) (destination : String) :
    ∀ step ∈ steps a destination,
      Stateful.Keeps (Changes [stagingPath destination] (above destination)) step.run := by
  have onStaged {x : OnDisk Unit} (h : Stateful.Keeps (Changes [stagingPath destination] []) x) :
      Stateful.Keeps (Changes [stagingPath destination] (above destination)) x :=
    fun d => (h d).mono (List.Subset.refl _) (List.nil_subset _)
  refine forall_mem_steps ?_ (onStaged (Disk.keeps_create _)) (onStaged (Disk.keeps_change _ _))
    (onStaged (Disk.keeps_change _ _)) fun mode => onStaged (Disk.keeps_change _ _)
  intro parent there d
  have made : lineage (parent.length + 1) parent ⊆ above destination := by
    rw [above, there]
    exact List.Subset.refl _
  exact (Disk.keeps_makeDirectories parent d).mono (List.nil_subset _) made

theorem perform_cons_eq_ok {step : StagingStep} {rest : List StagingStep} {d d'' : Disk}
    (h : (perform (step :: rest)).run.run d = (.ok (), d'')) :
    ∃ d', step.run.run.run d = (.ok (), d') ∧ (perform rest).run.run d' = (.ok (), d'') := by
  rw [run_perform_cons] at h
  generalize step.run.run.run d = outcome at h
  rcases outcome with ⟨_ | _, d'⟩
  · cases h
  · exact ⟨d', rfl, h⟩

theorem perform_cons_eq_error {step : StagingStep} {rest : List StagingStep} {d d'' : Disk}
    {fault : OutputFault} (h : (perform (step :: rest)).run.run d = (.error fault, d'')) :
    (∃ cause, step.run.run.run d = (.error cause, d'') ∧ fault = .notStaged step cause) ∨
      ∃ d', step.run.run.run d = (.ok (), d') ∧
        (perform rest).run.run d' = (.error fault, d'') := by
  rw [run_perform_cons] at h
  generalize step.run.run.run d = outcome at h
  rcases outcome with ⟨cause | _, d'⟩
  · cases h
    exact .inl ⟨cause, rfl, rfl⟩
  · exact .inr ⟨d', rfl, h⟩

theorem fault_of_perform {steps : List StagingStep} {d d' : Disk} {fault : OutputFault}
    (h : (perform steps).run.run d = (.error fault, d')) :
    ∃ step ∈ steps, ∃ cause, fault = .notStaged step cause := by
  induction steps generalizing d with
  | nil => cases h
  | cons step rest ih =>
    rcases perform_cons_eq_error h with ⟨cause, -, failed⟩ | ⟨d₁, -, h⟩
    · exact ⟨step, List.mem_cons_self, cause, failed⟩
    · obtain ⟨later, member, failed⟩ := ih h
      exact ⟨later, List.mem_cons_of_mem _ member, failed⟩

theorem perform_steps_eq_ok {a : Artifact} {destination : String} {d d' : Disk}
    (h : (perform (steps a destination)).run.run d = (.ok (), d')) :
    ∃ d₁ : Disk, d₁.home = d.home ∧
      (perform ([.create (stagingPath destination), .write (stagingPath destination) a.content,
        .flush (stagingPath destination)] ++
          a.mode.toList.map (.setMode (stagingPath destination)))).run.run d₁ = (.ok (), d') := by
  unfold steps at h
  cases above : Path.parent? destination with
  | none =>
    rw [above] at h
    exact ⟨d, rfl, h⟩
  | some parent =>
    rw [above] at h
    obtain ⟨d₁, made, h⟩ := perform_cons_eq_ok h
    have changes := Disk.keeps_makeDirectories parent d
    have home := congrArg (fun outcome => outcome.2.home) made
    exact ⟨d₁, home.symm.trans changes.home, h⟩

theorem content?_of_perform {a : Artifact} {destination : String} {d d' : Disk}
    (h : (perform (steps a destination)).run.run d = (.ok (), d')) :
    d'.content? (placeOf d.home (stagingPath destination)) = some a.content := by
  let staged := stagingPath destination
  obtain ⟨d₁, home, h⟩ := perform_steps_eq_ok h
  obtain ⟨d₂, created, h⟩ := perform_cons_eq_ok h
  obtain ⟨d₃, written, h⟩ := perform_cons_eq_ok h
  obtain ⟨d₄, flushed, h⟩ := perform_cons_eq_ok h
  -- Writing sets the content; flushing and the mode leave it as it is.
  obtain ⟨home₂, -⟩ := Disk.content?_of_create staged created
  obtain ⟨home₃, _, -, content₃⟩ := Disk.content?_of_change (g := fun _ => a.content) staged
    (fun _ mode => ⟨mode, rfl⟩) written
  obtain ⟨home₄, content, before, content₄⟩ := Disk.content?_of_change (g := id) staged
    (fun _ mode => ⟨mode, rfl⟩) flushed
  rw [home₃, content₃] at before
  cases before
  rw [home₃, home₂, home] at content₄
  cases given : a.mode with
  | none =>
    rw [given] at h
    cases h
    exact content₄
  | some mode =>
    rw [given] at h
    obtain ⟨d₅, allowed, h⟩ := perform_cons_eq_ok h
    obtain ⟨-, content, before, content₅⟩ := Disk.content?_of_change (g := id) staged
      (fun _ _ => ⟨_, rfl⟩) allowed
    cases h
    rw [home₄, home₃, home₂, home] at before content₅
    rw [content₄] at before
    cases before
    exact content₅

/-! ## Loops -/

theorem run_attempt {σ ε ε' α : Type} (x : ExceptT ε' (StateM σ) α) (s : Logged σ) :
    (Acting.attempt x : Acting σ ε _).run.run s =
      (.ok (x.run.run s.state).1, ⟨(x.run.run s.state).2, s.warnings⟩) := rfl

private theorem exists_run_discard (destinations : List String) (s : Logged Disk) :
    ∃ t, (discard destinations).run.run s = (.ok (), t) := by
  induction destinations generalizing s with
  | nil => exact ⟨s, rfl⟩
  | cons destination rest ih =>
    rw [discard, Stateful.run_bind_ok (run_attempt ..), Disk.act_remove]
    cases ((Disk.remove (stagingPath destination)).run.run s.state).1 with
    | ok => exact ih _
    | error cause => exact ih _

/-! ## What loops keep to -/

def OnState {σ : Type} (R : σ → σ → Prop) (s t : Logged σ) : Prop := R s.state t.state

private theorem keeps_attempt {σ ε ε' α : Type} {R : σ → σ → Prop} {x : ExceptT ε' (StateM σ) α}
    (h : Stateful.Keeps R x) : Stateful.Keeps (OnState R) (Acting.attempt x : Acting σ ε _) :=
  fun s => h s.state

section

variable {σ : Type} [Storage σ] {R : σ → σ → Prop} (refl : ∀ s, R s s)
  (trans : ∀ {s t u}, R s t → R t u → R s u)

include refl trans

private theorem keeps_discard {destinations : List String}
    (removing : ∀ path ∈ destinations,
      Stateful.Keeps R (Storage.act (.remove (stagingPath path)))) :
    Stateful.Keeps (OnState R) (discard destinations) := by
  induction destinations with
  | nil => exact fun s => refl s.state
  | cons destination rest ih =>
    obtain ⟨first, others⟩ := List.forall_mem_cons.mp removing
    rw [discard]
    refine (keeps_attempt first).bind trans fun result => ?_
    cases result with
    | ok => exact ih others
    | error cause =>
      have warned : Stateful.Keeps (OnState R) (Acting.warn (σ := σ) (ε := OutputFault)
          (.stagedFileLeft (stagingPath destination) cause.message)) := fun s => refl s.state
      exact warned.bind trans fun _ => ih others

private theorem keeps_failing {destinations : List String} (fault : OutputFault)
    (removing : ∀ path ∈ destinations,
      Stateful.Keeps R (Storage.act (.remove (stagingPath path)))) :
    Stateful.Keeps (OnState R) (discard destinations >>= fun _ => throw (α := Unit) fault) := by
  have ended : Stateful.Keeps (OnState R) (throw fault : Acting σ OutputFault Unit) :=
    fun s => refl s.state
  exact (keeps_discard refl trans removing).bind trans fun _ => ended

theorem keeps_stageAll {before : List String} {l : List (Artifact × String)}
    (staging : ∀ x ∈ l, ∀ step ∈ steps x.1 x.2, Stateful.Keeps R step.run)
    (removing : ∀ path ∈ before ++ l.map Prod.snd,
      Stateful.Keeps R (Storage.act (.remove (stagingPath path)))) :
    Stateful.Keeps (OnState R) (stageAll before l) := by
  induction l generalizing before with
  | nil => exact fun s => refl s.state
  | cons x rest ih =>
    obtain ⟨a, destination⟩ := x
    obtain ⟨first, others⟩ := List.forall_mem_cons.mp staging
    rw [stageAll]
    refine (keeps_attempt (keeps_perform refl trans first)).bind trans fun result => ?_
    cases result with
    | ok =>
      refine ih others fun path member => removing path ?_
      simpa [or_comm, or_left_comm] using member
    | error fault =>
      refine keeps_failing refl trans fault fun path member => removing path ?_
      exact List.mem_append_left _ (List.mem_reverse.mp member)

theorem keeps_moveAll {destinations : List String}
    (moving : ∀ path ∈ destinations, Stateful.Keeps R (Storage.act (.move (stagingPath path) path)))
    (removing : ∀ path ∈ destinations,
      Stateful.Keeps R (Storage.act (.remove (stagingPath path)))) :
    Stateful.Keeps (OnState R) (moveAll destinations) := by
  induction destinations with
  | nil => exact fun s => refl s.state
  | cons destination rest ih =>
    obtain ⟨first, others⟩ := List.forall_mem_cons.mp moving
    obtain ⟨_, remaining⟩ := List.forall_mem_cons.mp removing
    rw [moveAll]
    refine (keeps_attempt first).bind trans fun result => ?_
    cases result with
    | ok => exact ih others remaining
    | error cause => exact keeps_failing refl trans _ removing

end

private theorem keeps_remove_staged {destinations : List String} {path : String}
    (member : path ∈ destinations) :
    Stateful.Keeps (Changes (destinations.map stagingPath) [])
      (Disk.remove (stagingPath path)) := by
  have touched : [stagingPath path] ⊆ destinations.map stagingPath := by
    simpa using ⟨path, member, rfl⟩
  exact fun d => (Disk.keeps_remove (stagingPath path) d).mono touched (List.Subset.refl _)

theorem changes_of_failing (destinations : List String) (fault : OutputFault) (s : Logged Disk) :
    ∃ t, (discard destinations >>= fun _ => throw (α := Unit) fault).run.run s = (.error fault, t) ∧
      Changes (destinations.map stagingPath) [] s.state t.state := by
  obtain ⟨t, ended⟩ := exists_run_discard destinations s
  have failed : (discard destinations >>= fun _ => throw (α := Unit) fault).run.run s =
      (.error fault, t) := Stateful.run_bind_ok ended
  have removing : ∀ path ∈ destinations, Stateful.Keeps (Changes (destinations.map stagingPath) [])
      (Disk.remove (stagingPath path)) := fun _ => keeps_remove_staged
  have changes := keeps_failing Changes.refl Changes.trans fault removing s
  rw [OnState, failed] at changes
  exact ⟨t, failed, changes⟩

/-! ## Loops on staged files -/

private theorem run_stageAll_cons (before : List String) (a : Artifact) (destination : String)
    (rest : List (Artifact × String)) (s : Logged Disk) :
    (stageAll before ((a, destination) :: rest)).run.run s =
      match (perform (steps a destination)).run.run s.state with
      | (.ok (), d) => (stageAll (destination :: before) rest).run.run ⟨d, s.warnings⟩
      | (.error fault, d) =>
        (discard before.reverse >>= fun _ => throw fault).run.run ⟨d, s.warnings⟩ := by
  rw [stageAll, Stateful.run_bind_ok (run_attempt ..)]
  rcases (perform (steps a destination)).run.run s.state with ⟨_ | _, d⟩ <;> rfl

theorem run_moveAll_cons (destination : String) (rest : List String) (s : Logged Disk) :
    (moveAll (destination :: rest)).run.run s =
      match (Disk.move (stagingPath destination) destination).run.run s.state with
      | (.ok (), d) => (moveAll rest).run.run ⟨d, s.warnings⟩
      | (.error cause, d) =>
        (discard (destination :: rest) >>= fun _ => throw (.notMoved destination cause)).run.run
          ⟨d, s.warnings⟩ := by
  rw [moveAll, Stateful.run_bind_ok (run_attempt ..), Disk.act_move]
  rcases (Disk.move (stagingPath destination) destination).run.run s.state with ⟨_ | _, d⟩ <;> rfl

private theorem discard_throw_eq_error {destinations : List String} {s t : Logged Disk}
    {fault fault' : OutputFault}
    (h : (discard destinations >>= fun _ => throw (α := Unit) fault).run.run s =
      (.error fault', t)) :
    fault' = fault ∧ (discard destinations).run.run s = (.ok (), t) := by
  obtain ⟨t', ended⟩ := exists_run_discard destinations s
  rw [Stateful.run_bind_ok ended] at h
  cases h
  exact ⟨rfl, ended⟩

theorem stageAll_cons_eq_ok {before : List String} {a : Artifact} {destination : String}
    {rest : List (Artifact × String)} {s t : Logged Disk}
    (h : (stageAll before ((a, destination) :: rest)).run.run s = (.ok (), t)) :
    ∃ d, (perform (steps a destination)).run.run s.state = (.ok (), d) ∧
      (stageAll (destination :: before) rest).run.run ⟨d, s.warnings⟩ = (.ok (), t) := by
  rw [run_stageAll_cons] at h
  rcases performed : (perform (steps a destination)).run.run s.state with ⟨fault | _, d⟩
  all_goals rw [performed] at h
  · obtain ⟨_, failed, -⟩ := changes_of_failing before.reverse fault ⟨d, s.warnings⟩
    cases failed.symm.trans h
  · exact ⟨d, rfl, h⟩

/-- If staging fails, some artifacts have been staged, and all that were are discarded. -/
theorem stageAll_eq_error {before : List String} {l : List (Artifact × String)}
    {s t : Logged Disk} {fault : OutputFault}
    (h : (stageAll before l).run.run s = (.error fault, t)) :
    ∃ staged a destination rest u d, l = staged ++ (a, destination) :: rest ∧
      (stageAll before staged).run.run s = (.ok (), u) ∧
      (perform (steps a destination)).run.run u.state = (.error fault, d) ∧
      (discard (before.reverse ++ staged.map Prod.snd)).run.run ⟨d, u.warnings⟩ = (.ok (), t) := by
  induction l generalizing before s with
  | nil => cases h
  | cons first rest ih =>
    obtain ⟨a, destination⟩ := first
    rw [run_stageAll_cons] at h
    rcases performed : (perform (steps a destination)).run.run s.state with ⟨fault' | _, d⟩
    all_goals rw [performed] at h
    · obtain ⟨rfl, discarded⟩ := discard_throw_eq_error h
      exact ⟨[], a, destination, rest, s, d, rfl, rfl, performed, by simpa using discarded⟩
    · obtain ⟨staged, b, next, later, u, d', rfl, before, failed, discarded⟩ := ih h
      refine ⟨(a, destination) :: staged, b, next, later, u, d', rfl, ?_, failed, ?_⟩
      · rw [run_stageAll_cons, performed]
        exact before
      · simpa using discarded

/-- If a move fails, those before it are done, and what has not been moved is discarded. -/
theorem moveAll_eq_error {destinations : List String} {s t : Logged Disk} {fault : OutputFault}
    (h : (moveAll destinations).run.run s = (.error fault, t)) :
    ∃ moved destination rest u cause d, destinations = moved ++ destination :: rest ∧
      fault = .notMoved destination cause ∧
      (moveAll moved).run.run s = (.ok (), u) ∧
      (Disk.move (stagingPath destination) destination).run.run u.state = (.error cause, d) ∧
      (discard (destination :: rest)).run.run ⟨d, u.warnings⟩ = (.ok (), t) := by
  induction destinations generalizing s with
  | nil => cases h
  | cons destination rest ih =>
    rw [run_moveAll_cons] at h
    rcases moves : (Disk.move (stagingPath destination) destination).run.run s.state with
      ⟨cause | _, d⟩
    all_goals rw [moves] at h
    · obtain ⟨rfl, discarded⟩ := discard_throw_eq_error h
      exact ⟨[], destination, rest, s, cause, d, rfl, rfl, rfl, moves, discarded⟩
    · obtain ⟨moved, next, later, u, cause, d', rfl, same, before, failed, discarded⟩ := ih h
      refine ⟨destination :: moved, next, later, u, cause, d', rfl, same, ?_, failed, discarded⟩
      rw [run_moveAll_cons, moves]
      exact before

private theorem changes_of_stageAll (before : List String) (l : List (Artifact × String))
    (s : Logged Disk) :
    Changes ((before ++ l.map Prod.snd).map stagingPath) (l.flatMap (above ·.2)) s.state
      ((stageAll before l).run.run s).2.state := by
  refine keeps_stageAll Changes.refl Changes.trans ?_ ?_ s
  · intro x member step among d
    refine (keeps_step x.1 x.2 step among d).mono ?_ ?_
    · have touched : stagingPath x.2 ∈ (before ++ l.map Prod.snd).map stagingPath :=
        List.mem_map_of_mem (List.mem_append_right before (List.mem_map_of_mem member))
      simpa using touched
    · exact fun made inside => List.mem_flatMap.mpr ⟨x, member, inside⟩
  · intro path member d
    exact (keeps_remove_staged member d).mono (List.Subset.refl _) (List.nil_subset _)

theorem content?_of_stageAll {before : List String} {l : List (Artifact × String)}
    {s t : Logged Disk} (h : (stageAll before l).run.run s = (.ok (), t)) :
    Changes (l.map (stagingPath ·.2)) (l.flatMap (above ·.2)) s.state t.state ∧
      ((l.map fun x => placeOf s.state.home (stagingPath x.2)).Nodup →
        ∀ x ∈ l, t.state.content? (placeOf s.state.home (stagingPath x.2)) = some x.1.content) := by
  induction l generalizing before s with
  | nil =>
    cases h
    exact ⟨.refl _, fun _ => List.forall_mem_nil _⟩
  | cons first rest ih =>
    obtain ⟨a, destination⟩ := first
    obtain ⟨d, performed, h⟩ := stageAll_cons_eq_ok h
    have staging :=
      (keeps_perform Changes.refl Changes.trans (keeps_step a destination)).of_run_eq performed
    obtain ⟨changes, contents⟩ := ih h
    have home : d.home = s.state.home := staging.home
    refine ⟨.trans (staging.mono ?_ ?_) (changes.mono ?_ ?_), fun distinct => ?_⟩
    · simp
    · simp
    · simp
    · simp
    · obtain ⟨apart, distinct⟩ := List.nodup_cons.mp distinct
      refine List.forall_mem_cons.mpr ⟨?_, home ▸ contents (home ▸ distinct)⟩
      refine changes.content?_eq ?_ (content?_of_perform performed)
      rw [List.map_map]
      exact home ▸ apart

/-- Destinations and the names under which they are staged lead to different places. -/
def Distinct (home : Place) (destinations : List String) : Prop :=
  ((destinations ++ destinations.map stagingPath).map (placeOf home)).Nodup

instance (home : Place) (destinations : List String) : Decidable (Distinct home destinations) :=
  inferInstanceAs (Decidable (List.Nodup _))

theorem Distinct.cons {home : Place} {destination : String} {rest : List String}
    (h : Distinct home (destination :: rest)) :
    Distinct home rest ∧
      ∀ path ∈ rest ++ rest.map stagingPath,
        placeOf home path ≠ placeOf home destination ∧
          placeOf home path ≠ placeOf home (stagingPath destination) := by
  have perm : (destination :: rest ++ (destination :: rest).map stagingPath).Perm
      (stagingPath destination :: destination :: (rest ++ rest.map stagingPath)) :=
    List.perm_middle
  obtain ⟨staged, h⟩ := List.nodup_cons.mp ((perm.map (placeOf home)).nodup_iff.mp h)
  obtain ⟨moved, distinct⟩ := List.nodup_cons.mp h
  refine ⟨distinct, ?_⟩
  intro path member
  have among := List.mem_map_of_mem (f := placeOf home) member
  exact ⟨fun same => moved (same ▸ among),
    fun same => staged (same ▸ List.mem_cons_of_mem _ among)⟩

theorem Distinct.staged {home : Place} {destinations : List String}
    (h : Distinct home destinations) :
    ((destinations.map stagingPath).map (placeOf home)).Nodup := by
  rw [Distinct, List.map_append] at h
  exact (List.nodup_append.mp h).2.1

private theorem Distinct.outside {home : Place} {moved unmoved : List String}
    (h : Distinct home (moved ++ unmoved)) {path : String} (member : path ∈ unmoved) :
    placeOf home path ∉ ((moved ++ unmoved).map stagingPath ++ moved).map (placeOf home) := by
  have perm : (moved ++ unmoved ++ (moved ++ unmoved).map stagingPath).Perm
      (unmoved ++ ((moved ++ unmoved).map stagingPath ++ moved)) := by
    rw [List.append_assoc]
    exact List.perm_append_comm.trans (List.append_assoc unmoved _ _ ▸ List.Perm.refl _)
  have nodup := (perm.map (placeOf home)).nodup_iff.mp h
  rw [List.map_append] at nodup
  intro inside
  exact (List.nodup_append.mp nodup).2.2 _ (List.mem_map_of_mem member) _ inside rfl

theorem Distinct.staged_of_moves {destination : String} {rest : List (Artifact × String)}
    {d d' : Disk} (distinct : Distinct d.home (destination :: rest.map Prod.snd))
    (done : Moves (placeOf d.home (stagingPath destination)) (placeOf d.home destination) d d')
    (staged : ∀ x ∈ rest, d.content? (placeOf d.home (stagingPath x.2)) = some x.1.content) :
    ∀ x ∈ rest, d'.content? (placeOf d.home (stagingPath x.2)) = some x.1.content := by
  intro x member
  have among : stagingPath x.2 ∈ rest.map Prod.snd ++ (rest.map Prod.snd).map stagingPath :=
    List.mem_append_right _ (List.mem_map_of_mem (List.mem_map_of_mem member))
  obtain ⟨apart, apart'⟩ := distinct.cons.2 (stagingPath x.2) among
  rw [done.content?_elsewhere apart' apart]
  exact staged x member

theorem moved_of_moveAll {l : List (Artifact × String)} {s t : Logged Disk} {fault : OutputFault}
    (h : (moveAll (l.map Prod.snd)).run.run s = (.error fault, t)) :
    ∃ moved a destination rest cause,
      l = moved ++ (a, destination) :: rest ∧ fault = .notMoved destination cause ∧
      Changes (l.map (stagingPath ·.2) ++ moved.map Prod.snd) [] s.state t.state ∧
      (Distinct s.state.home (l.map Prod.snd) →
        (∀ x ∈ l, s.state.content? (placeOf s.state.home (stagingPath x.2)) = some x.1.content) →
        ∀ x ∈ moved, t.state.content? (placeOf s.state.home x.2) = some x.1.content) := by
  induction l generalizing s with
  | nil => cases h
  | cons first rest ih =>
    obtain ⟨a, destination⟩ := first
    have moving := Disk.attempted_move (d := s.state) (stagingPath destination) destination
    rw [List.map_cons, run_moveAll_cons] at h
    rcases moves : (Disk.move (stagingPath destination) destination).run.run s.state with
      ⟨cause | _, d⟩
    all_goals rw [moves] at h
    · have same := moving.of_error moves
      obtain ⟨t', failed, discards⟩ :=
        changes_of_failing (destination :: rest.map Prod.snd) (.notMoved destination cause)
          ⟨d, s.warnings⟩
      cases failed.symm.trans h
      refine ⟨[], a, destination, rest, cause, rfl, rfl, ?_, fun _ _ => List.forall_mem_nil _⟩
      have all := same.changes.trans discards
      simpa [Function.comp_def] using all
    · obtain ⟨done, -⟩ := moving.of_ok moves
      have home : d.home = s.state.home := done.home
      obtain ⟨moved, b, next, later, cause, parts, same, changes, contents⟩ := ih h
      refine ⟨(a, destination) :: moved, b, next, later, cause, congrArg _ parts, same, ?_, ?_⟩
      · refine .trans (done.changes.mono ?_ (List.Subset.refl _))
          (changes.mono ?_ (List.Subset.refl _))
        · simp
        · grind
      · -- The later moves neither touch this destination nor did this one touch their files.
        intro distinct staged
        obtain ⟨first, staged⟩ := List.forall_mem_cons.mp staged
        have staged := distinct.staged_of_moves done staged
        obtain ⟨distinct, others⟩ := distinct.cons
        refine List.forall_mem_cons.mpr ⟨?_, home ▸ contents (home ▸ distinct) (home ▸ staged)⟩
        refine changes.content?_eq ?_ (done.content? first)
        intro touched
        rw [home] at touched
        obtain ⟨path, member, same⟩ := List.mem_map.mp touched
        have among : path ∈ rest.map Prod.snd ++ (rest.map Prod.snd).map stagingPath := by
          grind
        exact (others path among).1 same

/-! ## Writes -/

def targets (root : String) (artifacts : List Artifact) : List (Artifact × String) :=
  artifacts.map fun a => (a, Path.join root a.path)

private theorem destination_eq_ok {root path : String} {a : Artifact}
    (h : destination root a = .ok path) : path = Path.join root a.path := by
  unfold destination at h
  split at h
  · cases h
  · cases h
    rfl

private theorem destinations_eq_ok {root : String} {artifacts : List Artifact}
    {destinations : List String}
    (h : artifacts.mapM (fun a => (destination root a : Except OutputFault String)) =
      .ok destinations) :
    destinations = (targets root artifacts).map Prod.snd ∧
      artifacts.zip destinations = targets root artifacts := by
  have each := Outcome.mapM_eq_ok.mp h
  induction each with
  | nil => exact ⟨rfl, rfl⟩
  | cons first rest ih =>
    obtain ⟨same, zipped⟩ := ih (Outcome.mapM_eq_ok.mpr rest)
    cases destination_eq_ok first
    exact ⟨congrArg _ same, congrArg _ zipped⟩

/-- A write names all destinations before it begins. -/
theorem run_write {σ : Type} [Storage σ] (root : String) (artifacts : List Artifact)
    (s : Logged σ) :
    (write root artifacts).run.run s =
      match artifacts.mapM (destination root) with
      | .error fault => (.error fault, s)
      | .ok _ => (do
          stageAll [] (targets root artifacts)
          moveAll ((targets root artifacts).map Prod.snd)
          return (targets root artifacts).map Prod.snd : Acting σ OutputFault _).run.run s := by
  unfold write
  rw [Stateful.run_bind, Stateful.run_mapM_lift (destination root) artifacts s]
  cases result : artifacts.mapM (destination root) with
  | error fault => rfl
  | ok destinations =>
    obtain ⟨rfl, zipped⟩ := destinations_eq_ok result
    simp only [zipped]

/-- What every operation of a write keeps to is kept to by the whole. -/
theorem keeps_write {σ : Type} [Storage σ] {R : σ → σ → Prop} (refl : ∀ s, R s s)
    (trans : ∀ {s t u}, R s t → R t u → R s u) {root : String} {artifacts : List Artifact}
    (staging : ∀ x ∈ targets root artifacts, ∀ step ∈ steps x.1 x.2, Stateful.Keeps R step.run)
    (moving : ∀ path ∈ (targets root artifacts).map Prod.snd,
      Stateful.Keeps R (Storage.act (.move (stagingPath path) path)))
    (removing : ∀ path ∈ (targets root artifacts).map Prod.snd,
      Stateful.Keeps R (Storage.act (.remove (stagingPath path)))) :
    Stateful.Keeps (OnState R) (write root artifacts) := by
  have ended (destinations : List String) : Stateful.Keeps (OnState R)
      (pure destinations : Acting σ OutputFault (List String)) := fun s => refl s.state
  have staged : Stateful.Keeps (OnState R) (stageAll [] (targets root artifacts)) :=
    keeps_stageAll refl trans staging removing
  have moved := keeps_moveAll refl trans moving removing
  intro s
  rw [run_write]
  split
  · exact refl s.state
  · exact staged.bind trans (fun _ => moved.bind trans fun _ => ended _) s

/-- No destination leads to a place that staging uses, nor do two lead to the same. -/
structure Apart (home : Place) (destinations : List String) : Prop where
  distinct : Distinct home destinations
  below : ∀ path ∈ destinations,
    placeOf home path ∉ (destinations.flatMap above).map (placeOf home)

instance (home : Place) (destinations : List String) : Decidable (Apart home destinations) :=
  decidable_of_iff (_ ∧ _) ⟨fun h => ⟨h.1, h.2⟩, fun h => ⟨h.distinct, h.below⟩⟩

/-- A write has failed after some artifacts were moved in order, and none if another failure than
that of the next move ended it. All changes are there, where artifacts are staged, and in new
directories above them. -/
structure Stopped (root : String) (artifacts : List Artifact) (fault : OutputFault)
    (moved unmoved : List (Artifact × String)) (d d' : Disk) : Prop where
  parts : targets root artifacts = moved ++ unmoved
  next : moved ≠ [] → ∃ a destination rest cause,
    unmoved = (a, destination) :: rest ∧ fault = .notMoved destination cause
  changes : Changes ((targets root artifacts).map (stagingPath ·.2) ++ moved.map Prod.snd)
    ((targets root artifacts).flatMap (above ·.2)) d d'
  moves : Apart d.home ((targets root artifacts).map Prod.snd) →
    ∀ x ∈ moved, d'.content? (placeOf d.home x.2) = some x.1.content

namespace Stopped

variable {root : String} {artifacts : List Artifact} {fault : OutputFault}
  {moved unmoved : List (Artifact × String)} {d d' : Disk}

private theorem stays (h : Stopped root artifacts fault moved unmoved d d')
    (apart : Apart d.home ((targets root artifacts).map Prod.snd)) :
    ∀ x ∈ unmoved, d'.entry? (placeOf d.home x.2) = d.entry? (placeOf d.home x.2) := by
  intro x member
  have distinct := apart.distinct
  rw [h.parts, List.map_append] at distinct
  have outside := distinct.outside (List.mem_map_of_mem member)
  rw [← List.map_append, ← h.parts, List.map_map] at outside
  have among : x ∈ targets root artifacts := h.parts ▸ List.mem_append_right moved member
  have below := apart.below x.2 (List.mem_map_of_mem among)
  rw [List.flatMap_map] at below
  exact h.changes.entry?_eq outside below

private theorem kept_iff (h : Stopped root artifacts fault moved unmoved d d')
    (apart : Apart d.home ((targets root artifacts).map Prod.snd)) :
    (∀ x ∈ targets root artifacts, d.Kept d' (placeOf d.home x.2)) ↔
      ∀ x ∈ moved, d.content? (placeOf d.home x.2) = some x.1.content := by
  have stays := h.stays apart
  have split : (∀ x ∈ targets root artifacts, d.Kept d' (placeOf d.home x.2)) ↔
      ∀ x ∈ moved, d.Kept d' (placeOf d.home x.2) := by
    rw [h.parts, List.forall_mem_append, and_iff_left]
    exact fun x member => Disk.kept_of_entry?_eq (stays x member)
  rw [split]
  exact forall₂_congr fun x member => Disk.kept_iff_of_content? (h.moves apart x member)

end Stopped

private theorem stopped_of_write_error {root : String} {artifacts : List Artifact}
    {s t : Logged Disk}
    {fault : OutputFault} (h : (write root artifacts).run.run s = (.error fault, t)) :
    ∃ moved unmoved, Stopped root artifacts fault moved unmoved s.state t.state := by
  let l := targets root artifacts
  rw [run_write] at h
  split at h
  next =>
    cases h
    exact ⟨[], l, rfl, fun some => (some rfl).elim, .refl _, fun _ => List.forall_mem_nil _⟩
  next =>
    -- A write can end while staging, while moving, and not after that.
    rcases staged : (stageAll [] l).run.run s with ⟨fault' | _, u⟩
    · have staging := changes_of_stageAll [] l s
      rw [Stateful.run_bind_error staged] at h
      cases h
      rw [staged] at staging
      refine ⟨[], l, rfl, fun some => (some rfl).elim, ?_, fun _ => List.forall_mem_nil _⟩
      simpa [Function.comp_def] using staging
    · rw [Stateful.run_bind_ok staged] at h
      obtain ⟨staging, contents⟩ := content?_of_stageAll staged
      have home : u.state.home = s.state.home := staging.home
      rcases ended : (moveAll (l.map Prod.snd)).run.run u with ⟨fault' | _, v⟩
      · rw [Stateful.run_bind_error ended] at h
        cases h
        obtain ⟨moved, a, path, rest, cause, parts, same, moving, holds⟩ := moved_of_moveAll ended
        refine ⟨moved, _, parts, fun _ => ⟨a, path, rest, cause, rfl, same⟩, ?_, ?_⟩
        · have first := staging.mono (List.subset_append_left _ (moved.map Prod.snd))
            (List.Subset.refl _)
          exact first.trans (moving.mono (List.Subset.refl _) (List.nil_subset _))
        · intro apart
          have distinct := apart.distinct
          have nodup : (l.map fun x => placeOf s.state.home (stagingPath x.2)).Nodup := by
            simpa [l, Function.comp_def] using distinct.staged
          exact home ▸ holds (home ▸ distinct) (home ▸ contents nodup)
      · rw [Stateful.run_bind_ok ended] at h
        cases h

/-- What a failed write leaves. If destinations are apart from each other and from what staging
uses, all are kept exactly if what was moved was there already. -/
theorem kept_iff_of_write_error {root : String} {artifacts : List Artifact} {s t : Logged Disk}
    {fault : OutputFault} (h : (write root artifacts).run.run s = (.error fault, t)) :
    ∃ moved unmoved, Stopped root artifacts fault moved unmoved s.state t.state ∧
      (Apart s.state.home ((targets root artifacts).map Prod.snd) →
        ((∀ x ∈ targets root artifacts, s.state.Kept t.state (placeOf s.state.home x.2)) ↔
          ∀ x ∈ moved, s.state.content? (placeOf s.state.home x.2) = some x.1.content)) := by
  obtain ⟨moved, unmoved, stopped⟩ := stopped_of_write_error h
  exact ⟨moved, unmoved, stopped, stopped.kept_iff⟩

def occupiedDisk : Disk :=
  { Disk.withHome ["work"] with
    entries := [(["work", "out", "b"], .directory), (["work", "out"], .directory),
      (["work"], .directory)] }

def clashingArtifacts : List Artifact := [⟨"a", "new", none⟩, ⟨"b", "x", none⟩]

theorem kept_iff_of_write_error_clashing :
    ∃ t, (write "out" clashingArtifacts).run.run ⟨occupiedDisk, []⟩ =
        (.error (.notMoved "out/b" .isADirectory), t) ∧
      Apart occupiedDisk.home ((targets "out" clashingArtifacts).map Prod.snd) ∧
      ∃ moved unmoved,
        Stopped "out" clashingArtifacts (.notMoved "out/b" .isADirectory) moved unmoved occupiedDisk
          t.state ∧
        ((∀ x ∈ targets "out" clashingArtifacts,
            occupiedDisk.Kept t.state (placeOf occupiedDisk.home x.2)) ↔
          ∀ x ∈ moved,
            occupiedDisk.content? (placeOf occupiedDisk.home x.2) = some x.1.content) := by
  have fails : ((write "out" clashingArtifacts).run.run ⟨occupiedDisk, []⟩).1 =
      .error (.notMoved "out/b" .isADirectory) := by decide +kernel
  have apart : Apart occupiedDisk.home ((targets "out" clashingArtifacts).map Prod.snd) := by
    decide +kernel
  have whole {α β : Type} {x : α × β} {a : α} (h : x.1 = a) : ∃ b, x = (a, b) := ⟨x.2, h ▸ rfl⟩
  obtain ⟨t, ran⟩ := whole fails
  obtain ⟨moved, unmoved, stopped, kept⟩ := kept_iff_of_write_error ran
  exact ⟨t, ran, apart, moved, unmoved, stopped, kept apart⟩

/-- What is moved before a failure is not moved back. -/
theorem not_kept_clashing :
    ((write "out" clashingArtifacts).run.run ⟨occupiedDisk, []⟩).1 =
        .error (.notMoved "out/b" .isADirectory) ∧
      ¬ ∀ x ∈ targets "out" clashingArtifacts,
        occupiedDisk.Kept ((write "out" clashingArtifacts).run.run ⟨occupiedDisk, []⟩).2.state
          (placeOf occupiedDisk.home x.2) := by
  decide +kernel

end Staging

end ApiScaffold
