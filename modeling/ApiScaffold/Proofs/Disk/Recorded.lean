import ApiScaffold.Proofs.Disk.Writing
/-!
# Recorded writes

A disk can record what it is asked for. A write to it ends as one to the disk alone does, and the
record lists, in order, the operations that this run performed.
-/
namespace ApiScaffold

open Stateful (Tracks)

namespace Disk

/-- A disk with what it was asked for. -/
structure Recorded where
  disk : Disk
  operations : List Operation

instance : Storage Recorded where
  act operation := ExceptT.mk fun s =>
    let (answer, d) := operation.run.run.run s.disk
    (answer, ⟨d, s.operations ++ [operation]⟩)
  isDirectory path s := s.disk.isDirectory path

private theorem tracks_act (operation : Operation) :
    Tracks Recorded.disk (Storage.act operation) (Storage.act operation) := fun _ => rfl

private theorem tracks_makeDirectoriesWithin (n : Nat) (path : String) :
    Tracks Recorded.disk (makeDirectoriesWithin n path) (makeDirectoriesWithin n path) := by
  induction n generalizing path with
  | zero => exact Stateful.tracks_throw _
  | succ n ih =>
    have check (fault : DiskFault) : Tracks (ε := DiskFault) Recorded.disk
        (do if !Storage.isDirectory path (← get) then throw fault)
        (do if !Storage.isDirectory path (← get) then throw fault) := by
      intro s
      rw [Stateful.run_bind_ok (Stateful.run_get _), Stateful.run_bind_ok (Stateful.run_get _)]
      have seen : Storage.isDirectory path s = Storage.isDirectory path s.disk := rfl
      rw [seen]
      cases Storage.isDirectory path s.disk <;> rfl
    unfold makeDirectoriesWithin
    split
    · exact Stateful.tracks_pure _
    · refine (tracks_act _).tryCatch fun fault => ?_
      split
      · cases Path.parent? path with
        | none => exact Stateful.tracks_throw _
        | some parent => exact (ih parent).bind fun _ => (tracks_act _).tryCatch check
      · exact check fault

end Disk

namespace Staging

open Disk (Recorded)

/-! ## Staging -/

private theorem tracks_step (step : StagingStep) : Tracks Recorded.disk step.run step.run := by
  cases step with
  | makeDirectories path => exact Disk.tracks_makeDirectoriesWithin _ path
  | create => exact Disk.tracks_act _
  | write => exact Disk.tracks_act _
  | flush => exact Disk.tracks_act _
  | setMode => exact Disk.tracks_act _

private theorem tracks_perform (steps : List StagingStep) :
    Tracks Recorded.disk (perform steps) (perform steps) := by
  induction steps with
  | nil => exact Stateful.tracks_pure _
  | cons step rest ih =>
    intro s
    rw [run_perform_cons, run_perform_cons, tracks_step step s]
    rcases step.run.run.run s with ⟨_ | _, t⟩
    · rfl
    · exact ih t

/-! ## Loops -/

def forget (s : Logged Recorded) : Logged Disk := ⟨s.state.disk, s.warnings⟩

private theorem tracks_attempt {ε ε' α : Type} {x : ExceptT ε' (StateM Recorded) α}
    {y : ExceptT ε' (StateM Disk) α} (h : Tracks Recorded.disk x y) :
    Tracks forget (Acting.attempt x : Acting Recorded ε _) (Acting.attempt y) := by
  intro s
  rw [run_attempt, run_attempt]
  show (Except.ok (y.run.run s.state.disk).1, Logged.mk (y.run.run s.state.disk).2 _) = _
  rw [h]
  rfl

private theorem tracks_warn {ε : Type} (warning : Warning) :
    Tracks (ε := ε) forget (Acting.warn warning) (Acting.warn warning) := fun _ => rfl

private theorem tracks_discard (destinations : List String) :
    Tracks forget (discard destinations) (discard destinations) := by
  induction destinations with
  | nil => exact Stateful.tracks_pure _
  | cons destination rest ih =>
    rw [discard, discard]
    refine (tracks_attempt (Disk.tracks_act _)).bind fun result => ?_
    cases result with
    | ok => exact ih
    | error cause => exact (tracks_warn _).bind fun _ => ih

private theorem tracks_stageAll (before : List String) (l : List (Artifact × String)) :
    Tracks forget (stageAll before l) (stageAll before l) := by
  induction l generalizing before with
  | nil => exact Stateful.tracks_pure _
  | cons first rest ih =>
    rw [stageAll, stageAll]
    refine (tracks_attempt (tracks_perform _)).bind fun result => ?_
    cases result with
    | ok => exact ih _
    | error fault => exact (tracks_discard _).bind fun _ => Stateful.tracks_throw _

private theorem tracks_moveAll (destinations : List String) :
    Tracks forget (moveAll destinations) (moveAll destinations) := by
  induction destinations with
  | nil => exact Stateful.tracks_pure _
  | cons destination rest ih =>
    rw [moveAll, moveAll]
    refine (tracks_attempt (Disk.tracks_act _)).bind fun result => ?_
    cases result with
    | ok => exact ih
    | error cause => exact (tracks_discard _).bind fun _ => Stateful.tracks_throw _

/-- Recorded writes end as others do. -/
theorem tracks_write (root : String) (artifacts : List Artifact) :
    Tracks forget (write root artifacts) (write root artifacts) := by
  intro s
  rw [run_write, run_write]
  cases artifacts.mapM (destination root) with
  | error fault => rfl
  | ok =>
    exact ((tracks_stageAll _ _).bind fun _ => (tracks_moveAll _).bind fun _ =>
      Stateful.tracks_pure _) s

end Staging

end ApiScaffold
