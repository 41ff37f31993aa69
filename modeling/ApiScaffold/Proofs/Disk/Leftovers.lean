import ApiScaffold.Proofs.Disk.Completed
import ApiScaffold.Proofs.Disk.Files
/-!
# What failed writes leave of staging

A write that fails removes what it has staged, but an artifact counts as staged only after the last
step that this takes: if one fails after the file has been made, the file is left. Once artifacts
are moved, a file is left also where a destination is the place at which another one was staged.
-/
namespace ApiScaffold

open Disk (Changes EndsInName HasFile Lasts Moves SameFiles placeOf)

namespace StagingStep

/-- The path of the file that has been made when the step begins. -/
def staged? : StagingStep → Option String
  | makeDirectories _ => none
  | create _ => none
  | write path _ => some path
  | flush path => some path
  | setMode path _ => some path

private theorem lasts_run (step : StagingStep) : Stateful.Keeps Lasts step.run := by
  cases step with
  | makeDirectories path => exact Disk.lasts_makeDirectories path
  | create path => exact Disk.lasts_create path
  | write path => exact Disk.lasts_change path _
  | flush path => exact Disk.lasts_change path _
  | setMode path => exact Disk.lasts_change path _

private theorem sameFiles_run {step : StagingStep} {path : String} (h : step.staged? = some path) :
    Stateful.Keeps SameFiles step.run := by
  cases step with
  | makeDirectories => cases h
  | create => cases h
  | write => exact Disk.sameFiles_change fun _ _ => ⟨_, _, rfl⟩
  | flush => exact Disk.sameFiles_change fun _ _ => ⟨_, _, rfl⟩
  | setMode => exact Disk.sameFiles_change fun _ _ => ⟨_, _, rfl⟩

end StagingStep

/-- The path of the file that has been made for the artifact that could not be staged. -/
def OutputFault.unfinished? : OutputFault → Option String
  | .notStaged step _ => step.staged?
  | _ => none

namespace Staging

def stagingPlaces (home : Place) (destinations : List String) : List Place :=
  (destinations.map stagingPath).map (placeOf home)

section

variable {home place : Place} {destination : String} {rest : List String}

private theorem mem_stagingPlaces_cons :
    place ∈ stagingPlaces home (destination :: rest) ↔
      place = placeOf home (stagingPath destination) ∨ place ∈ stagingPlaces home rest :=
  List.mem_cons

private theorem mem_stagingPlaces_append {before after : List String} :
    place ∈ stagingPlaces home (before ++ after) ↔
      place ∈ stagingPlaces home before ∨ place ∈ stagingPlaces home after := by
  simp [stagingPlaces]

end

/-! ## Staging one artifact -/

variable {place : Place}

private theorem hasFile_of_perform_create {path : String} {rest : List StagingStep} {d d' : Disk}
    {fault : OutputFault} (staged : ∀ step ∈ rest, step.staged? = some path)
    (h : (perform (.create path :: rest)).run.run d = (.error fault, d')) :
    d'.HasFile place ↔
      fault.unfinished?.map (placeOf d.home) = some place ∨ d.HasFile place := by
  have creating := Disk.attempted_create (d := d) path
  rcases perform_cons_eq_error h with ⟨cause, failed, rfl⟩ | ⟨d₁, created, h⟩
  · rw [(creating.of_error failed).hasFile_iff]
    simp [OutputFault.unfinished?, StagingStep.staged?]
  · obtain ⟨⟨mode, sets⟩, -, -⟩ := creating.of_ok created
    obtain ⟨step, member, cause, rfl⟩ := fault_of_perform h
    have keeps : Stateful.Keeps SameFiles (perform rest) :=
      keeps_perform SameFiles.refl SameFiles.trans fun step member =>
        step.sameFiles_run (staged step member)
    rw [keeps.of_run_eq h place, OutputFault.unfinished?, staged step member, Option.map_some,
      Option.some_inj]
    by_cases here : place = placeOf d.home path
    · subst here
      exact iff_of_true ⟨_, _, sets.there⟩ (.inl rfl)
    · rw [Disk.hasFile_congr (sets.elsewhere here), or_iff_right (Ne.symm here)]

private theorem steps_eq (a : Artifact) (destination : String) :
    ∃ rest, steps a destination =
        (Path.parent? destination).toList.map .makeDirectories ++
          .create (stagingPath destination) :: rest ∧
      ∀ step ∈ rest, step.staged? = some (stagingPath destination) := by
  refine ⟨.write (stagingPath destination) a.content :: .flush (stagingPath destination) ::
    a.mode.toList.map (.setMode (stagingPath destination)), ?_, ?_⟩
  · simp [steps]
  · simp [StagingStep.staged?]

private theorem hasFile_of_perform_error {a : Artifact} {destination : String} {d d' : Disk}
    {fault : OutputFault} (h : (perform (steps a destination)).run.run d = (.error fault, d')) :
    d'.HasFile place ↔
      fault.unfinished?.map (placeOf d.home) = some place ∨ d.HasFile place := by
  obtain ⟨rest, parts, staged⟩ := steps_eq a destination
  rw [parts] at h
  cases above : Path.parent? destination with
  | none =>
    rw [above] at h
    exact hasFile_of_perform_create staged h
  | some parent =>
    rw [above] at h
    rcases perform_cons_eq_error h with ⟨cause, failed, rfl⟩ | ⟨d₁, made, h⟩
    · rw [(Disk.sameFiles_makeDirectories parent).of_run_eq failed place]
      simp [OutputFault.unfinished?, StagingStep.staged?]
    · rw [hasFile_of_perform_create staged h,
        ((Disk.keeps_makeDirectories parent).of_run_eq made).home,
        (Disk.sameFiles_makeDirectories parent).of_run_eq made place]

private theorem hasFile_of_perform {a : Artifact} {destination : String} {d d' : Disk}
    (h : (perform (steps a destination)).run.run d = (.ok (), d')) :
    d'.HasFile place ↔ place = placeOf d.home (stagingPath destination) ∨ d.HasFile place := by
  have changes := (keeps_perform Changes.refl Changes.trans (keeps_step a destination)).of_run_eq h
  by_cases here : place = placeOf d.home (stagingPath destination)
  · subst here
    refine iff_of_true (Disk.hasFile_iff_isSome.mpr ?_) (.inl rfl)
    rw [content?_of_perform h]
    rfl
  · rw [changes.hasFile_iff (by simpa using here), or_iff_right here]

private theorem lasts_perform (steps : List StagingStep) : Stateful.Keeps Lasts (perform steps) :=
  keeps_perform Lasts.refl Lasts.trans fun step _ => step.lasts_run

private theorem endsInName_of_perform {a : Artifact} {destination : String} {d d' : Disk}
    (h : (perform (steps a destination)).run.run d = (.ok (), d')) :
    d'.EndsInName (stagingPath destination) := by
  obtain ⟨d₁, -, h⟩ := perform_steps_eq_ok h
  obtain ⟨d₂, created, h⟩ := perform_cons_eq_ok h
  obtain ⟨-, -, led⟩ := (Disk.attempted_create _).of_ok created
  have first := (Disk.lasts_create _).of_run_eq created
  exact (first.trans ((lasts_perform _).of_run_eq h)).endsInName led

/-! ## Removing what is staged -/

private theorem run_discard_cons (destination : String) (rest : List String) (s : Logged Disk) :
    ∃ warnings, (discard (destination :: rest)).run.run s =
      (discard rest).run.run
        ⟨((Disk.remove (stagingPath destination)).run.run s.state).2, warnings⟩ := by
  rw [discard, Stateful.run_bind_ok (run_attempt ..), Disk.act_remove]
  cases ((Disk.remove (stagingPath destination)).run.run s.state).1 with
  | ok => exact ⟨_, rfl⟩
  | error cause => exact ⟨_, rfl⟩

private theorem hasFile_of_discard {destinations : List String} {s t : Logged Disk}
    (h : (discard destinations).run.run s = (.ok (), t)) (removable : s.state.Removable)
    (staged : ∀ path ∈ destinations, s.state.EndsInName (stagingPath path)) :
    t.state.HasFile place ↔
      s.state.HasFile place ∧ place ∉ stagingPlaces s.state.home destinations := by
  induction destinations generalizing s with
  | nil =>
    cases h
    exact (and_iff_left List.not_mem_nil).symm
  | cons destination rest ih =>
    obtain ⟨warnings, next⟩ := run_discard_cons destination rest s
    obtain ⟨first, others⟩ := List.forall_mem_cons.mp staged
    have lasts := Disk.lasts_remove (stagingPath destination) s.state
    rw [next] at h
    have others := fun path member => lasts.endsInName (others path member)
    rw [ih h (lasts.removable removable) others, Disk.hasFile_of_remove removable first,
      lasts.directories.home, mem_stagingPlaces_cons, not_or, and_assoc]

/-! ## Staging all artifacts -/

private theorem lasts_of_stageAll {before : List String} {l : List (Artifact × String)}
    {s t : Logged Disk} (h : (stageAll before l).run.run s = (.ok (), t)) :
    Lasts s.state t.state :=
  (keeps_stageAll Lasts.refl Lasts.trans (fun _ _ step _ => step.lasts_run)
    fun _ _ => Disk.lasts_remove _).of_run_eq h

private theorem hasFile_of_stageAll {before : List String} {l : List (Artifact × String)}
    {s t : Logged Disk} (h : (stageAll before l).run.run s = (.ok (), t)) :
    t.state.HasFile place ↔
      place ∈ stagingPlaces s.state.home (l.map Prod.snd) ∨ s.state.HasFile place := by
  induction l generalizing before s with
  | nil =>
    cases h
    exact (or_iff_right List.not_mem_nil).symm
  | cons first rest ih =>
    obtain ⟨a, destination⟩ := first
    obtain ⟨d, performed, h⟩ := stageAll_cons_eq_ok h
    have home := ((lasts_perform _).of_run_eq performed).directories.home
    rw [ih h, hasFile_of_perform performed, home, List.map_cons, mem_stagingPlaces_cons]
    tauto

private theorem endsInName_of_stageAll {before : List String} {l : List (Artifact × String)}
    {s t : Logged Disk} (h : (stageAll before l).run.run s = (.ok (), t)) :
    ∀ path ∈ l.map Prod.snd, t.state.EndsInName (stagingPath path) := by
  induction l generalizing before s with
  | nil => exact List.forall_mem_nil _
  | cons first rest ih =>
    obtain ⟨a, destination⟩ := first
    obtain ⟨d, performed, h⟩ := stageAll_cons_eq_ok h
    have led := endsInName_of_perform performed
    exact List.forall_mem_cons.mpr ⟨(lasts_of_stageAll h).endsInName led, ih h⟩

/-! ## Moving staged artifacts -/

/-- Moves in this order bring a file to the place that none of the later ones takes away. -/
inductive Settles (home : Place) : List String → Place → Prop
  | here {destination : String} {rest : List String} :
      placeOf home destination ∉ stagingPlaces home rest →
        Settles home (destination :: rest) (placeOf home destination)
  | later {destination : String} {rest : List String} {place : Place} :
      Settles home rest place → Settles home (destination :: rest) place

private theorem settles_cons {home : Place} {destination : String} {rest : List String} :
    Settles home (destination :: rest) place ↔
      (place = placeOf home destination ∧ place ∉ stagingPlaces home rest) ∨
        Settles home rest place := by
  constructor
  · rintro (free | after)
    · exact .inl ⟨rfl, free⟩
    · exact .inr after
  · rintro (⟨rfl, free⟩ | after)
    · exact .here free
    · exact .later after

private theorem stagingPlace_ne {d : Disk} {path : String} (led : d.EndsInName path) :
    placeOf d.home (stagingPath path) ≠ placeOf d.home path := by
  obtain ⟨parent, name, led⟩ := led
  have suffixed : placeOf d.home (stagingPath path) = parent ++ [name ++ stagingSuffix] :=
    Disk.placeOf_append_of_spot led (by decide) (by decide)
  rw [suffixed, ← Disk.place_of_spot led]
  exact (ne_suffixed parent name).symm

/-- Moved artifacts have files unless these were moved on, and none of the old ones is left where
something was staged. -/
theorem hasFile_of_moveAll {destinations : List String} {s t : Logged Disk}
    (h : (moveAll destinations).run.run s = (.ok (), t)) :
    t.state.HasFile place ↔
      Settles s.state.home destinations place ∨
        place ∉ stagingPlaces s.state.home destinations ∧ s.state.HasFile place := by
  induction destinations generalizing s with
  | nil =>
    cases h
    constructor
    · exact fun there => .inr ⟨List.not_mem_nil, there⟩
    · rintro (settles | ⟨-, there⟩)
      · cases settles
      · exact there
  | cons destination rest ih =>
    obtain ⟨d, done, led, h⟩ := moveAll_cons_eq_ok h
    rw [ih h, done.home, done.hasFile_iff (stagingPlace_ne led), settles_cons,
      mem_stagingPlaces_cons]
    tauto

private theorem lasts_of_moveAll {destinations : List String} {s t : Logged Disk}
    (h : (moveAll destinations).run.run s = (.ok (), t)) : Lasts s.state t.state :=
  (keeps_moveAll Lasts.refl Lasts.trans (fun _ _ => Disk.lasts_move _ _)
    fun _ _ => Disk.lasts_remove _).of_run_eq h

/-! ## Failed writes -/

/-- How far a write comes before it fails, and what it does then. In the phase in which it fails it
is done with some artifacts, and the failure is that of the first of the others. -/
inductive Fails (root : String) (artifacts : List Artifact) (s t : Logged Disk) :
    OutputFault → List (Artifact × String) → List (Artifact × String) → Prop
  | outside {fault : OutputFault} :
      t = s → artifacts.mapM (destination root) = .error fault →
      Fails root artifacts s t fault [] (targets root artifacts)
  | staging {staged rest : List (Artifact × String)} {a : Artifact} {destination : String}
      {u : Logged Disk} {d : Disk} {fault : OutputFault} :
      targets root artifacts = staged ++ (a, destination) :: rest →
      (stageAll [] staged).run.run s = (.ok (), u) →
      (perform (steps a destination)).run.run u.state = (.error fault, d) →
      (discard (staged.map Prod.snd)).run.run ⟨d, u.warnings⟩ = (.ok (), t) →
      Fails root artifacts s t fault staged ((a, destination) :: rest)
  | moving {moved rest : List (Artifact × String)} {a : Artifact} {destination : String}
      {u v : Logged Disk} {d : Disk} {cause : DiskFault} :
      targets root artifacts = moved ++ (a, destination) :: rest →
      (stageAll [] (targets root artifacts)).run.run s = (.ok (), u) →
      (moveAll (moved.map Prod.snd)).run.run u = (.ok (), v) →
      (Disk.move (stagingPath destination) destination).run.run v.state = (.error cause, d) →
      (discard (destination :: rest.map Prod.snd)).run.run ⟨d, v.warnings⟩ = (.ok (), t) →
      Fails root artifacts s t (.notMoved destination cause) moved ((a, destination) :: rest)

private theorem write_eq_error {root : String} {artifacts : List Artifact} {s t : Logged Disk}
    {fault : OutputFault} (h : (write root artifacts).run.run s = (.error fault, t)) :
    ∃ before after, Fails root artifacts s t fault before after := by
  rw [run_write] at h
  split at h
  next outside =>
    cases h
    exact ⟨[], _, .outside rfl outside⟩
  next =>
    rcases staged : (stageAll [] (targets root artifacts)).run.run s with ⟨fault' | _, u⟩
    · rw [Stateful.run_bind_error staged] at h
      cases h
      obtain ⟨before, a, destination, rest, u, d, parts, all, failed, discarded⟩ :=
        stageAll_eq_error staged
      exact ⟨before, _, .staging parts all failed discarded⟩
    · rw [Stateful.run_bind_ok staged] at h
      rcases moves : (moveAll ((targets root artifacts).map Prod.snd)).run.run u with
        ⟨fault' | _, v⟩
      · rw [Stateful.run_bind_error moves] at h
        cases h
        obtain ⟨moved, destination, rest, v, cause, d, paths, rfl, all, failed, discarded⟩ :=
          moveAll_eq_error moves
        obtain ⟨before, after, parts, rfl, later⟩ := List.map_eq_append_iff.mp paths
        obtain ⟨⟨a, path⟩, others, rfl, same, rfl⟩ := List.map_eq_cons_iff.mp later
        obtain rfl : path = destination := same
        exact ⟨before, _, .moving parts staged all failed discarded⟩
      · rw [Stateful.run_bind_ok moves] at h
        cases h

/-- A file is left at a place of staging: a step failed after the file had been made, or an artifact
was moved to there before a move failed. None is left where something is discarded. -/
inductive Leaves (home : Place) (fault : OutputFault) (before after : List String)
    (place : Place) : Prop
  | unfinished : fault.unfinished?.map (placeOf home) = some place →
      place ∉ stagingPlaces home before → Leaves home fault before after place
  | settled {destination : String} {cause : DiskFault} : fault = .notMoved destination cause →
      Settles home before place → place ∉ stagingPlaces home after →
      Leaves home fault before after place

private theorem fault_of_destinations {root : String} {artifacts : List Artifact}
    {fault : OutputFault}
    (h : artifacts.mapM (destination root) = .error fault) : ∃ path, fault = .outside path := by
  obtain ⟨_, a, _, -, -, refused⟩ := Outcome.faults_iff.mp ((Outcome.covers_mapM _ _).faults h)
  unfold destination at refused
  split at refused
  · cases refused
    exact ⟨a.path, rfl⟩
  · cases refused

private theorem hasFile_of_staging_error {staged : List (Artifact × String)} {a : Artifact}
    {destination : String} {s u t : Logged Disk} {d : Disk} {fault : OutputFault}
    (all : (stageAll [] staged).run.run s = (.ok (), u))
    (failed : (perform (steps a destination)).run.run u.state = (.error fault, d))
    (discarded : (discard (staged.map Prod.snd)).run.run ⟨d, u.warnings⟩ = (.ok (), t))
    (removable : s.state.Removable) (free : ¬ s.state.HasFile place) :
    t.state.HasFile place ↔
      fault.unfinished?.map (placeOf s.state.home) = some place ∧
        place ∉ stagingPlaces s.state.home (staged.map Prod.snd) := by
  have first := lasts_of_stageAll all
  have next := (lasts_perform _).of_run_eq failed
  have lasts := first.trans next
  have named : ∀ path ∈ staged.map Prod.snd, d.EndsInName (stagingPath path) :=
    fun path member => next.endsInName (endsInName_of_stageAll all path member)
  rw [hasFile_of_discard discarded (lasts.removable removable) named, lasts.directories.home,
    hasFile_of_perform_error failed, first.directories.home, hasFile_of_stageAll all]
  tauto

private theorem hasFile_of_move_error {moved : List String} {l : List (Artifact × String)}
    {destination : String} {rest : List String} {s u v t : Logged Disk} {d : Disk}
    {cause : DiskFault} (parts : l.map Prod.snd = moved ++ destination :: rest)
    (all : (stageAll [] l).run.run s = (.ok (), u))
    (moves : (moveAll moved).run.run u = (.ok (), v))
    (failed : (Disk.move (stagingPath destination) destination).run.run v.state = (.error cause, d))
    (discarded : (discard (destination :: rest)).run.run ⟨d, v.warnings⟩ = (.ok (), t))
    (removable : s.state.Removable)
    (member : place ∈ stagingPlaces s.state.home (l.map Prod.snd)) :
    t.state.HasFile place ↔
      Settles s.state.home moved place ∧
        place ∉ stagingPlaces s.state.home (destination :: rest) := by
  have first := lasts_of_stageAll all
  have later := (lasts_of_moveAll moves).trans ((Disk.lasts_move _ _).of_run_eq failed)
  have lasts := first.trans later
  have same := (Disk.attempted_move _ _).of_error failed
  have named : ∀ path ∈ destination :: rest, d.EndsInName (stagingPath path) := by
    refine fun path among => later.endsInName (endsInName_of_stageAll all path ?_)
    exact parts ▸ List.mem_append_right moved among
  rw [parts, mem_stagingPlaces_append] at member
  rw [hasFile_of_discard discarded (lasts.removable removable) named, lasts.directories.home,
    same.hasFile_iff, hasFile_of_moveAll moves, first.directories.home]
  tauto

private theorem Fails.hasFile_iff {root : String} {artifacts : List Artifact} {s t : Logged Disk}
    {fault : OutputFault} {before after : List (Artifact × String)}
    (h : Fails root artifacts s t fault before after) (removable : s.state.Removable)
    (member : place ∈ stagingPlaces s.state.home ((targets root artifacts).map Prod.snd))
    (free : ¬ s.state.HasFile place) :
    t.state.HasFile place ↔
      Leaves s.state.home fault (before.map Prod.snd) (after.map Prod.snd) place := by
  cases h with
  | outside same refused =>
    subst same
    obtain ⟨path, rfl⟩ := fault_of_destinations refused
    refine iff_of_false free ?_
    rintro (⟨⟨⟩, -⟩ | ⟨⟨⟩, -, -⟩)
  | staging parts all failed discarded =>
    rw [hasFile_of_staging_error all failed discarded removable free]
    obtain ⟨step, -, cause, rfl⟩ := fault_of_perform failed
    constructor
    · rintro ⟨unfinished, outside⟩
      exact .unfinished unfinished outside
    · rintro (⟨unfinished, outside⟩ | ⟨⟨⟩, -, -⟩)
      exact ⟨unfinished, outside⟩
  | moving parts all moves failed discarded =>
    have parts := congrArg (List.map Prod.snd) parts
    rw [List.map_append] at parts
    rw [hasFile_of_move_error parts all moves failed discarded removable member]
    constructor
    · rintro ⟨settles, outside⟩
      exact .settled rfl settles outside
    · rintro (⟨⟨⟩, -⟩ | ⟨-, settles, outside⟩)
      exact ⟨settles, outside⟩

/-- What a failed write leaves of staging, if no removal fails from outside. Where an artifact is
staged and there was no file, there is one exactly if a step failed that comes after the making of
it, or an artifact was moved there before a move failed. -/
theorem leaves_iff_of_write_error {root : String} {artifacts : List Artifact} {s t : Logged Disk}
    {fault : OutputFault} (h : (write root artifacts).run.run s = (.error fault, t))
    (removable : s.state.Removable) :
    ∃ before after, Fails root artifacts s t fault before after ∧
      ∀ x ∈ targets root artifacts,
        ¬ s.state.HasFile (placeOf s.state.home (stagingPath x.2)) →
          (t.state.HasFile (placeOf s.state.home (stagingPath x.2)) ↔
            Leaves s.state.home fault (before.map Prod.snd) (after.map Prod.snd)
              (placeOf s.state.home (stagingPath x.2))) := by
  obtain ⟨before, after, fails⟩ := write_eq_error h
  refine ⟨before, after, fails, fun x member free => ?_⟩
  have among : placeOf s.state.home (stagingPath x.2) ∈
      stagingPlaces s.state.home ((targets root artifacts).map Prod.snd) :=
    List.mem_map_of_mem (List.mem_map_of_mem (List.mem_map_of_mem member))
  exact fails.hasFile_iff removable among free

/-- Of two artifacts in one directory the second cannot be written once its file has been made. -/
def failingDisk : Disk :=
  { Disk.withHome ["work"] with mishaps := [false, false, false, false, false, false, true] }

def twoArtifacts : List Artifact := [⟨"a", "x", none⟩, ⟨"b", "y", none⟩]

theorem leaves_iff_of_write_error_unfinished :
    ∃ t, (write "out" twoArtifacts).run.run ⟨failingDisk, []⟩ =
        (.error (.notStaged (.write "out/b.servicegen-tmp" "y") .ioFailure), t) ∧
      failingDisk.Removable ∧
      ∃ before after,
        Fails "out" twoArtifacts ⟨failingDisk, []⟩ t
          (.notStaged (.write "out/b.servicegen-tmp" "y") .ioFailure) before after ∧
        ∀ x ∈ targets "out" twoArtifacts,
          ¬ failingDisk.HasFile (placeOf failingDisk.home (stagingPath x.2)) →
            (t.state.HasFile (placeOf failingDisk.home (stagingPath x.2)) ↔
              Leaves failingDisk.home (.notStaged (.write "out/b.servicegen-tmp" "y") .ioFailure)
                (before.map Prod.snd) (after.map Prod.snd)
                (placeOf failingDisk.home (stagingPath x.2))) := by
  have fails : ((write "out" twoArtifacts).run.run ⟨failingDisk, []⟩).1 =
      .error (.notStaged (.write "out/b.servicegen-tmp" "y") .ioFailure) := by decide +kernel
  have removable : failingDisk.Removable := by decide
  obtain ⟨t, ran⟩ := Stateful.exists_run_eq fails
  exact ⟨t, ran, removable, leaves_iff_of_write_error ran removable⟩

def Unstaged (root : String) (artifacts : List Artifact) (d d' : Disk) : Prop :=
  ∀ x ∈ targets root artifacts, d'.HasFile (placeOf d.home (stagingPath x.2)) →
    d.HasFile (placeOf d.home (stagingPath x.2))

instance (root : String) (artifacts : List Artifact) (d d' : Disk) :
    Decidable (Unstaged root artifacts d d') :=
  inferInstanceAs (Decidable (∀ x ∈ targets root artifacts, _ → _))

/-- The third of these cannot be moved to a directory. The second was moved by then to where the
first had been staged. -/
def overlappingArtifacts : List Artifact :=
  [⟨"a", "new", none⟩, ⟨"a.servicegen-tmp", "x", none⟩, ⟨"b", "y", none⟩]

theorem not_unstaged :
    (((write "out" twoArtifacts).run.run ⟨failingDisk, []⟩).1 =
        .error (.notStaged (.write "out/b.servicegen-tmp" "y") .ioFailure) ∧
      failingDisk.Removable ∧
      ¬ Unstaged "out" twoArtifacts failingDisk
        ((write "out" twoArtifacts).run.run ⟨failingDisk, []⟩).2.state) ∧
    (((write "out" overlappingArtifacts).run.run ⟨occupiedDisk, []⟩).1 =
        .error (.notMoved "out/b" .isADirectory) ∧
      occupiedDisk.Removable ∧
      ¬ Unstaged "out" overlappingArtifacts occupiedDisk
        ((write "out" overlappingArtifacts).run.run ⟨occupiedDisk, []⟩).2.state) := by
  decide +kernel

private theorem Settles.mem {home : Place} {destinations : List String}
    (h : Settles home destinations place) : place ∈ destinations.map (placeOf home) := by
  induction h with
  | here => exact List.mem_cons_self
  | later _ ih => exact List.mem_cons_of_mem _ ih

private theorem Fails.parts {root : String} {artifacts : List Artifact} {s t : Logged Disk}
    {fault : OutputFault} {before after : List (Artifact × String)}
    (h : Fails root artifacts s t fault before after) :
    targets root artifacts = before ++ after := by
  cases h with
  | outside => rfl
  | staging parts => exact parts
  | moving parts => exact parts

/-- Nothing new is left if no step fails once the staged file has been made, and no destination
leads to where an artifact is staged. -/
theorem unstaged_of_write_error {root : String} {artifacts : List Artifact} {s t : Logged Disk}
    {fault : OutputFault} (h : (write root artifacts).run.run s = (.error fault, t))
    (removable : s.state.Removable)
    (distinct : Distinct s.state.home ((targets root artifacts).map Prod.snd))
    (ended : fault.unfinished? = none) : Unstaged root artifacts s.state t.state := by
  obtain ⟨before, after, fails⟩ := write_eq_error h
  intro x member there
  by_contra free
  have path : x.2 ∈ (targets root artifacts).map Prod.snd := List.mem_map_of_mem member
  have among : placeOf s.state.home (stagingPath x.2) ∈
      stagingPlaces s.state.home ((targets root artifacts).map Prod.snd) :=
    List.mem_map_of_mem (List.mem_map_of_mem path)
  rcases (fails.hasFile_iff removable among free).mp there with ⟨unfinished, -⟩ | ⟨-, settles, -⟩
  · rw [ended] at unfinished
    cases unfinished
  · obtain ⟨other, moved, same⟩ := List.mem_map.mp settles.mem
    refine distinct.apart other ?_ x.2 path same
    rw [fails.parts, List.map_append]
    exact List.mem_append_left _ moved

end Staging

end ApiScaffold
