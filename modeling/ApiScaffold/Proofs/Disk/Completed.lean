import Mathlib.Data.List.Nodup
import ApiScaffold.Proofs.Disk.Writing
/-!
# Completed writes

A write that succeeds has moved every artifact from where it was staged to its destination. If no
destination leads to where another artifact is staged, the artifacts are at their destinations, and
of staging nothing remains but directories.
-/
namespace ApiScaffold

open Disk (Changes KeepsDirectories Moves placeOf)

namespace Staging

/-! ## Moves -/

theorem moveAll_cons_eq_ok {destination : String} {rest : List String} {s t : Logged Disk}
    (h : (moveAll (destination :: rest)).run.run s = (.ok (), t)) :
    ∃ d, Moves (placeOf s.state.home (stagingPath destination)) (placeOf s.state.home destination)
          s.state d ∧
        (∃ parent name, s.state.spot destination = .ok (.named parent name false)) ∧
        (moveAll rest).run.run ⟨d, s.warnings⟩ = (.ok (), t) := by
  have moving := Disk.attempted_move (d := s.state) (stagingPath destination) destination
  rw [run_moveAll_cons] at h
  rcases moves : (Disk.move (stagingPath destination) destination).run.run s.state with
    ⟨cause | _, d⟩
  all_goals rw [moves] at h
  · obtain ⟨_, failed, -⟩ := changes_of_failing (destination :: rest)
      (.notMoved destination cause) ⟨d, s.warnings⟩
    cases failed.symm.trans h
  · obtain ⟨done, led⟩ := moving.of_ok moves
    exact ⟨d, done, led, h⟩

private theorem changes_of_moveAll {destinations : List String} {s t : Logged Disk}
    (h : (moveAll destinations).run.run s = (.ok (), t)) :
    Changes (destinations.map stagingPath ++ destinations) [] s.state t.state ∧
      s.state.KeepsDirectories t.state := by
  induction destinations generalizing s with
  | nil =>
    cases h
    exact ⟨.refl _, .refl _⟩
  | cons destination rest ih =>
    obtain ⟨d, done, -, h⟩ := moveAll_cons_eq_ok h
    obtain ⟨changes, keeps⟩ := ih h
    refine ⟨.trans (done.changes.mono ?_ (List.Subset.refl _))
      (changes.mono ?_ (List.Subset.refl _)), done.keepsDirectories.trans keeps⟩
    · simp
    · grind

theorem ne_suffixed (parent : Place) (name : String) :
    parent ++ [name] ≠ parent ++ [name ++ stagingSuffix] := by
  intro same
  have longer := congrArg String.length (List.singleton_inj.mp (List.append_cancel_left same))
  rw [String.length_append] at longer
  have long : stagingSuffix.length ≠ 0 := by decide
  omega

/-- A destination to which something was moved is a name in a directory, and the artifact was staged
there under a longer name. -/
theorem places_of_moveAll {destinations : List String} {s t : Logged Disk}
    (h : (moveAll destinations).run.run s = (.ok (), t)) :
    ∀ path ∈ destinations, ∃ parent name, placeOf s.state.home path = parent ++ [name] ∧
      placeOf s.state.home (stagingPath path) = parent ++ [name ++ stagingSuffix] := by
  induction destinations generalizing s with
  | nil => exact List.forall_mem_nil _
  | cons destination rest ih =>
    obtain ⟨d, done, ⟨parent, name, led⟩, h⟩ := moveAll_cons_eq_ok h
    refine List.forall_mem_cons.mpr ⟨⟨parent, name, ?_, ?_⟩, done.home ▸ ih h⟩
    · exact (Disk.place_of_spot led).symm
    · exact Disk.placeOf_append_of_spot led (by decide) (by decide)

private theorem vacant_of_moveAll {destinations : List String} {s t : Logged Disk} {place : Place}
    (h : (moveAll destinations).run.run s = (.ok (), t)) (vacant : s.state.entry? place = none)
    (outside : place ∉ destinations.map (placeOf s.state.home)) :
    place ∉ (destinations.map stagingPath).map (placeOf s.state.home) := by
  induction destinations generalizing s with
  | nil => exact List.not_mem_nil
  | cons destination rest ih =>
    obtain ⟨d, done, -, h⟩ := moveAll_cons_eq_ok h
    have apart' := List.ne_of_not_mem_cons outside
    have outside := List.not_mem_of_not_mem_cons outside
    have apart : place ≠ placeOf s.state.home (stagingPath destination) := by
      rintro rfl
      obtain ⟨_, _, file, -⟩ := done.moved
      cases vacant.symm.trans file
    have later := ih h ((done.elsewhere apart apart').trans vacant) (done.home ▸ outside)
    exact List.not_mem_cons_of_ne_of_not_mem apart (done.home ▸ later)

/-- No destination leads to a place where another artifact is staged, however both are spelled. -/
def Clear (home : Place) (destinations : List String) : Prop :=
  ∀ path ∈ destinations, ∀ other ∈ destinations, path ≠ other →
    placeOf home path ≠ placeOf home (stagingPath other)

instance (home : Place) (destinations : List String) : Decidable (Clear home destinations) :=
  inferInstanceAs (Decidable (∀ path ∈ destinations, ∀ other ∈ destinations, _ → _))

/-- Whatever was moved was staged at a place of its own, as that is vacant after the move. -/
theorem staged_nodup_of_moveAll {destinations : List String} {s t : Logged Disk}
    (h : (moveAll destinations).run.run s = (.ok (), t))
    (apart : ∀ path ∈ destinations, ∀ other ∈ destinations,
      placeOf s.state.home path ≠ placeOf s.state.home (stagingPath other)) :
    ((destinations.map stagingPath).map (placeOf s.state.home)).Nodup := by
  induction destinations generalizing s with
  | nil => exact List.nodup_nil
  | cons destination rest ih =>
    obtain ⟨d, done, -, h⟩ := moveAll_cons_eq_ok h
    have home : d.home = s.state.home := done.home
    have first := apart destination List.mem_cons_self destination List.mem_cons_self
    have outside : placeOf d.home (stagingPath destination) ∉ rest.map (placeOf d.home) := by
      rw [home]
      intro among
      obtain ⟨path, member, same⟩ := List.mem_map.mp among
      exact apart path (List.mem_cons_of_mem _ member) destination List.mem_cons_self same
    have vacant : d.entry? (placeOf d.home (stagingPath destination)) = none := by
      rw [home]
      exact done.vacated first.symm
    refine List.nodup_cons.mpr ⟨home ▸ vacant_of_moveAll h vacant outside, home ▸ ih h ?_⟩
    intro path member other member'
    rw [home]
    exact apart path (List.mem_cons_of_mem _ member) other (List.mem_cons_of_mem _ member')

private theorem distinct_of_moveAll {destinations : List String} {s t : Logged Disk}
    (h : (moveAll destinations).run.run s = (.ok (), t))
    (clear : Clear s.state.home destinations) : Distinct s.state.home destinations := by
  have places := places_of_moveAll h
  have apart : ∀ path ∈ destinations, ∀ other ∈ destinations,
      placeOf s.state.home path ≠ placeOf s.state.home (stagingPath other) := by
    intro path member other member'
    by_cases own : path = other
    · subst own
      obtain ⟨parent, name, here, staged⟩ := places path member
      rw [here, staged]
      exact ne_suffixed parent name
    · exact clear path member other member' own
  have staged := staged_nodup_of_moveAll h apart
  have moved : (destinations.map (placeOf s.state.home)).Nodup := by
    rw [List.map_map] at staged
    -- Destinations at one place would have been staged at one place.
    refine List.Nodup.map_on (fun path member other member' same => ?_) (staged.of_map _)
    obtain ⟨parent, name, here, suffixed⟩ := places path member
    obtain ⟨parent', name', here', suffixed'⟩ := places other member'
    refine List.inj_on_of_nodup_map staged member member' ?_
    obtain ⟨rfl, last⟩ := List.append_inj' (here.symm.trans (same.trans here')) rfl
    cases last
    exact suffixed.trans suffixed'.symm
  rw [Distinct, List.map_append]
  refine List.nodup_append.mpr ⟨moved, staged, ?_⟩
  intro place among other among' same
  obtain ⟨path, member, rfl⟩ := List.mem_map.mp among
  rw [List.map_map] at among'
  obtain ⟨other, member', rfl⟩ := List.mem_map.mp among'
  exact apart path member other member' same

theorem Distinct.apart {home : Place} {destinations : List String}
    (h : Distinct home destinations) : ∀ path ∈ destinations, ∀ other ∈ destinations,
      placeOf home path ≠ placeOf home (stagingPath other) := by
  intro path member other member'
  rw [Distinct, List.map_append] at h
  have moved := List.mem_map_of_mem (f := placeOf home) member
  have staged := List.mem_map_of_mem (f := placeOf home)
    (List.mem_map_of_mem (f := stagingPath) member')
  exact (List.nodup_append.mp h).2.2 _ moved _ staged

private theorem read_of_moveAll {l : List (Artifact × String)} {s t : Logged Disk}
    (h : (moveAll (l.map Prod.snd)).run.run s = (.ok (), t))
    (distinct : Distinct s.state.home (l.map Prod.snd))
    (staged : ∀ x ∈ l,
      s.state.content? (placeOf s.state.home (stagingPath x.2)) = some x.1.content) :
    ∀ x ∈ l, t.state.read x.2 = .ok x.1.content ∧
      t.state.entry? (placeOf s.state.home (stagingPath x.2)) = none := by
  induction l generalizing s with
  | nil => exact List.forall_mem_nil _
  | cons first rest ih =>
    obtain ⟨a, destination⟩ := first
    obtain ⟨d, done, ⟨parent, name, led⟩, h⟩ := moveAll_cons_eq_ok h
    have home : d.home = s.state.home := done.home
    obtain ⟨first, staged⟩ := List.forall_mem_cons.mp staged
    have apart := distinct.apart destination List.mem_cons_self destination List.mem_cons_self
    have staged := distinct.staged_of_moves done staged
    obtain ⟨distinct, others⟩ := distinct.cons
    obtain ⟨changes, keeps⟩ := changes_of_moveAll h
    have outside {place : Place} (among : place ∈ ((rest.map Prod.snd).map stagingPath ++
        rest.map Prod.snd).map (placeOf s.state.home)) :
        place ≠ placeOf s.state.home destination ∧
          place ≠ placeOf s.state.home (stagingPath destination) := by
      obtain ⟨path, member, rfl⟩ := List.mem_map.mp among
      exact others path (List.mem_append.mpr (List.mem_append.mp member).symm)
    -- Later moves leave both places of this artifact as they are.
    have moved : t.state.content? (placeOf s.state.home destination) = some a.content := by
      refine changes.content?_eq (fun touched => ?_) (done.content? first)
      exact (outside (home ▸ touched)).1 rfl
    have vacated : t.state.entry? (placeOf s.state.home (stagingPath destination)) = none := by
      refine (changes.entry?_eq (fun touched => ?_) List.not_mem_nil).trans
        (done.vacated apart.symm)
      exact (outside (home ▸ touched)).2 rfl
    refine List.forall_mem_cons.mpr ⟨⟨?_, vacated⟩, home ▸ ih h (home ▸ distinct) (home ▸ staged)⟩
    have led' := (done.keepsDirectories.trans keeps).spot_eq_ok led
    refine Disk.read_of_content? destination led' ?_
    rw [← moved, ← Disk.place_of_spot led]
    rfl

/-! ## Writes -/

/-- What a write has done when it gives destinations: each artifact can be read at its own, and none
is left where it was staged. Other files are as they were, and there are no new ones. -/
structure Completed (root : String) (artifacts : List Artifact) (destinations : List String)
    (d d' : Disk) : Prop where
  named : destinations = artifacts.map fun a => Path.join root a.path
  home : d'.home = d.home
  reads : ∀ a ∈ artifacts, d'.read (Path.join root a.path) = .ok a.content
  unstaged : ∀ path ∈ destinations, d'.entry? (placeOf d.home (stagingPath path)) = none
  others {place : Place} {content : String} {mode : Nat} :
    place ∉ (destinations ++ destinations.map stagingPath).map (placeOf d.home) →
      (d'.entry? place = some (.file content mode) ↔ d.entry? place = some (.file content mode))

private theorem write_eq_ok {root : String} {artifacts : List Artifact} {s t : Logged Disk}
    {destinations : List String}
    (h : (write root artifacts).run.run s = (.ok destinations, t)) :
    destinations = (targets root artifacts).map Prod.snd ∧
      ∃ u, (stageAll [] (targets root artifacts)).run.run s = (.ok (), u) ∧
        (moveAll destinations).run.run u = (.ok (), t) := by
  rw [run_write] at h
  split at h
  next => cases h
  next =>
    rcases staged : (stageAll [] (targets root artifacts)).run.run s with ⟨fault | _, u⟩
    · rw [Stateful.run_bind_error staged] at h
      cases h
    · rw [Stateful.run_bind_ok staged] at h
      rcases moved : (moveAll ((targets root artifacts).map Prod.snd)).run.run u with ⟨fault | _, v⟩
      · rw [Stateful.run_bind_error moved] at h
        cases h
      · rw [Stateful.run_bind_ok moved] at h
        cases h
        exact ⟨rfl, u, rfl, moved⟩

/-- A write that succeeds has done all of it, unless a destination leads to where another artifact
is staged. That no two lead to the same place, and none to a place above another, need not be
assumed: else a move would have failed. -/
theorem completed_of_write {root : String} {artifacts : List Artifact} {s t : Logged Disk}
    {destinations : List String}
    (h : (write root artifacts).run.run s = (.ok destinations, t))
    (clear : Clear s.state.home destinations) :
    Completed root artifacts destinations s.state t.state := by
  obtain ⟨rfl, u, staged, moved⟩ := write_eq_ok h
  obtain ⟨staging, contents⟩ := content?_of_stageAll staged
  obtain ⟨moving, -⟩ := changes_of_moveAll moved
  have home : u.state.home = s.state.home := staging.home
  have distinct := distinct_of_moveAll moved (home ▸ clear)
  have nodup : ((targets root artifacts).map
      fun x => placeOf s.state.home (stagingPath x.2)).Nodup := by
    simpa [home, Function.comp_def] using distinct.staged
  have reads := read_of_moveAll moved distinct (home ▸ contents nodup)
  rw [home] at reads
  constructor
  case named => simp [targets]
  case home => exact moving.home.trans home
  case reads =>
    intro a member
    exact (reads (a, Path.join root a.path) (List.mem_map_of_mem member)).1
  case unstaged => exact List.forall_mem_map.mpr fun x member => (reads x member).2
  case others =>
    intro place content mode outside
    rw [List.map_append, List.mem_append, not_or] at outside
    have staged : place ∉ ((targets root artifacts).map (stagingPath ·.2)).map
        (placeOf s.state.home) := by
      simpa using outside.2
    have touched : place ∉ (((targets root artifacts).map Prod.snd).map stagingPath ++
        (targets root artifacts).map Prod.snd).map (placeOf u.state.home) := by
      rw [home, List.map_append, List.mem_append, not_or]
      exact outside.symm
    exact (moving.file_iff touched).trans (staging.file_iff staged)

def writtenDisk : Disk :=
  { Disk.withHome ["work"] with
    entries := [(["work", "out", "a"], .file "old" 0o600), (["work", "out"], .directory),
      (["work", "notes"], .file "kept" 0o644), (["work"], .directory)] }

/-- The first of these replaces a file, the second needs a directory. -/
def replacingArtifacts : List Artifact := [⟨"a", "new", none⟩, ⟨"b/c", "x", some 0o755⟩]

theorem completed_of_write_replacing :
    ∃ t, (write "out" replacingArtifacts).run.run ⟨writtenDisk, []⟩ =
        (.ok ["out/a", "out/b/c"], t) ∧
      Clear writtenDisk.home ["out/a", "out/b/c"] ∧
      Completed "out" replacingArtifacts ["out/a", "out/b/c"] writtenDisk t.state := by
  have succeeds : ((write "out" replacingArtifacts).run.run ⟨writtenDisk, []⟩).1 =
      .ok ["out/a", "out/b/c"] := by decide +kernel
  have clear : Clear writtenDisk.home ["out/a", "out/b/c"] := by decide +kernel
  obtain ⟨t, ran⟩ := Stateful.exists_run_eq succeeds
  exact ⟨t, ran, clear, completed_of_write ran clear⟩

/-- What is moved to where another artifact is staged goes on to the destination of that one. -/
example :
    ((write "out" [⟨"a.servicegen-tmp", "x", none⟩, ⟨"a", "y", none⟩]).run.run
      ⟨writtenDisk, []⟩).2.state.read "out/a" = .ok "x" := by
  decide +kernel

end Staging

end ApiScaffold
