import ApiScaffold.Proofs.Disk.Operations
/-!
# Which files there are

Making directories makes no file, and nothing but a removal or a move takes one away. Directories
stay under all operations, so a path that once led to a name still does, and a file under it is
removed unless the removal fails from outside.
-/
namespace ApiScaffold

namespace Disk

def HasFile (d : Disk) (place : Place) : Prop :=
  ∃ content mode, d.entry? place = some (.file content mode)

theorem hasFile_iff_isSome {d : Disk} {place : Place} :
    d.HasFile place ↔ (d.content? place).isSome := by
  unfold HasFile content?
  split
  next lies => simp [lies]
  next noFile => simpa using noFile

instance (d : Disk) (place : Place) : Decidable (d.HasFile place) :=
  decidable_of_iff _ hasFile_iff_isSome.symm

variable {d d' : Disk} {place : Place}

theorem hasFile_congr (same : d'.entry? place = d.entry? place) :
    d'.HasFile place ↔ d.HasFile place := by
  unfold HasFile
  rw [same]

theorem Changes.hasFile_iff {touched made : List String} (h : Changes touched made d d')
    (outside : place ∉ touched.map (placeOf d.home)) : d'.HasFile place ↔ d.HasFile place :=
  exists₂_congr fun _ _ => h.file_iff outside

theorem Same.hasFile_iff (h : d.Same d') : d'.HasFile place ↔ d.HasFile place :=
  hasFile_congr (h.entry_eq place)

private theorem Same.symm (h : d.Same d') : d'.Same d := ⟨h.home.symm, h.entries.symm⟩

theorem Moves.hasFile_iff {source target : Place} (h : Moves source target d d')
    (apart : source ≠ target) :
    d'.HasFile place ↔ place = target ∨ place ≠ source ∧ d.HasFile place := by
  obtain ⟨content, mode, -, there⟩ := h.moved
  by_cases new : place = target
  · subst new
    exact iff_of_true ⟨content, mode, there⟩ (.inl rfl)
  · by_cases old : place = source
    · subst old
      simp [HasFile, h.vacated apart, new]
    · simp [hasFile_congr (h.elsewhere old new), old, new]

/-- The same files are there, whatever they hold. -/
def SameFiles (d d' : Disk) : Prop := ∀ place, d'.HasFile place ↔ d.HasFile place

namespace SameFiles

variable {d'' : Disk}

theorem refl (d : Disk) : SameFiles d d := fun _ => .rfl

theorem trans (h : SameFiles d d') (h' : SameFiles d' d'') : SameFiles d d'' :=
  fun place => (h' place).trans (h place)

end SameFiles

theorem sameFiles_makeDirectories (path : String) :
    Stateful.Keeps SameFiles (makeDirectories path) :=
  fun d _ => (keeps_makeDirectories path d).hasFile_iff List.not_mem_nil

theorem sameFiles_change {path : String} {f : String → Nat → Entry}
    (files : ∀ content mode, ∃ content' mode', f content mode = .file content' mode') :
    Stateful.Keeps SameFiles (change path f) := by
  intro d place
  have changing := attempted_change (d := d) path f
  rcases ran : (change path f).run.run d with ⟨fault | _, d'⟩
  · exact (changing.of_error ran).hasFile_iff
  · obtain ⟨content, mode, lies, sets⟩ := changing.of_ok ran
    by_cases here : place = placeOf d.home path
    · subst here
      obtain ⟨content', mode', file⟩ := files content mode
      exact iff_of_true ⟨content', mode', sets.there.trans (congrArg some file)⟩
        ⟨content, mode, lies⟩
    · exact hasFile_congr (sets.elsewhere here)

/-! ## What lasts -/

def EndsInName (d : Disk) (path : String) : Prop :=
  ∃ parent name, d.spot path = .ok (.named parent name false)

def Removable (d : Disk) : Prop := ∀ fails ∈ d.failedRemovals, fails = false

instance (d : Disk) : Decidable d.Removable :=
  decidable_of_iff (d.failedRemovals.all (! ·) = true) (by simp [Removable])

def Spends (d d' : Disk) : Prop := d'.failedRemovals <:+ d.failedRemovals

/-- What once leads to a name in a directory still does, and what can be removed still can. -/
structure Lasts (d d' : Disk) : Prop where
  directories : d.KeepsDirectories d'
  spends : Spends d d'

namespace Lasts

variable {d'' : Disk}

theorem refl (d : Disk) : Lasts d d := ⟨.refl d, List.suffix_rfl⟩

theorem trans (h : Lasts d d') (h' : Lasts d' d'') : Lasts d d'' :=
  ⟨h.directories.trans h'.directories, List.IsSuffix.trans h'.spends h.spends⟩

theorem removable (h : Lasts d d') (removable : d.Removable) : d'.Removable :=
  fun fails member => removable fails (List.IsSuffix.subset h.spends member)

theorem endsInName {path : String} (h : Lasts d d') (led : d.EndsInName path) :
    d'.EndsInName path := by
  obtain ⟨parent, name, led⟩ := led
  exact ⟨parent, name, h.directories.spot_eq_ok led⟩

end Lasts

private theorem Sets.keepsDirectories {entry : Option Entry} (h : Sets place entry d d')
    (vacant : d.entry? place ≠ some .directory) : d.KeepsDirectories d' where
  home := h.home
  directory {other} lies := by
    have apart : other ≠ place := by
      rintro rfl
      exact vacant lies
    rw [h.elsewhere apart, lies]

private theorem ne_directory_of_file {content : String} {mode : Nat}
    (h : d.entry? place = some (.file content mode)) : d.entry? place ≠ some .directory := by
  simp [h]

private theorem Attempted.keepsDirectories {after : Disk → Prop}
    {outcome : Except DiskFault Unit × Disk}
    (h : Attempted d after outcome) (done : ∀ d', after d' → d.KeepsDirectories d') :
    d.KeepsDirectories outcome.2 := by
  cases h with
  | failed same => exact same.symm.keepsDirectories
  | done change => exact done _ change

private theorem spends_chance : Stateful.Keeps Spends chance := by
  intro d
  unfold chance
  rw [Stateful.run_bind_ok (Stateful.run_get d)]
  split
  · exact List.suffix_rfl
  next fails mishaps _ =>
    rw [Stateful.run_bind_ok (Stateful.run_set ..)]
    cases fails <;> exact List.suffix_rfl

private theorem spends_removalChance : Stateful.Keeps Spends removalChance := by
  intro d
  unfold removalChance
  rw [Stateful.run_bind_ok (Stateful.run_get d)]
  split
  · exact List.suffix_rfl
  next fails failedRemovals listed =>
    rw [Stateful.run_bind_ok (Stateful.run_set ..)]
    have fewer : failedRemovals <:+ d.failedRemovals := listed ▸ List.suffix_cons ..
    cases fails <;> exact fewer

private theorem spends_looking {first : OnDisk Unit} {f : Disk → OnDisk Unit}
    (before : Stateful.Keeps Spends first) (rest : ∀ d, Spends d ((f d).run.run d).2) :
    Stateful.Keeps Spends (do first; f (← get)) := by
  refine before.bind (fun h h' => List.IsSuffix.trans h' h) fun _ d => ?_
  rw [Stateful.run_bind_ok (Stateful.run_get d)]
  exact rest d

private theorem spends_lift {α : Type} {x : Except DiskFault α} {f : α → OnDisk Unit}
    (rest : ∀ a, Spends d ((f a).run.run d).2) : Spends d ((liftM x >>= f).run.run d).2 := by
  cases x with
  | error fault =>
    rw [Stateful.run_bind_error (Stateful.run_lift ..)]
    exact List.suffix_rfl
  | ok a =>
    rw [Stateful.run_bind_ok (Stateful.run_lift ..)]
    exact rest a

private theorem lasts_makeDirectory (path : String) :
    Stateful.Keeps Lasts (makeDirectory path) := by
  intro d
  constructor
  case directories =>
    refine (attempted_makeDirectory path).keepsDirectories fun d' ⟨free, sets⟩ => ?_
    exact sets.keepsDirectories (by simp [free])
  case spends =>
    refine spends_looking spends_chance (fun d => spends_lift fun spot => ?_) d
    cases spot with
    | directory => exact List.suffix_rfl
    | named parent name slash =>
      dsimp only
      split <;> exact List.suffix_rfl

theorem lasts_makeDirectories (path : String) : Stateful.Keeps Lasts (makeDirectories path) :=
  keeps_makeDirectoriesWithin Lasts.refl Lasts.trans fun made _ => lasts_makeDirectory made

theorem lasts_create (path : String) : Stateful.Keeps Lasts (create path) := by
  intro d
  constructor
  case directories =>
    refine (attempted_create path).keepsDirectories fun d' ⟨⟨_, sets⟩, vacant, _⟩ => ?_
    exact sets.keepsDirectories vacant
  case spends =>
    refine spends_looking spends_chance (fun d => spends_lift fun spot => ?_) d
    cases spot with
    | directory => exact List.suffix_rfl
    | named parent name slash =>
      cases slash with
      | true => exact List.suffix_rfl
      | false =>
        dsimp only
        split <;> exact List.suffix_rfl

theorem lasts_change (path : String) (f : String → Nat → Entry) :
    Stateful.Keeps Lasts (change path f) := by
  intro d
  constructor
  case directories =>
    refine (attempted_change path f).keepsDirectories fun d' ⟨_, _, lies, sets⟩ => ?_
    exact sets.keepsDirectories (ne_directory_of_file lies)
  case spends =>
    refine spends_looking spends_chance (fun d => spends_lift fun (place, entry) => ?_) d
    cases entry <;> exact List.suffix_rfl

theorem lasts_move (path destination : String) : Stateful.Keeps Lasts (move path destination) := by
  intro d
  constructor
  case directories =>
    exact (attempted_move path destination).keepsDirectories fun d' done => done.1.keepsDirectories
  case spends =>
    refine spends_looking spends_chance (fun d => spends_lift fun source => ?_) d
    refine spends_lift fun target => ?_
    cases source with
    | directory => exact List.suffix_rfl
    | named parent name =>
      cases target with
      | directory => exact List.suffix_rfl
      | named parent' name' slash =>
        dsimp only
        split
        case h_4 => cases slash <;> exact List.suffix_rfl
        all_goals exact List.suffix_rfl

theorem lasts_remove (path : String) : Stateful.Keeps Lasts (remove path) := by
  intro d
  constructor
  case directories =>
    refine (attempted_remove path).keepsDirectories fun d' ⟨⟨_, _, lies⟩, sets⟩ => ?_
    exact sets.keepsDirectories (ne_directory_of_file lies)
  case spends =>
    refine spends_looking spends_removalChance (fun d => spends_lift fun (place, entry) => ?_) d
    cases entry <;> exact List.suffix_rfl

/-! ## Removals -/

private theorem run_removalChance_of_removable (removable : d.Removable) :
    ∃ d', removalChance.run.run d = (.ok (), d') := by
  unfold removalChance
  rw [Stateful.run_bind_ok (Stateful.run_get d)]
  split
  · exact ⟨_, rfl⟩
  next fails failedRemovals listed =>
    rw [Stateful.run_bind_ok (Stateful.run_set ..)]
    have spared : fails = false := removable fails (listed ▸ List.mem_cons_self)
    subst spared
    exact ⟨_, rfl⟩

private theorem exists_run_remove {path : String} (removable : d.Removable)
    (led : d.EndsInName path) (there : d.HasFile (placeOf d.home path)) :
    ∃ d', (remove path).run.run d = (.ok (), d') := by
  obtain ⟨parent, name, led⟩ := led
  obtain ⟨d₁, spared⟩ := run_removalChance_of_removable removable
  obtain ⟨content, mode, lies⟩ := there
  have same : d.Same d₁ := (attempted_removalChance d).of_ok spared
  have led' := same.symm.keepsDirectories.spot_eq_ok led
  rw [← place_of_spot led, Spot.place, ← same.entry_eq] at lies
  unfold remove
  rw [Stateful.run_bind_ok spared, Stateful.run_bind_ok (Stateful.run_get d₁),
    find_of_spot led' lies, Stateful.run_bind_ok (Stateful.run_lift ..)]
  exact ⟨_, rfl⟩

theorem hasFile_of_remove {path : String} (removable : d.Removable) (led : d.EndsInName path) :
    ((remove path).run.run d).2.HasFile place ↔
      d.HasFile place ∧ place ≠ placeOf d.home path := by
  have removing := attempted_remove (d := d) path
  by_cases there : d.HasFile (placeOf d.home path)
  · obtain ⟨d', ran⟩ := exists_run_remove removable led there
    obtain ⟨-, sets⟩ := removing.of_ok ran
    rw [ran]
    by_cases gone : place = placeOf d.home path
    · subst gone
      simp [HasFile, sets.there]
    · simp [hasFile_congr (sets.elsewhere gone), gone]
  · rcases ran : (remove path).run.run d with ⟨fault | _, d'⟩
    · rw [(removing.of_error ran).hasFile_iff]
      refine (and_iff_left_of_imp ?_).symm
      rintro lies rfl
      exact there lies
    · exact (there (removing.of_ok ran).1).elim

end Disk

end ApiScaffold
