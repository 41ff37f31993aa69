import ApiScaffold.Proofs.Disk.Places
import ApiScaffold.Proofs.Stateful
/-!
# What operations change

An operation that fails changes nothing. One that succeeds changes what lies at the places that
its paths lead to, and nothing else.
-/
namespace ApiScaffold

namespace Disk

/-! ## Single changes -/

structure Same (d d' : Disk) : Prop where
  home : d'.home = d.home
  entries : d'.entries = d.entries

theorem Same.entry_eq {d d' : Disk} (h : d.Same d') (place : Place) :
    d'.entry? place = d.entry? place := by
  unfold Disk.entry?
  rw [h.entries]

theorem Same.keepsDirectories {d d' : Disk} (h : d.Same d') : d'.KeepsDirectories d :=
  ⟨h.home.symm, fun lies => (h.entry_eq _).symm.trans lies⟩

structure Sets (place : Place) (entry : Option Entry) (d d' : Disk) : Prop where
  home : d'.home = d.home
  there : d'.entry? place = entry
  elsewhere {other : Place} : other ≠ place → d'.entry? other = d.entry? other

private theorem Same.sets_put {d d' : Disk} {place : Place} (h : d.Same d') (named : place ≠ [])
    (entry : Entry) : Sets place (some entry) d (d'.put place entry) where
  home := h.home
  there := by rw [entry?_put named, if_pos rfl]
  elsewhere different := by rw [entry?_put named, if_neg different, h.entry_eq]

private theorem Same.sets_erase {d d' : Disk} {place : Place} (h : d.Same d') (named : place ≠ []) :
    Sets place none d (d'.erase place) where
  home := h.home
  there := by rw [entry?_erase named, if_pos rfl]
  elsewhere different := by rw [entry?_erase named, if_neg different, h.entry_eq]

/-- An operation fails and changes nothing, or makes its change. -/
inductive Attempted (d : Disk) (after : Disk → Prop) : Except DiskFault Unit × Disk → Prop
  | failed {fault : DiskFault} {d' : Disk} : d.Same d' → Attempted d after (.error fault, d')
  | done {d' : Disk} : after d' → Attempted d after (.ok (), d')

theorem Attempted.of_ok {d d' : Disk} {after : Disk → Prop}
    {outcome : Except DiskFault Unit × Disk} (h : Attempted d after outcome)
    (ok : outcome = (.ok (), d')) : after d' := by
  cases h with
  | failed => cases ok
  | done change =>
    cases ok
    exact change

theorem Attempted.of_error {d d' : Disk} {after : Disk → Prop} {fault : DiskFault}
    {outcome : Except DiskFault Unit × Disk} (h : Attempted d after outcome)
    (error : outcome = (.error fault, d')) : d.Same d' := by
  cases h with
  | failed same =>
    cases error
    exact same
  | done => cases error

/-! ## Operations -/

variable (d : Disk) (path : String)

private theorem attempted_chance : Attempted d d.Same (chance.run.run d) := by
  unfold chance
  rw [Stateful.run_bind_ok (Stateful.run_get d)]
  split
  · exact .done ⟨rfl, rfl⟩
  next fails mishaps _ =>
    rw [Stateful.run_bind_ok (Stateful.run_set ..)]
    cases fails with
    | true => exact .failed ⟨rfl, rfl⟩
    | false => exact .done ⟨rfl, rfl⟩

theorem attempted_removalChance : Attempted d d.Same (removalChance.run.run d) := by
  unfold removalChance
  rw [Stateful.run_bind_ok (Stateful.run_get d)]
  split
  · exact .done ⟨rfl, rfl⟩
  next fails failedRemovals _ =>
    rw [Stateful.run_bind_ok (Stateful.run_set ..)]
    cases fails with
    | true => exact .failed ⟨rfl, rfl⟩
    | false => exact .done ⟨rfl, rfl⟩

variable {d} {after : Disk → Prop}

private theorem Attempted.bind {x f : OnDisk Unit} (first : Attempted d d.Same (x.run.run d))
    (rest : ∀ d', d.Same d' → Attempted d after (f.run.run d')) :
    Attempted d after ((do x; f).run.run d) := by
  rw [Stateful.run_bind]
  generalize x.run.run d = outcome at first
  cases first with
  | failed same => exact .failed same
  | done same => exact rest _ same

private theorem attempted_lift {α : Type} {d' : Disk} {x : Except DiskFault α} {f : α → OnDisk Unit}
    (same : d.Same d') (rest : ∀ a, x = .ok a → Attempted d after ((f a).run.run d')) :
    Attempted d after ((liftM x >>= f).run.run d') := by
  cases result : x with
  | error fault =>
    rw [Stateful.run_bind_error (Stateful.run_lift ..)]
    exact .failed same
  | ok a =>
    rw [Stateful.run_bind_ok (Stateful.run_lift ..)]
    exact rest a result

private theorem named_ne_nil (parent : Place) (name : String) : parent ++ [name] ≠ [] :=
  List.append_ne_nil_of_right_ne_nil parent (List.cons_ne_nil name [])

private theorem Same.place_of_spot {d' : Disk} {spot : Spot} (same : d.Same d')
    (led : d'.spot path = .ok spot) : spot.place = placeOf d.home path := by
  rw [Disk.place_of_spot led, same.home]

private theorem Same.file_of_find {d' : Disk} {place : Place} {content : String} {mode : Nat}
    (same : d.Same d') (found : d'.find path = .ok (place, .file content mode)) :
    place = placeOf d.home path ∧ place ≠ [] ∧ d.entry? place = some (.file content mode) := by
  obtain ⟨led, lies⟩ := entry?_of_find found
  exact ⟨same.home ▸ led, ne_nil_of_file lies, (same.entry_eq place).symm.trans lies⟩

theorem attempted_makeDirectory :
    Attempted d (fun d' => d.entry? (placeOf d.home path) = none ∧
      Sets (placeOf d.home path) (some .directory) d d') ((makeDirectory path).run.run d) := by
  refine (attempted_chance d).bind fun d' same => ?_
  rw [Stateful.run_bind_ok (Stateful.run_get d')]
  refine attempted_lift same fun spot led => ?_
  rw [← same.place_of_spot path led]
  cases spot with
  | directory => exact .failed same
  | named parent name slash =>
    dsimp only
    split
    · exact .failed same
    next free =>
      have free : d.entry? (parent ++ [name]) = none := (same.entry_eq _).symm.trans free
      exact .done ⟨free, same.sets_put (named_ne_nil parent name) _⟩

theorem attempted_create :
    Attempted d
      (fun d' => (∃ mode, Sets (placeOf d.home path) (some (.file "" mode)) d d') ∧
        d.entry? (placeOf d.home path) ≠ some .directory ∧
        ∃ parent name, d.spot path = .ok (.named parent name false))
      ((create path).run.run d) := by
  refine (attempted_chance d).bind fun d' same => ?_
  rw [Stateful.run_bind_ok (Stateful.run_get d')]
  refine attempted_lift same fun spot led => ?_
  rw [← same.place_of_spot path led]
  cases spot with
  | directory => exact .failed same
  | named parent name slash =>
    cases slash with
    | true => exact .failed same
    | false =>
      have led' := same.keepsDirectories.spot_eq_ok led
      rw [Spot.place, ← same.entry_eq]
      dsimp only
      split
      · exact .failed same
      next lies =>
        refine .done ⟨⟨_, same.sets_put (named_ne_nil parent name) _⟩, ?_, parent, name, led'⟩
        simp [lies]
      next free =>
        refine .done ⟨⟨_, same.sets_put (named_ne_nil parent name) _⟩, ?_, parent, name, led'⟩
        simp [free]

theorem attempted_change (f : String → Nat → Entry) :
    Attempted d
      (fun d' => ∃ content mode, d.entry? (placeOf d.home path) = some (.file content mode) ∧
        Sets (placeOf d.home path) (some (f content mode)) d d')
      ((change path f).run.run d) := by
  refine (attempted_chance d).bind fun d' same => ?_
  rw [Stateful.run_bind_ok (Stateful.run_get d')]
  refine attempted_lift same fun (place, entry) found => ?_
  cases entry with
  | directory => exact .failed same
  | file content mode =>
    obtain ⟨rfl, named, lies⟩ := same.file_of_find path found
    exact .done ⟨content, mode, lies, same.sets_put named _⟩

def content? (d : Disk) (place : Place) : Option String :=
  match d.entry? place with
  | some (.file content _) => some content
  | _ => none

theorem content?_of_file {place : Place} {content : String} {mode : Nat}
    (h : d.entry? place = some (.file content mode)) : d.content? place = some content := by
  rw [content?, h]

theorem read_of_content? {parent : Place} {name content : String}
    (led : d.spot path = .ok (.named parent name false))
    (lies : d.content? (parent ++ [name]) = some content) : d.read path = .ok content := by
  unfold content? at lies
  split at lies
  next file =>
    cases lies
    exact read_of_spot led file
  next => cases lies

theorem content?_of_create {d' : Disk} (h : (create path).run.run d = (.ok (), d')) :
    d'.home = d.home ∧ d'.content? (placeOf d.home path) = some "" := by
  obtain ⟨⟨mode, sets⟩, -, -⟩ := (attempted_create path).of_ok h
  exact ⟨sets.home, content?_of_file sets.there⟩

theorem content?_of_change {f : String → Nat → Entry} {g : String → String} {d' : Disk}
    (keeps : ∀ content mode, ∃ mode', f content mode = .file (g content) mode')
    (h : (change path f).run.run d = (.ok (), d')) :
    d'.home = d.home ∧ ∃ content, d.content? (placeOf d.home path) = some content ∧
      d'.content? (placeOf d.home path) = some (g content) := by
  obtain ⟨content, mode, lies, sets⟩ := (attempted_change path f).of_ok h
  obtain ⟨mode', same⟩ := keeps content mode
  have there := sets.there
  rw [same] at there
  exact ⟨sets.home, content, content?_of_file lies, content?_of_file there⟩

theorem attempted_remove :
    Attempted d
      (fun d' => (∃ content mode, d.entry? (placeOf d.home path) = some (.file content mode)) ∧
        Sets (placeOf d.home path) none d d')
      ((remove path).run.run d) := by
  refine (attempted_removalChance d).bind fun d' same => ?_
  rw [Stateful.run_bind_ok (Stateful.run_get d')]
  refine attempted_lift same fun (place, entry) found => ?_
  cases entry with
  | directory => exact .failed same
  | file content mode =>
    obtain ⟨rfl, named, lies⟩ := same.file_of_find path found
    exact .done ⟨⟨content, mode, lies⟩, same.sets_erase named⟩

/-- A moved file lies at its new place, and no longer at the old one. -/
structure Moves (source target : Place) (d d' : Disk) : Prop where
  home : d'.home = d.home
  moved : ∃ content mode, d.entry? source = some (.file content mode) ∧
    d'.entry? target = some (.file content mode)
  vacant : d.entry? target ≠ some .directory
  vacated : source ≠ target → d'.entry? source = none
  elsewhere {other : Place} : other ≠ source → other ≠ target → d'.entry? other = d.entry? other

theorem Moves.content? {source target : Place} {d' : Disk} (h : Moves source target d d')
    {content : String} (lies : d.content? source = some content) :
    d'.content? target = some content := by
  obtain ⟨content', mode, before, after⟩ := h.moved
  rw [content?_of_file before] at lies
  rw [content?_of_file after, lies]

theorem Moves.content?_elsewhere {source target other : Place} {d' : Disk}
    (h : Moves source target d d') (apart : other ≠ source) (apart' : other ≠ target) :
    d'.content? other = d.content? other := by
  rw [Disk.content?, h.elsewhere apart apart']
  rfl

theorem Moves.keepsDirectories {source target : Place} {d' : Disk} (h : Moves source target d d') :
    d.KeepsDirectories d' where
  home := h.home
  directory {place} lies := by
    obtain ⟨content, mode, file, -⟩ := h.moved
    have apart : place ≠ source := by
      rintro rfl
      cases file.symm.trans lies
    have apart' : place ≠ target := by
      rintro rfl
      exact h.vacant lies
    rw [h.elsewhere apart apart', lies]

private theorem Same.moves {d' : Disk} {source target : Place} {content : String} {mode : Nat}
    (same : d.Same d') (named : target ≠ []) (lies : d'.entry? source = some (.file content mode))
    (vacant : d'.entry? target ≠ some .directory) :
    Moves source target d ((d'.erase source).put target (.file content mode)) where
  home := same.home
  moved := ⟨content, mode, same.entry_eq source ▸ lies, by rw [entry?_put named, if_pos rfl]⟩
  vacant := same.entry_eq target ▸ vacant
  vacated apart := by
    rw [entry?_put named, if_neg apart, entry?_erase (ne_nil_of_file lies), if_pos rfl]
  elsewhere apart apart' := by
    rw [entry?_put named, if_neg apart', entry?_erase (ne_nil_of_file lies), if_neg apart,
      same.entry_eq]

theorem attempted_move (destination : String) :
    Attempted d (fun d' => Moves (placeOf d.home path) (placeOf d.home destination) d d' ∧
        ∃ parent name, d.spot destination = .ok (.named parent name false))
      ((move path destination).run.run d) := by
  refine (attempted_chance d).bind fun d' same => ?_
  rw [Stateful.run_bind_ok (Stateful.run_get d')]
  refine attempted_lift same fun source led => ?_
  refine attempted_lift same fun target led' => ?_
  rw [← same.place_of_spot path led, ← same.place_of_spot destination led']
  cases source with
  | directory => exact .failed same
  | named parent name =>
    cases target with
    | directory => exact .failed same
    | named parent' name' slash =>
      dsimp only
      split
      · exact .failed same
      · exact .failed same
      · exact .failed same
      next content mode lies vacant =>
        cases slash with
        | true => exact .failed same
        | false =>
          have led'' := same.keepsDirectories.spot_eq_ok led'
          exact .done ⟨same.moves (named_ne_nil parent' name') lies vacant, parent', name', led''⟩

/-! ## Changes -/

/-- At most what lies where some paths lead is different, and there are new directories where
others lead to nothing. -/
structure Changes (touched made : List String) (d d' : Disk) : Prop where
  home : d'.home = d.home
  entries {place : Place} : place ∉ touched.map (placeOf d.home) →
    d'.entry? place = d.entry? place ∨
      place ∈ made.map (placeOf d.home) ∧ d.entry? place = none ∧
        d'.entry? place = some .directory

namespace Changes

variable {touched made : List String} {d d' d'' : Disk}

theorem refl (d : Disk) : Changes touched made d d := ⟨rfl, fun _ => .inl rfl⟩

theorem trans (h : Changes touched made d d') (h' : Changes touched made d' d'') :
    Changes touched made d d'' where
  home := h'.home.trans h.home
  entries outside := by
    have later := h'.entries (h.home ▸ outside)
    rcases h.entries outside with same | ⟨among, free, made⟩
    · rw [← same, ← h.home]
      exact later
    · rcases later with same | ⟨-, free', -⟩
      · exact .inr ⟨among, free, same.trans made⟩
      · cases made.symm.trans free'

theorem mono {touched' made' : List String} (h : Changes touched made d d')
    (ht : touched ⊆ touched') (hm : made ⊆ made') : Changes touched' made' d d' where
  home := h.home
  entries outside := by
    have outside := fun among => outside (List.map_subset _ ht among)
    exact (h.entries outside).imp_right fun made => ⟨List.map_subset _ hm made.1, made.2⟩

theorem entry?_eq (h : Changes touched made d d') {place : Place}
    (outside : place ∉ touched.map (placeOf d.home)) (old : place ∉ made.map (placeOf d.home)) :
    d'.entry? place = d.entry? place :=
  (h.entries outside).resolve_right fun new => old new.1

theorem file_iff (h : Changes touched made d d') {place : Place}
    (outside : place ∉ touched.map (placeOf d.home)) {content : String} {mode : Nat} :
    d'.entry? place = some (.file content mode) ↔ d.entry? place = some (.file content mode) := by
  rcases h.entries outside with same | ⟨-, free, made⟩
  · rw [same]
  · simp [free, made]

theorem content?_eq (h : Changes touched made d d') {place : Place} {content : String}
    (outside : place ∉ touched.map (placeOf d.home)) (lies : d.content? place = some content) :
    d'.content? place = some content := by
  rcases h.entries outside with same | ⟨-, free, -⟩
  · rw [content?, same]
    exact lies
  · rw [content?, free] at lies
    cases lies

end Changes

theorem Same.changes {touched made : List String} {d d' : Disk} (h : d.Same d') :
    Changes touched made d d' := ⟨h.home, fun _ => .inl (h.entry_eq _)⟩

private theorem Attempted.changes {touched made : List String} {d : Disk} {after : Disk → Prop}
    {outcome : Except DiskFault Unit × Disk} (h : Attempted d after outcome)
    (done : ∀ d', after d' → Changes touched made d d') : Changes touched made d outcome.2 := by
  cases h with
  | failed same => exact same.changes
  | done change => exact done _ change

private theorem Sets.changes {path : String} {entry : Option Entry} {d d' : Disk}
    (h : Sets (placeOf d.home path) entry d d') : Changes [path] [] d d' where
  home := h.home
  entries outside := .inl (h.elsewhere (by simpa using outside))

theorem Moves.changes {path destination : String} {d d' : Disk}
    (h : Moves (placeOf d.home path) (placeOf d.home destination) d d') :
    Changes [path, destination] [] d d' where
  home := h.home
  entries outside := by
    obtain ⟨apart, apart'⟩ : _ ≠ placeOf d.home path ∧ _ ≠ placeOf d.home destination := by
      simpa using outside
    exact .inl (h.elsewhere apart apart')

theorem keeps_create (path : String) : Stateful.Keeps (Changes [path] []) (create path) :=
  fun _ => (attempted_create path).changes fun _ ⟨⟨_, sets⟩, _⟩ => sets.changes

theorem keeps_change (path : String) (f : String → Nat → Entry) :
    Stateful.Keeps (Changes [path] []) (change path f) :=
  fun _ => (attempted_change path f).changes fun _ ⟨_, _, _, sets⟩ => sets.changes

theorem keeps_remove (path : String) : Stateful.Keeps (Changes [path] []) (remove path) :=
  fun _ => (attempted_remove path).changes fun _ ⟨_, sets⟩ => sets.changes

private theorem keeps_makeDirectory (path : String) :
    Stateful.Keeps (Changes [] [path]) (makeDirectory path) := by
  intro d
  refine (attempted_makeDirectory path).changes fun d' ⟨free, sets⟩ => ⟨sets.home, ?_⟩
  intro place _
  by_cases same : place = placeOf d.home path
  · rw [same]
    exact .inr ⟨List.mem_singleton_self _, free, sets.there⟩
  · exact .inl (sets.elsewhere same)

theorem act_move (path destination : String) :
    (Storage.act (.move path destination) : OnDisk Unit) = move path destination := rfl

theorem act_remove (path : String) :
    (Storage.act (.remove path) : OnDisk Unit) = remove path := rfl

/-- The path with up to `n - 1` paths above it. -/
def lineage : Nat → String → List String
  | 0, _ => []
  | n + 1, path => path :: (Path.parent? path).elim [] (lineage n)

/-- What making each of these paths keeps to is kept to by making them all. -/
theorem keeps_makeDirectoriesWithin {σ : Type} [Storage σ] {R : σ → σ → Prop} (refl : ∀ s, R s s)
    (trans : ∀ {s t u}, R s t → R t u → R s u) {n : Nat} {path : String}
    (h : ∀ made ∈ lineage n path, Stateful.Keeps R (Storage.act (.makeDirectory made))) :
    Stateful.Keeps R (makeDirectoriesWithin n path) := by
  induction n generalizing path with
  | zero => exact refl
  | succ n ih =>
    have make : Stateful.Keeps R (Storage.act (.makeDirectory path)) := h path List.mem_cons_self
    have check (fault : DiskFault) : Stateful.Keeps R
        (do if !Storage.isDirectory path (← get) then throw fault :
          ExceptT DiskFault (StateM σ) Unit) := by
      intro s
      rw [Stateful.run_bind_ok (Stateful.run_get s)]
      split
      · exact refl s
      · exact refl s
    -- If the directory cannot be made, those above it are made first, and then it is tried again.
    unfold makeDirectoriesWithin
    split
    · exact refl
    · refine make.tryCatch trans fun fault => ?_
      split
      · cases above : Path.parent? path with
        | none => exact refl
        | some parent =>
          have more : Stateful.Keeps R (makeDirectoriesWithin n parent) := by
            refine ih fun made member => h made ?_
            rw [lineage, above]
            exact List.mem_cons_of_mem _ member
          exact more.bind trans fun _ => make.tryCatch trans check
      · exact check fault

theorem keeps_makeDirectories (path : String) :
    Stateful.Keeps (Changes [] (lineage (path.length + 1) path)) (makeDirectories path) := by
  refine keeps_makeDirectoriesWithin Changes.refl Changes.trans fun made member d => ?_
  have among : [made] ⊆ lineage (path.length + 1) path := by simpa using member
  exact (keeps_makeDirectory made d).mono (List.Subset.refl _) among

end Disk

end ApiScaffold
