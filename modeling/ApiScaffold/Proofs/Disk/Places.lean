import ApiScaffold.Disk.Basic
import ApiScaffold.Proofs.Outcome
import ApiScaffold.Proofs.Paths
/-!
# Where paths lead

Directories have no other names, so where a path leads does not depend on what lies on the disk:
only whether it leads anywhere does.
-/
namespace ApiScaffold

namespace Place

def follow : Place → List String → Place
  | place, [] => place
  | place, name :: rest =>
    if name = "." then follow place rest
    else if name = ".." then follow place.dropLast rest
    else follow (place ++ [name]) rest

private theorem follow_append (place : Place) (names more : List String) :
    place.follow (names ++ more) = (place.follow names).follow more := by
  induction names generalizing place with
  | nil => rfl
  | cons name rest ih =>
    rw [List.cons_append, follow, follow]
    split
    · exact ih _
    · split
      · exact ih _
      · exact ih _

end Place

namespace Disk

def placeOf (home : Place) (path : String) : Place :=
  Place.follow (if Path.isAbsolute path then [] else home) (names path)

variable {d : Disk} {path : String}

private theorem walk_eq_ok {start place : Place} {names : List String}
    (h : d.walk start names = .ok place) : place = start.follow names := by
  induction names generalizing start with
  | nil =>
    cases h
    rfl
  | cons name rest ih =>
    rw [Place.follow]
    unfold walk at h
    split at h
    next here => rw [if_pos here, ih h]
    next named =>
      rw [if_neg named]
      split at h
      next up => rw [if_pos up, ih h]
      next down =>
        rw [if_neg down]
        split at h
        next => cases h
        next =>
          split at h
          next => exact ih h
          next => cases h
          next => cases h

def Spot.place : Spot → Place
  | directory place => place
  | named parent name _ => parent ++ [name]

theorem place_of_spot {spot : Spot} (h : d.spot path = .ok spot) :
    spot.place = placeOf d.home path := by
  unfold Disk.spot at h
  dsimp only at h
  split at h
  · cases h
  split at h
  · cases h
  split at h
  · cases h
  split at h
  next empty =>
    cases h
    rw [placeOf, List.reverse_eq_nil_iff.mp empty]
    rfl
  next last before parts =>
    have whole : names path = before.reverse ++ [last] := by
      rw [← List.reverse_reverse (names path), parts, List.reverse_cons]
    rw [placeOf, whole, Place.follow_append]
    obtain ⟨parent, walked, h⟩ := Outcome.bind_eq_ok.mp h
    rw [← walk_eq_ok walked]
    split at h
    · obtain ⟨place, walked, h⟩ := Outcome.bind_eq_ok.mp h
      cases h
      exact walk_eq_ok walked
    next named =>
      split at h
      · cases h
      · cases h
        obtain ⟨here, up⟩ : last ≠ "." ∧ last ≠ ".." := by simpa using named
        rw [Place.follow, if_neg here, if_neg up]
        rfl

theorem entry?_of_find {place : Place} {content : String} {mode : Nat}
    (h : d.find path = .ok (place, .file content mode)) :
    place = placeOf d.home path ∧ d.entry? place = some (.file content mode) := by
  obtain ⟨spot, led, h⟩ := Outcome.bind_eq_ok.mp h
  rw [← place_of_spot led]
  cases spot with
  | directory => cases h
  | named parent name slash =>
    cases found : d.entry? (parent ++ [name]) with
    | none =>
      simp only [found] at h
      cases h
    | some entry =>
      simp only [found] at h
      split at h
      next => cases h
      next => cases h
      next same _ =>
        cases same
        cases h
        exact ⟨rfl, found⟩

theorem find_of_spot {parent : Place} {name : String} {entry : Entry}
    (led : d.spot path = .ok (.named parent name false))
    (lies : d.entry? (parent ++ [name]) = some entry) :
    d.find path = .ok (parent ++ [name], entry) := by
  refine Outcome.bind_eq_ok.mpr ⟨_, led, ?_⟩
  simp only [lies]
  cases entry with
  | directory => rfl
  | file => rfl

theorem read_of_spot {parent : Place} {name content : String} {mode : Nat}
    (led : d.spot path = .ok (.named parent name false))
    (lies : d.entry? (parent ++ [name]) = some (.file content mode)) :
    d.read path = .ok content :=
  Outcome.bind_eq_ok.mpr ⟨_, find_of_spot led lies, rfl⟩

private theorem names_of_spot {parent : Place} {name : String} {slash : Bool}
    (h : d.spot path = .ok (.named parent name slash)) :
    ∃ before, names path = before ++ [name] ∧
      parent = Place.follow (if Path.isAbsolute path then [] else d.home) before ∧
      slash = decide (path.toList.getLast? = some '/') ∧ name ≠ "." ∧ name ≠ ".." := by
  unfold Disk.spot at h
  dsimp only at h
  split at h
  · cases h
  split at h
  · cases h
  split at h
  · cases h
  split at h
  next => cases h
  next last before parts =>
    have whole : names path = before.reverse ++ [last] := by
      rw [← List.reverse_reverse (names path), parts, List.reverse_cons]
    obtain ⟨parent', walked, h⟩ := Outcome.bind_eq_ok.mp h
    split at h
    · obtain ⟨place, -, h⟩ := Outcome.bind_eq_ok.mp h
      cases h
    next named =>
      split at h
      · cases h
      · cases h
        obtain ⟨here, up⟩ : name ≠ "." ∧ name ≠ ".." := by simpa using named
        exact ⟨before.reverse, whole, walk_eq_ok walked, rfl, here, up⟩

theorem placeOf_append_of_spot {parent : Place} {name suffix : String}
    (h : d.spot path = .ok (.named parent name false)) (whole : '/' ∉ suffix.toList)
    (long : 2 < suffix.toList.length) :
    placeOf d.home (path ++ suffix) = parent ++ [name ++ suffix] := by
  obtain ⟨before, parts, rfl, ended, -, -⟩ := names_of_spot h
  have letters : path ≠ "" := by
    rintro rfl
    simp [names, Path.segments, Text.splitBy] at parts
  have last : Path.lastSegment path ≠ [] := Path.lastSegment_ne_nil letters (by simpa using ended)
  have own : names path =
      (((Path.segments path).dropLast).filter (· ≠ [])).map String.ofList ++
        [String.ofList (Path.lastSegment path)] := by
    rw [names]
    nth_rewrite 1 [← Path.dropLast_append_lastSegment path]
    simp [last]
  have longer : names (path ++ suffix) =
      (((Path.segments path).dropLast).filter (· ≠ [])).map String.ofList ++
        [String.ofList (Path.lastSegment path) ++ suffix] := by
    rw [names, Path.segments_append path whole]
    simp [last]
  obtain ⟨rfl, same⟩ := List.append_inj' (own.symm.trans parts) rfl
  obtain rfl := List.singleton_inj.mp same
  have length : 2 < (String.ofList (Path.lastSegment path) ++ suffix).toList.length := by
    simp only [String.toList_append, List.length_append]
    omega
  rw [placeOf, longer, Path.isAbsolute_append letters, Place.follow_append, Place.follow, if_neg,
    if_neg, Place.follow]
  · intro up
    rw [up] at length
    revert length
    decide
  · intro here
    rw [here] at length
    revert length
    decide

/-! ## Directories that stay -/

/-- Relative paths start at the same place, and where one disk has directories the other has them
as well. -/
structure KeepsDirectories (d d' : Disk) : Prop where
  home : d'.home = d.home
  directory {place : Place} : d.entry? place = some .directory → d'.entry? place = some .directory

namespace KeepsDirectories

variable {d' d'' : Disk}

theorem refl (d : Disk) : d.KeepsDirectories d := ⟨rfl, id⟩

theorem trans (h : d.KeepsDirectories d') (h' : d'.KeepsDirectories d'') :
    d.KeepsDirectories d'' :=
  ⟨h'.home.trans h.home, fun lies => h'.directory (h.directory lies)⟩

private theorem walk_eq_ok (h : d.KeepsDirectories d') {start place : Place} {names : List String}
    (led : d.walk start names = .ok place) : d'.walk start names = .ok place := by
  induction names generalizing start with
  | nil => exact led
  | cons name rest ih =>
    unfold walk at led ⊢
    split at led
    next here => rw [if_pos here, ih led]
    next named =>
      rw [if_neg named]
      split at led
      next up => rw [if_pos up, ih led]
      next down =>
        rw [if_neg down]
        split at led
        next => cases led
        next short =>
          rw [if_neg short]
          split at led
          next lies => rw [h.directory lies, ih led]
          next => cases led
          next => cases led

theorem spot_eq_ok (h : d.KeepsDirectories d') {spot : Spot} (led : d.spot path = .ok spot) :
    d'.spot path = .ok spot := by
  unfold Disk.spot at led ⊢
  rw [h.home]
  dsimp only at led ⊢
  split at led
  next => cases led
  next some =>
    rw [if_neg some]
    split at led
    next => cases led
    next clean =>
      rw [if_neg clean]
      split at led
      next => cases led
      next short =>
        rw [if_neg short]
        split at led
        next => exact led
        next last before parts =>
          obtain ⟨parent, walked, led⟩ := Outcome.bind_eq_ok.mp led
          refine Outcome.bind_eq_ok.mpr ⟨parent, h.walk_eq_ok walked, ?_⟩
          split at led
          next dots =>
            obtain ⟨place, walked, led⟩ := Outcome.bind_eq_ok.mp led
            rw [if_pos dots]
            exact Outcome.bind_eq_ok.mpr ⟨place, h.walk_eq_ok walked, led⟩
          next named =>
            rw [if_neg named]
            exact led

end KeepsDirectories

/-! ## Entries -/

private theorem lookup_filter_ne (place other : Place) (entries : List (Place × Entry)) :
    (entries.filter (·.1 ≠ place)).lookup other =
      if other = place then none else entries.lookup other := by
  induction entries with
  | nil => simp
  | cons first rest ih =>
    obtain ⟨key, entry⟩ := first
    by_cases gone : key = place
    · have dropped : ((key, entry) :: rest).filter (·.1 ≠ place) = rest.filter (·.1 ≠ place) := by
        simp [gone]
      rw [dropped, ih, List.lookup_cons]
      by_cases same : other = place
      · rw [if_pos same, if_pos same]
      · have different : (other == key) = false := by simpa [gone] using same
        rw [if_neg same, if_neg same, different]
    · have kept : ((key, entry) :: rest).filter (·.1 ≠ place) =
          (key, entry) :: rest.filter (·.1 ≠ place) := by
        simp [gone]
      rw [kept, List.lookup_cons, List.lookup_cons, ih]
      by_cases first : other = key
      · have different : other ≠ place := first ▸ gone
        rw [if_neg different, if_neg different]
      · have different : (other == key) = false := by simpa using first
        rw [different]

theorem ne_nil_of_file {place : Place} {content : String} {mode : Nat}
    (h : d.entry? place = some (.file content mode)) : place ≠ [] := by
  intro root
  unfold entry? at h
  rw [if_pos root] at h
  cases h

theorem entry?_erase {place other : Place} (named : place ≠ []) :
    entry? (d.erase place) other = if other = place then none else d.entry? other := by
  unfold entry?
  rw [erase, lookup_filter_ne]
  by_cases same : other = place
  · rw [if_neg (same ▸ named), if_pos same, if_pos same]
  · rw [if_neg same, if_neg same]

theorem entry?_put {place other : Place} {entry : Entry} (named : place ≠ []) :
    entry? (d.put place entry) other = if other = place then some entry else d.entry? other := by
  unfold entry?
  rw [put, List.lookup_cons, lookup_filter_ne]
  by_cases same : other = place
  · simp [same, named]
  · have different : (other == place) = false := by simpa using same
    rw [different, if_neg same, if_neg same]

end Disk

end ApiScaffold
