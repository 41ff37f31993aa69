import ApiScaffold.Naming
/-!
# Characters of derived names

Names are derived from any text, and most derivations drop what cannot stand in a name. Whatever is
left of ASCII are letters, digits and underscores, also where a letter beyond ASCII has one of
ASCII as its other case. A word that is raised does not start with a small letter.
-/
namespace ApiScaffold.Text

/-! ## Letter case and ASCII -/

theorem forall_ascii {motive : Char → Prop} (h : ∀ n < 128, motive (Char.ofNat n)) {c : Char}
    (ascii : c.toNat < 128) : motive c := by
  have same := h c.toNat ascii
  rwa [Char.ofNat_toNat] at same

/-- All letters of a run are shifted beyond ASCII, unless it is one letter that is shifted to a
character of a certain kind. -/
def Shift.leads (kind : Char → Bool) (s : Shift) : Bool :=
  let low := s.letters.first + s.distance
  let high := s.letters.last + s.distance
  (128 ≤ low && high < 0xd800) || (0xe000 ≤ low && high < 0x110000) ||
    (s.letters.first = s.letters.last && kind (Char.ofNat low.toNat))

private theorem toNat_ofNat {n : Nat} (valid : n.isValidChar) : (Char.ofNat n).toNat = n := by
  rw [Char.ofNat, dif_pos valid]
  rfl

private theorem Shift.kind_of_shifted? {kind : Char → Bool} {s : Shift} {c x : Char}
    (outside : s.leads kind = true) (h : s.shifted? c = some x) (ascii : x.toNat < 128) :
    kind x = true := by
  rw [shifted?] at h
  split at h
  case isFalse => cases h
  case isTrue inside =>
    cases h
    simp only [Stride.contains, Bool.and_eq_true, decide_eq_true_eq] at inside
    obtain ⟨⟨low, high⟩, -⟩ := inside
    simp only [Shift.leads, Bool.or_eq_true, Bool.and_eq_true, decide_eq_true_eq] at outside
    obtain (⟨above, below⟩ | ⟨above, below⟩) | ⟨single, kept⟩ := outside
    · rw [toNat_ofNat (.inl (by omega))] at ascii
      omega
    · rw [toNat_ofNat (.inr (by omega))] at ascii
      omega
    · have same : c.toNat = s.letters.first := by omega
      rwa [same]

private theorem raising_leads : ∀ s ∈ raising, s.leads Char.isUpper = true := by decide +kernel

private theorem lowering_leads : ∀ s ∈ lowering, s.leads Char.isLower = true := by decide +kernel

private theorem raisingToMany_upper : ∀ entry ∈ raisingToMany, ∀ n ∈ entry.2,
    (Char.ofNat n).toNat < 128 → (Char.ofNat n).isUpper = true := by
  decide +kernel

private theorem kind_of_shifts {kind : Char → Bool} {shifts : List Shift} {c x : Char}
    (all : ∀ s ∈ shifts, s.leads kind = true) (high : ¬ c.toNat < 128)
    (h : x = (shifts.findSome? (·.shifted? c)).getD c) (ascii : x.toNat < 128) :
    kind x = true := by
  cases found : shifts.findSome? (·.shifted? c) with
  | none =>
    rw [found, Option.getD_none] at h
    exact absurd (h ▸ ascii) high
  | some y =>
    rw [found, Option.getD_some] at h
    obtain ⟨s, among, shifted⟩ := List.exists_of_findSome?_eq_some found
    exact Shift.kind_of_shifted? (all s among) (h ▸ shifted) ascii

private theorem mem_raise {c x : Char} (h : x ∈ raise c) (ascii : x.toNat < 128) :
    c.toNat < 128 ∧ x = c.toUpper ∨ x.isUpper = true := by
  rw [raise] at h
  split at h
  case isTrue low => exact .inl ⟨low, List.mem_singleton.mp h⟩
  case isFalse high =>
    refine .inr ?_
    split at h
    next letters found =>
      obtain ⟨n, among, rfl⟩ := List.mem_map.mp h
      obtain ⟨before, after, split, -⟩ := List.lookup_eq_some_iff.mp found
      have entry : (c.toNat, letters) ∈ raisingToMany := by
        rw [split]
        exact List.mem_append_right _ List.mem_cons_self
      exact raisingToMany_upper _ entry n among ascii
    next => exact kind_of_shifts raising_leads high (List.mem_singleton.mp h) ascii

theorem mem_lower {c x : Char} (h : x ∈ lower c) (ascii : x.toNat < 128) :
    c.toNat < 128 ∧ x = c.toLower ∨ x.isLower = true := by
  rw [lower] at h
  split at h
  case isTrue low => exact .inl ⟨low, List.mem_singleton.mp h⟩
  case isFalse high =>
    refine .inr ?_
    split at h
    case isTrue =>
      rcases List.mem_cons.mp h with rfl | h
      · decide
      · rw [List.mem_singleton.mp h] at ascii
        exact absurd ascii (by decide)
    case isFalse => exact kind_of_shifts lowering_leads high (List.mem_singleton.mp h) ascii

private theorem raise_ne_nil (c : Char) : raise c ≠ [] := by
  rw [raise]
  split
  · exact List.cons_ne_nil _ _
  · split
    next letters found =>
      obtain ⟨before, after, split, -⟩ := List.lookup_eq_some_iff.mp found
      have entry : (c.toNat, letters) ∈ raisingToMany := by
        rw [split]
        exact List.mem_append_right _ List.mem_cons_self
      have some : ∀ entry ∈ raisingToMany, entry.2 ≠ [] := by decide +kernel
      exact mt List.map_eq_nil_iff.mp (some _ entry)
    next => exact List.cons_ne_nil _ _

theorem toNat_lt_of_isLower {c : Char} (h : c.isLower = true) : c.toNat < 128 := by
  obtain ⟨-, last⟩ := (Bool.and_eq_true _ _).mp h
  have small : c.toNat ≤ 122 := of_decide_eq_true last
  omega

theorem toNat_lt_of_isDigit {c : Char} (h : c.isDigit = true) : c.toNat < 128 := by
  obtain ⟨-, last⟩ := (Bool.and_eq_true _ _).mp h
  have small : c.toNat ≤ 57 := of_decide_eq_true last
  omega

private theorem not_isLower_of_mem_raise {c x : Char} (h : x ∈ raise c) : ¬ x.isLower = true := by
  intro small
  rcases mem_raise h (toNat_lt_of_isLower small) with ⟨ascii, rfl⟩ | capital
  · have raised : ∀ n < 128, ¬ (Char.ofNat n).toUpper.isLower = true := by decide +kernel
    exact forall_ascii (motive := fun c => ¬ c.toUpper.isLower = true) raised ascii small
  · have apart : ∀ n < 128, (Char.ofNat n).isUpper = true → ¬ (Char.ofNat n).isLower = true := by
      decide +kernel
    exact forall_ascii (motive := fun c => c.isUpper = true → ¬ c.isLower = true) apart
      (toNat_lt_of_isLower small) capital small

/-! ## Characters of names -/

def IsNameChar (c : Char) : Prop := c.toNat < 128 → c.isAlphanum = true ∨ c = '_'

instance (c : Char) : Decidable (IsNameChar c) :=
  inferInstanceAs (Decidable (c.toNat < 128 → c.isAlphanum = true ∨ c = '_'))

theorem forall_isNameChar {cs : List Char} (h : cs.all (fun c => decide (IsNameChar c)) = true) :
    ∀ c ∈ cs, IsNameChar c :=
  fun c member => of_decide_eq_true (List.all_eq_true.mp h c member)

theorem isAlphanum_eq (c : Char) : c.isAlphanum = (c.isUpper || c.isLower || c.isDigit) := rfl

theorem isNameChar_of_isAlphanumeric {c : Char} (h : isAlphanumeric c = true) : IsNameChar c := by
  intro ascii
  rw [isAlphanumeric, if_pos ascii] at h
  exact .inl h

private theorem isNameChar_of_isUppercase {c : Char} (h : isUppercase c = true) : IsNameChar c := by
  intro ascii
  rw [isUppercase, if_pos ascii] at h
  exact .inl (by simp [isAlphanum_eq, h])

private theorem isNameChar_of_mem_raise {c x : Char} (hc : IsNameChar c) (h : x ∈ raise c) :
    IsNameChar x := by
  intro ascii
  rcases mem_raise h ascii with ⟨low, rfl⟩ | capital
  · have raised : ∀ n < 128, IsNameChar (Char.ofNat n) → IsNameChar (Char.ofNat n).toUpper := by
      decide +kernel
    exact forall_ascii (motive := fun c => IsNameChar c → IsNameChar c.toUpper) raised low hc ascii
  · exact .inl (by simp [isAlphanum_eq, capital])

private theorem isNameChar_of_mem_lower {c x : Char} (hc : IsNameChar c) (h : x ∈ lower c) :
    IsNameChar x := by
  intro ascii
  rcases mem_lower h ascii with ⟨low, rfl⟩ | small
  · have lowered : ∀ n < 128, IsNameChar (Char.ofNat n) → IsNameChar (Char.ofNat n).toLower := by
      decide +kernel
    exact forall_ascii (motive := fun c => IsNameChar c → IsNameChar c.toLower) lowered low hc ascii
  · exact .inl (by simp [isAlphanum_eq, small])

private theorem mem_of_mem_splitBy {p : Char → Bool} {cs piece : List Char}
    (h : piece ∈ splitBy p cs) {c : Char} (member : c ∈ piece) : c ∈ cs ∧ ¬ p c = true := by
  induction cs generalizing piece with
  | nil =>
    rw [List.mem_singleton.mp h] at member
    cases member
  | cons first rest ih =>
    rw [splitBy] at h
    split at h
    case isTrue =>
      rcases List.mem_cons.mp h with rfl | h
      · cases member
      · exact (ih h member).imp_left (List.mem_cons_of_mem _)
    case isFalse own =>
      split at h
      next nothing =>
        rw [List.mem_singleton.mp h, List.mem_singleton] at member
        exact ⟨member ▸ List.mem_cons_self, member ▸ own⟩
      next one more pieces =>
        rcases List.mem_cons.mp h with rfl | h
        · rcases List.mem_cons.mp member with rfl | member
          · exact ⟨List.mem_cons_self, own⟩
          · exact (ih (pieces ▸ List.mem_cons_self) member).imp_left (List.mem_cons_of_mem _)
        · exact (ih (pieces ▸ List.mem_cons_of_mem _ h) member).imp_left (List.mem_cons_of_mem _)

end ApiScaffold.Text

namespace ApiScaffold.Naming

open ApiScaffold.Text

/-! ## Words -/

private theorem WordScan.isNameChar_step {scan : WordScan}
    (before : ∀ x ∈ scan.reversed, IsNameChar x)
    (c : Char) : ∀ x ∈ (scan.step c).reversed, IsNameChar x := by
  have underscore : IsNameChar '_' := fun _ => .inr rfl
  rw [step]
  split
  case isTrue capital =>
    intro x member
    rcases List.mem_append.mp member with member | member
    · exact isNameChar_of_mem_lower (isNameChar_of_isUppercase capital) (List.mem_reverse.mp member)
    · split at member
      · rcases List.mem_cons.mp member with rfl | member
        · exact underscore
        · exact before x member
      · exact before x member
  case isFalse =>
    split
    case isTrue letter =>
      exact List.forall_mem_cons.mpr ⟨isNameChar_of_isAlphanumeric letter, before⟩
    case isFalse =>
      split
      · split
        · exact before
        · exact before
        · exact List.forall_mem_cons.mpr ⟨underscore, before⟩
      · exact before

private theorem mem_of_mem_trimUnderscores {cs : List Char} {c : Char}
    (h : c ∈ trimUnderscores cs) :
    c ∈ cs := by
  have kept := List.dropWhile_subset _ (List.mem_reverse.mp h)
  exact List.dropWhile_subset _ (List.mem_reverse.mp kept)

private theorem isNameChar_of_mem_snakeChars {cs : List Char} :
    ∀ c ∈ snakeChars cs, IsNameChar c := by
  have scanned (scan : WordScan) (before : ∀ x ∈ scan.reversed, IsNameChar x) :
      ∀ x ∈ (cs.foldl WordScan.step scan).reversed, IsNameChar x := by
    induction cs generalizing scan with
    | nil => exact before
    | cons c rest ih => exact ih _ (WordScan.isNameChar_step before c)
  intro c member
  have kept := mem_of_mem_trimUnderscores member
  exact scanned ⟨[], false⟩ (List.forall_mem_nil _) c (List.mem_reverse.mp kept)

/-! ## Raised words -/

private theorem isNameChar_of_mem_raiseFirst {cs : List Char} (h : ∀ c ∈ cs, IsNameChar c) :
    ∀ x ∈ raiseFirst cs, IsNameChar x := by
  cases cs with
  | nil => exact h
  | cons c rest =>
    obtain ⟨first, others⟩ := List.forall_mem_cons.mp h
    intro x member
    rcases List.mem_append.mp member with member | member
    · exact isNameChar_of_mem_raise first member
    · exact others x member

private theorem isNameChar_of_mem_lowerFirst {cs : List Char} (h : ∀ c ∈ cs, IsNameChar c) :
    ∀ x ∈ lowerFirst cs, IsNameChar x := by
  cases cs with
  | nil => exact h
  | cons c rest =>
    obtain ⟨first, others⟩ := List.forall_mem_cons.mp h
    intro x member
    rcases List.mem_append.mp member with member | member
    · exact isNameChar_of_mem_lower first member
    · exact others x member

private theorem isNameChar_of_mem_words {pieces : List (List Char)}
    (h : ∀ piece ∈ pieces, ∀ c ∈ piece, IsNameChar c) :
    ∀ x ∈ pieces.flatMap raiseFirst, IsNameChar x := by
  intro x member
  obtain ⟨piece, inside, member⟩ := List.mem_flatMap.mp member
  exact isNameChar_of_mem_raiseFirst (h piece inside) x member

private theorem not_isLower_head_words (pieces : List (List Char)) :
    ∀ x ∈ (pieces.flatMap raiseFirst).head?, ¬ x.isLower = true := by
  induction pieces with
  | nil => exact nofun
  | cons piece pieces ih =>
    cases piece with
    | nil => exact ih
    | cons c rest =>
      intro x first
      obtain ⟨capital, letters, raised⟩ := List.exists_cons_of_ne_nil (raise_ne_nil c)
      rw [List.flatMap_cons, raiseFirst, raised] at first
      cases first
      exact not_isLower_of_mem_raise (raised ▸ List.mem_cons_self)

/-! ## Derived names -/

theorem isNameChar_of_mem_properChars {cs : List Char} : ∀ c ∈ properChars cs, IsNameChar c := by
  apply isNameChar_of_mem_words
  intro piece inside c member
  exact isNameChar_of_mem_snakeChars c (mem_of_mem_splitBy inside member).1

theorem not_isLower_head_properChars (cs : List Char) :
    ∀ c ∈ (properChars cs).head?, ¬ c.isLower = true :=
  not_isLower_head_words _

private theorem isNameChar_of_mem_segments (cs : List Char) :
    ∀ c ∈ (splitBy (fun c => !(isAlphanumeric c || c = '_')) cs).flatMap raiseFirst,
      IsNameChar c := by
  apply isNameChar_of_mem_words
  intro piece inside c member
  have kept := (mem_of_mem_splitBy inside member).2
  simp only [Bool.not_eq_true', Bool.not_eq_false, Bool.or_eq_true, decide_eq_true_eq] at kept
  rcases kept with letter | rfl
  · exact isNameChar_of_isAlphanumeric letter
  · exact fun _ => .inr rfl

/-- Only characters of names, the first of which is neither a small letter nor a digit. -/
def Exportable (cs : List Char) : Prop :=
  (∀ c ∈ cs, IsNameChar c) ∧ ∀ c ∈ cs.head?, ¬ c.isLower = true ∧ ¬ c.isDigit = true

def guardDigit (cs : List Char) : List Char :=
  match cs with
  | c :: _ => if c.isDigit then 'N' :: cs else cs
  | [] => []

private theorem exportable_guardDigit {cs : List Char} (chars : ∀ c ∈ cs, IsNameChar c)
    (raised : ∀ c ∈ cs.head?, ¬ c.isLower = true) : Exportable (guardDigit cs) := by
  cases cs with
  | nil => exact ⟨chars, nofun⟩
  | cons first rest =>
    rw [guardDigit]
    split
    case isTrue =>
      refine ⟨List.forall_mem_cons.mpr ⟨by decide, chars⟩, ?_⟩
      intro c head
      cases head
      decide
    case isFalse plain =>
      refine ⟨chars, ?_⟩
      intro c head
      cases head
      exact ⟨raised first rfl, plain⟩

private theorem exists_exportedChars_eq (cs : List Char) :
    ∃ spelled ∈ [[], "Underscore".toList], ∃ rest, exportedChars cs = guardDigit
      (spelled ++ (splitBy (fun c => !(isAlphanumeric c || c = '_')) rest).flatMap raiseFirst) := by
  unfold exportedChars
  split
  next spelled rest start =>
    split at start
    · cases start
      exact ⟨_, List.mem_cons_of_mem _ List.mem_cons_self, _, rfl⟩
    · cases start
      exact ⟨_, List.mem_cons_self, _, rfl⟩

theorem exportable_exportedChars (cs : List Char) : Exportable (exportedChars cs) := by
  obtain ⟨spelled, among, rest, same⟩ := exists_exportedChars_eq cs
  rw [same]
  have words := isNameChar_of_mem_segments rest
  rcases List.mem_cons.mp among with rfl | among
  · exact exportable_guardDigit words (not_isLower_head_words _)
  · rw [List.mem_singleton.mp among]
    refine exportable_guardDigit ?_ ?_
    · have letters : ∀ c ∈ "Underscore".toList, IsNameChar c := forall_isNameChar (by decide)
      intro c member
      exact (List.mem_append.mp member).elim (letters c) (words c)
    · intro c head
      cases head
      decide

theorem isNameChar_of_mem_camelChars {cs : List Char} : ∀ c ∈ camelChars cs, IsNameChar c :=
  isNameChar_of_mem_lowerFirst isNameChar_of_mem_properChars

end ApiScaffold.Naming
