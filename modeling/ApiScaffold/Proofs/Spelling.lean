import Mathlib.Data.List.Chain
import Mathlib.Data.List.DropRight
import ApiScaffold.Proofs.Naming
import ApiScaffold.Proofs.Text.Lines
/-!
# Spellings of words

Words can be spelled as one name in several conventions. All of their spellings are cut into the
same words again, so what is derived from a name does not depend on its convention. Of any other
text, too, the words are separated by single underscores.
-/
namespace ApiScaffold.Naming

open ApiScaffold.Text

/-! ## Conventions -/

inductive Separator where
  | underscore
  | hyphen
  | dot
  | space
  deriving DecidableEq

def Separator.char : Separator → Char
  | underscore => '_'
  | hyphen => '-'
  | dot => '.'
  | space => ' '

/-- How words are spelled as one name: between separators, in small letters or in capitals, or
without, and then with a capital where a word begins. -/
inductive Convention where
  | separated (separator : Separator) (capitals : Bool)
  | camel
  | pascal
  deriving DecidableEq

def capitalized : List Char → List Char
  | [] => []
  | c :: rest => c.toUpper :: rest

namespace Convention

def spell : Convention → List (List Char) → List Char
  | separated separator capitals, words =>
    [separator.char].intercalate (if capitals then words.map (·.map Char.toUpper) else words)
  | camel, [] => []
  | camel, word :: words => word ++ words.flatMap capitalized
  | pascal, words => words.flatMap capitalized

def first : Convention → List Char → List Char
  | separated _ capitals, word => if capitals then word.map Char.toUpper else word
  | camel, word => word
  | pascal, word => capitalized word

def later : Convention → List Char → List Char
  | separated separator capitals, word =>
    separator.char :: if capitals then word.map Char.toUpper else word
  | camel, word => capitalized word
  | pascal, word => capitalized word

end Convention

private theorem intercalate_cons (separator word : List Char) (words : List (List Char)) :
    separator.intercalate (word :: words) = word ++ words.flatMap (separator ++ ·) := by
  induction words generalizing word with
  | nil => simp
  | cons next words ih => rw [List.intercalate_cons_cons, ih, List.append_assoc]; simp

private theorem Convention.spell_cons (convention : Convention) (word : List Char)
    (words : List (List Char)) :
    convention.spell (word :: words) =
      convention.first word ++ words.flatMap convention.later := by
  cases convention with
  | separated separator capitals =>
    cases capitals with
    | false => exact intercalate_cons _ word words
    | true =>
      show [separator.char].intercalate (_ :: words.map (·.map Char.toUpper)) = _
      rw [intercalate_cons, List.flatMap_map]
      rfl
  | camel => rfl
  | pascal => exact List.flatMap_cons

/-! ## Words -/

def IsWord (word : List Char) : Prop := 2 ≤ word.length ∧ ∀ c ∈ word, c.isLower = true

instance (word : List Char) : Decidable (IsWord word) :=
  decidable_of_iff (2 ≤ word.length ∧ word.all Char.isLower = true) (by simp [IsWord])

private theorem forall_small {motive : Char → Prop}
    (h : ∀ n < 128, (Char.ofNat n).isLower = true → motive (Char.ofNat n)) {c : Char}
    (small : c.isLower = true) : motive c :=
  forall_ascii (motive := fun c => c.isLower = true → motive c) h (toNat_lt_of_isLower small) small

private theorem ne_underscore_of_isLower {c : Char} (small : c.isLower = true) : c ≠ '_' := by
  rintro rfl
  cases small

section

variable {c : Char} {scan : WordScan}

private theorem step_small (small : c.isLower = true) :
    scan.step c = ⟨c :: scan.reversed, true⟩ := by
  have kinds : isUppercase c = false ∧ isAlphanumeric c = true ∧ isLowercase c = true :=
    forall_small (motive := fun c => isUppercase c = false ∧ isAlphanumeric c = true ∧
      isLowercase c = true) (by decide +kernel) small
  simp [WordScan.step, kinds]

private theorem step_capital (small : c.isLower = true) :
    scan.step c.toUpper =
      ⟨c :: if scan.afterLower then '_' :: scan.reversed else scan.reversed, false⟩ := by
  have kinds : isUppercase c.toUpper = true ∧ lower c.toUpper = [c] :=
    forall_small (motive := fun c => isUppercase c.toUpper = true ∧ lower c.toUpper = [c])
      (by decide +kernel) small
  simp [WordScan.step, kinds]

private theorem step_separator (separator : Separator) (done : c ≠ '_') (before : List Char)
    (flag : Bool) :
    WordScan.step ⟨c :: before, flag⟩ separator.char = ⟨'_' :: c :: before, false⟩ := by
  have kinds : isUppercase separator.char = false ∧ isAlphanumeric separator.char = false ∧
      isSeparator separator.char = true := by
    cases separator <;> decide +kernel
  simp only [WordScan.step, kinds, Bool.false_eq_true, if_false, if_true]
  split
  next none => cases none
  next again => exact absurd (List.cons.inj again).1 done
  next => rfl

variable {word : List Char}

private theorem foldl_small (some : word ≠ []) (small : ∀ c ∈ word, c.isLower = true) :
    word.foldl WordScan.step scan = ⟨word.reverse ++ scan.reversed, true⟩ := by
  induction word generalizing scan with
  | nil => exact absurd rfl some
  | cons c rest ih =>
    obtain ⟨first, others⟩ := List.forall_mem_cons.mp small
    rw [List.foldl_cons, step_small first]
    cases rest with
    | nil => rfl
    | cons => rw [ih (List.cons_ne_nil _ _) others]; simp

private theorem foldl_capitals (small : ∀ c ∈ word, c.isLower = true) (before : List Char) :
    (word.map Char.toUpper).foldl WordScan.step ⟨before, false⟩ =
      ⟨word.reverse ++ before, false⟩ := by
  induction word generalizing before with
  | nil => rfl
  | cons c rest ih =>
    obtain ⟨first, others⟩ := List.forall_mem_cons.mp small
    rw [List.map_cons, List.foldl_cons, step_capital first]
    simpa using ih others (c :: before)

private theorem foldl_capitalized (h : IsWord word) :
    (capitalized word).foldl WordScan.step scan =
      ⟨word.reverse ++ if scan.afterLower then '_' :: scan.reversed else scan.reversed, true⟩ := by
  obtain ⟨long, small⟩ := h
  cases word with
  | nil => cases long
  | cons c rest =>
    obtain ⟨first, others⟩ := List.forall_mem_cons.mp small
    have some : rest ≠ [] := List.ne_nil_of_length_pos (Nat.lt_of_succ_lt_succ long)
    rw [capitalized, List.foldl_cons, step_capital first, foldl_small some others]
    simp

end

/-! ## Spellings -/

def Convention.endsSmall : Convention → Bool
  | separated _ capitals => !capitals
  | camel | pascal => true

private theorem foldl_first (convention : Convention) {word : List Char} (h : IsWord word) :
    (convention.first word).foldl WordScan.step ⟨[], false⟩ =
      ⟨word.reverse, convention.endsSmall⟩ := by
  have some : word ≠ [] := List.ne_nil_of_length_pos (Nat.zero_lt_of_lt h.1)
  cases convention with
  | separated separator capitals =>
    cases capitals with
    | false => exact (foldl_small some h.2).trans (by simp; rfl)
    | true => exact (foldl_capitals h.2 []).trans (by simp; rfl)
  | camel => exact (foldl_small some h.2).trans (by simp; rfl)
  | pascal => exact (foldl_capitalized h).trans (by simp; rfl)

private theorem foldl_later (convention : Convention) {word : List Char} (h : IsWord word)
    {c : Char} (done : c ≠ '_') (before : List Char) :
    (convention.later word).foldl WordScan.step ⟨c :: before, convention.endsSmall⟩ =
      ⟨word.reverse ++ '_' :: c :: before, convention.endsSmall⟩ := by
  have some : word ≠ [] := List.ne_nil_of_length_pos (Nat.zero_lt_of_lt h.1)
  cases convention with
  | separated separator capitals =>
    rw [Convention.later, List.foldl_cons, step_separator separator done]
    cases capitals with
    | false => exact foldl_small some h.2
    | true => exact foldl_capitals h.2 _
  | camel => exact foldl_capitalized h
  | pascal => exact foldl_capitalized h

def underscored (words : List (List Char)) : List Char := ['_'].intercalate words

private theorem exists_reverse_eq {word : List Char} (h : IsWord word) :
    ∃ c before, word.reverse = c :: before ∧ c.isLower = true := by
  have some : word.reverse ≠ [] :=
    List.reverse_ne_nil_iff.mpr (List.ne_nil_of_length_pos (Nat.zero_lt_of_lt h.1))
  obtain ⟨c, before, ends⟩ := List.exists_cons_of_ne_nil some
  have last : c ∈ word := List.mem_reverse.mp (ends ▸ List.mem_cons_self)
  exact ⟨c, before, ends, h.2 c last⟩

private theorem foldl_words (convention : Convention) {words : List (List Char)}
    (h : ∀ word ∈ words, IsWord word) {c : Char} (done : c ≠ '_') (before : List Char) :
    (words.flatMap convention.later).foldl WordScan.step ⟨c :: before, convention.endsSmall⟩ =
      ⟨(words.flatMap ('_' :: ·)).reverse ++ c :: before, convention.endsSmall⟩ := by
  induction words generalizing c before with
  | nil => rfl
  | cons word words ih =>
    obtain ⟨first, others⟩ := List.forall_mem_cons.mp h
    obtain ⟨last, start, ends, small⟩ := exists_reverse_eq first
    rw [List.flatMap_cons, List.foldl_append, foldl_later convention first done, ends,
      List.cons_append, ih others (ne_underscore_of_isLower small)]
    simp [ends]

private theorem foldl_spell (convention : Convention) {words : List (List Char)} (some : words ≠ [])
    (h : ∀ word ∈ words, IsWord word) :
    (convention.spell words).foldl WordScan.step ⟨[], false⟩ =
      ⟨(underscored words).reverse, convention.endsSmall⟩ := by
  cases words with
  | nil => exact absurd rfl some
  | cons word words =>
    obtain ⟨first, others⟩ := List.forall_mem_cons.mp h
    obtain ⟨last, start, ends, small⟩ := exists_reverse_eq first
    rw [Convention.spell_cons, List.foldl_append, foldl_first convention first, ends,
      foldl_words convention others (ne_underscore_of_isLower small), ← ends, underscored,
      intercalate_cons, List.reverse_append]
    rfl

/-! ## Underscores -/

private theorem trimUnderscores_eq (cs : List Char) :
    trimUnderscores cs = (cs.dropWhile (· = '_')).rdropWhile (· = '_') := rfl

/-- No underscore comes first or last, or behind another. -/
structure Neat (cs : List Char) : Prop where
  head : cs.head? ≠ some '_'
  last : cs.getLast? ≠ some '_'
  single : ¬ ['_', '_'] <:+: cs

def Apart (c other : Char) : Prop := ¬ (c = '_' ∧ other = '_')

private theorem head?_dropWhile_ne (cs : List Char) :
    (cs.dropWhile (· = '_')).head? ≠ some '_' := by
  intro start
  have other := List.head?_dropWhile_not (fun c => decide (c = '_')) cs
  rw [start] at other
  cases other

private theorem neat_trimUnderscores {cs : List Char} (h : cs.IsChain Apart) :
    Neat (trimUnderscores cs) := by
  rw [trimUnderscores_eq]
  have trimmed := h.suffix (List.dropWhile_suffix (· = '_'))
  have shorter := List.rdropWhile_prefix (· = '_') (cs.dropWhile (· = '_'))
  constructor
  case head =>
    intro first
    obtain ⟨rest, parts⟩ := List.head?_eq_some_iff.mp first
    rw [parts] at shorter
    obtain ⟨more, same⟩ := shorter
    exact head?_dropWhile_ne cs (by rw [← same]; rfl)
  case last =>
    rw [List.rdropWhile, List.getLast?_reverse]
    exact head?_dropWhile_ne _
  case single =>
    intro doubled
    obtain ⟨before, after, parts⟩ := doubled.trans shorter.isInfix
    rw [← parts] at trimmed
    have chain := trimmed.left_of_append.right_of_append
    exact (List.isChain_cons_cons.mp chain).1 ⟨rfl, rfl⟩

private theorem trimUnderscores_of_ne {cs : List Char} (head : cs.head? ≠ some '_')
    (last : cs.getLast? ≠ some '_') : trimUnderscores cs = cs := by
  have start : cs.dropWhile (· = '_') = cs := by
    cases cs with
    | nil => rfl
    | cons c rest => exact List.dropWhile_cons_of_neg (by simpa using head)
  rw [trimUnderscores_eq, start, List.rdropWhile_eq_self_iff]
  intro some
  simpa [← List.getLast_eq_iff_getLast?_eq_some some] using last

/-- What has been read has no underscore behind another, nor one at the end after a small letter. -/
structure WordScan.Neat (scan : WordScan) : Prop where
  single : scan.reversed.IsChain Apart
  letter : scan.afterLower = true → scan.reversed.head? ≠ some '_'

private theorem isChain_append {letters cs : List Char} (all : '_' ∉ letters)
    (h : cs.IsChain Apart) :
    (letters ++ cs).IsChain Apart := by
  induction letters with
  | nil => exact h
  | cons c letters ih =>
    have other : c ≠ '_' := fun same => all (same ▸ List.mem_cons_self)
    refine List.isChain_cons.mpr ⟨fun _ _ both => other both.1, ih ?_⟩
    exact fun member => all (List.mem_cons_of_mem _ member)

private theorem isChain_underscore {cs : List Char} (head : cs.head? ≠ some '_')
    (h : cs.IsChain Apart) :
    ('_' :: cs).IsChain Apart := by
  refine List.isChain_cons.mpr ⟨fun c first both => head ?_, h⟩
  rw [← both.2]
  exact first

private theorem underscore_notMem_lower {c : Char} (capital : isUppercase c = true) :
    '_' ∉ lower c := by
  intro member
  rcases mem_lower member (by decide) with ⟨ascii, same⟩ | small
  · have lowered : ∀ n < 128, isUppercase (Char.ofNat n) = true → '_' ≠ (Char.ofNat n).toLower := by
      decide +kernel
    exact forall_ascii (motive := fun c => isUppercase c = true → '_' ≠ c.toLower) lowered ascii
      capital same
  · cases small

private theorem WordScan.Neat.step {scan : WordScan} (h : scan.Neat) (c : Char) :
    (scan.step c).Neat := by
  have ended {cs : List Char} (small : false = true) : cs.head? ≠ some '_' := by cases small
  rw [WordScan.step]
  split
  case isTrue capital =>
    have letters : '_' ∉ (lower c).reverse := fun member =>
      underscore_notMem_lower capital (List.mem_reverse.mp member)
    refine ⟨isChain_append letters ?_, ended⟩
    split
    case isTrue small => exact isChain_underscore (h.letter small) h.single
    case isFalse => exact h.single
  case isFalse =>
    split
    case isTrue letter =>
      have other : c ≠ '_' := by
        rintro rfl
        exact absurd letter (by decide)
      have single : ([c] ++ scan.reversed).IsChain Apart :=
        isChain_append (by simpa using other.symm) h.single
      exact ⟨single, fun _ => by simpa using other⟩
    case isFalse =>
      split
      · split
        next => exact ⟨h.single, ended⟩
        next => exact ⟨h.single, ended⟩
        next _ other =>
          refine ⟨isChain_underscore (fun first => ?_) h.single, ended⟩
          obtain ⟨rest, parts⟩ := List.head?_eq_some_iff.mp first
          exact other rest parts
      · exact h

private theorem neat_snakeChars (cs : List Char) : Neat (snakeChars cs) := by
  have scanned (scan : WordScan) (before : scan.Neat) : (cs.foldl WordScan.step scan).Neat := by
    induction cs generalizing scan with
    | nil => exact before
    | cons c rest ih => exact ih _ (before.step c)
  refine neat_trimUnderscores (List.isChain_reverse.mpr ?_)
  have single := (scanned ⟨[], false⟩ ⟨.nil, nofun⟩).single
  exact single.imp fun _ _ apart both => apart both.symm

/-! ## Derived names -/

variable {words : List (List Char)}

private theorem underscored_cons_cons (word next : List Char) (words : List (List Char)) :
    underscored (word :: next :: words) = word ++ '_' :: underscored (next :: words) := by
  rw [underscored, List.intercalate_cons_cons, List.append_assoc]
  rfl

private theorem exists_head?_underscored (some : words ≠ []) (h : ∀ word ∈ words, IsWord word) :
    ∃ c, (underscored words).head? = .some c ∧ c.isLower = true := by
  cases words with
  | nil => exact absurd rfl some
  | cons word words =>
    obtain ⟨long, small⟩ := h word List.mem_cons_self
    cases word with
    | nil => cases long
    | cons c rest => exact ⟨c, by simp [underscored, intercalate_cons], small c List.mem_cons_self⟩

private theorem exists_getLast?_underscored (some : words ≠ []) (h : ∀ word ∈ words, IsWord word) :
    ∃ c, (underscored words).getLast? = .some c ∧ c.isLower = true := by
  induction words with
  | nil => exact absurd rfl some
  | cons word words ih =>
    obtain ⟨first, others⟩ := List.forall_mem_cons.mp h
    cases words with
    | nil =>
      obtain ⟨c, before, ends, small⟩ := exists_reverse_eq first
      refine ⟨c, ?_, small⟩
      rw [underscored, List.intercalate_singleton, List.getLast?_eq_head?_reverse, ends]
      rfl
    | cons next words =>
      obtain ⟨c, last, small⟩ := ih (List.cons_ne_nil _ _) others
      refine ⟨c, ?_, small⟩
      rw [underscored_cons_cons, List.append_cons, List.getLast?_append, last]
      rfl

private theorem snakeChars_spell (convention : Convention) (some : words ≠ [])
    (h : ∀ word ∈ words, IsWord word) :
    snakeChars (convention.spell words) = underscored words := by
  rw [snakeChars, foldl_spell convention some h, List.reverse_reverse]
  obtain ⟨c, head, small⟩ := exists_head?_underscored some h
  obtain ⟨c', last, small'⟩ := exists_getLast?_underscored some h
  refine trimUnderscores_of_ne ?_ ?_
  · simpa [head] using ne_underscore_of_isLower small
  · simpa [last] using ne_underscore_of_isLower small'

private theorem splitBy_underscored (some : words ≠ []) (h : ∀ word ∈ words, IsWord word) :
    splitBy (· = '_') (underscored words) = words := by
  induction words with
  | nil => exact absurd rfl some
  | cons word words ih =>
    obtain ⟨first, others⟩ := List.forall_mem_cons.mp h
    have whole : ∀ c ∈ word, ¬ decide (c = '_') = true := fun c member => by
      simpa using ne_underscore_of_isLower (first.2 c member)
    cases words with
    | nil =>
      rw [underscored, List.intercalate_singleton]
      exact splitBy_of_forall_not whole
    | cons next words =>
      rw [underscored_cons_cons, splitBy_append_cons (by decide), splitBy_of_forall_not whole,
        ih (List.cons_ne_nil _ _) others]
      rfl

private theorem raiseFirst_eq {word : List Char} (h : IsWord word) :
    raiseFirst word = capitalized word := by
  cases word with
  | nil => rfl
  | cons c rest =>
    have ascii : c.toNat < 128 := toNat_lt_of_isLower (h.2 c List.mem_cons_self)
    rw [raiseFirst, raise, if_pos ascii]
    rfl

private theorem properChars_spell (convention : Convention) (some : words ≠ [])
    (h : ∀ word ∈ words, IsWord word) :
    properChars (convention.spell words) = Convention.pascal.spell words := by
  rw [properChars, snakeChars_spell convention some h, splitBy_underscored some h]
  exact List.flatMap_congr fun word member => raiseFirst_eq (h word member)

private theorem camelChars_spell (convention : Convention) (some : words ≠ [])
    (h : ∀ word ∈ words, IsWord word) :
    camelChars (convention.spell words) = Convention.camel.spell words := by
  rw [camelChars, properChars_spell convention some h]
  cases words with
  | nil => rfl
  | cons word words =>
    obtain ⟨long, small⟩ := h word List.mem_cons_self
    cases word with
    | nil => cases long
    | cons c rest =>
      have lowered : lower c.toUpper = [c] :=
        forall_small (motive := fun c => lower c.toUpper = [c]) (by decide +kernel)
          (small c List.mem_cons_self)
      simp [Convention.spell, capitalized, lowerFirst, lowered]

/-- Names derived from words are the same in whatever convention the words are spelled. Of any text
the words are separated by single underscores. -/
theorem derived_names_agree :
    (∀ words : List (List Char), words ≠ [] → (∀ word ∈ words, IsWord word) →
      ∀ convention : Convention,
        snakeCase (String.ofList (convention.spell words)) = String.ofList (underscored words) ∧
        properCase (String.ofList (convention.spell words)) =
          String.ofList (Convention.pascal.spell words) ∧
        camelCase (String.ofList (convention.spell words)) =
          String.ofList (Convention.camel.spell words)) ∧
    ∀ s, Neat (snakeCase s).toList := by
  refine ⟨fun words some h convention => ⟨?_, ?_, ?_⟩, fun s => ?_⟩
  · rw [snakeCase, String.toList_ofList, snakeChars_spell convention some h]
  · rw [properCase, String.toList_ofList, properChars_spell convention some h]
  · rw [camelCase, String.toList_ofList, camelChars_spell convention some h]
  · rw [snakeCase, String.toList_ofList]
    exact neat_snakeChars s.toList

theorem derived_names_agree_notFound :
    ["not".toList, "found".toList] ≠ [] ∧
      (∀ word ∈ ["not".toList, "found".toList], IsWord word) ∧
      [Convention.separated .hyphen true, .separated .dot false, .camel, .pascal].map
          (fun convention => convention.spell ["not".toList, "found".toList]) =
        ["NOT-FOUND", "not.found", "notFound", "NotFound"].map String.toList ∧
      ∀ convention : Convention,
        snakeCase (String.ofList (convention.spell ["not".toList, "found".toList])) = "not_found" ∧
        properCase (String.ofList (convention.spell ["not".toList, "found".toList])) =
          "NotFound" ∧
        camelCase (String.ofList (convention.spell ["not".toList, "found".toList])) =
          "notFound" := by
  have words : ∀ word ∈ ["not".toList, "found".toList], IsWord word := by decide
  refine ⟨by decide, words, by decide, fun convention => ?_⟩
  exact derived_names_agree.1 _ (by decide) words convention

end ApiScaffold.Naming
