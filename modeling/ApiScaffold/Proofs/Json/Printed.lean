import ApiScaffold.Json.Printer
import ApiScaffold.Json.Reader
import ApiScaffold.Proofs.Json.Numerals
/-!
# Reading printed values

The text that a value is printed as is read back as its tree, at any depth. Only its numbers are
those that their numerals give.
-/
namespace ApiScaffold

namespace Json

/-! ## Texts -/

private theorem hexValue?_hexDigit {n : Nat} (h : n < 16) : hexValue? (hexDigit n) = some n := by
  decide +revert

private theorem textAfter?_escape {done : List Nat} {cs rest : List Char} {unit : Nat}
    (h : escaped? cs = some (unit, rest)) :
    textAfter? done ('\\' :: cs) = textAfter? (unit :: done) rest := by
  rw [textAfter?, if_neg (by decide), if_pos rfl]
  split
  next found =>
    rw [h] at found
    cases found
    rfl
  next found =>
    rw [h] at found
    cases found

private theorem textAfter?_plain {done : List Nat} {c : Char} (rest : List Char) (quote : c ≠ '"')
    (escape : c ≠ '\\') (printable : ¬ c.toNat < 32) :
    textAfter? done (c :: rest) = textAfter? (c.toNat :: done) rest := by
  rw [textAfter?, if_neg quote, if_neg escape, if_neg printable]

private theorem escaped?_control {c : Char} (h : c.toNat < 32) (rest : List Char) :
    escaped? ('u' :: '0' :: '0' :: hexDigit (c.toNat / 16) :: hexDigit (c.toNat % 16) :: rest) =
      some (c.toNat, rest) := by
  have whole : c.toNat / 16 * 16 + c.toNat % 16 = c.toNat := by omega
  have zero : hexValue? '0' = some 0 := rfl
  simp [escaped?, unit?, zero, hexValue?_hexDigit (show c.toNat / 16 < 16 by omega),
    hexValue?_hexDigit (Nat.mod_lt c.toNat (show 16 > 0 by decide)), whole]

private theorem textAfter?_escapeChar (done : List Nat) (c : Char) (rest : List Char) :
    textAfter? done (escapeChar c ++ rest) = textAfter? (c.toNat :: done) rest := by
  by_cases short : c ∈ ['"', '\\', '\x08', '\x0c', '\n', '\r', '\t']
  · simp only [List.mem_cons, List.not_mem_nil, or_false] at short
    rcases short with rfl | rfl | rfl | rfl | rfl | rfl | rfl <;> exact textAfter?_escape rfl
  · simp only [List.mem_cons, List.not_mem_nil, or_false, not_or] at short
    obtain ⟨quote, backslash, backspace, feed, line, carriage, tab⟩ := short
    by_cases control : c.toNat < 32
    · simp only [escapeChar, quote, backslash, backspace, feed, line, carriage, tab, control,
        if_true, if_false]
      exact textAfter?_escape (escaped?_control control rest)
    · simp only [escapeChar, quote, backslash, backspace, feed, line, carriage, tab, control,
        if_false]
      exact textAfter?_plain rest quote backslash control

private theorem textAfter?_escapes (done : List Nat) (cs rest : List Char) :
    textAfter? done (cs.flatMap escapeChar ++ '"' :: rest) =
      some (done.reverse ++ cs.map Char.toNat, rest) := by
  induction cs generalizing done with
  | nil =>
    rw [List.flatMap_nil, List.nil_append, textAfter?, if_pos rfl, List.map_nil, List.append_nil]
  | cons c cs ih =>
    rw [List.flatMap_cons, List.append_assoc, textAfter?_escapeChar, ih, List.reverse_cons,
      List.append_assoc]
    rfl

private theorem join?_toNat (cs : List Char) : join? (cs.map Char.toNat) = some cs := by
  have plain (c : Char) : isHighSurrogate c.toNat = false ∧ isLowSurrogate c.toNat = false := by
    have valid : c.toNat.isValidChar := c.valid
    rw [Nat.isValidChar] at valid
    constructor <;> simp only [isHighSurrogate, isLowSurrogate, Bool.and_eq_false_imp,
      decide_eq_true_eq, decide_eq_false_iff_not] <;> omega
  induction cs with
  | nil => rfl
  | cons c cs ih =>
    cases cs with
    | nil => simp [join?, plain c, Char.ofNat_toNat]
    | cons c' cs =>
      rw [List.map_cons, List.map_cons, join?]
      simp only [List.map_cons] at ih
      simp [plain c, ih, Char.ofNat_toNat]

private theorem textOf?_toNat (s : String) : textOf? (s.toList.map Char.toNat) = some s := by
  rw [textOf?, join?_toNat, Option.map_some, String.ofList_toList]

/-! ## Tokens -/

mutual

def tokens : Json → List Token
  | .null => [.null]
  | .bool b => [.bool b]
  | .number n => [.number n.reread]
  | .string s => [.text (s.toList.map Char.toNat)]
  | .array items => .openArray :: (itemTokens items ++ [.closeArray])
  | .object members => .openObject :: (memberTokens members ++ [.closeObject])

def itemTokens : List Json → List Token
  | [] => []
  | [item] => tokens item
  | item :: items => tokens item ++ .comma :: itemTokens items

def memberTokens : List (String × Json) → List Token
  | [] => []
  | [(key, value)] => .text (key.toList.map Char.toNat) :: .colon :: tokens value
  | (key, value) :: members =>
    .text (key.toList.map Char.toNat) :: .colon :: (tokens value ++ .comma :: memberTokens members)

end

/-- What follows ends a numeral or a word. -/
def Delimits (rest : List Char) : Prop :=
  ∀ c ∈ rest.head?, isNumeralChar c = false ∧ c.isAlpha = false

private theorem delimits_cons {c : Char} {rest : List Char} (hn : isNumeralChar c = false)
    (ha : c.isAlpha = false) : Delimits (c :: rest) := by
  rintro _ ⟨⟩
  exact ⟨hn, ha⟩

private theorem takeWhile_delimited {p : Char → Bool} {cs rest : List Char}
    (h : ∀ c ∈ cs, p c = true) (hr : ∀ c ∈ rest.head?, p c = false) :
    (cs ++ rest).takeWhile p = cs ∧ (cs ++ rest).dropWhile p = rest := by
  rw [List.takeWhile_append_of_pos h, List.dropWhile_append_of_pos h]
  cases rest with
  | nil => exact ⟨List.append_nil cs, rfl⟩
  | cons c rest =>
    have stop := hr c rfl
    simp [stop]

private theorem tokens?_nil : tokens? [] = some [] := by
  rw [tokens?]

private theorem punctuation?_eq_none {c : Char} (h : c ∉ ['[', ']', '\x7b', '\x7d', ',', ':']) :
    punctuation? c = none := by
  simp only [List.mem_cons, List.not_mem_nil, or_false, not_or] at h
  simp [punctuation?, h]

private theorem tokens?_punctuation {c : Char} {token : Token} (h : punctuation? c = some token)
    (rest : List Char) : tokens? (c :: rest) = (tokens? rest).map (token :: ·) := by
  have plain : isSpace c = false ∧ c ≠ '"' := by
    by_cases known : c ∈ ['[', ']', '\x7b', '\x7d', ',', ':']
    · simp only [List.mem_cons, List.not_mem_nil, or_false] at known
      rcases known with rfl | rfl | rfl | rfl | rfl | rfl <;> decide
    · rw [punctuation?_eq_none known] at h
      cases h
  rw [tokens?]
  simp [plain, h]

private theorem tokens?_text (s : String) (rest : List Char) :
    tokens? (textChars s ++ rest) =
      (tokens? rest).map (.text (s.toList.map Char.toNat) :: ·) := by
  have read := textAfter?_escapes [] s.toList rest
  have chars : textChars s ++ rest = '"' :: (s.toList.flatMap escapeChar ++ '"' :: rest) := by
    simp [textChars]
  rw [chars, tokens?, if_neg (by decide), if_pos rfl]
  split
  next found =>
    rw [read] at found
    cases found
    rfl
  next found =>
    rw [read] at found
    cases found

private theorem plain_of_lead {c : Char} (h : (c.isDigit || c = '-') = true) :
    isSpace c = false ∧ c ≠ '"' ∧ punctuation? c = none := by
  have ne (d : Char) (hd : (d.isDigit || d = '-') = false) : c ≠ d := by
    rintro rfl
    rw [h] at hd
    cases hd
  refine ⟨?_, ne '"' rfl, punctuation?_eq_none ?_⟩
  · simp [isSpace, ne ' ' rfl, ne '\n' rfl, ne '\t' rfl, ne '\r' rfl]
  · simp [ne '[' rfl, ne ']' rfl, ne '\x7b' rfl, ne '\x7d' rfl, ne ',' rfl, ne ':' rfl]

private theorem tokens?_number (n : Number) {rest : List Char} (h : Delimits rest) :
    tokens? (n.chars ++ rest) = (tokens? rest).map (.number n.reread :: ·) := by
  obtain ⟨c, cs, chars, lead, tail⟩ := n.chars_eq_cons
  obtain ⟨m, read, value⟩ := n.numeral?_chars
  obtain ⟨first, last⟩ := takeWhile_delimited tail fun c member => (h c member).1
  obtain ⟨space, quote, sign⟩ := plain_of_lead lead
  rw [chars] at read
  rw [← value, chars, List.cons_append, tokens?, if_neg (by simp [space]), if_neg quote]
  simp only [sign, lead, if_true, first, last, read]
  cases tokens? rest <;> rfl

private theorem tokens?_word {c : Char} {word : List Char} {token : Token}
    (h : literal? (c :: word) = some token)
    (plain : isSpace c = false ∧ c ≠ '"' ∧ punctuation? c = none ∧ (c.isDigit || c = '-') = false)
    (letters : word.all Char.isAlpha = true) {rest : List Char} (hr : Delimits rest) :
    tokens? (c :: (word ++ rest)) = (tokens? rest).map (token :: ·) := by
  obtain ⟨space, quote, sign, lead⟩ := plain
  obtain ⟨first, last⟩ :=
    takeWhile_delimited (List.all_eq_true.mp letters) fun c member => (hr c member).2
  rw [tokens?, if_neg (by simp [space]), if_neg quote]
  simp only [sign, lead, first, last, h]
  cases tokens? rest <;> rfl

mutual

/-- A printed value has its tokens, whatever follows it and does not go on with its last one. -/
theorem tokens?_chars : ∀ (v : Json) {rest : List Char}, Delimits rest →
    tokens? (v.chars ++ rest) = (tokens? rest).map (v.tokens ++ ·)
  | .null, _, h => tokens?_word rfl (by decide) rfl h
  | .bool true, _, h => tokens?_word rfl (by decide) rfl h
  | .bool false, _, h => tokens?_word rfl (by decide) rfl h
  | .number n, _, h => tokens?_number n h
  | .string s, _, _ => tokens?_text s _
  | .array items, rest, h => by
    have closed : Delimits (']' :: rest) := delimits_cons rfl rfl
    have split : chars (.array items) ++ rest = '[' :: (itemChars items ++ ']' :: rest) := by
      simp [chars]
    rw [split, tokens?_punctuation rfl, tokens?_itemChars items closed, tokens?_punctuation rfl]
    simp [tokens, Function.comp_def]
  | .object members, rest, h => by
    have closed : Delimits ('\x7d' :: rest) := delimits_cons rfl rfl
    have split : chars (.object members) ++ rest =
        '\x7b' :: (memberChars members ++ '\x7d' :: rest) := by
      simp [chars]
    rw [split, tokens?_punctuation rfl, tokens?_memberChars members closed,
      tokens?_punctuation rfl]
    simp [tokens, Function.comp_def]

theorem tokens?_itemChars : ∀ (items : List Json) {rest : List Char}, Delimits rest →
    tokens? (itemChars items ++ rest) = (tokens? rest).map (itemTokens items ++ ·)
  | [], rest, _ => by simp [itemChars, itemTokens]
  | [item], _, h => tokens?_chars item h
  | item :: next :: items, rest, h => by
    have more : Delimits (',' :: (itemChars (next :: items) ++ rest)) := delimits_cons rfl rfl
    have split : itemChars (item :: next :: items) ++ rest =
        chars item ++ ',' :: (itemChars (next :: items) ++ rest) := by
      simp [itemChars]
    rw [split, tokens?_chars item more, tokens?_punctuation rfl,
      tokens?_itemChars (next :: items) h]
    simp [itemTokens, Function.comp_def]

theorem tokens?_memberChars : ∀ (members : List (String × Json)) {rest : List Char},
    Delimits rest →
    tokens? (memberChars members ++ rest) = (tokens? rest).map (memberTokens members ++ ·)
  | [], rest, _ => by simp [memberChars, memberTokens]
  | [(key, value)], rest, h => by
    have split : memberChars [(key, value)] ++ rest =
        textChars key ++ ':' :: (chars value ++ rest) := by
      simp [memberChars]
    rw [split, tokens?_text, tokens?_punctuation rfl, tokens?_chars value h]
    simp [memberTokens, Function.comp_def]
  | (key, value) :: next :: members, rest, h => by
    have more : Delimits (',' :: (memberChars (next :: members) ++ rest)) :=
      delimits_cons rfl rfl
    have split : memberChars ((key, value) :: next :: members) ++ rest =
        textChars key ++
          ':' :: (chars value ++ ',' :: (memberChars (next :: members) ++ rest)) := by
      simp [memberChars]
    rw [split, tokens?_text, tokens?_punctuation rfl, tokens?_chars value more,
      tokens?_punctuation rfl, tokens?_memberChars (next :: members) h]
    simp [memberTokens, Function.comp_def]

end

private theorem tokens?_print (v : Json) : tokens? v.print.toList = some v.tokens := by
  have read : tokens? (v.chars ++ []) = _ := tokens?_chars v nofun
  rw [List.append_nil, tokens?_nil, Option.map_some, List.append_nil] at read
  rw [print, String.toList_ofList, read]

/-! ## Trees -/

mutual

def Tree.mapNumbers (f : Number → Option Number) : Tree → Tree
  | .number n => .number (n.bind f)
  | .array items => .array (Tree.mapItems f items)
  | .object members => .object (Tree.mapMembers f members)
  | tree => tree

def Tree.mapItems (f : Number → Option Number) : List Tree → List Tree
  | [] => []
  | item :: items => Tree.mapNumbers f item :: Tree.mapItems f items

def Tree.mapMembers (f : Number → Option Number) :
    List (Option String × Tree) → List (Option String × Tree)
  | [] => []
  | (key, tree) :: members => (key, Tree.mapNumbers f tree) :: Tree.mapMembers f members

end

def printedTree (v : Json) : Tree := v.toTree.mapNumbers Number.reread

variable {depth : Nat} {frames : List Frame}

private theorem foldlM_valueOrEnd (item : Json) (items : List Json) (more : List Token) :
    (itemTokens (item :: items) ++ more).foldlM (Reading.step depth) ⟨frames, .valueOrEnd⟩ =
      (itemTokens (item :: items) ++ more).foldlM (Reading.step depth) ⟨frames, .value⟩ := by
  cases items <;> cases item <;> rfl

private theorem foldlM_keyOrEnd (member : String × Json) (members : List (String × Json))
    (more : List Token) :
    (memberTokens (member :: members) ++ more).foldlM (Reading.step depth) ⟨frames, .keyOrEnd⟩ =
      (memberTokens (member :: members) ++ more).foldlM (Reading.step depth) ⟨frames, .key []⟩ := by
  cases members <;> rfl

private theorem step_openArray (h : frames.length < depth) :
    Reading.step depth ⟨frames, .value⟩ .openArray = some ⟨.array [] :: frames, .valueOrEnd⟩ := by
  simp [Reading.step, Reading.beginValue, h]

private theorem step_openObject (h : frames.length < depth) :
    Reading.step depth ⟨frames, .value⟩ .openObject = some ⟨frames, .keyOrEnd⟩ := by
  simp [Reading.step, Reading.beginValue, h]

private theorem foldlM_key (key : String) (reversed : List (Option String × Tree))
    (more : List Token) :
    (.text (key.toList.map Char.toNat) :: .colon :: more).foldlM (Reading.step depth)
        ⟨frames, .key reversed⟩ =
      more.foldlM (Reading.step depth) ⟨.object reversed (some key) :: frames, .value⟩ := by
  have named : Reading.step depth ⟨frames, .key reversed⟩ (.text (key.toList.map Char.toNat)) =
      some ⟨.object reversed (some key) :: frames, .colon⟩ := by
    rw [← textOf?_toNat key]
    rfl
  rw [List.foldlM_cons, named]
  rfl

-- Induction on the value, with what is open around it left general. An array or an object opens one
-- frame and has two characters besides its contents, so the characters bound the depth.
mutual

/-- The tokens of a value are taken as a whole, whatever is open around it. -/
theorem foldlM_tokens : ∀ (v : Json) {frames : List Frame},
    frames.length + v.chars.length ≤ depth →
    v.tokens.foldlM (Reading.step depth) ⟨frames, .value⟩ =
      some ⟨frames, .separator v.printedTree⟩
  | .null, _, _ => rfl
  | .bool _, _, _ => rfl
  | .number _, _, _ => rfl
  | .string s, _, _ => by
    have read := textOf?_toNat s
    simp [tokens, Reading.step, Reading.beginValue, Reading.finish, read, printedTree, toTree,
      Tree.mapNumbers]
  | .array [], frames, h => by
    simp only [chars, itemChars, List.length_append, List.length_cons, List.length_nil] at h
    rw [tokens, List.foldlM_cons, step_openArray (by omega)]
    rfl
  | .array (item :: items), frames, h => by
    simp only [chars, List.length_append, List.length_cons, List.length_nil] at h
    rw [tokens, List.foldlM_cons, step_openArray (by omega)]
    refine (foldlM_valueOrEnd item items _).trans ?_
    exact foldlM_itemTokens (item :: items) (List.cons_ne_nil _ _) (by omega)
  | .object [], frames, h => by
    simp only [chars, memberChars, List.length_append, List.length_cons, List.length_nil] at h
    rw [tokens, List.foldlM_cons, step_openObject (by omega)]
    rfl
  | .object (member :: members), frames, h => by
    simp only [chars, List.length_append, List.length_cons, List.length_nil] at h
    rw [tokens, List.foldlM_cons, step_openObject (by omega)]
    refine (foldlM_keyOrEnd member members _).trans ?_
    exact foldlM_memberTokens (member :: members) (List.cons_ne_nil _ _) (by omega)

theorem foldlM_itemTokens : ∀ (items : List Json) {frames : List Frame} {reversed : List Tree},
    items ≠ [] → frames.length + 1 + (itemChars items).length ≤ depth →
    (itemTokens items ++ [Token.closeArray]).foldlM (Reading.step depth)
        ⟨.array reversed :: frames, .value⟩ =
      some ⟨frames, .separator
        (.array (reversed.reverse ++ Tree.mapItems Number.reread (toItems items)))⟩
  | [], _, _, h, _ => absurd rfl h
  | [item], frames, reversed, _, h => by
    rw [itemTokens, List.foldlM_append, foldlM_tokens item (by simpa [itemChars] using h)]
    simp [Reading.step, Reading.close, Reading.finish, toItems, Tree.mapItems, printedTree]
  | item :: next :: items, frames, reversed, _, h => by
    simp only [itemChars, List.length_append, List.length_cons] at h
    have split : itemTokens (item :: next :: items) ++ [Token.closeArray] =
        tokens item ++ .comma :: (itemTokens (next :: items) ++ [Token.closeArray]) := by
      simp [itemTokens]
    rw [split, List.foldlM_append, foldlM_tokens item (by simp; omega)]
    refine (foldlM_itemTokens (next :: items) (List.cons_ne_nil _ _) (by omega)).trans ?_
    simp [toItems, Tree.mapItems, printedTree]

theorem foldlM_memberTokens : ∀ (members : List (String × Json)) {frames : List Frame}
    {reversed : List (Option String × Tree)},
    members ≠ [] → frames.length + 1 + (memberChars members).length ≤ depth →
    (memberTokens members ++ [Token.closeObject]).foldlM (Reading.step depth)
        ⟨frames, .key reversed⟩ =
      some ⟨frames, .separator
        (.object (reversed.reverse ++ Tree.mapMembers Number.reread (toMembers members)))⟩
  | [], _, _, h, _ => absurd rfl h
  | [(key, value)], frames, reversed, _, h => by
    simp only [memberChars, List.length_append, List.length_cons] at h
    rw [memberTokens, List.cons_append, List.cons_append, foldlM_key, List.foldlM_append,
      foldlM_tokens value (by simp; omega)]
    simp [Reading.step, Reading.close, Reading.finish, toMembers, Tree.mapMembers, printedTree]
  | (key, value) :: next :: members, frames, reversed, _, h => by
    simp only [memberChars, List.length_append, List.length_cons] at h
    have split : memberTokens ((key, value) :: next :: members) ++ [Token.closeObject] =
        .text (key.toList.map Char.toNat) :: .colon ::
          (tokens value ++ .comma :: (memberTokens (next :: members) ++ [Token.closeObject])) := by
      simp [memberTokens]
    rw [split, foldlM_key, List.foldlM_append, foldlM_tokens value (by simp; omega)]
    refine (foldlM_memberTokens (next :: members) (List.cons_ne_nil _ _) (by omega)).trans ?_
    simp [toMembers, Tree.mapMembers, printedTree]

end

theorem read?_print (v : Json) : Tree.read? v.print = some v.printedTree := by
  have long : ([] : List Frame).length + v.chars.length ≤ v.print.length := by
    simp [print]
  rw [Tree.read?, Tree.readWithin?, tokens?_print, Option.bind_eq_bind, Option.bind_some,
    Reading.start, foldlM_tokens v long]
  rfl

/-! ## Short integers in trees -/

def Tree.short (tree : Tree) : Tree := tree.mapNumbers Number.short?

theorem Tree.mapMembers_eq_map {f : Number → Option Number}
    (members : List (Option String × Tree)) :
    mapMembers f members = members.map fun (key, tree) => (key, mapNumbers f tree) := by
  induction members with
  | nil => rfl
  | cons member members ih => rw [mapMembers, ih, List.map_cons]

theorem Tree.mapItems_eq_map {f : Number → Option Number} (items : List Tree) :
    mapItems f items = items.map (mapNumbers f) := by
  induction items with
  | nil => rfl
  | cons item items ih => rw [mapItems, ih, List.map_cons]

mutual

theorem short_printedTree : ∀ v : Json, v.printedTree.short = v.toTree.short
  | .null | .bool _ | .string _ => rfl
  | .number n => congrArg Tree.number n.short?_reread
  | .array items => congrArg Tree.array (short_printedItems items)
  | .object members => congrArg Tree.object (short_printedMembers members)

theorem short_printedItems : ∀ items : List Json,
    Tree.mapItems Number.short? (Tree.mapItems Number.reread (toItems items)) =
      Tree.mapItems Number.short? (toItems items)
  | [] => rfl
  | item :: items => congrArg₂ List.cons (short_printedTree item) (short_printedItems items)

theorem short_printedMembers : ∀ members : List (String × Json),
    Tree.mapMembers Number.short? (Tree.mapMembers Number.reread (toMembers members)) =
      Tree.mapMembers Number.short? (toMembers members)
  | [] => rfl
  | (key, value) :: members =>
    congrArg₂ List.cons (congrArg (some key, ·) (short_printedTree value))
      (short_printedMembers members)

end

end Json

end ApiScaffold
