import ApiScaffold.Json.Token
/-!
# TOML tokens
-/
namespace ApiScaffold.Toml

open ApiScaffold.Json (hexValue?)

inductive Token where
  | newline
  | equals
  | comma
  | dot
  | openList
  | closeList
  | openTable
  | closeTable
  | bare (word : String)
  /-- A quoted text; a long one may hold line breaks and is no key. -/
  | text (long : Bool) (value : String)
  deriving DecidableEq

/-- What a backslash has started in a text. -/
inductive Escape where
  | none
  | started
  | number (missing value : Nat)
  /-- Blanks behind the backslash: a line break has to follow. -/
  | lineEnd
  /-- Blanks and line breaks up to the next character do not count. -/
  | trimming

/-- Where the next character stands. The characters of a text are reversed. -/
inductive Mode where
  | free (inWord : Bool)
  | comment
  | literal (long : Bool) (done : List Char)
  | basic (long : Bool) (done : List Char) (escape : Escape)

def isBare (c : Char) : Bool := c.isAlphanum || c = '_' || c = '-'

/-- Texts and comments hold no control characters but tabs. -/
def isTextChar (c : Char) : Bool := c = '\t' || (32 ≤ c.toNat && c.toNat ≠ 127)

def isSpace (c : Char) : Bool := c = ' ' || c = '\t'

def punctuation? : Char → Option Token
  | '=' => some .equals
  | ',' => some .comma
  | '.' => some .dot
  | '[' => some .openList
  | ']' => some .closeList
  | '\x7b' => some .openTable
  | '\x7d' => some .closeTable
  | _ => none

def escape? : Char → Option Char
  | 'b' => some '\x08'
  | 't' => some '\t'
  | 'n' => some '\n'
  | 'f' => some '\x0c'
  | 'r' => some '\r'
  | '"' => some '"'
  | '\\' => some '\\'
  | _ => none

/-- Adds a character to the word before it, or starts one. -/
def pushBare (inWord : Bool) (c : Char) (done : List Token) : List Token :=
  match inWord, done with
  | true, .bare word :: done => .bare (word.push c) :: done
  | _, done => .bare (String.singleton c) :: done

def textToken (long : Bool) (done : List Char) : Token := .text long (String.ofList done.reverse)

/-- The characters of a long text behind its opening quotes. -/
def afterOpening : List Char → List Char
  | '\n' :: rest => rest
  | '\r' :: '\n' :: rest => rest
  | rest => rest

/-- The number of quotes a text starts with, up to five: of that many the last three close a
long text. -/
def quotesAhead (quote : Char) (cs : List Char) : Nat := ((cs.take 5).takeWhile (· = quote)).length

/-- The tokens so far (reversed), and how many of the next characters are dealt with already. -/
structure Lexing where
  mode : Mode
  done : List Token
  past : Nat

/-- A line feed, or a carriage return and a line feed, which count as one character. -/
def lineBreak? (c : Char) (rest : List Char) : Option Nat :=
  if c = '\n' then some 0
  else if c = '\r' && rest.head? = some '\n' then some 1
  else none

/-- Outside texts and comments. Three quotes open a long text, and a line break right behind
them does not count. -/
def stepFree (inWord : Bool) (done : List Token) (c : Char) (rest : List Char) : Option Lexing :=
  if let some past := lineBreak? c rest then some ⟨.free false, .newline :: done, past⟩
  else if isSpace c then some ⟨.free false, done, 0⟩
  else if c = '#' then some ⟨.comment, done, 0⟩
  else if c = '"' || c = '\'' then
    let opened (long : Bool) : Mode := if c = '"' then .basic long [] .none else .literal long []
    match rest with
    | d :: e :: more =>
      if d = c && e = c then
        some ⟨opened true, done, 2 + (more.length - (afterOpening more).length)⟩
      else some ⟨opened false, done, 0⟩
    | _ => some ⟨opened false, done, 0⟩
  else match punctuation? c with
    | some token => some ⟨.free false, token :: done, 0⟩
    | none => if isBare c then some ⟨.free true, pushBare inWord c done, 0⟩ else none

def stepComment (done : List Token) (c : Char) (rest : List Char) : Option Lexing :=
  if let some past := lineBreak? c rest then some ⟨.free false, .newline :: done, past⟩
  else if isTextChar c then some ⟨.comment, done, 0⟩
  else none

/-- A character of a text that stands for itself, or the quote that ends it; `going` is the text
that goes on. One or two quotes in a row belong to a long text, also right before its end. -/
def stepText (quote : Char) (long : Bool) (text : List Char) (going : List Char → Mode)
    (done : List Token) (c : Char) (rest : List Char) : Option Lexing :=
  if c = quote then
    if !long then some ⟨.free false, textToken long text :: done, 0⟩
    else
      let n := quotesAhead quote (c :: rest)
      if n < 3 then some ⟨going (c :: text), done, 0⟩
      else
        some ⟨.free false, textToken long (List.replicate (n - 3) quote ++ text) :: done, n - 1⟩
  else match long, lineBreak? c rest with
    | true, some past => some ⟨going ('\n' :: text), done, past⟩
    | _, _ => if isTextChar c then some ⟨going (c :: text), done, 0⟩ else none

/-- A character behind a backslash. -/
def stepEscape (long : Bool) (text : List Char) (done : List Token) (c : Char)
    (rest : List Char) : Option Lexing :=
  match escape? c, lineBreak? c rest with
  | some e, _ => some ⟨.basic long (e :: text) .none, done, 0⟩
  | none, some past => if long then some ⟨.basic long text .trimming, done, past⟩ else none
  | none, none =>
    if c = 'u' then some ⟨.basic long text (.number 4 0), done, 0⟩
    else if c = 'U' then some ⟨.basic long text (.number 8 0), done, 0⟩
    else if long && isSpace c then some ⟨.basic long text .lineEnd, done, 0⟩
    else none

def stepNumber (long : Bool) (text : List Char) (done : List Token) (missing value : Nat)
    (c : Char) : Option Lexing := do
  let value := value * 16 + (← hexValue? c)
  if 1 < missing then some ⟨.basic long text (.number (missing - 1) value), done, 0⟩
  else if value.isValidChar then some ⟨.basic long (Char.ofNat value :: text) .none, done, 0⟩
  else none

def stepBasic (long : Bool) (text : List Char) (escape : Escape) (done : List Token) (c : Char)
    (rest : List Char) : Option Lexing :=
  let plain :=
    if c = '\\' then some ⟨.basic long text .started, done, 0⟩
    else stepText '"' long text (.basic long · .none) done c rest
  match escape with
  | .none => plain
  | .started => stepEscape long text done c rest
  | .number missing value => stepNumber long text done missing value c
  | .lineEnd =>
    match lineBreak? c rest with
    | some past => some ⟨.basic long text .trimming, done, past⟩
    | none => if isSpace c then some ⟨.basic long text .lineEnd, done, 0⟩ else none
  | .trimming =>
    match lineBreak? c rest with
    | some past => some ⟨.basic long text .trimming, done, past⟩
    | none => if isSpace c then some ⟨.basic long text .trimming, done, 0⟩ else plain

def step (mode : Mode) (done : List Token) (c : Char) (rest : List Char) : Option Lexing :=
  match mode with
  | .free inWord => stepFree inWord done c rest
  | .comment => stepComment done c rest
  | .literal long text => stepText '\'' long text (.literal long) done c rest
  | .basic long text escape => stepBasic long text escape done c rest

def tokensFrom (s : Lexing) : List Char → Option (List Token)
  | [] =>
    match s.mode with
    | .free _ => some s.done.reverse
    | .comment => some s.done.reverse
    | _ => none
  | c :: rest =>
    match s.past with
    | past + 1 => tokensFrom { s with past } rest
    | 0 =>
      match step s.mode s.done c rest with
      | some next => tokensFrom next rest
      | none => none

/-- A byte order mark may stand before the text. -/
def tokens? (text : String) : Option (List Token) :=
  let start : Lexing := ⟨.free false, [], 0⟩
  match text.toList with
  | '\ufeff' :: cs => tokensFrom start cs
  | cs => tokensFrom start cs

end ApiScaffold.Toml
