/-!
# Scripts

A script is a list of pipelines; the link before a pipeline tells when it runs. A command is made
of words, or it is a script in brackets. Words are kept in pieces until they are expanded.
-/
namespace ApiScaffold.Shell

/-- A part of a word. What is quoted is never split into several words. -/
inductive Piece where
  | text (quoted : Bool) (chars : List Char)
  | parameter (quoted : Bool) (name : String)
  deriving DecidableEq

abbrev Word := List Piece

inductive Direction where
  | read
  | write
  | append
  | duplicate
  deriving DecidableEq

structure Redirection where
  stream : Nat
  direction : Direction
  target : Word
  deriving DecidableEq

inductive Link where
  | always
  | onSuccess
  | onFailure
  deriving DecidableEq

/-- Commands that each read what the one before puts out. -/
structure PipelineOf (α : Type) where
  link : Link
  negated : Bool
  commands : List α

/-- What a group in round brackets changes besides the disk stays inside it. -/
inductive Bracket where
  | round
  | curly
  deriving DecidableEq

def Bracket.closing : Bracket → String
  | .round => "\")\""
  | .curly => "\"\x7d\""

inductive Command where
  | simple (words : List Word) (redirections : List Redirection)
  | group (bracket : Bracket) (script : List (PipelineOf Command))
      (redirections : List Redirection)

abbrev Pipeline := PipelineOf Command

abbrev Script := List Pipeline

inductive Token where
  | word (word : Word)
  | redirect (stream : Option Nat) (direction : Direction)
  | finish
  | both
  | either
  | pipe
  | leftRound
  | rightRound
  deriving DecidableEq

inductive SyntaxFault where
  | openQuote
  | openBracket (bracket : Bracket)
  | unexpected (symbol : String)
  deriving DecidableEq

def SyntaxFault.message : SyntaxFault → String
  | .openQuote => "Unterminated quoted string"
  | .openBracket bracket => s!"end of file unexpected (expecting {bracket.closing})"
  | .unexpected symbol => symbol ++ " unexpected"

/-! ## Tokens -/

inductive Mode where
  | free
  | single
  | double
  | escaped (inDouble : Bool)
  | dollar (inDouble : Bool)
  | name (inDouble : Bool) (chars : List Char)
  | braced (inDouble : Bool) (chars : List Char)
  | comment
  deriving DecidableEq

/-- The tokens so far and the pieces of the word that is being read, both reversed. -/
structure Lexing where
  mode : Mode
  done : List Token
  word : Option (List Piece)

namespace Lexing

def start : Lexing := ⟨.free, [], none⟩

def add (piece : Piece) (s : Lexing) : Lexing := { s with word := some (piece :: s.word.getD []) }

def addChar (quoted : Bool) (c : Char) (s : Lexing) : Lexing :=
  match s.word with
  | some (.text q cs :: word) =>
    if q = quoted then { s with word := some (.text q (cs ++ [c]) :: word) }
    else s.add (.text quoted [c])
  | _ => s.add (.text quoted [c])

def endWord (s : Lexing) : Lexing :=
  match s.word with
  | some pieces => { s with done := .word pieces.reverse :: s.done, word := none }
  | none => s

def push (token : Token) (s : Lexing) : Lexing :=
  let s := s.endWord
  { s with done := token :: s.done }

def inMode (mode : Mode) (s : Lexing) : Lexing := { s with mode }

/-- Digits right before a redirection name its stream. -/
def redirect (direction : Direction) (s : Lexing) : Lexing :=
  match s.word with
  | some [.text false cs] =>
    if cs.all Char.isDigit then
      { s with
        word := none
        done := .redirect (some (Nat.ofDigitChars 10 cs 0)) direction :: s.done }
    else s.push (.redirect none direction)
  | _ => s.push (.redirect none direction)

def isNameStart (c : Char) : Bool := c.isAlpha || c = '_'

def isNameChar (c : Char) : Bool := c.isAlphanum || c = '_'

def isSpecial (c : Char) : Bool := "?$#@*!-".toList.contains c || c.isDigit

/-- A character outside quotes; `next` comes behind it. The flag tells whether the next character
belongs to the same symbol. -/
def stepFree (s : Lexing) (c : Char) (next : Option Char) : Lexing × Bool :=
  if c = ' ' || c = '\t' then (s.endWord, false)
  else if c = '\n' then (s.push .finish, false)
  else if c = ';' then (s.push .finish, false)
  else if c = '&' then if next = some '&' then (s.push .both, true) else (s.push .finish, false)
  else if c = '|' then if next = some '|' then (s.push .either, true) else (s.push .pipe, false)
  else if c = '>' then
    if next = some '>' then (s.redirect .append, true)
    else if next = some '&' then (s.redirect .duplicate, true)
    else (s.redirect .write, false)
  else if c = '<' then (s.redirect .read, false)
  else if c = '(' then (s.push .leftRound, false)
  else if c = ')' then (s.push .rightRound, false)
  else if c = '\'' then ((s.add (.text true [])).inMode .single, false)
  else if c = '"' then ((s.add (.text true [])).inMode .double, false)
  else if c = '\\' then (s.inMode (.escaped false), false)
  else if c = '$' then (s.inMode (.dollar false), false)
  else if c = '#' && s.word.isNone then (s.inMode .comment, false)
  else (s.addChar false c, false)

/-- A character between double quotes. -/
def stepDouble (s : Lexing) (c : Char) : Lexing :=
  if c = '"' then s.inMode .free
  else if c = '\\' then s.inMode (.escaped true)
  else if c = '$' then s.inMode (.dollar true)
  else s.addChar true c

/-- A character where no symbol or name is being read. -/
def stepOn (inDouble : Bool) (s : Lexing) (c : Char) (next : Option Char) : Lexing × Bool :=
  if inDouble then ((s.inMode .double).stepDouble c, false) else (s.inMode .free).stepFree c next

def step (s : Lexing) (c : Char) (next : Option Char) : Lexing × Bool :=
  match s.mode with
  | .free => s.stepFree c next
  | .double => (s.stepDouble c, false)
  | .single => (if c = '\'' then s.inMode .free else s.addChar true c, false)
  | .comment => if c = '\n' then ((s.inMode .free).push .finish, false) else (s, false)
  | .escaped inDouble =>
    let s := s.inMode (if inDouble then .double else .free)
    if c = '\n' then (s, false)
    else if inDouble && !("$\x60\"\\".toList.contains c) then
      ((s.addChar true '\\').addChar true c, false)
    else (s.addChar true c, false)
  | .dollar inDouble =>
    if isNameStart c then (s.inMode (.name inDouble [c]), false)
    else if c = '\x7b' then (s.inMode (.braced inDouble []), false)
    else if isSpecial c then
      let s := s.add (.parameter inDouble (String.singleton c))
      (s.inMode (if inDouble then .double else .free), false)
    else (s.addChar inDouble '$').stepOn inDouble c next
  | .name inDouble cs =>
    if isNameChar c then (s.inMode (.name inDouble (cs ++ [c])), false)
    else (s.add (.parameter inDouble (String.ofList cs))).stepOn inDouble c next
  | .braced inDouble cs =>
    if c = '\x7d' then
      let s := s.add (.parameter inDouble (String.ofList cs))
      (s.inMode (if inDouble then .double else .free), false)
    else (s.inMode (.braced inDouble (cs ++ [c])), false)

def finish (s : Lexing) : Except SyntaxFault (List Token) :=
  match s.mode with
  | .free => .ok s.endWord.done.reverse
  | .comment => .ok s.endWord.done.reverse
  | .escaped false => .ok (s.addChar true '\\').endWord.done.reverse
  | .dollar false => .ok (s.addChar false '$').endWord.done.reverse
  | .name false cs => .ok (s.add (.parameter false (String.ofList cs))).endWord.done.reverse
  | _ => .error .openQuote

def run (s : Lexing) (skip : Bool) : List Char → Except SyntaxFault (List Token)
  | [] => s.finish
  | c :: rest =>
    if skip then s.run false rest
    else
      let (s, skip) := s.step c rest.head?
      s.run skip rest

end Lexing

/-! ## Commands -/

/-- The pipelines read so far (reversed), and the pipeline and command being read. -/
structure Level where
  done : List Pipeline
  link : Link
  negated : Bool
  pipeline : List Command
  command : Command

namespace Level

def start : Level := ⟨[], .always, false, [], .simple [] []⟩

def isBlank (l : Level) : Bool :=
  match l.command with
  | .simple [] [] => true
  | _ => false

/-- Ends a command. One has to stand there where a link asks for it. -/
def endCommand (symbol : String) (l : Level) : Except SyntaxFault Level :=
  if l.isBlank then .error (.unexpected symbol)
  else .ok { l with pipeline := l.pipeline ++ [l.command], command := .simple [] [] }

def endPipeline (symbol : String) (next : Link) (l : Level) : Except SyntaxFault Level := do
  if l.isBlank && !l.negated && l.pipeline.isEmpty && l.link = .always && next = .always then
    return l
  let l ← l.endCommand symbol
  let pipeline : Pipeline := ⟨l.link, l.negated, l.pipeline⟩
  return ⟨pipeline :: l.done, next, false, [], .simple [] []⟩

def addWord (word : Word) (l : Level) : Except SyntaxFault Level :=
  match l.command with
  | .simple words redirections =>
    .ok { l with command := .simple (words ++ [word]) redirections }
  | .group .. => .error (.unexpected "word")

def addRedirection (r : Redirection) (l : Level) : Level :=
  match l.command with
  | .simple words redirections => { l with command := .simple words (redirections ++ [r]) }
  | .group bracket script redirections =>
    { l with command := .group bracket script (redirections ++ [r]) }

end Level

/-- The levels around the one being read, each with the bracket that leads from it inwards. -/
structure Reading where
  level : Level
  outer : List (Bracket × Level)
  pending : Option (Nat × Direction)

namespace Reading

def start : Reading := ⟨.start, [], none⟩

def settled (symbol : String) (r : Reading) : Except SyntaxFault Unit :=
  if r.pending.isSome then .error (.unexpected symbol) else .ok ()

def atLevel (symbol : String) (r : Reading) (f : Level → Except SyntaxFault Level) :
    Except SyntaxFault Reading := do
  r.settled symbol
  return { r with level := ← f r.level }

/-- Goes into a bracket, where a command may start. -/
def enter (bracket : Bracket) (symbol : String) (r : Reading) : Except SyntaxFault Reading := do
  r.settled symbol
  if !r.level.isBlank then throw (.unexpected symbol)
  return { r with level := .start, outer := (bracket, r.level) :: r.outer }

/-- Leaves a bracket, in which there has to be a command. -/
def leave (bracket : Bracket) (r : Reading) : Except SyntaxFault Reading := do
  let unexpected := SyntaxFault.unexpected bracket.closing
  r.settled bracket.closing
  match r.outer with
  | [] => throw unexpected
  | (entered, above) :: outer =>
    let inner ← r.level.endPipeline bracket.closing .always
    if entered ≠ bracket || inner.done.isEmpty then throw unexpected
    return { r with level := { above with command := .group bracket inner.done.reverse [] }, outer }

/-- Where a command may start, some words are symbols. -/
def word (word : Word) (r : Reading) : Except SyntaxFault Reading :=
  match r.pending with
  | some (stream, direction) =>
    .ok { r with pending := none, level := r.level.addRedirection ⟨stream, direction, word⟩ }
  | none =>
    if r.level.isBlank && word = [.text false ['\x7b']] then r.enter .curly "\"\x7b\""
    else if r.level.isBlank && word = [.text false ['\x7d']] then r.leave .curly
    else if r.level.isBlank && r.level.pipeline.isEmpty && word = [.text false ['!']] then
      .ok { r with level := { r.level with negated := !r.level.negated } }
    else r.atLevel "word" (·.addWord word)

def step (r : Reading) : Token → Except SyntaxFault Reading
  | .word word => r.word word
  | .redirect stream direction => do
    r.settled "redirection"
    let stream := stream.getD (if direction = .read then 0 else 1)
    return { r with pending := some (stream, direction) }
  | .finish => r.atLevel "\";\"" (·.endPipeline "\";\"" .always)
  | .both => r.atLevel "\"&&\"" (·.endPipeline "\"&&\"" .onSuccess)
  | .either => r.atLevel "\"||\"" (·.endPipeline "\"||\"" .onFailure)
  | .pipe => r.atLevel "\"|\"" (·.endCommand "\"|\"")
  | .leftRound => r.enter .round "\"(\""
  | .rightRound => r.leave .round

def finish (r : Reading) : Except SyntaxFault Script := do
  let r ← r.atLevel "end of file" (·.endPipeline "end of file" .always)
  match r.outer with
  | (bracket, _) :: _ => throw (.openBracket bracket)
  | [] => return r.level.done.reverse

end Reading

def Script.ofText (text : String) : Except SyntaxFault Script := do
  let tokens ← Lexing.start.run false text.toList
  let r ← tokens.foldlM Reading.step .start
  r.finish

end ApiScaffold.Shell
