import ApiScaffold.Run.Command
import ApiScaffold.Shell.Programs
import ApiScaffold.Shell.Script
/-!
# Running scripts

Each pipeline runs if its link allows it. Its commands read what the one before them put out, and
redirections send output elsewhere.
-/
namespace ApiScaffold.Shell

open ApiScaffold.Text

structure State where
  disk : Disk
  output : Bytes
  errors : Bytes
  status : Nat
  ended : Option Int
  bindings : List (String × String)

/-! ## Words -/

def State.parameter (s : State) (name : String) : String :=
  if name = "?" then toString s.status
  else if name = "$" then ownProcess
  else if name = "#" then "0"
  else if name = "0" then "sh"
  else if name = "PWD" then s.disk.home.text
  else (s.bindings.lookup name).getD ""

def isSpace (c : Char) : Bool := c = ' ' || c = '\t' || c = '\n'

/-- Adds unquoted characters to words (reversed); the flag tells whether the last word goes on. -/
def split (words : List (List Char)) (going : Bool) : List Char → List (List Char) × Bool
  | [] => (words, going)
  | c :: rest =>
    if isSpace c then split words false rest
    else match words, going with
      | word :: words, true => split ((word ++ [c]) :: words) true rest
      | words, _ => split ([c] :: words) true rest

def join (words : List (List Char)) (going : Bool) (cs : List Char) : List (List Char) × Bool :=
  match words, going with
  | word :: words, true => ((word ++ cs) :: words, true)
  | words, _ => (cs :: words, true)

/-- The words that one word expands to. -/
def State.expand (s : State) (word : Word) : List String :=
  let (words, _) := word.foldl (fun (words, going) piece =>
    match piece with
    | .text _ cs => join words going cs
    | .parameter true name => join words going (s.parameter name).toList
    | .parameter false name => split words going (s.parameter name).toList) ([], false)
  words.reverse.map String.ofList

/-- What a word is as one, without splitting. -/
def State.expandWhole (s : State) (word : Word) : String :=
  String.ofList (word.flatMap fun piece =>
    match piece with
    | .text _ cs => cs
    | .parameter _ name => (s.parameter name).toList)

/-- The name and value that a word assigns. -/
def assignment? : Word → Option (String × Word)
  | .text false cs :: rest =>
    let name := cs.takeWhile Lexing.isNameChar
    match cs.drop name.length with
    | '=' :: value =>
      if (name.head?.map Lexing.isNameStart).getD false then
        some (String.ofList name, .text false value :: rest)
      else none
    | _ => none
  | _ => none

/-! ## Redirections -/

inductive Sink where
  | output
  | errors
  | nothing
  | file (path : String)

/-- Paths that lead to streams. -/
def devices : List (String × Sink) :=
  [("/dev/null", .nothing), ("/dev/stdout", .output), ("/dev/stderr", .errors)]

/-- Where a command reads from and writes to. -/
structure Streams where
  input : Bytes
  output : Sink
  errors : Sink

def Streams.sink (streams : Streams) (stream : Nat) : Sink :=
  if stream = 2 then streams.errors else streams.output

def Streams.withSink (streams : Streams) (stream : Nat) (sink : Sink) : Streams :=
  if stream = 2 then { streams with errors := sink } else { streams with output := sink }

def unavailable (doing absent path : String) (fault : DiskFault) : String :=
  let reason := if fault = .noEntry || fault = .notADirectory then absent else fault.text
  s!"sh: 1: cannot {doing} {path}: {reason}"

/-- Sets up one redirection, or says why that is impossible. -/
def redirect (s : State) (streams : Streams) (r : Redirection) :
    Disk × Except String Streams :=
  let target := s.expandWhole r.target
  match r.direction with
  | .read =>
    if target = "/dev/null" then (s.disk, .ok { streams with input := [] })
    else match s.disk.read target with
      | .ok content => (s.disk, .ok { streams with input := bytes content })
      | .error fault => (s.disk, .error (unavailable "open" "No such file" target fault))
  | .duplicate =>
    match target.toNat? with
    | some stream => (s.disk, .ok (streams.withSink r.stream (streams.sink stream)))
    | none => (s.disk, .error s!"sh: 1: Syntax error: Bad fd number")
  | direction =>
    match devices.lookup target with
    | some sink => (s.disk, .ok (streams.withSink r.stream sink))
    | none =>
      let keep := direction = .append && s.disk.holds target && !s.disk.isDirectory target
      let operation : OnDisk Unit := if keep then pure () else Disk.create target
      match operation.run.run s.disk with
      | (.ok (), d) => (d, .ok (streams.withSink r.stream (.file target)))
      | (.error fault, d) =>
        (d, .error (unavailable "create" "Directory nonexistent" target fault))

def redirectAll (s : State) (streams : Streams) : List Redirection → State × Except String Streams
  | [] => (s, .ok streams)
  | r :: rest =>
    match redirect s streams r with
    | (disk, .ok streams) => redirectAll { s with disk } streams rest
    | (disk, .error complaint) => ({ s with disk }, .error complaint)

/-- Puts bytes where a sink leads; `past` collects what the command puts out. -/
def deliver (sink : Sink) (bs : Bytes) (past : Bytes) (s : State) : Bytes × State :=
  match sink with
  | .output => (past ++ bs, s)
  | .errors => (past, { s with errors := s.errors ++ bs })
  | .nothing => (past, s)
  | .file path =>
    let operation := Disk.change path fun content mode => .file (content ++ ofBytes bs) mode
    (past, { s with disk := (operation.run.run s.disk).2 })

/-! ## Commands -/

/-- How a script that is an argument of a command runs. -/
abbrev Nested := Disk → Bytes → String → Outcome

/-- Runs a program by its name. -/
def call (nested : Nested) (name : String) (arguments : List String) (input : Bytes) (s : State) :
    Outcome :=
  match name, arguments with
  | "sh", "-c" :: text :: _ => nested s.disk input text
  | _, _ =>
    match programs.lookup name with
    | some program => program arguments input s.disk s.status
    | none => .failed s.disk 127 s!"sh: 1: {name}: not found"

/-- Delivers what was put out and complained about. -/
def State.deliver (s : State) (streams : Streams) (output errors : Bytes) : Bytes × State :=
  let (past, s) := Shell.deliver streams.output output [] s
  Shell.deliver streams.errors errors past s

/-- Runs what is between the redirections of a command and the streams that they set up. -/
def State.redirected (s : State) (input : Bytes) (redirections : List Redirection)
    (run : State → Streams → Bytes × State) : Bytes × State :=
  match redirectAll s ⟨input, .output, .errors⟩ redirections with
  | (s, .error complaint) =>
    ([], { s with status := 2, errors := s.errors ++ bytes (complaint ++ "\n") })
  | (s, .ok streams) => run s streams

/-- Runs a command that is made of words. -/
def State.simple (nested : Nested) (s : State) (input : Bytes) (words : List Word)
    (redirections : List Redirection) : Bytes × State :=
  let assignments := (words.takeWhile fun w => (assignment? w).isSome).filterMap assignment?
  let words := (words.drop assignments.length).flatMap s.expand
  let s := if words.isEmpty then
      { s with bindings :=
          (assignments.map fun (name, value) => (name, s.expandWhole value)).reverse ++ s.bindings }
    else s
  s.redirected input redirections fun s streams =>
    match words with
    | [] => ([], { s with status := 0 })
    | name :: arguments =>
      let outcome := call nested name arguments streams.input s
      let s := { s with disk := outcome.disk, status := outcome.status, ended := outcome.ended }
      s.deliver streams outcome.output outcome.errors

/-- What is left of a script that ran in a process of its own: its changes to the disk and its
status. A signal ends the script around it too. -/
def State.after (s inner : State) : State :=
  { inner with
    disk := { inner.disk with home := s.disk.home }
    ended := if inner.ended = some (-1) then inner.ended else none
    bindings := s.bindings }

mutual

/-- Runs one command on an input; gives its output. -/
def State.command (nested : Nested) (s : State) (input : Bytes) : Command → Bytes × State
  | .simple words redirections => s.simple nested input words redirections
  | .group bracket script redirections =>
    s.redirected input redirections fun s streams =>
      let inner := State.script nested { s with output := [], errors := [] } streams.input script
      let left := if bracket = .round then s.after inner else inner
      { left with output := s.output, errors := s.errors }.deliver streams inner.output inner.errors
termination_by command => sizeOf command

/-- Runs the commands of a pipeline, each on the output of the one before. Only the one command
of a pipeline of one runs in the process of the script. -/
def State.pipeline (nested : Nested) (s : State) (input : Bytes) : List Command → Bytes × State
  | [] => (input, s)
  | [c] => s.command nested input c
  | c :: rest =>
    let (out, after) := s.command nested input c
    let after := s.after after
    if after.ended.isSome then (out, after) else after.pipeline nested out rest
termination_by commands => sizeOf commands

/-- Runs the pipelines of a script, as far as their links allow it. -/
def State.script (nested : Nested) (s : State) (input : Bytes) : List Pipeline → State
  | [] => s
  | ⟨link, negated, commands⟩ :: rest =>
    let runs := match link with
      | .always => true
      | .onSuccess => s.status = 0
      | .onFailure => s.status ≠ 0
    if s.ended.isSome then s
    else if !runs then s.script nested input rest
    else
      let (out, s) := s.pipeline nested input commands
      let status := if negated && s.ended.isNone then (if s.status = 0 then 1 else 0) else s.status
      { s with output := s.output ++ out, status }.script nested input rest
termination_by pipelines => sizeOf pipelines

end

/-- Runs a script in the directory where relative paths start. Scripts inside it nest up to
`depth` deep. -/
def runWithin (depth : Nat) (d : Disk) (input : Bytes) (text : String) : Outcome :=
  match Script.ofText text with
  | .error fault => .failed d 2 s!"sh: 1: Syntax error: {fault.message}"
  | .ok script =>
    let nested : Nested := match depth with
      | 0 => fun d _ _ => .failed d 127 "sh: 1: sh: not found"
      | depth + 1 => fun d input text =>
        let inner := runWithin depth d input text
        { inner with disk := { inner.disk with home := d.home } }
    let s := State.script nested ⟨d, [], [], 0, none, []⟩ input script
    ⟨s.disk, s.output, s.errors, s.status, if s.ended = some (-1) then s.ended else none⟩

/-- A script can only hold scripts that are shorter. -/
def runScript (d : Disk) (text : String) : CommandResult × Disk :=
  let outcome := runWithin text.length d [] text
  (⟨outcome.ended.getD outcome.status, ofBytes outcome.output, ofBytes outcome.errors⟩,
    outcome.disk)

/-- Runs a command in a directory. -/
def execute (command directory : String) : StateM Disk (Except Failure CommandResult) := do
  let d ← get
  let refuse (reason : String) : Except Failure CommandResult :=
    .error (.commandNotRun s!"Failed to spawn '{command}' in {directory}: {reason}")
  if command.toList.contains '\x00' then return refuse "nul byte found in provided data"
  match d.find directory with
  | .error fault => return refuse fault.message
  | .ok (_, .file ..) => return refuse DiskFault.notADirectory.message
  | .ok (place, .directory) =>
    let (result, after) := runScript { d with home := place } command
    set { after with home := d.home }
    return .ok result

end ApiScaffold.Shell
