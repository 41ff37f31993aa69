import ApiScaffold.Description.Format
import ApiScaffold.Run.Generate
import ApiScaffold.Shell.Run
/-!
# The command line

`generate` writes the artifacts of a description, and `check` only lists them. Arguments become a
request, a run of it changes the disk, and a failure is reported with its causes.
-/
namespace ApiScaffold.CommandLine

def programName : String := "servicegen"

def standardSource : String := "open-api.yaml"

def configurationName : String := "servicegen.toml"

inductive Verb where
  | generate
  | check
  deriving DecidableEq

structure Arguments where
  verb : Verb
  source : Option String
  directory : Option String
  configuration : Option String
  module : Option String
  skipped : List String
  commands : List String
  dryRun : Bool
  deriving DecidableEq

/-- What the arguments ask for. -/
inductive Invocation where
  | run (arguments : Arguments)
  | version
  | help
  | misuse
  deriving DecidableEq

/-! ## Arguments -/

namespace Arguments

def ofVerb (verb : Verb) : Arguments := ⟨verb, none, none, none, none, [], [], false⟩

/-- Gives an option that may be given once a value. A path must not be empty. -/
def once? (old : Option String) (isPath : Bool) (value : String) : Option (Option String) :=
  if old.isSome || (isPath && value.isEmpty) then none else some (some value)

/-- Sets an option that takes a value. -/
def set? (name value : String) (a : Arguments) : Option Arguments :=
  match name with
  | "--open-api" => (once? a.source false value).map fun source => { a with source }
  | "--wd" => (once? a.directory true value).map fun directory => { a with directory }
  | "--config" =>
    (once? a.configuration true value).map fun configuration => { a with configuration }
  | "--module" => (once? a.module false value).map fun module => { a with module }
  | "--skip-schema" =>
    if a.verb = .generate then some { a with skipped := a.skipped ++ [value] } else none
  | "--post-command" =>
    if a.verb = .generate then some { a with commands := a.commands ++ [value] } else none
  | _ => none

/-- Sets an option without a value; it may be given once. -/
def flag? (name : String) (a : Arguments) : Option Arguments :=
  if name = "--dry-run" && a.verb = .generate && !a.dryRun then some { a with dryRun := true }
  else none

/-- Whether an argument is an option rather than a value. -/
def isOption (argument : String) : Bool :=
  match argument.toList with
  | '-' :: _ :: _ => true
  | _ => false

/-- The name of an option and the value behind its equals sign. -/
def parts (argument : String) : String × Option String :=
  let name := argument.toList.takeWhile (· ≠ '=')
  match argument.toList.drop name.length with
  | _ :: value => (String.ofList name, some (String.ofList value))
  | [] => (argument, none)

def asksForHelp (argument : String) : Bool :=
  argument = "--help" || ['-', 'h'].isPrefixOf argument.toList

/-- Reads options; `name` is one whose value comes next. -/
def read (name : Option String) (a : Arguments) : List String → Invocation
  | [] => if name.isSome then .misuse else .run a
  | argument :: rest =>
    match name with
    | some name =>
      if isOption argument then .misuse
      else match a.set? name argument with
        | some a => read none a rest
        | none => .misuse
    | none =>
      if asksForHelp argument then .help
      else if argument = "--" then if rest.isEmpty then .run a else .misuse
      else match parts argument with
        | (name, some value) =>
          match a.set? name value with
          | some a => read none a rest
          | none => .misuse
        | (name, none) =>
          match a.flag? name with
          | some a => read none a rest
          | none => if (a.set? name ".").isSome then read (some name) a rest else .misuse

end Arguments

def verbs : List (String × Verb) := [("generate", .generate), ("check", .check)]

def Invocation.ofArguments : List String → Invocation
  | [] => .misuse
  | ["help"] => .help
  | "help" :: "help" :: _ => .help
  | "help" :: verb :: _ => if (verbs.lookup verb).isSome then .help else .misuse
  | first :: rest =>
    match verbs.lookup first with
    | some verb => Arguments.read none (.ofVerb verb) rest
    | none =>
      if first = "--version" || ['-', 'V'].isPrefixOf first.toList then .version
      else if Arguments.asksForHelp first then .help
      else .misuse

/-! ## Requests -/

/-- A failure with what was being done. -/
structure Complaint where
  context : String
  failure : RunFailure

/-- The configuration in a file. -/
def configurationAt (d : Disk) (path : String) : Except Complaint Configuration :=
  let complain (failure : RunFailure) : Except Complaint Configuration :=
    .error ⟨s!"Failed to load configuration {path}", failure⟩
  match d.read path with
  | .error cause => complain (.configurationUnreadable cause)
  | .ok text =>
    match Configuration.ofText text with
    | .ok c => .ok c
    | .error fault => complain (.request fault)

namespace Arguments

def workingDirectory (a : Arguments) : String := a.directory.getD "."

/-- Where a configuration lies that is not given. -/
def implicitConfiguration (a : Arguments) : String :=
  Path.join a.workingDirectory configurationName

/-- Without a file given, the one in the working directory counts if there is one. -/
def configurationOn (a : Arguments) (d : Disk) : Except Complaint Configuration :=
  match a.configuration with
  | some path => configurationAt d path
  | none =>
    if d.holds a.implicitConfiguration then configurationAt d a.implicitConfiguration
    else .ok .standard

/-- A source that is a relative path starts from the working directory. -/
def location (a : Arguments) : String :=
  let source := a.source.getD standardSource
  if isRemote source then source else Path.join a.workingDirectory source

/-- The files that are read on behalf of the arguments, if they are there. -/
def files (a : Arguments) : List String :=
  [a.configuration.getD a.implicitConfiguration, a.location]

/-- Options change what the configuration says. To check is to run dry, without commands. -/
def requestFrom (a : Arguments) (c : Configuration) : Request :=
  let r := c.request a.location a.workingDirectory
  let r := { r with module := a.module.or r.module }
  match a.verb with
  | .generate =>
    { r with
      skipped := a.skipped.foldl (fun set name => Texts.insert name set) r.skipped
      commands := r.commands ++ a.commands
      dryRun := a.dryRun }
  | .check => { r with commands := [], dryRun := true }

end Arguments

/-! ## Runs -/

/-- Reads the description from a disk. -/
def load (source : String) : StateM Disk (Except Failure Document) := do
  let d ← get
  if isRemote source then return .error (.unloadable (.remote source))
  match d.read source with
  | .ok text => return Description.load source text
  | .error cause => return .error (.unloadable (.unreadable source cause.message))

def surroundings : Surroundings Disk where
  load
  ensure := Staging.ensure
  write root artifacts := do
    let _ ← Staging.write root artifacts
  execute := Shell.execute

def runRequest (r : Request) (d : Disk) : Except Complaint Report × Logged Disk :=
  let (result, after) := ((Run.generate surroundings r).run).run ⟨d, []⟩
  (result.mapError fun failure => ⟨s!"Failed to generate from {r.source}", failure⟩, after)

/-- Indents all lines of a text but the first. -/
def indented (margin text : String) : String :=
  ("\n" ++ margin).intercalate (text.splitOn "\n")

/-- Several causes are numbered. -/
def causeLines (causes : List String) : List String :=
  match causes with
  | [cause] => ["    " ++ indented "    " cause]
  | causes => causes.zipIdx.map fun (cause, n) =>
    let number := toString n
    String.ofList (List.replicate (5 - number.length) ' ') ++ number ++ ": " ++
      indented "       " cause

def Complaint.text (c : Complaint) : String :=
  "\n".intercalate
    (["Error: " ++ c.context, "", "Caused by:"] ++ causeLines c.failure.messages) ++ "\n"

/-- What the program leaves behind. -/
structure Result where
  exitCode : Nat
  output : String
  errors : String
  disk : Disk
  warnings : List Warning

def usage : String :=
  s!"Usage: {programName} <generate|check> [--open-api <OPEN_API>] [--wd <WORKING_DIR>] " ++
  "[--config <CONFIG>] [--module <MODULE>]\n" ++
  "       generate also takes [--skip-schema <NAME>]... [--post-command <COMMAND>]... [--dry-run]\n"

def runArguments (a : Arguments) (d : Disk) : Result :=
  match a.configurationOn d with
  | .error complaint => ⟨1, "", complaint.text, d, []⟩
  | .ok c =>
    match runRequest (a.requestFrom c) d with
    | (.error complaint, after) => ⟨1, "", complaint.text, after.state, after.warnings⟩
    | (.ok report, after) =>
      let listed := if report.written then [] else report.artifacts
      ⟨0, String.join (listed.map (· ++ "\n")), "", after.state, after.warnings⟩

def run (arguments : List String) (d : Disk) : Result :=
  match Invocation.ofArguments arguments with
  | .run a => runArguments a d
  | .version => ⟨0, s!"{programName} {generatorVersion}\n", "", d, []⟩
  | .help => ⟨0, usage, "", d, []⟩
  | .misuse => ⟨2, "", usage, d, []⟩

end ApiScaffold.CommandLine
