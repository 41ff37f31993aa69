import ApiScaffold.Generation
import ApiScaffold.Run.Command
import ApiScaffold.Run.Request
/-!
# Runs

One run checks its request, loads the description, generates the artifacts, writes them all at
once, and then runs the commands. A dry run ends after generating.
-/
namespace ApiScaffold

/-- Why a run fails. -/
inductive RunFailure where
  | generation (failure : Failure)
  | request (fault : RequestFault)
  | output (fault : OutputFault)
  | configurationUnreadable (cause : DiskFault)

/-- The messages of a failure and of what it stems from. -/
def RunFailure.messages : RunFailure → List String
  | .generation failure => ["Generation error: " ++ failure.message, failure.message]
  | .request fault => ["Validation error: " ++ fault.message, fault.message]
  | .output fault => ["Output error: " ++ fault.message]
  | .configurationUnreadable cause => ["IO error: " ++ cause.message, cause.message]

/-- What a run did. -/
structure Report where
  artifacts : List String
  directory : String
  written : Bool
  failedCommands : List String
  metadata : Metadata
  deriving DecidableEq

/-- What a run needs of its surroundings. -/
structure Surroundings (σ : Type) where
  load : String → StateM σ (Except Failure Document)
  ensure : String → Acting σ OutputFault Unit
  write : String → List Artifact → Acting σ OutputFault Unit
  /-- Runs a command in a directory. -/
  execute : String → String → StateM σ (Except Failure CommandResult)

namespace Run

variable {σ : Type}

abbrev Running (σ : Type) := Acting σ RunFailure

def ofDiagnosed {α : Type} (x : Diagnosed α) : Running σ α := do
  modify fun s => { s with warnings := s.warnings ++ x.warnings }
  match x.result with
  | .ok a => return a
  | .error failure => throw (.generation failure)

def output {α : Type} (action : Acting σ OutputFault α) : Running σ α :=
  action.adapt .output

/-- The description at the source of a request. -/
def loaded (around : Surroundings σ) (source : String) : Running σ Document := do
  let s ← get
  let (result, state) := (around.load source).run s.state
  set { s with state }
  ofDiagnosed (.ofExcept result)

def generated (r : Request) (d : Document) : Diagnosed (List Artifact × Metadata) := do
  let context ← Context.ofDocument d r.language r.module
  let context := context.skipping r.skipped
  return (← Generation.generate d context, context.metadata)

def generate (around : Surroundings σ) (r : Request) : Running σ Report := do
  match r.validate with
  | .ok () => pure ()
  | .error fault => throw (.request fault)
  let d ← loaded around r.source
  let (artifacts, metadata) ← ofDiagnosed (generated r d)
  let report : Report := ⟨artifacts.map Artifact.path, r.directory, false, [], metadata⟩
  if r.dryRun then return report
  output (around.ensure r.directory)
  output (around.write r.directory artifacts)
  let outcomes ← CommandOutcome.ofCommands (around.execute · r.directory) r.commands
  let failed := (outcomes.filter (!·.succeeded)).map CommandOutcome.command
  return { report with written := true, failedCommands := failed }

end Run

end ApiScaffold
