import ApiScaffold.Disk.Staging
import ApiScaffold.Text.Blank
/-!
# Post-generation commands

Commands run in order, whatever the earlier ones did. A command that fails is reported and does
not fail the run.
-/
namespace ApiScaffold

open ApiScaffold.Text

/-- What a command left behind; the exit code is −1 if a signal ended it. -/
structure CommandResult where
  exitCode : Int
  output : String
  errors : String
  deriving DecidableEq

namespace CommandResult

def succeeded (r : CommandResult) : Bool := r.exitCode = 0

/-- The first line that is not blank, of the errors or else of the output, without blanks around
it. -/
def summary? (r : CommandResult) : Option String :=
  let shown := (lines r.errors.toList ++ lines r.output.toList).map trim
  (shown.find? (!·.isEmpty)).map String.ofList

end CommandResult

structure CommandOutcome where
  command : String
  succeeded : Bool
  deriving DecidableEq

namespace CommandOutcome

variable {σ ε : Type}

def ofResult (command : String) : Except Failure CommandResult → CommandOutcome
  | .ok result => ⟨command, result.succeeded⟩
  | .error _ => ⟨command, false⟩

/-- What there is to report about a command. -/
def warning? (command : String) : Except Failure CommandResult → Option Warning
  | .ok result =>
    if result.succeeded then none
    else some (.commandFailed command result.exitCode (result.summary?.getD ""))
  | .error failure => some (.commandNotRun command failure.message)

/-- Runs commands in order and reports those that fail. -/
def ofCommands (execute : String → StateM σ (Except Failure CommandResult)) :
    List String → Acting σ ε (List CommandOutcome)
  | [] => return []
  | command :: rest => do
    let s ← get
    let (result, state) := (execute command).run s.state
    set { s with state }
    if let some warning := warning? command result then Acting.warn warning
    return ofResult command result :: (← ofCommands execute rest)

end CommandOutcome

end ApiScaffold
