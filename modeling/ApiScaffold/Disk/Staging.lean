import ApiScaffold.Artifact
import ApiScaffold.Diagnosed
import ApiScaffold.Disk.Basic
/-!
# Writing artifacts

Artifacts are written in two phases. Each is first staged: written to a file beside its
destination. Only when all are staged are they moved into place, in order. If staging fails, or a
move, the staged files that have not been moved are removed.
-/
namespace ApiScaffold

/-- A step of staging. -/
inductive StagingStep where
  | makeDirectories (path : String)
  | create (path : String)
  | write (path content : String)
  | flush (path : String)
  | setMode (path : String) (mode : Nat)
  deriving DecidableEq

namespace StagingStep

def run {σ : Type} [Storage σ] : StagingStep → ExceptT DiskFault (StateM σ) Unit
  | makeDirectories path => Disk.makeDirectories path
  | create path => Storage.act (.create path)
  | write path content => Storage.act (.write path content)
  | flush path => Storage.act (.flush path)
  | setMode path mode => Storage.act (.setMode path mode)

/-- What could not be done when the step fails. -/
def failing : StagingStep → String
  | makeDirectories path => "Failed to create directory " ++ path
  | create path => "Failed to create file " ++ path
  | write path _ => "Failed to write file " ++ path
  | flush path => "Failed to flush file " ++ path
  | setMode path _ => "Failed to set permissions on " ++ path

end StagingStep

/-- Why artifacts are not written. -/
inductive OutputFault where
  | outside (path : String)
  | notStaged (step : StagingStep) (cause : DiskFault)
  | notMoved (destination : String) (cause : DiskFault)
  | other (reason : String)
  deriving DecidableEq

def OutputFault.message : OutputFault → String
  | .outside path => s!"Artifact path {path} is not relative to the output root"
  | .notStaged step cause => s!"{step.failing}: {cause.message}"
  | .notMoved destination cause => s!"Failed to move {destination} into place: {cause.message}"
  | .other reason => reason

/-- A state with the warnings raised on the way to it. -/
structure Logged (σ : Type) where
  state : σ
  warnings : List Warning

/-- Actions that change a state, warn and may fail; what they did before stays. -/
abbrev Acting (σ ε : Type) := ExceptT ε (StateM (Logged σ))

namespace Acting

variable {σ ε α : Type}

def warn (warning : Warning) : Acting σ ε Unit :=
  modify fun s => { s with warnings := s.warnings ++ [warning] }

/-- Runs an action that raises no warnings, and hands over its result. -/
def attempt {ε' : Type} (action : ExceptT ε' (StateM σ) α) : Acting σ ε (Except ε' α) := do
  let s ← get
  let (result, state) := action.run.run s.state
  set { s with state }
  return result

end Acting

namespace Staging

def isInside (step : PathStep) : Bool :=
  match step with
  | .named _ => true
  | .here => true
  | _ => false

/-- Where an artifact belongs under a root. Its path may be neither absolute nor lead upwards. -/
def destination (root : String) (a : Artifact) : Except OutputFault String :=
  if a.path.isEmpty || !(Path.steps a.path).all isInside then .error (.outside a.path)
  else .ok (Path.join root a.path)

def stagingSuffix : String := ".servicegen-tmp"

def stagingPath (destination : String) : String := destination ++ stagingSuffix

/-- What staging an artifact takes. -/
def steps (a : Artifact) (destination : String) : List StagingStep :=
  let staged := stagingPath destination
  (Path.parent? destination).toList.map .makeDirectories ++
    [.create staged, .write staged a.content, .flush staged] ++
    a.mode.toList.map (.setMode staged)

variable {σ : Type} [Storage σ]

/-- Does steps up to the first that fails. -/
def perform : List StagingStep → ExceptT OutputFault (StateM σ) Unit
  | [] => return
  | step :: rest => do
    match ← (step.run.run : StateM σ (Except DiskFault Unit)) with
    | .ok () => perform rest
    | .error cause => throw (.notStaged step cause)

/-- Removes the staged files of destinations, as far as possible. -/
def discard : List String → Acting σ OutputFault Unit
  | [] => return
  | destination :: rest => do
    let staged := stagingPath destination
    match ← Acting.attempt (Storage.act (.remove staged)) with
    | .ok () => discard rest
    | .error cause =>
      Acting.warn (.stagedFileLeft staged cause.message)
      discard rest

/-- Stages artifacts behind those staged before (reversed); a failure removes all of them but
the one it happened to. -/
def stageAll (before : List String) : List (Artifact × String) → Acting σ OutputFault Unit
  | [] => return
  | (a, destination) :: rest => do
    match ← Acting.attempt (perform (steps a destination)) with
    | .ok () => stageAll (destination :: before) rest
    | .error fault =>
      discard before.reverse
      throw fault

/-- Moves staged files into place; a failure removes those not moved. -/
def moveAll : List String → Acting σ OutputFault Unit
  | [] => return
  | destination :: rest => do
    match ← Acting.attempt (Storage.act (.move (stagingPath destination) destination)) with
    | .ok () => moveAll rest
    | .error cause =>
      discard (destination :: rest)
      throw (.notMoved destination cause)

/-- Writes artifacts under a root and gives their destinations. -/
def write (root : String) (artifacts : List Artifact) : Acting σ OutputFault (List String) := do
  let destinations ← artifacts.mapM (fun a => (destination root a : Except OutputFault String))
  stageAll [] (artifacts.zip destinations)
  moveAll destinations
  return destinations

/-- Makes sure that a directory is there. -/
def ensure (path : String) : Acting σ OutputFault Unit := do
  match ← Acting.attempt (Disk.makeDirectories path) with
  | .ok () => return
  | .error cause => throw (.notStaged (.makeDirectories path) cause)

end Staging

end ApiScaffold
