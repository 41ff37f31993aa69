import ApiScaffold.Path
/-!
# Disks

A disk maps places to files and directories. There are no links, neither symbolic nor hard ones, so
a place has no other name. Paths are texts; following one leads to a place. An operation either
happens as described, as a whole, or fails and changes nothing, and any operation may fail for
reasons that lie outside: which ones do is part of the disk.
-/
namespace ApiScaffold

inductive DiskFault where
  | noEntry
  | ioFailure
  | busy
  | alreadyExists
  | notADirectory
  | isADirectory
  | nameTooLong
  | nulInName
  | notText
  deriving DecidableEq

namespace DiskFault

def text : DiskFault → String
  | noEntry => "No such file or directory"
  | ioFailure => "Input/output error"
  | busy => "Device or resource busy"
  | alreadyExists => "File exists"
  | notADirectory => "Not a directory"
  | isADirectory => "Is a directory"
  | nameTooLong => "File name too long"
  | nulInName => "file name contained an unexpected NUL byte"
  | notText => "stream did not contain valid UTF-8"

/-- The number of a fault that the operating system reports. -/
def number? : DiskFault → Option Nat
  | noEntry => some 2
  | ioFailure => some 5
  | busy => some 16
  | alreadyExists => some 17
  | notADirectory => some 20
  | isADirectory => some 21
  | nameTooLong => some 36
  | nulInName => none
  | notText => none

def message (fault : DiskFault) : String :=
  match fault.number? with
  | some n => s!"{fault.text} (os error {n})"
  | none => fault.text

end DiskFault

/-- The names from the root down to a file or directory. -/
abbrev Place := List String

def Place.text (place : Place) : String := "/" ++ "/".intercalate place

inductive Entry where
  | directory
  | file (content : String) (mode : Nat)
  deriving DecidableEq, Inhabited

structure Disk where
  /-- What lies at each place but the root, which is a directory. -/
  entries : List (Place × Entry)
  /-- Where relative paths start. -/
  home : Place
  /-- Whether each of the next operations that add or change something fails from outside. After
  the last one listed, none does. -/
  mishaps : List Bool
  /-- The same for removals. -/
  failedRemovals : List Bool
  deriving DecidableEq, Inhabited

/-- Operations on a disk; what happened before a failure stays. -/
abbrev OnDisk := ExceptT DiskFault (StateM Disk)

namespace Disk

def entry? (d : Disk) (place : Place) : Option Entry :=
  if place = [] then some .directory else d.entries.lookup place

def put (place : Place) (entry : Entry) (d : Disk) : Disk :=
  { d with entries := (place, entry) :: d.entries.filter (·.1 ≠ place) }

def erase (place : Place) (d : Disk) : Disk :=
  { d with entries := d.entries.filter (·.1 ≠ place) }

/-- A disk with nothing but a home, in which nothing fails from outside. -/
def withHome (home : Place) : Disk :=
  let above := (List.range home.length).map fun n => (home.take (n + 1), Entry.directory)
  ⟨above.reverse, home, [], []⟩

/-! ## Paths -/

/-- Where a path leads: to a directory that is there, or to a name in one. A slash behind the
name asks for a directory. -/
inductive Spot where
  | directory (place : Place)
  | named (parent : Place) (name : String) (slash : Bool)

/-- The longest name, and the longest path, in bytes. -/
def nameLimit : Nat := 255

def pathLimit : Nat := 4095

/-- Follows names through directories. -/
def walk (d : Disk) : Place → List String → Except DiskFault Place
  | place, [] => .ok place
  | place, name :: rest =>
    if name = "." then d.walk place rest
    else if name = ".." then d.walk place.dropLast rest
    else if nameLimit < name.utf8ByteSize then .error .nameTooLong
    else match d.entry? (place ++ [name]) with
      | some .directory => d.walk (place ++ [name]) rest
      | some (.file ..) => .error .notADirectory
      | none => .error .noEntry

/-- The names in a path; doubled slashes count as one. -/
def names (path : String) : List String :=
  ((Path.segments path).filter (· ≠ [])).map String.ofList

def spot (d : Disk) (path : String) : Except DiskFault Spot := do
  let start := if Path.isAbsolute path then [] else d.home
  if path.isEmpty then throw .noEntry
  if path.toList.contains '\x00' then throw .nulInName
  if pathLimit < path.utf8ByteSize then throw .nameTooLong
  match (names path).reverse with
  | [] => return .directory start
  | last :: before =>
    let parent ← d.walk start before.reverse
    if last = "." || last = ".." then return .directory (← d.walk parent [last])
    else if nameLimit < last.utf8ByteSize then throw .nameTooLong
    else return .named parent last (path.toList.getLast? = some '/')

/-- What lies where a path leads, and at which place. -/
def find (d : Disk) (path : String) : Except DiskFault (Place × Entry) := do
  match ← d.spot path with
  | .directory place => return (place, .directory)
  | .named parent name slash =>
    match d.entry? (parent ++ [name]), slash with
    | none, _ => throw .noEntry
    | some (.file ..), true => throw .notADirectory
    | some entry, _ => return (parent ++ [name], entry)

def isDirectory (d : Disk) (path : String) : Bool :=
  match d.find path with
  | .ok (_, .directory) => true
  | _ => false

def holds (d : Disk) (path : String) : Bool := (d.find path).isOk

def read (d : Disk) (path : String) : Except DiskFault String := do
  match ← d.find path with
  | (_, .file content _) => return content
  | (_, .directory) => throw .isADirectory

/-! ## Operations -/

/-- Fails if the disk says so. -/
def chance : OnDisk Unit := do
  let d ← get
  match d.mishaps with
  | [] => return
  | fails :: mishaps =>
    set { d with mishaps }
    if fails then throw .ioFailure

def removalChance : OnDisk Unit := do
  let d ← get
  match d.failedRemovals with
  | [] => return
  | fails :: failedRemovals =>
    set { d with failedRemovals }
    if fails then throw .ioFailure

def makeDirectory (path : String) : OnDisk Unit := do
  chance
  let d ← get
  match ← d.spot path with
  | .directory _ => throw .alreadyExists
  | .named parent name _ =>
    match d.entry? (parent ++ [name]) with
    | some _ => throw .alreadyExists
    | none => set (d.put (parent ++ [name]) .directory)

def standardMode : Nat := 0o644

/-- Makes an empty file, or empties the file that is there. -/
def create (path : String) : OnDisk Unit := do
  chance
  let d ← get
  match ← d.spot path with
  | .directory _ => throw .isADirectory
  | .named _ _ true => throw .isADirectory
  | .named parent name false =>
    match d.entry? (parent ++ [name]) with
    | some .directory => throw .isADirectory
    | some (.file _ mode) => set (d.put (parent ++ [name]) (.file "" mode))
    | none => set (d.put (parent ++ [name]) (.file "" standardMode))

/-- Changes a file that is there. -/
def change (path : String) (f : String → Nat → Entry) : OnDisk Unit := do
  chance
  let d ← get
  match ← d.find path with
  | (_, .directory) => throw .isADirectory
  | (place, .file content mode) => set (d.put place (f content mode))

def write (path content : String) : OnDisk Unit := change path fun _ mode => .file content mode

/-- Has no effect on the disk, but may fail. -/
def flush (path : String) : OnDisk Unit := change path .file

/-- The bits of a mode that a file keeps. -/
def modeBits : Nat := 0o10000

def setMode (path : String) (mode : Nat) : OnDisk Unit :=
  change path fun content _ => .file content (mode % modeBits)

/-- Moves a file to a name, in place of a file that has it. -/
def move (path destination : String) : OnDisk Unit := do
  chance
  let d ← get
  let source ← d.spot path
  match source, ← d.spot destination with
  | .named parent name _, .named parent' name' slash =>
    match d.entry? (parent ++ [name]), d.entry? (parent' ++ [name']) with
    | none, _ => throw .noEntry
    | some .directory, _ => throw .isADirectory
    | some (.file ..), some .directory => throw .isADirectory
    | some (.file content mode), _ =>
      if slash then throw .notADirectory
      else set ((d.erase (parent ++ [name])).put (parent' ++ [name']) (.file content mode))
  | _, _ => throw .busy

/-- Removes a file. -/
def remove (path : String) : OnDisk Unit := do
  removalChance
  let d ← get
  match ← d.find path with
  | (_, .directory) => throw .isADirectory
  | (place, .file ..) => set (d.erase place)

/-- What a disk can be asked for. -/
inductive Operation where
  | makeDirectory (path : String)
  | create (path : String)
  | write (path content : String)
  | flush (path : String)
  | setMode (path : String) (mode : Nat)
  | move (path destination : String)
  | remove (path : String)
  deriving DecidableEq

namespace Operation

def run : Operation → OnDisk Unit
  | makeDirectory path => Disk.makeDirectory path
  | create path => Disk.create path
  | write path content => Disk.write path content
  | flush path => Disk.flush path
  | setMode path mode => Disk.setMode path mode
  | move path destination => Disk.move path destination
  | remove path => Disk.remove path

end Operation

end Disk

/-- A state that can be asked for what a disk can. -/
class Storage (σ : Type) where
  act : Disk.Operation → ExceptT DiskFault (StateM σ) Unit
  isDirectory : String → σ → Bool

instance : Storage Disk where
  act := Disk.Operation.run
  isDirectory path d := d.isDirectory path

namespace Disk

/-! ## Sequences of operations -/

section

variable {σ : Type} [Storage σ]

/-- Makes a directory that may be there already, with up to `n` directories above it. -/
def makeDirectoriesWithin : Nat → String → ExceptT DiskFault (StateM σ) Unit
  | 0, _ => throw .noEntry
  | n + 1, path =>
    if path.isEmpty then return
    else
      tryCatch (Storage.act (.makeDirectory path)) fun fault => do
        if fault = .noEntry then
          match Path.parent? path with
          | none => throw fault
          | some parent =>
            makeDirectoriesWithin n parent
            tryCatch (Storage.act (.makeDirectory path)) fun fault => do
              if !Storage.isDirectory path (← get) then throw fault
        else if !Storage.isDirectory path (← get) then throw fault

/-- Makes a directory, unless it is there, and those above it. -/
def makeDirectories (path : String) : ExceptT DiskFault (StateM σ) Unit :=
  makeDirectoriesWithin (path.length + 1) path

end

/-- A disk that has a file at a path too, as far as that is possible. -/
def holding (d : Disk) (path content : String) : Disk :=
  let put : OnDisk Unit := do
    makeDirectories ((Path.parent? path).getD "")
    create path
    write path content
  (put.run.run d).2

end Disk

end ApiScaffold
