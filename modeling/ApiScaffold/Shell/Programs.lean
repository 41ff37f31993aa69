import ApiScaffold.Disk.Basic
import ApiScaffold.Text.Bytes
/-!
# Programs

The programs that scripts can call. Each reads its arguments and its input, may change the disk,
and leaves output, errors and a status.
-/
namespace ApiScaffold.Shell

open ApiScaffold.Text

structure Outcome where
  disk : Disk
  output : Bytes
  errors : Bytes
  status : Nat
  /-- The exit code, if the script ends here; −1 for a signal. -/
  ended : Option Int

abbrev Program := List String → Bytes → Disk → Nat → Outcome

namespace Outcome

def done (d : Disk) (output : String) : Outcome := ⟨d, bytes output, [], 0, none⟩

def failed (d : Disk) (status : Nat) (errors : String) : Outcome :=
  ⟨d, [], bytes (errors ++ "\n"), status, none⟩

/-- One after another; the status is the greater one. -/
def andThen (x y : Outcome) : Outcome :=
  ⟨y.disk, x.output ++ y.output, x.errors ++ y.errors, max x.status y.status, y.ended⟩

end Outcome

/-! ## Printing -/

def isOctal (c : Char) : Bool := '0' ≤ c && c ≤ '7'

def octal (cs : List Char) : UInt8 :=
  UInt8.ofNat (cs.foldl (fun n c => n * 8 + (c.toNat - '0'.toNat)) 0)

/-- What the characters behind a backslash stand for, and how many of them do. Octal numbers have
up to three digits, behind a zero if `zeroFirst`. -/
def escape? (zeroFirst : Bool) : List Char → Option (Bytes × Nat)
  | 'a' :: _ => some ([7], 1)
  | 'b' :: _ => some ([8], 1)
  | 't' :: _ => some ([9], 1)
  | 'n' :: _ => some ([10], 1)
  | 'v' :: _ => some ([11], 1)
  | 'f' :: _ => some ([12], 1)
  | 'r' :: _ => some ([13], 1)
  | '\\' :: _ => some ([92], 1)
  | c :: cs =>
    if !isOctal c then none
    else if zeroFirst then
      let digits := (cs.take 3).takeWhile isOctal
      if c = '0' then some ([octal digits], digits.length + 1) else none
    else
      let digits := ((c :: cs).take 3).takeWhile isOctal
      some ([octal digits], digits.length)
  | [] => none

/-- Spells out escapes, up to `\c`. -/
def unescape (skip : Nat) : List Char → Bytes × Bool
  | [] => ([], false)
  | c :: rest =>
    match skip with
    | skip + 1 => unescape skip rest
    | 0 =>
      if c = '\\' then
        if rest.head? = some 'c' then ([], true)
        else match escape? true rest with
          | some (bs, n) =>
            let (more, cut) := unescape n rest
            (bs ++ more, cut)
          | none =>
            let (more, cut) := unescape 0 rest
            (92 :: more, cut)
      else
        let (more, cut) := unescape 0 rest
        (bytes (String.singleton c) ++ more, cut)

def echo : Program := fun arguments _ d _ =>
  let (arguments, newline) := match arguments with
    | "-n" :: arguments => (arguments, false)
    | arguments => (arguments, true)
  let (bs, cut) := unescape 0 (" ".intercalate arguments).toList
  ⟨d, bs ++ (if newline && !cut then [10] else []), [], 0, none⟩

/-- Prints a format once; gives the arguments left over. -/
def format (skip : Nat) (arguments : List String) : List Char → Bytes × List String
  | [] => ([], arguments)
  | c :: rest =>
    let plain (bs : Bytes) (skip : Nat) (arguments : List String) :=
      let (more, arguments) := format skip arguments rest
      (bs ++ more, arguments)
    match skip with
    | skip + 1 => format skip arguments rest
    | 0 =>
      if c = '\\' then
        match escape? false rest with
        | some (bs, n) => plain bs n arguments
        | none => plain [92] 0 arguments
      else if c = '%' then
        match rest.head? with
        | some '%' => plain [37] 1 arguments
        | some 's' => plain (bytes (arguments.headD "")) 1 arguments.tail
        | some 'c' =>
          plain (bytes (String.ofList ((arguments.headD "").toList.take 1))) 1 arguments.tail
        | some 'b' => plain (unescape 0 (arguments.headD "").toList).1 1 arguments.tail
        | some 'd' => plain (bytes (arguments.headD "0")) 1 arguments.tail
        | some 'i' => plain (bytes (arguments.headD "0")) 1 arguments.tail
        | _ => plain [37] 0 arguments
      else plain (bytes (String.singleton c)) 0 arguments

/-- Prints a format as long as it uses up arguments. -/
def formatAll : Nat → List Char → List String → Bytes
  | 0, _, _ => []
  | n + 1, cs, arguments =>
    let (bs, left) := format 0 arguments cs
    if left.isEmpty || left.length = arguments.length then bs else bs ++ formatAll n cs left

def printf : Program := fun arguments _ d _ =>
  match arguments with
  | [] => .failed d 2 "sh: 1: printf: usage: printf format [arg ...]"
  | template :: arguments =>
    ⟨d, formatAll (arguments.length + 1) template.toList arguments, [], 0, none⟩

/-! ## Ends -/

def succeed : Program := fun _ _ d _ => .done d ""

def fail : Program := fun _ _ d _ => ⟨d, [], [], 1, none⟩

/-- The greatest code that an exit may ask for. -/
def greatestCode : Nat := 0x7FFFFFFF

/-- The code that digits with an optional plus sign ask for. -/
def exitCode? (code : String) : Option Nat :=
  let digits := match code.toList with
    | '+' :: digits => digits
    | digits => digits
  let code := Nat.ofDigitChars 10 digits 0
  if digits.isEmpty || !digits.all Char.isDigit || greatestCode < code then none else some code

/-- The code of an exit is kept modulo 256. -/
def exit : Program := fun arguments _ d status =>
  match arguments with
  | [] => ⟨d, [], [], status, some status⟩
  | code :: _ =>
    match exitCode? code with
    | some code => ⟨d, [], [], code % 256, some (code % 256)⟩
    | none => { Outcome.failed d 2 s!"sh: 1: exit: Illegal number: {code}" with ended := some 2 }

/-- How the script that runs is called where processes have numbers. -/
def ownProcess : String := "1000"

/-- Only the script itself can be sent a signal; signal 0 does nothing. -/
def kill : Program := fun arguments _ d _ =>
  if !arguments.contains ownProcess then .failed d 1 "sh: 1: kill: No such process"
  else if arguments.contains "-0" then .done d ""
  else ⟨d, [], [], 0, some (-1)⟩

/-! ## Files -/

def pwd : Program := fun _ _ d _ => .done d (d.home.text ++ "\n")

def cd : Program := fun arguments _ d _ =>
  match arguments with
  | [] => .done d ""
  | path :: _ =>
    match d.find path with
    | .ok (place, .directory) => .done { d with home := place } ""
    | _ => .failed d 2 s!"sh: 1: cd: can't cd to {path}"

/-- Does something for each argument in turn. -/
def forEach (f : String → Disk → Outcome) (arguments : List String) (d : Disk) : Outcome :=
  arguments.foldl (fun outcome a => outcome.andThen (f a outcome.disk)) (.done d "")

def act (operation : OnDisk Unit) (status : Nat) (complaint : DiskFault → String) (d : Disk) :
    Outcome :=
  match operation.run.run d with
  | (.ok (), d) => .done d ""
  | (.error fault, d) => .failed d status (complaint fault)

def cat : Program := fun arguments input d _ =>
  if arguments.isEmpty then ⟨d, input, [], 0, none⟩
  else
    forEach (fun path d =>
      if path = "-" then ⟨d, input, [], 0, none⟩
      else match d.read path with
        | .ok content => .done d content
        | .error fault => .failed d 1 s!"cat: {path}: {fault.text}") arguments d

/-- The names in a directory, in order; hidden ones start with a dot. -/
def namesIn (hidden : Bool) (place : Place) (d : Disk) : List String :=
  let inside := d.entries.filterMap fun (p, _) =>
    if p.dropLast = place && p ≠ [] then p.getLast? else none
  (inside.filter fun name => hidden || name.toList.head? ≠ some '.').mergeSort (· ≤ ·)

def ls : Program := fun arguments _ d _ =>
  let (options, paths) := arguments.partition fun a => a.toList.head? = some '-'
  let hidden := options.any fun o => o.toList.contains 'a' || o.toList.contains 'A'
  let shown (names : List String) := String.join (names.map (· ++ "\n"))
  forEach (fun path d =>
    match d.find path with
    | .ok (place, .directory) =>
      .done d ((if 1 < paths.length then path ++ ":\n" else "") ++ shown (namesIn hidden place d))
    | .ok _ => .done d (path ++ "\n")
    | .error fault => .failed d 2 s!"ls: cannot access '{path}': {fault.text}")
    (if paths.isEmpty then ["."] else paths) d

def mkdir : Program := fun arguments _ d _ =>
  let (options, paths) := arguments.partition fun a => a.toList.head? = some '-'
  let make := if options.isEmpty then Disk.makeDirectory else Disk.makeDirectories
  forEach (fun path => act (make path) 1 fun fault =>
    s!"mkdir: cannot create directory '{path}': {fault.text}") paths d

def touch : Program := fun arguments _ d _ =>
  forEach (fun path d => if d.holds path then .done d "" else
    act (Disk.create path) 1 (fun fault => s!"touch: cannot touch '{path}': {fault.text}") d)
    arguments d

/-- Removes a file, or with all that is in it a directory. -/
def removeAll (path : String) : OnDisk Unit := do
  let d ← get
  match ← d.find path with
  | (place, .directory) =>
    set { d with entries := d.entries.filter fun (p, _) => !place.isPrefixOf p }
  | (place, .file ..) => set (d.erase place)

def rm : Program := fun arguments _ d _ =>
  let (options, paths) := arguments.partition fun a => a.toList.head? = some '-'
  let has (c : Char) := options.any fun o => o.toList.contains c
  forEach (fun path d =>
    if has 'f' && !d.holds path then .done d ""
    else act (if has 'r' || has 'R' then removeAll path else Disk.remove path) 1
      (fun fault => s!"rm: cannot remove '{path}': {fault.text}") d) paths d

def check : Program := fun arguments _ d _ =>
  let isFile (path : String) := d.holds path && !d.isDirectory path
  let rec holds : List String → Bool
    | "!" :: rest => !holds rest
    | ["-e", path] => d.holds path
    | ["-f", path] => isFile path
    | ["-d", path] => d.isDirectory path
    | ["-z", s] => s.isEmpty
    | ["-n", s] => !s.isEmpty
    | [s] => !s.isEmpty
    | [s, "=", t] => s = t
    | [s, "!=", t] => s ≠ t
    | _ => false
  ⟨d, [], [], if holds arguments then 0 else 1, none⟩

def programs : List (String × Program) := [
  ("echo", echo), ("printf", printf), ("true", succeed), (":", succeed), ("false", fail),
  ("exit", exit), ("kill", kill), ("pwd", pwd), ("cd", cd), ("cat", cat), ("ls", ls),
  ("mkdir", mkdir), ("touch", touch), ("rm", rm), ("test", check),
  ("[", fun arguments => check (arguments.filter (· ≠ "]"))), ("sleep", succeed)]

end ApiScaffold.Shell
