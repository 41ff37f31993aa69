import ApiScaffold.Run.CommandLine
/-!
# The program

The files that the arguments name are read, the command line runs on a disk that holds them, and
what it changed there is written back.
-/
namespace ApiScaffold.CommandLine

/-- Puts the file at a path onto a disk, if it can be read. -/
def fetch (d : Disk) (path : String) : IO Disk := do
  try
    let content ← IO.FS.readFile path
    return (d.holding path content)
  catch _ => return d

/-- Writes directories and files that a run has added or changed, and removes those it has
removed. -/
def writeBack (before after : Disk) : IO Unit := do
  for (place, entry) in after.entries.reverse do
    if before.entry? place ≠ some entry then
      match entry with
      | .directory => IO.FS.createDirAll place.text
      | .file content _ => IO.FS.writeFile place.text content
  for (place, entry) in before.entries do
    if after.entry? place = none && entry ≠ .directory then IO.FS.removeFile place.text

def warningLine (warning : Warning) : String :=
  let fields := warning.fields.map fun (name, value) => " " ++ name ++ "=" ++ value
  "WARN " ++ warning.message ++ String.join fields

/-- Runs the command line on the file system. -/
def perform (arguments : List String) : IO UInt32 := do
  let home := Disk.names (← IO.currentDir).toString
  let files := match Invocation.ofArguments arguments with
    | .run a => a.files
    | _ => []
  let before ← files.foldlM fetch (Disk.withHome home)
  let result := run arguments before
  writeBack before result.disk
  for warning in result.warnings do
    IO.eprintln (warningLine warning)
  IO.print result.output
  IO.eprint result.errors
  return result.exitCode.toUInt32

end ApiScaffold.CommandLine

def main (arguments : List String) : IO UInt32 := ApiScaffold.CommandLine.perform arguments
