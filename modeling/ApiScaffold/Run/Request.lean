import ApiScaffold.Model.Context
import ApiScaffold.Text.Quoted
import ApiScaffold.Toml.Reader
/-!
# Requests

What one run is asked to do, and the configuration file that a request starts from.
-/
namespace ApiScaffold

open ApiScaffold.Text

/-- What is wrong with a request or a configuration. -/
inductive RequestFault where
  | missingField (field : String)
  | invalidModule (module : String)
  | blankCommand (position : Nat)
  | invalidConfiguration
  deriving DecidableEq

def RequestFault.message : RequestFault → String
  | .missingField field => s!"Missing required field: {field}"
  | .invalidModule module => s!"Invalid module path {quoted module}"
  | .blankCommand position => s!"Post-generation command at position {position} is blank"
  | .invalidConfiguration => "Invalid configuration: malformed"

structure Request where
  /-- The path or address of the description. -/
  source : String
  /-- The directory that the paths of artifacts start from. -/
  directory : String
  language : Language
  module : Option String
  skipped : Texts
  /-- Run in order, once everything is written. -/
  commands : List String
  /-- Nothing is written, and no command is run. -/
  dryRun : Bool
  deriving DecidableEq

namespace Request

def new (source directory : String) : Request :=
  ⟨source, directory, .go, none, Context.defaultSkipped, [], false⟩

def isModule (module : String) : Bool := !blankText module && !module.toList.any isBlank

/-- The source is looked at before the module, and that before the commands. -/
def validate (r : Request) : Except RequestFault Unit :=
  if blankText r.source then .error (.missingField "OpenAPI description source")
  else match r.module.filter (!isModule ·), r.commands.findIdx? blankText with
    | some module, _ => .error (.invalidModule module)
    | none, some position => .error (.blankCommand position)
    | none, none => .ok ()

end Request

structure Configuration where
  module : Option String
  language : Language
  skipped : Texts
  commands : List String
  deriving DecidableEq

namespace Configuration

def standard : Configuration := ⟨none, .go, Context.defaultSkipped, []⟩

def texts? : Toml → Option (List String)
  | .list items => items.mapM fun item =>
    match item with
    | .text s => some s
    | _ => none
  | _ => none

/-- A language is named by a text, or by the only key of a table that holds nothing else. -/
def language? : Toml → Option Language
  | .text "go" => some .go
  | .table _ [("go", .table _ [])] => some .go
  | .table _ [("go", .list [])] => some .go
  | _ => none

def set? (c : Configuration) : String × Toml → Option Configuration
  | ("module", .text s) => some { c with module := some s }
  | ("language", value) => (language? value).map fun language => { c with language }
  | ("skip-schemas", value) => (texts? value).map fun names =>
    { c with skipped := Texts.ofList names }
  | ("post-commands", value) => (texts? value).map fun commands => { c with commands }
  | _ => none

/-- A configuration changes the standard one; it holds known settings only. -/
def ofText (text : String) : Except RequestFault Configuration :=
  match (Toml.read? text).bind (·.foldlM set? standard) with
  | some c => .ok c
  | none => .error .invalidConfiguration

def request (c : Configuration) (source directory : String) : Request :=
  ⟨source, directory, c.language, c.module, c.skipped, c.commands, false⟩

end Configuration

end ApiScaffold
