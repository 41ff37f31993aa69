import ApiScaffold.Description.Extension
import ApiScaffold.Text.Casing
/-!
# Contexts

The settings of one run: the module path that imports start with, and the schemas that the
shared library provides, which are not generated.
-/
namespace ApiScaffold

open ApiScaffold.Text

/-- A language that sources are generated in. -/
inductive Language where
  | go
  deriving DecidableEq, Inhabited

namespace Language

def name : Language → String
  | .go => "go"

def title : Language → String
  | .go => "Go"

def extension : Language → String
  | .go => "go"

/-- Letter case does not matter in the name of a language. -/
def ofName (name : String) : Except Failure Language :=
  if ["go", "golang"].contains (lowerText name) then .ok .go
  else .error (.unsupportedLanguage name)

end Language

structure Metadata where
  title : String
  apiVersion : String
  module : String
  generatorVersion : String
  deriving DecidableEq

def generatorVersion : String := "0.1.0"

structure Context where
  language : Language
  module : String
  skipped : Texts
  metadata : Metadata

namespace Context

def defaultSkipped : Texts :=
  ["ApplicationError", "ApplicationErrorValues", "Page", "Pageable", "Sort"]

/-- A given module path goes before the one of the description. -/
def ofDocument (d : Document) (language : Language) (module : Option String) :
    Except Failure Context := do
  let module ← match module with
    | some module => .ok module
    | none => Extension.module d
  return {
    language
    module
    skipped := defaultSkipped
    metadata := ⟨d.info.title, d.info.version, module, generatorVersion⟩ }

def skipping (c : Context) (names : List String) : Context :=
  { c with skipped := Texts.ofList names }

def isSkipped (c : Context) (schema : String) : Bool := c.skipped.contains schema

def validate (c : Context) : Except Failure Unit :=
  if blankText c.module then .error (.missingModule .empty)
  else if c.module.toList.any isBlank then .error (.moduleWithBlank c.module)
  else .ok ()

end Context

end ApiScaffold
