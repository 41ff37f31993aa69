import ApiScaffold.Description.Extension
import ApiScaffold.Diagnosed
import ApiScaffold.Naming
/-!
# Error catalogues

Each declared error gets a constructor in Go. If the description lists the known codes, no other
may be declared.
-/
namespace ApiScaffold

open ApiScaffold.Text

structure ErrorEntry where
  code : String
  ident : String
  message : String
  httpStatus : Nat
  hasValues : Bool
  /-- Whether the message has places for arguments. -/
  isFormat : Bool
  description : Option String
  deriving DecidableEq

structure ErrorCatalog where
  entries : List ErrorEntry
  deriving DecidableEq

namespace ErrorCatalog

/-- Codes that the shared library relies on. -/
def requiredCodes : List String := [
  "BUSINESS_ERROR", "VALIDATION_ERROR", "MISSING_REQUIRED_FIELD_ERROR",
  "OBJECT_VERSION_MISMATCH_ERROR", "NOT_FOUND_ERROR", "SERVICE_CALL_ERROR", "FORBIDDEN_ERROR",
  "INTERNAL_SERVER_ERROR", "AUTH_HEADER", "UNPROCESSABLE_ENTITY_FOREIGN_KEY",
  "UNPROCESSABLE_ENTITY_UNIQUE"]

/-- Whether a percent sign stands before a character of a word. -/
def hasVerb : List Char → Bool
  | '%' :: c :: rest => isWordChar c || hasVerb (c :: rest)
  | _ :: rest => hasVerb rest
  | [] => false

/-- The literals of the property `code` of `ApplicationError`, if it is an enumeration. -/
def knownCodes (d : Document) : Except Failure (Option (List String)) :=
  match (d.schema? "ApplicationError").bind fun schema => Keyed.get? "code" schema.properties with
  | none => .ok none
  | some position => do
    let code ← d.resolve position
    return if code.isEnum then some (code.literals.filterMap Json.asText?) else none

def entry (known : Option (List String)) (code : String) (declared : ErrorDeclaration) :
    Except Failure ErrorEntry := do
  if known.any (!·.contains code) then throw (.unknownErrorCode code)
  if blankText declared.message then throw (.invalidExtension code "x-errors" .emptyMessage)
  if declared.httpCode < 100 ∨ 599 < declared.httpCode then
    throw (.invalidExtension code "x-errors" (.notAnHttpStatus declared.httpCode))
  return {
    code
    ident := Naming.properCase code
    message := declared.message
    httpStatus := declared.httpCode
    hasValues := declared.hasValues
    isFormat := hasVerb declared.message.toList
    description := declared.description }

def warnMissing (known : List String) : List String → Diagnosed Unit
  | [] => return
  | code :: rest => do
    if !known.contains code then .warn (.missingErrorCode code)
    warnMissing known rest

/-- The catalogue of a document, unless it declares no errors. -/
def ofDocument (d : Document) : Diagnosed (Option ErrorCatalog) := do
  let declared ← Extension.errorDeclarations d
  if declared.isEmpty then return none
  let known ← knownCodes d
  match known with
  | some known => warnMissing known requiredCodes
  | none => pure ()
  let entries ← declared.mapM fun (code, declaration) =>
    (.ofExcept (entry known code declaration) : Diagnosed ErrorEntry)
  return some ⟨entries⟩

end ErrorCatalog

end ApiScaffold
