import ApiScaffold.Failure
/-!
# Results with warnings

A step may warn on its way to a value or a failure. `Diagnosed` keeps the warnings in the order
in which they were raised, also when the step fails.
-/
namespace ApiScaffold

inductive Warning where
  | bodyNotJson (operation contentType : String)
  | severalSuccesses (operation : String) (codes : List Nat)
  | missingErrorCode (code : String)
  | unusedPathParameter (operation parameter : String)
  | unsupportedKind (operation parameter kind : String)
  | untyped (description : String)
  | commandFailed (command : String) (exitCode : Int) (error : String)
  | commandNotRun (command error : String)
  | stagedFileLeft (path error : String)
  deriving DecidableEq

namespace Warning

def message : Warning → String
  | bodyNotJson .. => "response body is not JSON, writing status only"
  | severalSuccesses .. => "multiple success responses declared, using the lowest"
  | missingErrorCode .. => "ApplicationError code enum is missing a required code"
  | unusedPathParameter .. => "path parameter does not appear in the path template"
  | unsupportedKind .. => "unsupported parameter kind, falling back to string extraction"
  | untyped .. => "schema declares neither a type nor a reference, using an untyped value"
  | commandFailed .. => "Post-generation command failed"
  | commandNotRun .. => "Failed to execute post-generation command"
  | stagedFileLeft .. => "failed to remove staged file"

/-- What the warning is about, by name. -/
def fields : Warning → List (String × String)
  | bodyNotJson operation contentType =>
    [("operation", operation), ("content_type", contentType)]
  | severalSuccesses operation codes =>
    [("operation", operation), ("codes", toString codes)]
  | missingErrorCode code => [("code", code)]
  | unusedPathParameter operation parameter =>
    [("operation", operation), ("parameter", parameter)]
  | unsupportedKind operation parameter kind =>
    [("operation", operation), ("parameter", parameter), ("kind", kind)]
  | untyped description => [("description", description)]
  | commandFailed command exitCode error =>
    [("command", command), ("exit_code", toString exitCode), ("error", error)]
  | commandNotRun command error => [("command", command), ("error", error)]
  | stagedFileLeft path error => [("path", path), ("error", error)]

end Warning

structure Diagnosed (α : Type) where
  warnings : List Warning
  result : Except Failure α

namespace Diagnosed

variable {α β : Type}

def ofExcept (result : Except Failure α) : Diagnosed α := ⟨[], result⟩

def fail (failure : Failure) : Diagnosed α := ⟨[], .error failure⟩

def warn (warning : Warning) : Diagnosed Unit := ⟨[warning], .ok ()⟩

def bind (x : Diagnosed α) (f : α → Diagnosed β) : Diagnosed β :=
  match x.result with
  | .ok a => ⟨x.warnings ++ (f a).warnings, (f a).result⟩
  | .error failure => ⟨x.warnings, .error failure⟩

instance : Monad Diagnosed where
  pure a := ⟨[], .ok a⟩
  bind := bind

instance : LawfulMonad Diagnosed :=
  LawfulMonad.mk' Diagnosed
    (fun x => by
      show bind x (fun a => ⟨[], .ok a⟩) = x
      obtain ⟨warnings, result⟩ := x
      cases result <;> simp [bind])
    (fun a f => by
      show bind ⟨[], .ok a⟩ f = f a
      simp [bind])
    (fun x f g => by
      show bind (bind x f) g = bind x fun a => bind (f a) g
      obtain ⟨warnings, result⟩ := x
      cases result with
      | error failure => rfl
      | ok a => cases h : (f a).result <;> simp [bind, h, List.append_assoc])

instance : MonadLift (Except Failure) Diagnosed := ⟨ofExcept⟩

/-- The result of a sequence does not depend on the warnings of its first part. -/
theorem result_bind (x : Diagnosed α) (f : α → Diagnosed β) :
    (x >>= f).result = x.result >>= fun a => (f a).result := by
  show (bind x f).result = _
  cases h : x.result <;> simp [bind, h, Except.bind, Bind.bind]

end Diagnosed

end ApiScaffold
