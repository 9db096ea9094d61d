import ImageStudio.Port.Error
import ImageStudio.Process.Error
import ImageStudio.Task.Basic

/-!
# Dispatch · Error: why a job failed, and what its task records

A job fails because its provider is not configured, because the provider call failed,
because the image could not be processed, or because storing it failed. Each cause maps to
one task error kind: the first two are provider errors.
-/

namespace ImageStudio

/-- Why a dispatched job failed (`DispatchError`). -/
inductive JobError where
  | unknownProvider (name : String)
  | provider (e : PortError)
  | process (e : ProcessError)
  | storage (e : PortError)
  deriving DecidableEq, Repr, Inhabited

namespace JobError

/-- The message of the failure. -/
def message : JobError → String
  | .unknownProvider n => "Image provider '" ++ n ++ "' is not configured"
  | .provider e => e.message
  | .process e => e.message
  | .storage e => e.message

/-- The task error kind of the failure (`DispatchError::kind`). -/
def kind : JobError → TaskErrorKind
  | .unknownProvider _ | .provider _ => .provider
  | .process _ => .postProcessing
  | .storage _ => .storage

/-- The error a failed job leaves on its task (`DispatchError::to_task_error`). -/
def toTaskError (e : JobError) : TaskError := { kind := e.kind, message := e.message }

end JobError

end ImageStudio
