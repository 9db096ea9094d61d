import ImageStudio.Params.Error

/-!
# Port · Error: failures of the service's collaborators

The repository, the object store and the providers fail in one of four ways: something
was not found, an input was refused, a write conflicts with what exists, or something
unexpected happened. The message of each starts with a fixed phrase. A refused parameter
set is an input refusal.
-/

namespace ImageStudio

/-- A failure of a collaborator. -/
inductive PortError where
  | notFound (message : String)
  | validation (message : String)
  | conflict (message : String)
  | unexpected (message : String)
  deriving DecidableEq, Repr, Inhabited

namespace PortError

/-- The full message, with its fixed phrase. -/
def message : PortError → String
  | .notFound m => "Item not found: " ++ m
  | .validation m => "Invalid input: " ++ m
  | .conflict m => "Conflict: " ++ m
  | .unexpected m => "An unexpected error occurred: " ++ m

/-- The message without the phrase. -/
def detail : PortError → String
  | .notFound m | .validation m | .conflict m | .unexpected m => m

/-- The name of the failure's kind. -/
def kindName : PortError → String
  | .notFound _ => "NotFound"
  | .validation _ => "Validation"
  | .conflict _ => "Conflict"
  | .unexpected _ => "Unexpected"

/-- A failure from a kind name and a message; an unknown kind is unexpected. -/
def ofKind (kind message : String) : PortError :=
  match kind with
  | "NotFound" => .notFound message
  | "Validation" => .validation message
  | "Conflict" => .conflict message
  | _ => .unexpected message

/-- A refused parameter set, as an input refusal. -/
def ofParams (e : ParamsError) : PortError := .validation e.message

/-- The HTTP status and body of a failure (`port_error_response`): the three expected kinds show
their message, an unexpected failure shows nothing of itself. -/
def response : PortError → Nat × String
  | .notFound m => (404, m)
  | .validation m => (400, m)
  | .conflict m => (409, m)
  | .unexpected _ => (500, "Internal server error")

end PortError

end ImageStudio
