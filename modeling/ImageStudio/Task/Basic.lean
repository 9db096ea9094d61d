import ImageStudio.Json.Decode
import ImageStudio.Id.Uuid
import ImageStudio.Time.Instant

/-!
# Task · Basic: the unit of asynchronous work behind each generation

Every generation has a task that tracks its provider call. A task starts `pending`, is
claimed (`processing`) by the worker that runs it, and ends `success` or `error`; the two
last are terminal. An errored task carries a `TaskError`: one of five kinds of failure and
a message. A terminal task also records how long it ran, in milliseconds.
-/

namespace ImageStudio

/-- Where a task stands (`AsyncTaskStatus`). -/
inductive TaskStatus where
  | pending
  | processing
  | success
  | error
  deriving DecidableEq, Repr, Inhabited

namespace TaskStatus

/-- The status's name. -/
def name : TaskStatus → String
  | .pending => "pending"
  | .processing => "processing"
  | .success => "success"
  | .error => "error"

/-- All statuses. -/
def all : List TaskStatus := [.pending, .processing, .success, .error]

/-- The status of a name; anything else is refused with the name in the message
(`AsyncTaskStatus::from_str`). -/
def ofName (s : String) : Except String TaskStatus :=
  match all.find? (·.name == s) with
  | some st => .ok st
  | none => .error ("unknown async task status '" ++ s ++ "'")

/-- Success and error are final (`AsyncTaskStatus::is_terminal`). -/
def isTerminal : TaskStatus → Bool
  | .success | .error => true
  | _ => false

/-- Pending and processing tasks are still in flight. -/
def isInFlight (s : TaskStatus) : Bool := !s.isTerminal

/-- Reads a status from its name, as a unit variant. -/
def read (n : Node) : Decoded TaskStatus := n.asVariant (all.map fun s => (s.name, s))

theorem ofName_name (s : TaskStatus) : ofName s.name = .ok s := by
  cases s <;> rfl

end TaskStatus

/-- The classes of failure recorded on an errored task (`AsyncTaskErrorKind`). -/
inductive TaskErrorKind where
  /-- The provider call failed or returned no usable image. -/
  | provider
  /-- Decoding, resizing or hashing the image failed. -/
  | postProcessing
  /-- Storing the image or its record failed. -/
  | storage
  /-- The task was never handed to a worker. -/
  | dispatchTrigger
  /-- The task stayed in flight too long. -/
  | timeout
  deriving DecidableEq, Repr, Inhabited

namespace TaskErrorKind

/-- The kind's name. -/
def name : TaskErrorKind → String
  | .provider => "ProviderError"
  | .postProcessing => "PostProcessingError"
  | .storage => "StorageError"
  | .dispatchTrigger => "DispatchTriggerError"
  | .timeout => "TimeoutError"

/-- All kinds. -/
def all : List TaskErrorKind := [.provider, .postProcessing, .storage, .dispatchTrigger, .timeout]

/-- Reads a kind from its name. -/
def read (n : Node) : Decoded TaskErrorKind := n.asVariant (all.map fun k => (k.name, k))

end TaskErrorKind

/-- The error payload of an errored task (`AsyncTaskError`). -/
structure TaskError where
  kind : TaskErrorKind
  message : String
  deriving DecidableEq, Repr, Inhabited

namespace TaskError

/-- The stored form `{name, message}`. -/
def toJson (e : TaskError) : Json :=
  Json.mkObj [("name", .str e.kind.name), ("message", .str e.message)]

/-- The record shape of the stored form. -/
def shape : RecordShape := { name := "AsyncTaskError", fields := [("name", false), ("message", false)] }

/-- Reads the stored form. -/
def read (n : Node) : Decoded TaskError := do
  let m ← shape.members n
  let kind ← m.field "name" TaskErrorKind.read
  let message ← m.field "message" Node.asString
  pure { kind, message }

end TaskError

/-- An asynchronous task (`AsyncTask`). -/
structure Task where
  id : Uuid
  user : Uuid
  status : TaskStatus
  error : Option TaskError := none
  durationMs : Option Int := none
  createdAt : Instant
  updatedAt : Instant
  deriving DecidableEq, Repr, Inhabited

/-- The one kind of task there is. -/
def Task.typeName : String := "image_generation"

end ImageStudio
