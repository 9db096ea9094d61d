import ImageStudio.Port.Error
import ImageStudio.Image.Process

/-!
# Storage · Bucket: the object store that holds image bytes

Objects are kept under keys, each with its content type. Putting an object under a key
that is taken replaces it; deleting a key that is absent is no failure.

A bucket can be made to refuse writes or deletions, for running the service against a
failing store; a refused put is an unexpected failure `bucket unavailable`, a refused
deletion one named `delete refused`.

A re-encoded thumbnail is stored as what it is known by, its dimensions: its bytes come
from an encoder that is not part of this library.
-/

namespace ImageStudio

/-- The contents of a stored object. -/
inductive Blob where
  /-- Known bytes. -/
  | bytes (data : ByteArray)
  /-- A re-encoded thumbnail of these dimensions. -/
  | rendered (width height : Nat)
  deriving Inhabited

/-- The size of a blob in bytes, when known. -/
def Blob.size? : Blob → Option Nat
  | .bytes d => some d.size
  | .rendered _ _ => none

/-- A stored object. -/
structure StoredObject where
  key : String
  blob : Blob
  contentType : String
  deriving Inhabited

/-- An object store, with switches that make it refuse work (`RecordingStore`). -/
structure Bucket where
  objects : List StoredObject := []
  refusePuts : Bool := false
  refuseDeletes : Bool := false
  /-- Every put takes longer than any task may run. -/
  slowPuts : Bool := false
  deriving Inhabited

namespace Bucket

/-- Stores an object under a key, replacing what was there. -/
def put (b : Bucket) (key : String) (blob : Blob) (contentType : String) :
    Except PortError Bucket :=
  if b.refusePuts then .error (.unexpected "bucket unavailable")
  else .ok { b with objects := b.objects.filter (·.key != key) ++ [{ key, blob, contentType }] }

/-- Removes the object under a key. -/
def delete (b : Bucket) (key : String) : Except PortError Bucket :=
  if b.refuseDeletes then .error (.unexpected "delete refused")
  else .ok { b with objects := b.objects.filter (·.key != key) }

/-- The stored objects by key. -/
def listing (b : Bucket) : List StoredObject :=
  b.objects.mergeSort fun x y => decide (x.key ≤ y.key)

end Bucket

end ImageStudio
