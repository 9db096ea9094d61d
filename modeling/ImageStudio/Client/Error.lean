import ImageStudio.Net.Request

/-!
# Client · Error: why a call to the studio's HTTP interface failed

A client of the studio fails in one of two ways: its request did not get an answer, or the
answer's status is not a success. The second carries the status code and the body of the
answer. A status of 404 means the record is gone.
-/

namespace ImageStudio

/-- Why a client call failed. -/
inductive ClientError where
  | http (e : RequestError)
  | status (code : Nat) (body : String)
  deriving DecidableEq, Repr, Inhabited

namespace ClientError

/-- The message of a failure. -/
def message : ClientError → String
  | .http e => "Request failed: " ++ e.message
  | .status code body => "Server responded with " ++ toString code ++ ": " ++ body

/-- Whether the failure says the record is gone. -/
def isNotFound : ClientError → Bool
  | .status 404 _ => true
  | _ => false

end ClientError

end ImageStudio
