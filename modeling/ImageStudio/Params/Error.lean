/-!
# Params · Error: why a request's parameters or a model's schema were refused

The first fault found is the one reported; `ParamsError.message` is its wording.
-/

namespace ImageStudio

/-- Why parameters or a schema were refused. -/
inductive ParamsError where
  /-- The parameters are not an object. -/
  | notAnObject
  /-- The prompt is missing or blank. -/
  | emptyPrompt
  /-- A key is none of the standard parameter names. -/
  | unknownParameter (name : String)
  /-- A standard parameter that the model does not declare was given a value. -/
  | unsupported (name : String)
  /-- A value fails its parameter's check. -/
  | invalid (name : String) (reason : String)
  /-- The schema itself cannot be used. -/
  | invalidSchema (reason : String)
  deriving DecidableEq, Repr

namespace ParamsError

/-- The message of the error. -/
def message : ParamsError → String
  | .notAnObject => "parameters must be a JSON object"
  | .emptyPrompt => "prompt is empty"
  | .unknownParameter n => "unknown parameter '" ++ n ++ "'"
  | .unsupported n => "parameter '" ++ n ++ "' is not supported by this model"
  | .invalid n r => "parameter '" ++ n ++ "' is invalid: " ++ r
  | .invalidSchema r => "invalid parameter schema: " ++ r

/-- The name of the error's kind. -/
def kindName : ParamsError → String
  | .notAnObject => "NotAnObject"
  | .emptyPrompt => "EmptyPrompt"
  | .unknownParameter _ => "UnknownParameter"
  | .unsupported _ => "Unsupported"
  | .invalid _ _ => "Invalid"
  | .invalidSchema _ => "InvalidSchema"

end ParamsError

end ImageStudio
