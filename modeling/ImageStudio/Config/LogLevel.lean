import ImageStudio.Text.Unsigned

/-!
# Config · LogLevel: how much the service logs

Five levels, from the fewest messages to the most: error, warn, info, debug and trace. A
level is named by its number from 1 to 5, in decimal with an optional `+`, or by its name
in any mix of ASCII case. Nothing else names a level. Blanks around the text are not
allowed either.
-/

namespace ImageStudio

/-- A level of logging. -/
inductive LogLevel where
  | error
  | warn
  | info
  | debug
  | trace
  deriving Repr, DecidableEq, Inhabited

namespace LogLevel

/-- Every level, from the fewest messages to the most. -/
def all : List LogLevel := [.error, .warn, .info, .debug, .trace]

/-- The name of a level, in capitals. -/
def name : LogLevel → String
  | .error => "ERROR"
  | .warn => "WARN"
  | .info => "INFO"
  | .debug => "DEBUG"
  | .trace => "TRACE"

/-- The level with this number: 1 is `error`, 5 is `trace`. -/
def ofNumber (n : Nat) : Option LogLevel :=
  if n = 0 then none else all[n - 1]?

/-- The level a text names: its number, or its name in any ASCII case. -/
def parse (s : String) : Option LogLevel :=
  let byNumber := match Text.readUnsigned Text.maxU64 s with
    | .ok n => ofNumber n
    | .error _ => none
  let lower := String.ofList (s.toList.map Char.toLower)
  byNumber <|> all.find? fun l => String.ofList (l.name.toList.map Char.toLower) == lower

/-! ### Equations -/

/-- Every level reads back from its name. -/
theorem parse_name (l : LogLevel) : parse l.name = some l := by
  cases l <;> decide

end LogLevel

end ImageStudio
