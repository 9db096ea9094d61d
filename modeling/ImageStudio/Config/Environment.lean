import ImageStudio.Config.LogLevel
import ImageStudio.Net.SocketAddress
import ImageStudio.Studio.Basic
import ImageStudio.Text.Blank

/-!
# Config · Environment: the service's settings, read from named variables

The service is set up by variables. Each one is looked up by name, and a missing variable
keeps its default:

| variable                   | default                 | read as                       |
|----------------------------|-------------------------|-------------------------------|
| `BIND_ADDRESS`             | `0.0.0.0:3000`          | socket address, trimmed       |
| `DATABASE_URL`             | none                    | text; blank is none           |
| `DATABASE_MAX_CONNECTIONS` | 5                       | 32-bit count, trimmed         |
| `RUST_LOG`                 | `INFO`                  | log level, as written         |
| `OPENAI_API_KEY`           | none                    | text; empty is none           |
| `FAL_API_KEY`              | none                    | text; empty is none           |
| `TITLE_MODEL`              | `gpt-4o-mini`           | text                          |
| `STORAGE_ROOT`             | `./data/objects`        | text                          |
| `DEFAULT_IMAGE_NUM`        | 4                       | 64-bit count, trimmed         |
| `MAX_IMAGE_NUM`            | 8                       | 64-bit count, trimmed         |
| `TASK_TIMEOUT_SECS`        | 300                     | 64-bit count, trimmed         |
| `DISPATCH_QUEUE_CAPACITY`  | 256                     | 64-bit count, trimmed         |
| `CORS_ORIGIN`              | `http://localhost:3000` | text                          |

Reading stops at the first bad value, in the order of this table, with the checks between
the readings:

* the default image count must be between 1 and the largest count;
* the timeout must be at least a second, and at most the seconds a millisecond duration can
  hold;
* the queue must hold at least one job.
-/

namespace ImageStudio

/-- A variable whose value is not usable: its name and why. -/
structure ConfigError where
  name : String
  reason : String
  deriving Repr, DecidableEq, Inhabited

namespace ConfigError

/-- The message of a failure. -/
def message (e : ConfigError) : String :=
  "Invalid value for the environment variable " ++ e.name ++ ": " ++ e.reason

end ConfigError

/-- The settings of the service. -/
structure Config where
  bindAddress : SocketAddress := .v4 [0, 0, 0, 0] 3000
  /-- The database; without one the records are kept in memory. -/
  databaseUrl : Option String := none
  databaseMaxConnections : Nat := 5
  logLevel : LogLevel := .info
  openaiApiKey : Option String := none
  falApiKey : Option String := none
  /-- The model that names new topics. -/
  titleModel : String := "gpt-4o-mini"
  /-- The directory of the stored objects. -/
  storageRoot : String := "./data/objects"
  defaultImageNum : Nat := 4
  maxImageNum : Nat := 8
  taskTimeoutSecs : Nat := 300
  dispatchQueueCapacity : Nat := 256
  corsOrigin : String := "http://localhost:3000"
  deriving Repr, Inhabited

namespace Config

/-- The longest timeout, in seconds, that a duration of milliseconds can hold. -/
def maxTimeoutSecs : Nat := 9223372036854775

/-- Reads a variable with `read` after trimming it, or keeps `default` when it is missing
(`parse_or`). -/
def readOr {α : Type} (lookup : String → Option String) (name : String) (default : α)
    (read : String → Except String α) : Except ConfigError α :=
  match lookup name with
  | some raw => (read (Text.trim raw)).mapError fun reason => { name, reason }
  | none => .ok default

/-- Reads an unsigned count no larger than `limit`. -/
def readCount (limit : Nat) (s : String) : Except String Nat :=
  (Text.readUnsigned limit s).mapError Text.UnsignedError.message

/-- Reads a socket address. -/
def readAddress (s : String) : Except String SocketAddress :=
  match SocketAddress.parse s with
  | some a => .ok a
  | none => .error "invalid socket address syntax"

/-- A text variable that counts as missing when `blank` holds for it. -/
def textUnless (lookup : String → Option String) (name : String) (blank : String → Bool) :
    Option String :=
  (lookup name).filter fun s => !blank s

/-- Reads the settings from the variables `lookup` knows (`Config::from_lookup`). -/
def load (lookup : String → Option String) : Except ConfigError Config := do
  let d : Config := {}
  let bindAddress ← readOr lookup "BIND_ADDRESS" d.bindAddress readAddress
  let databaseUrl := textUnless lookup "DATABASE_URL" Text.isBlankText
  let databaseMaxConnections ←
    readOr lookup "DATABASE_MAX_CONNECTIONS" d.databaseMaxConnections (readCount Text.maxU32)
  let levelText := (lookup "RUST_LOG").getD "INFO"
  let logLevel ← match LogLevel.parse levelText with
    | some l => pure l
    | none => throw { name := "RUST_LOG", reason := "'" ++ levelText ++ "' is not a valid log level" }
  let openaiApiKey := textUnless lookup "OPENAI_API_KEY" String.isEmpty
  let falApiKey := textUnless lookup "FAL_API_KEY" String.isEmpty
  let titleModel := (lookup "TITLE_MODEL").getD d.titleModel
  let storageRoot := (lookup "STORAGE_ROOT").getD d.storageRoot
  let defaultImageNum ← readOr lookup "DEFAULT_IMAGE_NUM" d.defaultImageNum (readCount Text.maxU64)
  let maxImageNum ← readOr lookup "MAX_IMAGE_NUM" d.maxImageNum (readCount Text.maxU64)
  if defaultImageNum == 0 || defaultImageNum > maxImageNum then
    throw { name := "DEFAULT_IMAGE_NUM",
            reason := "must be between 1 and MAX_IMAGE_NUM (" ++ toString maxImageNum ++ ")" }
  let taskTimeoutSecs ← readOr lookup "TASK_TIMEOUT_SECS" d.taskTimeoutSecs (readCount Text.maxU64)
  if taskTimeoutSecs == 0 || taskTimeoutSecs > maxTimeoutSecs then
    throw { name := "TASK_TIMEOUT_SECS", reason := toString taskTimeoutSecs ++ " is out of range" }
  let dispatchQueueCapacity ←
    readOr lookup "DISPATCH_QUEUE_CAPACITY" d.dispatchQueueCapacity (readCount Text.maxU64)
  if dispatchQueueCapacity == 0 then
    throw { name := "DISPATCH_QUEUE_CAPACITY", reason := "must be greater than zero" }
  let corsOrigin := (lookup "CORS_ORIGIN").getD d.corsOrigin
  pure { bindAddress, databaseUrl, databaseMaxConnections, logLevel, openaiApiKey, falApiKey,
         titleModel, storageRoot, defaultImageNum, maxImageNum, taskTimeoutSecs,
         dispatchQueueCapacity, corsOrigin }

/-- The settings of the image service (`ImageServiceSettings::from`). -/
def settings (c : Config) : Settings :=
  { defaultImageNum := c.defaultImageNum, maxImageNum := c.maxImageNum,
    taskTimeoutSecs := c.taskTimeoutSecs, queueCapacity := c.dispatchQueueCapacity }

/-! ### Equations -/

/-- With no variables at all, the service listens on port 3000 of every interface. -/
theorem load_nothing_address :
    (load fun _ => none).map (·.bindAddress) = .ok (.v4 [0, 0, 0, 0] 3000) := by
  rfl

end Config

end ImageStudio
