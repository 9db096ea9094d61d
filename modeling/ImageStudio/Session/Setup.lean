import ImageStudio.Web.Router

/-!
# Session · Setup: a studio described in JSON

A session starts from a description of the studio to run:

* `images`: named image URLs; a provider answer `@name` stands for the URL of that name.
* `models`: cards added to the built-in catalog, each `{provider, id, display_name?, schema}`.
* `providers`: the registered providers, each `{rules: [{match?, respond}], default?}`. A
  rule matches on `prompt`, `seed` and `model`; an answer is `{image, width?, height?}` or
  `{fail, kind?}` (an unexpected failure unless `kind` names another).
* `default_image_num`, `max_image_num`, `task_timeout_secs`, `queue_capacity`: settings.
* `worker: "stopped"`: no worker takes jobs.
* `title`: a title service answering `{ok: title}`, failing `{err: message}`, or answering
  blank `{}`.
* `store`: switches of the object store: `fail_put`, `fail_delete`, `timeout_on_put`.

The clock starts at the first second of 2025, and identifiers and seeds come from fixed
entropy, so a session runs the same way every time.
-/

namespace ImageStudio

namespace Setup

/-- A natural-number member. -/
def natAt (j : Json) (k : String) : Option Nat :=
  match j.get? k with
  | some (.num n) => n.asU64?
  | _ => none

/-- A string member. -/
def strAt (j : Json) (k : String) : Option String := (j.get? k).bind Json.asStr?

/-- A flag member: present and `true`. -/
def flagAt (j : Json) (k : String) : Bool :=
  match j.get? k with
  | some (.bool b) => b
  | _ => false

/-- A provider's answer from its description. -/
def readAnswer (images : Json) (a : Json) : ProviderAnswer :=
  match strAt a "fail" with
  | some m => .error (PortError.ofKind ((strAt a "kind").getD "Unexpected") m)
  | none =>
    let url := (strAt a "image").getD ""
    let url := match url.toList with
      | '@' :: name => (strAt images (String.ofList name)).getD url
      | _ => url
    .ok { url, width := natAt a "width", height := natAt a "height" }

/-- A rule's conditions from their description. -/
def readCondition (m : Json) : RuleCondition :=
  { prompt := strAt m "prompt", model := strAt m "model",
    seed := match m.get? "seed" with
      | some (.num n) => n.asI64?
      | _ => none }

/-- A provider from its description. -/
def readProvider (images : Json) (name : String) (p : Json) : Provider :=
  let rules := match p.get? "rules" with
    | some (.arr rs) => rs.map fun r =>
      { condition := readCondition ((r.get? "match").getD .null),
        answer := readAnswer images ((r.get? "respond").getD .null) }
    | _ => []
  { name, rules, fallback := (p.get? "default").map (readAnswer images) }

/-- A model card from its description. -/
def readCard (m : Json) : Except String ModelCard := do
  let provider := (strAt m "provider").getD ""
  let id := (strAt m "id").getD ""
  let schema ← (ParamsSchema.ofJson ((m.get? "schema").getD .null)).mapError (·.message)
  pure { provider, id, displayName := (strAt m "display_name").getD id, schema }

/-- The title service of a description. -/
def readTitles (t : Json) : TitleService :=
  fun _ => match strAt t "ok", strAt t "err" with
    | some title, _ => .ok title
    | none, some m => .error (.unexpected m)
    | none, none => .ok ""

/-- The moment a session's clock starts: 2025-01-01T00:00:00Z. -/
def start : Instant := { days := 20089, seconds := 0, nanos := 0 }

/-- A studio from its description. -/
def studio (c : Json) : Except String Studio := do
  let images := (c.get? "images").getD .null
  let cards ← match c.get? "models" with
    | some (.arr ms) => ms.mapM readCard
    | _ => pure []
  let providers := (((c.get? "providers").getD .null).members).map fun (n, p) =>
    readProvider images n p
  let store := (c.get? "store").getD .null
  let d : Settings := {}
  let settings : Settings :=
    { defaultImageNum := (natAt c "default_image_num").getD d.defaultImageNum,
      maxImageNum := (natAt c "max_image_num").getD d.maxImageNum,
      taskTimeoutSecs := (natAt c "task_timeout_secs").getD d.taskTimeoutSecs,
      queueCapacity := (natAt c "queue_capacity").getD d.queueCapacity }
  pure { repo := Repository.empty start { seed := 0x1D },
         bucket := { refusePuts := flagAt store "fail_put", refuseDeletes := flagAt store "fail_delete",
                     slowPuts := flagAt store "timeout_on_put" },
         catalog := cards.foldl Catalog.register Catalog.builtin,
         providers, settings,
         workerRunning := strAt c "worker" != some "stopped",
         titles := (c.get? "title").map readTitles,
         seeds := ChaCha.seedFromU64 0x5EED }

end Setup

end ImageStudio
