import ImageStudio.Session.Records

/-!
# Session · Steps: running a studio step by step

A session is a studio with the names of its transcript. Each step names what it does in
`do` and refers to users and records by name; its answer is written for the transcript.

The steps are the service's requests (`create_image`, `status`, `batches`,
`delete_generation`, `delete_batch`, `delete_topic`, `list_topics`, `create_topic`,
`update_topic`), HTTP requests (`http`), calls on the repository itself (`repo.…`), and
four that look at the studio: `settle` runs the queued jobs, `store` lists the stored
objects, `calls` the provider requests made since the last `calls`, and `dump` every
named user's topics with their batches, and the store.

Records are labelled when they are made: a create request labels its topic (when new),
its batch, then each generation and its task.
-/

namespace ImageStudio

/-- A studio with the names of its transcript. -/
structure Session where
  studio : Studio
  names : Names := {}
  /-- How many provider requests were shown already. -/
  callsShown : Nat := 0

/-- A step of a session. -/
abbrev SessionM := StateM Session

namespace Session

/-- Runs a naming operation. -/
def naming {α : Type} (m : StateM Names α) : SessionM α :=
  modifyGet fun s => let (a, n) := m s.names; (a, { s with names := n })

/-- Runs an operation on the studio. -/
def onStudio {α : Type} (m : StateM Studio α) : SessionM α :=
  modifyGet fun s => let (a, t) := m s.studio; (a, { s with studio := t })

/-- Runs a request of the service. -/
def serve {α : Type} (m : Serve α) : SessionM (Except PortError α) := onStudio m.run

/-- Runs a repository operation: its writes stay when it succeeds. -/
def repo {α : Type} (m : Repo α) : SessionM (Except PortError α) :=
  onStudio (Studio.runRepo m)

/-! ## Reading a step -/

/-- A text member of a step; empty when absent. -/
def text (step : Json) (k : String) : String := ((step.get? k).bind Json.asStr?).getD ""

/-- The identifier a member names. -/
def ref (step : Json) (k : String) : SessionM Uuid := naming (Names.resolve (text step k))

/-- The user a step is made for. -/
def userOf (step : Json) : SessionM Uuid := naming (Names.user (text step "user"))

/-- An optional text member. -/
def optText (step : Json) (k : String) : Option String := (step.get? k).bind Json.asStr?

/-- An integer member. -/
def int? (step : Json) (k : String) : Option Int :=
  match step.get? k with
  | some (.num n) => n.asI64?
  | _ => none

/-- Replaces each `open NAME close` in a text by the text of the identifier of `NAME`. -/
def fillNames (openMark closeMark : String) (s : String) : SessionM String := do
  match s.splitOn openMark with
  | [] => pure s
  | first :: pieces =>
    let filled ← pieces.mapM fun piece =>
      match piece.splitOn closeMark with
      | name :: rest => do
        let u ← naming (Names.resolve name)
        pure (u.toText ++ closeMark.intercalate rest)
      | [] => pure piece
    pure (first ++ String.join filled)

/-! ## Answers -/

/-- The answer of a request: its value, or its failure. -/
def answerOf {α : Type} (r : Except PortError α) (f : α → Json) : Json :=
  match r with
  | .ok a => f a
  | .error e => Records.portFailure e

/-- Labels what a create request made. -/
def labelCreated (topic : Uuid) (batch : Uuid) (gens : List (Uuid × Option Uuid)) :
    SessionM Unit := naming do
  let _ ← Names.label 'T' topic
  let _ ← Names.label 'B' batch
  gens.forM fun (g, t) => do
    let _ ← Names.label 'G' g
    if let some t := t then
      let _ ← Names.label 'K' t

/-- A topic with its batches, as a dump shows it. -/
def topicWithBatches (s : Studio) (t : Topic) : Json :=
  Json.mkObj ((Records.topic t).members ++
    [("batches", .arr ((s.repo.batchesOf t.user t.id).map BatchViewDto.toJson))])

/-- Every named user's topics with their batches, and the store. -/
def dump : SessionM Json := do
  let s ← get
  let users ← s.names.users.mapM fun name => do
    let u ← naming (Names.resolve name)
    pure (name, Json.arr ((s.studio.repo.topicsOf u).map (topicWithBatches s.studio)))
  pure (Json.mkObj [("users", Json.mkObj users), ("store", Records.storeLines s.studio.bucket)])

/-- The provider requests since the last time they were shown. -/
def newCalls : SessionM (List Json) := do
  let s ← get
  set { s with callsShown := s.studio.calls.length }
  pure ((s.studio.calls.drop s.callsShown).map fun c =>
    Json.mkObj [("provider", .str c.provider), ("model", .str c.model),
      ("params", c.params.toConfig)])

/-! ## HTTP -/

/-- The body of an answer as a session shows it: JSON when it reads as JSON. -/
def bodyJson : HttpBody → Json
  | .empty => .str ""
  | .json j => j
  | .text t =>
    match Json.parse t with
    | .ok j => j
    | .error _ => .str t

/-- Runs an HTTP step. -/
def http (step : Json) : SessionM Json := do
  let method := text step "method"
  let target ← fillNames "\x7b" "\x7d" (text step "path")
  let userHeader ← match step.get? "user", step.get? "user_header" with
    | some (.str name), _ => (some ·.toText) <$> naming (Names.user name)
    | _, some (.str raw) => pure (some raw)
    | _, _ => pure none
  let body ← match step.get? "body", step.get? "raw_body" with
    | some j, _ => some <$> fillNames "\x7b@" "@\x7d" j.render
    | _, some (.str raw) => pure (some raw)
    | _, _ => pure none
  let contentType := match step.get? "content_type" with
    | some (.str ct) => some ct
    | some _ => none
    | none => body.map fun _ => "application/json"
  let req : HttpRequest :=
    { method, target, userHeader, contentType, body := (body.getD "").toUTF8 }
  let resp ← onStudio (Studio.handle req)
  let shown := bodyJson resp.body
  if method == "POST" && resp.status == 201 then
    if target == "/images" then
      let uuidAt (j : Json) (k : String) : Uuid :=
        match (j.get? k).bind Json.asStr? with
        | some t => (Uuid.parse t).toOption.getD default
        | none => default
      let gens := match shown.get? "generations" with
        | some (.arr gs) => gs.map fun g =>
          (uuidAt g "id", (Uuid.parse ((g.get? "asyncTaskId").bind Json.asStr? |>.getD "")).toOption)
        | _ => []
      labelCreated (uuidAt shown "topicId") (uuidAt ((shown.get? "batch").getD .null) "id") gens
    else if target == "/topics" then
      if let some id := (shown.get? "id").bind Json.asStr? then
        if let .ok u := Uuid.parse id then
          let _ ← naming (Names.label 'T' u)
  pure (Json.mkObj [("status", Json.ofInt resp.status), ("body", shown)])

end Session

end ImageStudio
