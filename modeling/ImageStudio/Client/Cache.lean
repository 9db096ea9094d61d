import ImageStudio.Web.Dto

/-!
# Client · Cache: the batches a client holds, per topic

A client keeps the batches of the topics it shows, and changes them only through actions:

* `replaceTopic` puts a topic's batches in place of what was held, or adds the topic;
* `updateBatch` puts a batch in place of the held batch with its id;
* `updateGeneration` merges a status into the held generation with its id.

An action that names a topic, batch or generation the cache does not hold changes nothing.

A status is merged by a patch. The patch always sets the task's status. A success also
takes the patch's asset and seed when it has them, and clears the task's error. A failure
takes the patch's error, even when the patch has none. The other statuses change nothing
else.
-/

namespace ImageStudio

/-- What a status changes on one held generation. -/
structure GenerationPatch where
  status : TaskStatus
  asset : Option Asset := none
  seed : Option Int := none
  error : Option TaskErrorDto := none
  deriving DecidableEq, Repr, Inhabited

namespace GenerationPatch

/-- The patch a status answer makes (`GenerationPatch::from`). -/
def ofStatus (s : GenerationStatusDto) : GenerationPatch :=
  { status := s.status, asset := s.generation.bind (·.asset),
    seed := s.generation.bind (·.seed), error := s.error }

/-- Merges the patch into a generation (`GenerationPatch::apply`). -/
def apply (p : GenerationPatch) (g : GenerationViewDto) : GenerationViewDto :=
  let g := { g with task := { g.task with status := some p.status } }
  match p.status with
  | .success =>
    { g with asset := p.asset <|> g.asset, seed := p.seed <|> g.seed,
             task := { g.task with error := none } }
  | .error => { g with task := { g.task with error := p.error } }
  | .pending | .processing => g

/-- Reads a patch written out field by field: `status`, then the optional `asset`, `seed`
and `error`. -/
def read (n : Node) : Decoded GenerationPatch := do
  let m ← RecordShape.members ⟨"GenerationPatch",
    [("status", false), ("asset", true), ("seed", true), ("error", true)]⟩ n
  let status ← m.field "status" TaskStatus.read
  let asset ← m.optField "asset" (Asset.readAs "AssetDto")
  let seed ← m.optField "seed" Node.asI64
  let error ← m.optField "error" TaskErrorDto.read
  pure { status, asset, seed, error }

end GenerationPatch

/-- A change to the cache. -/
inductive BatchAction where
  | updateGeneration (topic batch generation : Uuid) (patch : GenerationPatch)
  | updateBatch (topic : Uuid) (batch : BatchViewDto)
  | replaceTopic (topic : Uuid) (batches : List BatchViewDto)
  deriving Repr, Inhabited

/-- Changes the first item that satisfies `p`. -/
def modifyFirst {α : Type} (p : α → Bool) (f : α → α) : List α → List α
  | [] => []
  | a :: rest => if p a then f a :: rest else a :: modifyFirst p f rest

/-- The batches held per topic, each topic once. -/
structure BatchCache where
  topics : List (Uuid × List BatchViewDto) := []
  deriving Repr, Inhabited

namespace BatchCache

instance : BEq BatchCache := ⟨fun a b => a.topics == b.topics⟩

/-- The batches held for a topic; none when the topic is not held (`BatchCache::batches`). -/
def batches (c : BatchCache) (topic : Uuid) : List BatchViewDto :=
  (c.topics.lookup topic).getD []

/-- The held generation with these ids (`BatchCache::generation`). -/
def generation? (c : BatchCache) (topic batch generation : Uuid) : Option GenerationViewDto :=
  ((c.batches topic).find? (·.id == batch)).bind fun b => b.generations.find? (·.id == generation)

/-- Changes the batches of a held topic. -/
def modifyTopic (c : BatchCache) (topic : Uuid) (f : List BatchViewDto → List BatchViewDto) :
    BatchCache :=
  { topics := modifyFirst (·.1 == topic) (fun (t, bs) => (t, f bs)) c.topics }

/-- The cache after an action (`BatchCache::reduce`). -/
def reduce (c : BatchCache) : BatchAction → BatchCache
  | .updateGeneration topic batch generation patch =>
    c.modifyTopic topic <| modifyFirst (·.id == batch) fun b =>
      { b with generations := modifyFirst (·.id == generation) patch.apply b.generations }
  | .updateBatch topic batch => c.modifyTopic topic (modifyFirst (·.id == batch.id) fun _ => batch)
  | .replaceTopic topic batches =>
    if c.topics.any (·.1 == topic) then c.modifyTopic topic fun _ => batches
    else { topics := c.topics ++ [(topic, batches)] }

/-! ### Equations -/

/-- An action on a topic the cache does not hold, other than replacing it, changes nothing. -/
theorem reduce_updateBatch_empty (topic : Uuid) (b : BatchViewDto) :
    (({} : BatchCache).reduce (.updateBatch topic b)).topics = [] := rfl

end BatchCache

end ImageStudio
