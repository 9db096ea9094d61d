import ImageStudio.Repository.Topics

/-!
# Repository · Batches: a batch with its generations and their tasks

A batch is made in one step with one generation per image and one pending task per
generation. The request is checked first: at least one image, as many seeds as images when
seeds are given, and a topic of the caller's. A seed that repeats an earlier one of the
batch refuses the whole batch, so no part of it is ever stored. A new batch moves its
topic's update time.

The feed of a topic lists its batches oldest first, each with its generations in the order
of their creation (the identifier breaks ties) and the current state of their tasks.
-/

namespace ImageStudio

/-- What a batch is made of. -/
structure NewBatch where
  topic : Uuid
  provider : String
  model : String
  prompt : String
  width : Option Int := none
  height : Option Int := none
  config : Json
  imageNum : Nat
  /-- One seed per image, when the model takes seeds. -/
  seeds : Option (List Int) := none
  deriving Repr, Inhabited

/-- A stored batch, its generations and their tasks, in order. -/
structure CreatedBatch where
  batch : Batch
  generations : List Generation
  tasks : List Uuid
  deriving Repr, Inhabited

/-- A deleted generation and the file that went with it, if no other generation used it. -/
structure DeletedGeneration where
  generation : Generation
  deletedFile : Option FileRecord
  deriving Repr, Inhabited

/-- The seed of each image of a new batch: the given seeds, or none for each image. -/
def NewBatch.slots (nb : NewBatch) : List (Option Int) :=
  match nb.seeds with
  | some seeds => seeds.map some
  | none => List.replicate nb.imageNum none

namespace Repository

/-- The failure for a seed that repeats in one batch. -/
def duplicateSeed (seed : Int) (batch : Uuid) : PortError :=
  .conflict ("duplicate seed " ++ toString seed ++ " in batch " ++ batch.toText)

/-- The pending tasks and the generations of a batch, one per seed slot, refusing a seed
that is already in `seen` (`InMemoryRepository::create_batch_with_generations`). -/
def makeRows (user batch : Uuid) (now : Instant) (seen : List Int) :
    List (Option Int) → Repo (List (Task × Generation))
  | [] => pure []
  | seed :: rest => do
    if let some s := seed then
      if seen.contains s then throw (duplicateSeed s batch)
    let taskId ← freshId
    let genId ← freshId
    let task : Task := { id := taskId, user, status := .pending, createdAt := now, updatedAt := now }
    let gen : Generation :=
      { id := genId, user, batch, task := some taskId, seed, createdAt := now }
    let more ← makeRows user batch now (seed.toList ++ seen) rest
    pure ((task, gen) :: more)

/-- The checks a new batch must pass before anything is written
(`InMemoryRepository::create_batch_with_generations`): at least one image, as many seeds as
images when seeds are given, and a topic of the caller's. -/
def checkBatch (user : Uuid) (nb : NewBatch) : Repo Unit := do
  if nb.imageNum = 0 then throw (.validation "imageNum must be at least 1")
  if let some seeds := nb.seeds then
    if seeds.length ≠ nb.imageNum then
      throw (.validation ("expected " ++ toString nb.imageNum ++ " seeds, got " ++
        toString seeds.length))
  if ((← get).topic? user nb.topic).isNone then throw (topicNotFound nb.topic)

/-- Stores a batch with its generations and their pending tasks
(`InMemoryRepository::create_batch_with_generations`). -/
def createBatch (user : Uuid) (nb : NewBatch) : Repo CreatedBatch := do
  checkBatch user nb
  let now ← now
  let id ← freshId
  let batch : Batch :=
    { id, user, topic := nb.topic, provider := nb.provider, model := nb.model, prompt := nb.prompt,
      width := nb.width, height := nb.height, config := nb.config, createdAt := now }
  let rows ← makeRows user id now [] nb.slots
  modify fun r =>
    { r with batches := r.batches ++ [batch], tasks := r.tasks ++ rows.map (·.1),
             generations := r.generations ++ rows.map (·.2) }
  touchTopic user nb.topic
  pure { batch, generations := rows.map (·.2), tasks := rows.map (·.1.id) }

/-- Whether `a` comes before `b` in a feed: earlier first, then smaller identifier. -/
def earlierFirst (a b : Instant × Uuid) : Bool :=
  a.1.toNanos < b.1.toNanos || (a.1.toNanos == b.1.toNanos && a.2.value ≤ b.2.value)

/-- A generation as the feed shows it, with the state of its task (`GenerationView`). -/
def generationView (r : Repository) (g : Generation) : GenerationViewDto :=
  let task := g.task.bind fun id => r.tasks.find? (·.id == id)
  { id := g.id, asset := g.asset, seed := g.seed, createdAt := g.createdAt,
    task := { id := task.map (·.id), status := task.map (·.status),
              error := (task.bind (·.error)).map TaskErrorDto.ofError } }

/-- A batch as the feed shows it (`GenerationBatchView`). -/
def batchView (r : Repository) (b : Batch) : BatchViewDto :=
  let gens := (r.generations.filter (·.batch == b.id)).mergeSort fun x y =>
    earlierFirst (x.createdAt, x.id) (y.createdAt, y.id)
  { id := b.id, provider := b.provider, model := b.model, prompt := b.prompt, width := b.width,
    height := b.height, config := b.config, createdAt := b.createdAt,
    generations := gens.map (generationView r) }

/-- The feed of a topic (`InMemoryRepository::get_batches_by_topic`): the user's batches in it,
oldest first. -/
def batchesOf (r : Repository) (user topic : Uuid) : List BatchViewDto :=
  let batches := (r.batches.filter fun b => b.topic == topic && b.user == user).mergeSort
    fun x y => earlierFirst (x.createdAt, x.id) (y.createdAt, y.id)
  batches.map (batchView r)

/-- Deletes the user's batch with its generations (`InMemoryRepository::delete_batch`). Returns
nothing when there is no such batch, and otherwise the files that went with it. -/
def deleteBatch (user id : Uuid) : Repo (Option (List FileRecord)) := do
  let (n, files) ← removeBatches fun b => b.id == id && b.user == user
  if n = 0 then pure none else some <$> purgeOrphans files

/-- Deletes the user's generation and, when no other generation uses it, its file
(`InMemoryRepository::delete_generation_cascade`). Deleting a missing generation is no failure. -/
def deleteGeneration (user id : Uuid) : Repo (Option DeletedGeneration) := do
  match (← get).generation? user id with
  | none => pure none
  | some g =>
    modify fun r => { r with generations := r.generations.filter (·.id != id) }
    let deletedFile ← match g.file with
      | some f => List.head? <$> purgeOrphans [f]
      | none => pure none
    pure (some { generation := g, deletedFile })

end Repository

end ImageStudio
