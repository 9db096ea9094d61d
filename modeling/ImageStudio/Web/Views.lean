import ImageStudio.Studio.Requests

/-!
# Web · Views: records as the wire shows them

Each stored record has one wire form; these functions give it. A generation shows its
batch, task and file by identifier; a batch shows its topic; a status shows the generation
on success and the error on failure.
-/

namespace ImageStudio

/-- A generation on the wire. -/
def GenerationDto.ofGeneration (g : Generation) : GenerationDto :=
  { id := g.id, batchId := g.batch, asyncTaskId := g.task, fileId := g.file, seed := g.seed,
    asset := g.asset, createdAt := g.createdAt }

/-- A batch on the wire. -/
def BatchDto.ofBatch (b : Batch) : BatchDto :=
  { id := b.id, topicId := b.topic, provider := b.provider, model := b.model, prompt := b.prompt,
    width := b.width, height := b.height, config := b.config, createdAt := b.createdAt }

/-- A topic on the wire. -/
def TopicDto.ofTopic (t : Topic) : TopicDto :=
  { id := t.id, title := t.title, coverUrl := t.coverUrl, createdAt := t.createdAt,
    updatedAt := t.updatedAt }

/-- A status on the wire. -/
def GenerationStatusDto.ofStatus (s : GenerationStatus) : GenerationStatusDto :=
  { status := s.status, generation := s.generation.map GenerationDto.ofGeneration,
    error := s.error.map TaskErrorDto.ofError }

/-- The answer to a create request on the wire. -/
def CreateImageResponse.ofResult (r : CreateResult) : CreateImageResponse :=
  { topicId := r.topic, batch := BatchDto.ofBatch r.batch,
    generations := r.generations.map GenerationDto.ofGeneration }

end ImageStudio
