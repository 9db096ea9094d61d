import ImageStudio.Repository.Basic

/-!
# Repository · Topics: creating, listing, renaming and deleting topics

A user's topics are listed most recently updated first; topics updated at the same instant
follow the order of their identifiers. A topic's update time moves whenever it is renamed,
gets a cover, or receives a batch.

Deleting a topic deletes its batches and their generations. The files those generations
referred to are deleted too, unless another generation still refers to them; the deleted
files are returned so that their stored objects can be removed.
-/

namespace ImageStudio

namespace Repository

/-- Whether `a` is listed before `b`: later update first, then smaller identifier. -/
def newerFirst (a b : Topic) : Bool :=
  b.updatedAt.toNanos < a.updatedAt.toNanos ||
    (a.updatedAt.toNanos == b.updatedAt.toNanos && a.id.value ≤ b.id.value)

/-- The user's topics, most recently updated first (`InMemoryRepository::list_topics`). -/
def topicsOf (r : Repository) (user : Uuid) : List Topic :=
  (r.topics.filter (·.user == user)).mergeSort newerFirst

/-- Writes a changed topic back. -/
def putTopic (t : Topic) : Repo Unit :=
  modify fun r => { r with topics := r.topics.map fun u => if u.id == t.id then t else u }

/-- A new topic with this title (`InMemoryRepository::create_topic`). -/
def createTopic (user : Uuid) (title : String) : Repo Topic := do
  let now ← now
  let id ← freshId
  let t : Topic := { id, user, title, createdAt := now, updatedAt := now }
  modify fun r => { r with topics := r.topics ++ [t] }
  pure t

/-- The user's topic, or a not-found failure (`InMemoryRepository::get_topic`). -/
def getTopic (user id : Uuid) : Repo Topic := do
  match (← get).topic? user id with
  | some t => pure t
  | none => throw (topicNotFound id)

/-- Renames the topic and sets its cover, each when given (`InMemoryRepository::update_topic`). -/
def updateTopic (user id : Uuid) (title cover : Option String) : Repo Topic := do
  let t ← getTopic user id
  let now ← now
  let t := { t with title := title.getD t.title, coverUrl := cover <|> t.coverUrl, updatedAt := now }
  putTopic t
  pure t

/-- Sets the cover of a topic that has none; says whether it did
(`InMemoryRepository::set_topic_cover_if_empty`). -/
def setCoverIfEmpty (user id : Uuid) (cover : String) : Repo Bool := do
  match (← get).topic? user id with
  | some t =>
    if t.coverUrl.isNone then
      let now ← now
      putTopic { t with coverUrl := some cover, updatedAt := now }
      pure true
    else pure false
  | none => pure false

/-- Moves the topic's update time to now (`State::touch_topic`). -/
def touchTopic (user id : Uuid) : Repo Unit := do
  if let some t := (← get).topic? user id then
    let now ← now
    putTopic { t with updatedAt := now }

/-- Deletes the topic with its batches and generations; returns the files that went
(`InMemoryRepository::delete_topic`). -/
def deleteTopic (user id : Uuid) : Repo (List FileRecord) := do
  let _ ← getTopic user id
  modify fun r => { r with topics := r.topics.filter (·.id != id) }
  let (_, files) ← removeBatches fun b => b.topic == id && b.user == user
  purgeOrphans files

end Repository

end ImageStudio
