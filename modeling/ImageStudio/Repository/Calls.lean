import ImageStudio.Repository.Tasks

/-!
# Repository · Calls: the repository's operations as data

The repository offers sixteen operations: six that only read (a topic, the topics of a
user, the feed of a topic, a generation, a file by content, a task) and ten that write.
`RepoCall` is one call of one of them with its arguments, whatever they are, and
`RepoCall.apply` the repository after it. A call runs as one transaction
(`Repository.settle`): a failed call keeps only its clock readings and the identifiers it
drew.

A sequence of calls from an empty repository is what the repository can be made to go
through by any caller; the properties that hold after every such sequence are the ones
the repository keeps on its own, without help from the service.
-/

namespace ImageStudio

/-- One call on the repository, with its arguments (`GenerationRepository`). -/
inductive RepoCall where
  | createTopic (user : Uuid) (title : String)
  | getTopic (user id : Uuid)
  | listTopics (user : Uuid)
  | updateTopic (user id : Uuid) (title cover : Option String)
  | setCoverIfEmpty (user id : Uuid) (cover : String)
  | deleteTopic (user id : Uuid)
  | createBatch (user : Uuid) (batch : NewBatch)
  | batchesOf (user topic : Uuid)
  | deleteBatch (user id : Uuid)
  | getGeneration (user id : Uuid)
  | findFile (user : Uuid) (hash : String)
  | completeGeneration (user gen task : Uuid) (asset : Asset) (file : NewFile)
  | deleteGeneration (user id : Uuid)
  | getTask (user id : Uuid)
  | transition (user id : Uuid) (allowed : List TaskStatus) (target : TaskStatus)
      (error : Option TaskError)
  | failTimedOut (user : Uuid) (ids : List Uuid) (timeoutMs : Int)

namespace RepoCall

open Repository (settle) in
/-- The repository after a call. -/
def apply : RepoCall → Repository → Repository
  | .createTopic user title, r => (settle (Repository.createTopic user title) r).2
  | .getTopic user id, r => (settle (Repository.getTopic user id) r).2
  | .listTopics _, r => r
  | .updateTopic user id title cover, r =>
    (settle (Repository.updateTopic user id title cover) r).2
  | .setCoverIfEmpty user id cover, r => (settle (Repository.setCoverIfEmpty user id cover) r).2
  | .deleteTopic user id, r => (settle (Repository.deleteTopic user id) r).2
  | .createBatch user nb, r => (settle (Repository.createBatch user nb) r).2
  | .batchesOf _ _, r => r
  | .deleteBatch user id, r => (settle (Repository.deleteBatch user id) r).2
  | .getGeneration _ _, r => r
  | .findFile _ _, r => r
  | .completeGeneration user gen task asset file, r =>
    (settle (Repository.completeGeneration user gen task asset file) r).2
  | .deleteGeneration user id, r => (settle (Repository.deleteGeneration user id) r).2
  | .getTask _ _, r => r
  | .transition user id allowed target error, r =>
    (settle (Repository.transition user id allowed target error) r).2
  | .failTimedOut user ids timeoutMs, r => (settle (Repository.failTimedOut user ids timeoutMs) r).2

/-- The repository after a sequence of calls, in order. -/
def applyAll (calls : List RepoCall) (r : Repository) : Repository :=
  calls.foldl (fun r c => c.apply r) r

end RepoCall

end ImageStudio
