import ImageStudio.Bytes.Base64
import ImageStudio.Bytes.Crc32
import ImageStudio.Bytes.Inflate
import ImageStudio.Bytes.Sha256
import ImageStudio.Catalog
import ImageStudio.Client.Cache
import ImageStudio.Client.Error
import ImageStudio.Client.Http
import ImageStudio.Client.Poller
import ImageStudio.Client.PollTask
import ImageStudio.Client.Watches
import ImageStudio.Config.Environment
import ImageStudio.Config.LogLevel
import ImageStudio.Dispatch.Error
import ImageStudio.File.Record
import ImageStudio.Id.Uuid
import ImageStudio.Image.Error
import ImageStudio.Image.Format
import ImageStudio.Image.Jpeg
import ImageStudio.Image.Load
import ImageStudio.Image.Png
import ImageStudio.Image.Process
import ImageStudio.Image.Source
import ImageStudio.Image.WebP
import ImageStudio.Image.WebP.Fault
import ImageStudio.Image.WebP.Lossless
import ImageStudio.Image.WebP.Lossy
import ImageStudio.Image.WebP.LossyTables
import ImageStudio.Json.Decode
import ImageStudio.Json.Stream
import ImageStudio.Json.Text
import ImageStudio.Json.Value
import ImageStudio.Net.Idna
import ImageStudio.Net.Punycode
import ImageStudio.Net.Request
import ImageStudio.Net.SocketAddress
import ImageStudio.Net.Url
import ImageStudio.Number.Double
import ImageStudio.Number.Shortest
import ImageStudio.Number.Text
import ImageStudio.Proofs.Ids
import ImageStudio.Proofs.Monad
import ImageStudio.Proofs.Repository.Effects
import ImageStudio.Params.Check
import ImageStudio.Params.Error
import ImageStudio.Params.Key
import ImageStudio.Params.Runtime
import ImageStudio.Params.Schema
import ImageStudio.Params.Seeds
import ImageStudio.Port.Error
import ImageStudio.Process.Error
import ImageStudio.Provider.Remote
import ImageStudio.Provider.Rules
import ImageStudio.Random.ChaCha
import ImageStudio.Random.SplitMix
import ImageStudio.Repository.Basic
import ImageStudio.Repository.Batches
import ImageStudio.Repository.Calls
import ImageStudio.Repository.Tasks
import ImageStudio.Repository.Topics
import ImageStudio.Session.Names
import ImageStudio.Session.Records
import ImageStudio.Session.Run
import ImageStudio.Session.Setup
import ImageStudio.Session.Steps
import ImageStudio.Session.Transcript
import ImageStudio.Storage.Bucket
import ImageStudio.Storage.Directory
import ImageStudio.Studio.Basic
import ImageStudio.Studio.Jobs
import ImageStudio.Studio.Requests
import ImageStudio.Studio.Runs
import ImageStudio.Task.Basic
import ImageStudio.Text.BidiClass
import ImageStudio.Text.Blank
import ImageStudio.Text.IdnaMapping
import ImageStudio.Text.JoiningType
import ImageStudio.Text.Mark
import ImageStudio.Text.Normal
import ImageStudio.Text.Quoted
import ImageStudio.Text.Table
import ImageStudio.Text.Unprintable
import ImageStudio.Text.Unsigned
import ImageStudio.Time.Instant
import ImageStudio.Web.Dto
import ImageStudio.Web.Http
import ImageStudio.Web.MediaType
import ImageStudio.Web.Router
import ImageStudio.Web.Views
import ImageStudio.Proofs.Repository.Linked
import ImageStudio.Proofs.Repository.TaskWrites
import ImageStudio.Proofs.Repository.Fresh
import ImageStudio.Proofs.Repository.Runs
import ImageStudio.Proofs.Repository.Filed
import ImageStudio.Proofs.Repository.Files
import ImageStudio.Proofs.Repository.Refusals
import ImageStudio.Proofs.Repository.Isolation
import ImageStudio.Proofs.Storage.Keys
import ImageStudio.Proofs.Studio.Calls
import ImageStudio.Proofs.Studio.Errors
import ImageStudio.Proofs.Studio.Lifecycle
import ImageStudio.Proofs.Studio.Claims
import ImageStudio.Proofs.Studio.Images
import ImageStudio.Proofs.Studio.Objects
import ImageStudio.Proofs.Studio.Stored
import ImageStudio.Proofs.Studio.Dispatch
import ImageStudio.Proofs.Client.Watches
import ImageStudio.Proofs.Client.Interleavings
import ImageStudio.Proofs.Client.Actions
import ImageStudio.Proofs.Client.Polling
import ImageStudio.Proofs.Client.Cancellation
import ImageStudio.Proofs.Client.Refresh
import ImageStudio.Proofs.Params.Members
import ImageStudio.Proofs.Params.Recheck
import ImageStudio.Proofs.Bytes.Base64
import ImageStudio.Proofs.Image.DataUrl
import ImageStudio.Proofs.Params.Seeds
import ImageStudio.Proofs.Params.Verdict
import ImageStudio.Proofs.Studio.Create
import ImageStudio.Proofs.Studio.Created
import ImageStudio.Proofs.Studio.JobSteps
import ImageStudio.Proofs.Studio.JobRuns
import ImageStudio.Proofs.Repository.Deletions
import ImageStudio.Proofs.Studio.Integers
import ImageStudio.Proofs.Repository.Batches
import ImageStudio.Proofs.Studio.Status
import ImageStudio.Proofs.Number.Rounding
import ImageStudio.Proofs.Image.Thumbnail
import ImageStudio.Proofs.Studio.Titles
import ImageStudio.Proofs.Storage.Paths
