import Evolution.Api.Failure
import Evolution.Api.Service
import Evolution.Changeset.Codec
import Evolution.Database.Hosting
import Evolution.Database.Opening
import Evolution.Digest.Sha256
import Evolution.Json.Printer
import Evolution.Lifecycle.Lock
import Evolution.Lifecycle.Outcome
import Evolution.Lifecycle.Record
import Evolution.Lifecycle.Scripted
import Evolution.Model.Check
import Evolution.Model.Codec
import Evolution.Proofs.Action
import Evolution.Proofs.Address.Percent
import Evolution.Proofs.Address.Url
import Evolution.Proofs.Api.Exchange
import Evolution.Proofs.Api.Listing
import Evolution.Proofs.Api.Route
import Evolution.Proofs.Api.Submission
import Evolution.Proofs.Changeset.Addition
import Evolution.Proofs.Changeset.Body
import Evolution.Proofs.Changeset.Checksum
import Evolution.Proofs.Changeset.Codec
import Evolution.Proofs.Changeset.Index
import Evolution.Proofs.Changeset.Line
import Evolution.Proofs.Changeset.Mention
import Evolution.Proofs.Changeset.Omission
import Evolution.Proofs.Changeset.Order
import Evolution.Proofs.Changeset.Owner
import Evolution.Proofs.Changeset.Padding
import Evolution.Proofs.Changeset.Part
import Evolution.Proofs.Changeset.Placeholder
import Evolution.Proofs.Changeset.Recompile
import Evolution.Proofs.Changeset.Registration
import Evolution.Proofs.Changeset.Statement
import Evolution.Proofs.Changeset.Summary
import Evolution.Proofs.Changeset.Touch
import Evolution.Proofs.Changeset.Warning
import Evolution.Proofs.Database.Agreement
import Evolution.Proofs.Database.Batch
import Evolution.Proofs.Database.Cluster
import Evolution.Proofs.Database.Commits
import Evolution.Proofs.Database.Detour
import Evolution.Proofs.Database.History
import Evolution.Proofs.Database.Hosting
import Evolution.Proofs.Database.Plain
import Evolution.Proofs.Database.Program
import Evolution.Proofs.Database.Readback
import Evolution.Proofs.Database.Recompile
import Evolution.Proofs.Database.Required
import Evolution.Proofs.Database.Roundtrip
import Evolution.Proofs.Database.Row
import Evolution.Proofs.Database.Service
import Evolution.Proofs.Database.Session
import Evolution.Proofs.Database.Store
import Evolution.Proofs.Database.Transcript
import Evolution.Proofs.Database.Trial
import Evolution.Proofs.Database.Verbatim
import Evolution.Proofs.Database.Verdict
import Evolution.Proofs.Json.Numeral
import Evolution.Proofs.Json.Order
import Evolution.Proofs.Json.Reading
import Evolution.Proofs.Json.Record
import Evolution.Proofs.Json.Text
import Evolution.Proofs.Lifecycle.Admission
import Evolution.Proofs.Lifecycle.Archive
import Evolution.Proofs.Lifecycle.Detached
import Evolution.Proofs.Lifecycle.Detour
import Evolution.Proofs.Lifecycle.Drafting
import Evolution.Proofs.Lifecycle.Execution
import Evolution.Proofs.Lifecycle.History
import Evolution.Proofs.Lifecycle.Lock
import Evolution.Proofs.Lifecycle.Manager
import Evolution.Proofs.Lifecycle.Operation
import Evolution.Proofs.Lifecycle.Page
import Evolution.Proofs.Lifecycle.Refusal
import Evolution.Proofs.Lifecycle.Release
import Evolution.Proofs.Lifecycle.Reliable
import Evolution.Proofs.Lifecycle.Scripted
import Evolution.Proofs.Lifecycle.Verdict
import Evolution.Proofs.Model.Codec
import Evolution.Proofs.Model.Column
import Evolution.Proofs.Model.Padding
import Evolution.Proofs.Model.Repetition
import Evolution.Proofs.Settings
import Evolution.Proofs.Sql.Insertion
import Evolution.Proofs.Sql.Phrase
import Evolution.Proofs.Sql.Reference
import Evolution.Proofs.Sql.StringToken
import Evolution.Proofs.Store.Listing
import Evolution.Proofs.Store.Memory
import Evolution.Proofs.Text.Search
import Evolution.Proofs.Text.Split
import Evolution.Proofs.Text.Wall
import Evolution.Settings
import Evolution.Sql.Quote
import Evolution.Text.Word
import Evolution.Time.Instant
