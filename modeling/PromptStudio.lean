import PromptStudio.Api.App
import PromptStudio.Api.Input
import PromptStudio.Api.Response
import PromptStudio.Api.Route
import PromptStudio.Api.View
import PromptStudio.Catalog.Definition
import PromptStudio.Catalog.Export
import PromptStudio.Catalog.File
import PromptStudio.Catalog.Preset
import PromptStudio.Catalog.Schema
import PromptStudio.Catalog.Snapshot
import PromptStudio.Charset.Alias
import PromptStudio.Charset.Backslash
import PromptStudio.Charset.Basic
import PromptStudio.Charset.Big5Plane
import PromptStudio.Charset.ByteTable
import PromptStudio.Charset.EastAsian
import PromptStudio.Charset.Gb18030
import PromptStudio.Charset.GbPlane
import PromptStudio.Charset.JisPlane
import PromptStudio.Charset.JisSupplement
import PromptStudio.Charset.JisVendor
import PromptStudio.Charset.KsPlane
import PromptStudio.Charset.Pair
import PromptStudio.Charset.Shifting
import PromptStudio.Charset.Stream
import PromptStudio.Charset.Utf7
import PromptStudio.Digest.Hex
import PromptStudio.Digest.Hmac
import PromptStudio.Digest.Sha256
import PromptStudio.Failure.Code
import PromptStudio.Failure.Fault
import PromptStudio.Failure.Refusal
import PromptStudio.Failure.Report
import PromptStudio.History.Prompt
import PromptStudio.Http.ContentType
import PromptStudio.Http.DomainName
import PromptStudio.Http.Host
import PromptStudio.Http.Reply
import PromptStudio.Http.Request
import PromptStudio.Http.Url
import PromptStudio.Json.Display
import PromptStudio.Json.Document
import PromptStudio.Json.Printer
import PromptStudio.Json.Reader
import PromptStudio.Json.Stored
import PromptStudio.Json.Strict
import PromptStudio.Json.Value
import PromptStudio.Log.Directive
import PromptStudio.Log.Level
import PromptStudio.Log.Line
import PromptStudio.Log.Message
import PromptStudio.Number.Binary64
import PromptStudio.Number.Places
import PromptStudio.Number.Quantity
import PromptStudio.Number.Reader
import PromptStudio.Number.Shortest
import PromptStudio.Prompt.Adapter
import PromptStudio.Prompt.BlockOrder
import PromptStudio.Prompt.CharacterPack
import PromptStudio.Prompt.Compiler
import PromptStudio.Prompt.Conflict
import PromptStudio.Prompt.Filter
import PromptStudio.Prompt.Redaction
import PromptStudio.Prompt.Rendering
import PromptStudio.Prompt.Request
import PromptStudio.Prompt.Score
import PromptStudio.Prompt.Seed
import PromptStudio.Prompt.Warning
import PromptStudio.Proofs.Api.Respond
import PromptStudio.Proofs.Json.Bytes
import PromptStudio.Proofs.Json.Encodable
import PromptStudio.Proofs.Json.Lexeme
import PromptStudio.Proofs.Json.RoundTrip
import PromptStudio.Proofs.Number.Digits
import PromptStudio.Proofs.Number.Rank
import PromptStudio.Proofs.Number.Spelling
import PromptStudio.Proofs.Prompt.CharacterPack
import PromptStudio.Proofs.Prompt.Compiled
import PromptStudio.Proofs.Prompt.Redaction
import PromptStudio.Proofs.Signing.Authentication
import PromptStudio.Proofs.Signing.Header
import PromptStudio.Proofs.Signing.Signature
import PromptStudio.Proofs.Signing.Wire
import PromptStudio.Proofs.Store.Load
import PromptStudio.Proofs.Store.Update
import PromptStudio.Proofs.Text.Occurrence
import PromptStudio.Proofs.Text.Utf8
import PromptStudio.Proofs.Training.Artifact
import PromptStudio.Proofs.Training.Calls
import PromptStudio.Proofs.Training.Chain
import PromptStudio.Proofs.Training.Intake
import PromptStudio.Proofs.Training.Preparation
import PromptStudio.Proofs.Training.Progress
import PromptStudio.Proofs.Training.Report
import PromptStudio.Proofs.Training.Settlement
import PromptStudio.Proofs.Training.Traffic
import PromptStudio.Proofs.Training.Verified
import PromptStudio.Settings
import PromptStudio.Signing.Signer
import PromptStudio.Storage.Upload
import PromptStudio.Store.Basic
import PromptStudio.Store.Cell
import PromptStudio.Store.Format
import PromptStudio.Store.Repair
import PromptStudio.Store.Row
import PromptStudio.Store.Studio
import PromptStudio.Store.Timestamp
import PromptStudio.Text.Blank
import PromptStudio.Text.CasedTable
import PromptStudio.Text.CodePoint
import PromptStudio.Text.Composition
import PromptStudio.Text.Direction
import PromptStudio.Text.DomainTable
import PromptStudio.Text.Encoding
import PromptStudio.Text.Integer
import PromptStudio.Text.Joining
import PromptStudio.Text.Lowercase
import PromptStudio.Text.LowercaseTable
import PromptStudio.Text.MarkTable
import PromptStudio.Text.Percent
import PromptStudio.Text.PrintableTable
import PromptStudio.Text.Punycode
import PromptStudio.Text.Ranges
import PromptStudio.Text.Substring
import PromptStudio.Text.Surrogate
import PromptStudio.Text.Utf8
import PromptStudio.Time.Instant
import PromptStudio.Time.Reader
import PromptStudio.Training.Activation
import PromptStudio.Training.Delivery
import PromptStudio.Training.Dispatch
import PromptStudio.Training.Job
import PromptStudio.Training.Preparation
import PromptStudio.Training.QualityReport
import PromptStudio.Training.Webhook
import PromptStudio.UserBlueprint.Edit
import PromptStudio.Validation.Checked
import PromptStudio.Validation.Issue
import PromptStudio.Validation.Numeral
import PromptStudio.Validation.Schema
import PromptStudio.Worker.Client
import PromptStudio.Worker.Rehearsal
import PromptStudio.Proofs.Api.Forgery
import PromptStudio.Proofs.Training.Acceptance
import PromptStudio.Proofs.Store.Atomicity
import PromptStudio.Proofs.Api.Errors
import PromptStudio.Proofs.Training.Dispatchable
import PromptStudio.Proofs.Store.Numbering
import PromptStudio.Proofs.History.Activity
import PromptStudio.Proofs.History.Load
import PromptStudio.Proofs.History.Versions
import PromptStudio.Proofs.History.Gapless
import PromptStudio.Proofs.History.Definition
import PromptStudio.Proofs.History.VersionLists
import PromptStudio.Proofs.History.Kept
import PromptStudio.Proofs.Training.Binding
import PromptStudio.Proofs.Training.Active
import PromptStudio.Proofs.Ownership.Basic
import PromptStudio.Proofs.Ownership.Touches
import PromptStudio.Proofs.Ownership.Access
import PromptStudio.Proofs.Ownership.Operations
import PromptStudio.Proofs.Ownership.Jobs
import PromptStudio.Proofs.Api.Ownership
import PromptStudio.Proofs.Failure.Outcome
import PromptStudio.Proofs.Json.Read
import PromptStudio.Proofs.Validation.Written
import PromptStudio.Proofs.Training.Stored
import PromptStudio.Proofs.Worker.Race
import PromptStudio.Proofs.Worker.Rehearsal
import PromptStudio.Proofs.Worker.Agreement
import PromptStudio.Proofs.Text.Surrogate
import PromptStudio.Proofs.Json.Stored
import PromptStudio.Proofs.Json.Ascii
import PromptStudio.Proofs.Store.Column
import PromptStudio.Proofs.Catalog.Consistency
import PromptStudio.Proofs.Catalog.Construction
import PromptStudio.Proofs.Catalog.Holder
import PromptStudio.Proofs.Prompt.Options
import PromptStudio.Proofs.Prompt.Adapter
import PromptStudio.Proofs.Training.Answer
import PromptStudio.Proofs.Training.Start
import PromptStudio.Proofs.Training.Timeline
import PromptStudio.Proofs.Training.Override
import PromptStudio.Proofs.Training.Validation
import PromptStudio.Proofs.Prompt.Segment
import PromptStudio.Proofs.Prompt.Filling
import PromptStudio.Proofs.Prompt.FilterOrder
import PromptStudio.Proofs.Prompt.Placeholder
import PromptStudio.Proofs.Prompt.Account
import PromptStudio.Proofs.Prompt.Unusable
import PromptStudio.Proofs.Prompt.BlockOrder
import PromptStudio.Proofs.Prompt.Score
import PromptStudio.Proofs.Prompt.Weight
import PromptStudio.Proofs.History.Page
import PromptStudio.Proofs.Text.Percent
import PromptStudio.Proofs.Storage.Upload
import PromptStudio.Proofs.Json.Writable
import PromptStudio.Proofs.Catalog.Export
