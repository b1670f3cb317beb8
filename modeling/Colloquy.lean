import Colloquy.Batch.Basic
import Colloquy.Batch.Notice
import Colloquy.Batch.Trial
import Colloquy.Batch.Watch
import Colloquy.Conversation.Basic
import Colloquy.Conversation.Document
import Colloquy.Conversation.Identity
import Colloquy.Conversation.Label
import Colloquy.Conversation.Reading
import Colloquy.Dataset.Entries
import Colloquy.Dataset.Run
import Colloquy.Dataset.RunConfig
import Colloquy.Datum.Basic
import Colloquy.Datum.CalendarDate
import Colloquy.Datum.Document
import Colloquy.Datum.Equality
import Colloquy.Datum.Order
import Colloquy.Datum.Shown
import Colloquy.Datum.Sum
import Colloquy.Error.Basic
import Colloquy.Error.Conversion
import Colloquy.Error.Skew
import Colloquy.Export.Disk
import Colloquy.Export.Formatted
import Colloquy.Export.Writer
import Colloquy.Hash.Sha256
import Colloquy.Json.Reader
import Colloquy.Json.Reread
import Colloquy.Json.Writer
import Colloquy.Log.Basic
import Colloquy.Model.Call
import Colloquy.Model.Client
import Colloquy.Model.Hoisting
import Colloquy.Model.Provider
import Colloquy.Model.ReplyText
import Colloquy.Model.Scripted
import Colloquy.Number.Binary64
import Colloquy.Number.Decimal
import Colloquy.Number.Numeral
import Colloquy.Number.Power
import Colloquy.Number.Radix
import Colloquy.Number.Shortest
import Colloquy.Outline.Collaborator
import Colloquy.Outline.Drawing
import Colloquy.Outline.Edit
import Colloquy.Outline.Field
import Colloquy.Outline.Functions
import Colloquy.Outline.Listing
import Colloquy.Outline.Report
import Colloquy.Outline.Request
import Colloquy.Outline.Scope
import Colloquy.Outline.Shape
import Colloquy.Outline.Storage
import Colloquy.Outline.Storehouse
import Colloquy.Outline.Tree
import Colloquy.Process.Basic
import Colloquy.Process.Pool
import Colloquy.Prompt.Extras
import Colloquy.Prompt.Flow
import Colloquy.Prompt.Wording
import Colloquy.Proofs.Batch.Annotation
import Colloquy.Proofs.Batch.Ledger
import Colloquy.Proofs.Batch.Notes
import Colloquy.Proofs.Batch.Progress
import Colloquy.Proofs.Dataset.Calls
import Colloquy.Proofs.Dataset.Concurrency
import Colloquy.Proofs.Dataset.Deliveries
import Colloquy.Proofs.Dataset.Exhaustion
import Colloquy.Proofs.Dataset.Layout
import Colloquy.Proofs.Dataset.Leftovers
import Colloquy.Proofs.Dataset.Records
import Colloquy.Proofs.Dataset.Requests
import Colloquy.Proofs.Dataset.Serving
import Colloquy.Proofs.Dataset.Skew
import Colloquy.Proofs.Export.Chat
import Colloquy.Proofs.Export.Counting
import Colloquy.Proofs.Export.Lines
import Colloquy.Proofs.Export.Outlets
import Colloquy.Proofs.Export.Tables
import Colloquy.Proofs.Json.Members
import Colloquy.Proofs.Json.Nesting
import Colloquy.Proofs.Json.OneLine
import Colloquy.Proofs.Model.Extraction
import Colloquy.Proofs.Model.Fences
import Colloquy.Proofs.Model.Hoisting
import Colloquy.Proofs.Model.Replies
import Colloquy.Proofs.Number.Doubles
import Colloquy.Proofs.Number.Numerals
import Colloquy.Proofs.Number.Parts
import Colloquy.Proofs.Process.Annotation
import Colloquy.Proofs.Process.Answers
import Colloquy.Proofs.Process.Contract
import Colloquy.Proofs.Process.Interleaving
import Colloquy.Proofs.Process.View
import Colloquy.Proofs.Random.Keys
import Colloquy.Proofs.Random.Recurrence
import Colloquy.Proofs.Random.Replays
import Colloquy.Proofs.Random.Words
import Colloquy.Proofs.Resolution.Accounting
import Colloquy.Proofs.Resolution.Announcements
import Colloquy.Proofs.Resolution.Arguments
import Colloquy.Proofs.Resolution.Asking
import Colloquy.Proofs.Resolution.Attempts
import Colloquy.Proofs.Resolution.Candor
import Colloquy.Proofs.Resolution.Catalogue
import Colloquy.Proofs.Resolution.Choosing
import Colloquy.Proofs.Resolution.Collecting
import Colloquy.Proofs.Resolution.Course
import Colloquy.Proofs.Resolution.Emissions
import Colloquy.Proofs.Resolution.Flows
import Colloquy.Proofs.Resolution.Footprints
import Colloquy.Proofs.Resolution.Frame
import Colloquy.Proofs.Resolution.Grouping
import Colloquy.Proofs.Resolution.Lockstep
import Colloquy.Proofs.Resolution.Messages
import Colloquy.Proofs.Resolution.Plans
import Colloquy.Proofs.Resolution.Prompting
import Colloquy.Proofs.Resolution.Reference
import Colloquy.Proofs.Resolution.References
import Colloquy.Proofs.Resolution.Rehearsal
import Colloquy.Proofs.Resolution.Requests
import Colloquy.Proofs.Resolution.Totals
import Colloquy.Proofs.Resolution.Updates
import Colloquy.Proofs.Resolution.Verdict
import Colloquy.Proofs.Resolution.Visits
import Colloquy.Proofs.Results
import Colloquy.Proofs.Row.Alone
import Colloquy.Proofs.Row.Calls
import Colloquy.Proofs.Row.Catalogue
import Colloquy.Proofs.Row.Floor
import Colloquy.Proofs.Row.Marks
import Colloquy.Proofs.Row.Metadata
import Colloquy.Proofs.Row.Overlap
import Colloquy.Proofs.Row.Picking
import Colloquy.Proofs.Row.Posting
import Colloquy.Proofs.Row.Prompts
import Colloquy.Proofs.Row.Repeats
import Colloquy.Proofs.Row.Saying
import Colloquy.Proofs.Row.Taking
import Colloquy.Proofs.Schema.Vocabulary
import Colloquy.Proofs.Selection.Intervals
import Colloquy.Proofs.Selection.Normalizing
import Colloquy.Proofs.Selection.Picks
import Colloquy.Proofs.Selection.Remaining
import Colloquy.Proofs.Selection.Samples
import Colloquy.Proofs.Selection.Shares
import Colloquy.Proofs.Selection.Weights
import Colloquy.Proofs.Unique.Choice
import Colloquy.Proofs.Unique.Filtering
import Colloquy.Proofs.Unique.Intervals
import Colloquy.Proofs.Unique.Release
import Colloquy.Proofs.Unique.Rollback
import Colloquy.Proofs.Unique.Sampling
import Colloquy.Proofs.Unique.Stock
import Colloquy.Proofs.Unique.Unused
import Colloquy.Random.Stream
import Colloquy.Random.Twister
import Colloquy.Resolution.Check
import Colloquy.Resolution.Generate
import Colloquy.Resolution.Session
import Colloquy.Resolution.Shared
import Colloquy.Resolution.Walk
import Colloquy.Row.Failure
import Colloquy.Row.Generator
import Colloquy.Row.Lifecycle
import Colloquy.Row.TokenCounter
import Colloquy.Schema.Builder
import Colloquy.Schema.Context
import Colloquy.Schema.Node
import Colloquy.Schema.Script
import Colloquy.Selection.Arithmetic
import Colloquy.Selection.Bounds
import Colloquy.Selection.Choose
import Colloquy.Selection.Drawing
import Colloquy.Selection.Range
import Colloquy.Selection.Reading
import Colloquy.Selection.Weights
import Colloquy.Shape.Basic
import Colloquy.Shape.Document
import Colloquy.Shape.Fit
import Colloquy.Shape.Sample
import Colloquy.Shape.Scalar
import Colloquy.Text.Blank
import Colloquy.Text.InsideWord
import Colloquy.Text.LetterCase
import Colloquy.Text.Margin
import Colloquy.Text.Printable
import Colloquy.Text.Quoted
import Colloquy.Text.Title
import Colloquy.Text.Word
import Colloquy.Unique.Attribute
import Colloquy.Unique.Choice
import Colloquy.Unique.Collections
import Colloquy.Unique.Identifier
import Colloquy.Unique.Shelf
import Colloquy.Unique.Store
