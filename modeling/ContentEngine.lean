import ContentEngine.Calendar
import ContentEngine.ContentType.Basic
import ContentEngine.ContentType.Field
import ContentEngine.Database.Entries
import ContentEngine.Database.Session
import ContentEngine.Database.Redacted
import ContentEngine.Database.Registry
import ContentEngine.Database.Stores
import ContentEngine.Database.Views
import ContentEngine.Digest.Sha256
import ContentEngine.Display.Value
import ContentEngine.Domain.Label
import ContentEngine.Domain.Letter
import ContentEngine.Domain.Mapping
import ContentEngine.Domain.Name
import ContentEngine.Domain.Punycode
import ContentEngine.Entry.Basic
import ContentEngine.Entry.Normal
import ContentEngine.Fault
import ContentEngine.Field.Choice
import ContentEngine.Field.Definition
import ContentEngine.Field.Kind
import ContentEngine.Field.Reference
import ContentEngine.Field.Repeater
import ContentEngine.Format.Canonical
import ContentEngine.Format.Phone
import ContentEngine.Format.Url
import ContentEngine.Json.Writer
import ContentEngine.Json.Reader
import ContentEngine.Json.Stored
import ContentEngine.Json.Weight
import ContentEngine.Key
import ContentEngine.Layout.Section
import ContentEngine.Memory.Entries
import ContentEngine.Memory.EntryStore
import ContentEngine.Memory.Registry
import ContentEngine.Memory.Stores
import ContentEngine.Memory.Views
import ContentEngine.Memory.World
import ContentEngine.Number.Text
import ContentEngine.Number.Decimal
import ContentEngine.Number.Identifier
import ContentEngine.Number.Reading
import ContentEngine.Path
import ContentEngine.Proofs.EntryStore.Sound
import ContentEngine.Proofs.Origin
import ContentEngine.Relation.Choice
import ContentEngine.Relation.User
import ContentEngine.Repeater.Basic
import ContentEngine.Repeater.Prune
import ContentEngine.Repeater.Rows
import ContentEngine.Repeater.View
import ContentEngine.Rule
import ContentEngine.Server.Entries
import ContentEngine.Server.Request
import ContentEngine.Server.Respond
import ContentEngine.Server.Response
import ContentEngine.Server.Views
import ContentEngine.Server.Route
import ContentEngine.Server.Rows
import ContentEngine.Server.Token
import ContentEngine.Server.Types
import ContentEngine.Service.Entries
import ContentEngine.Service.Options
import ContentEngine.Service.Resolve
import ContentEngine.Service.Stores
import ContentEngine.Store.Basic
import ContentEngine.Table
import ContentEngine.Template
import ContentEngine.Text.Blank
import ContentEngine.Text.Case
import ContentEngine.Text.CaseTable
import ContentEngine.Text.Ranges
import ContentEngine.Text.Normal
import ContentEngine.Text.Decomposition
import ContentEngine.Text.Printable
import ContentEngine.Value.Literal
import ContentEngine.Text.Search
import ContentEngine.Title
import ContentEngine.Url.Basic
import ContentEngine.Value.Basic
import ContentEngine.Value.Equal
import ContentEngine.Value.Number
import ContentEngine.Value.Weight
import ContentEngine.View.Basic
import ContentEngine.View.Change
import ContentEngine.View.Layout
import ContentEngine.View.Selection
import ContentEngine.Visibility
import ContentEngine.Proofs.Action
import ContentEngine.Proofs.EntryStore.Run
import ContentEngine.Proofs.EntryStore.History
import ContentEngine.Proofs.EntryStore.Order
import ContentEngine.Proofs.Number
import ContentEngine.Proofs.Text.Blank
import ContentEngine.Proofs.Text.Case
import ContentEngine.Proofs.Text.Search
import ContentEngine.Proofs.Url.Split
import ContentEngine.Proofs.Url.Authority
import ContentEngine.Proofs.Format.Authority
import ContentEngine.Proofs.Format.Url
import ContentEngine.Proofs.Format.Canonical
import ContentEngine.Proofs.Key.Words
import ContentEngine.Proofs.Key
import ContentEngine.Proofs.Entry.Aliases
import ContentEngine.Proofs.Repeater.Config
import ContentEngine.Proofs.Members
import ContentEngine.Proofs.Repeater.Prune
import ContentEngine.Proofs.Repeater.View
import ContentEngine.Proofs.Entry.Kept
import ContentEngine.Proofs.Repeater.Stored
import ContentEngine.Proofs.Repeater.Reads
import ContentEngine.Proofs.Memory.Reads
import ContentEngine.Proofs.Service.Reads
import ContentEngine.Proofs.Server.Steps
import ContentEngine.Proofs.World.Linked
import ContentEngine.Proofs.Server.Cascade
import ContentEngine.Proofs.ContentType.Field
import ContentEngine.Proofs.World.Fields
import ContentEngine.Proofs.Title
import ContentEngine.Proofs.Service.Resave
import ContentEngine.Proofs.Entry.Again
import ContentEngine.Proofs.Outcome
import ContentEngine.Proofs.Value.Text
import ContentEngine.Proofs.Value.Integer
import ContentEngine.Proofs.Field.Readable
import ContentEngine.Proofs.Registry.Run
import ContentEngine.Proofs.Registry.Reads
import ContentEngine.Proofs.Registry.Failure
import ContentEngine.Proofs.Service.Shown
import ContentEngine.Proofs.Server.Refusal
import ContentEngine.Proofs.TwoRuns
import ContentEngine.Proofs.Memory.Users
import ContentEngine.Proofs.Display.Users
import ContentEngine.Proofs.Json.Text
import ContentEngine.Proofs.Json.Document
import ContentEngine.Proofs.Json.Same
import ContentEngine.Proofs.Json.Written
import ContentEngine.Proofs.Json.Canonical
import ContentEngine.Proofs.Service.Users
import ContentEngine.Proofs.Service.Outage
import ContentEngine.Proofs.Service.Calls
import ContentEngine.Proofs.World.Attained
import ContentEngine.Proofs.Registry.Slugs
import ContentEngine.Proofs.Service.Isolation
import ContentEngine.Proofs.Repeater.Session
import ContentEngine.Proofs.Field.Settings
import ContentEngine.Proofs.Field.Again
import ContentEngine.Proofs.Database.Transaction
import ContentEngine.Proofs.Database.Writes
import ContentEngine.Proofs.View.Stored
import ContentEngine.Proofs.World.Views
import ContentEngine.Proofs.Server.Views
import ContentEngine.Proofs.Service.Resolve
import ContentEngine.Proofs.View.Layout
import ContentEngine.Proofs.Registry.FieldIds
import ContentEngine.Proofs.Registry.Replace
import ContentEngine.Proofs.Number.Identifier
import ContentEngine.Proofs.Memory.Names
import ContentEngine.Proofs.Server.Names
import ContentEngine.Proofs.Repeater.Pruned
import ContentEngine.Proofs.Server.Access
import ContentEngine.Proofs.View.Again
import ContentEngine.Proofs.ContentType.Again
import ContentEngine.Proofs.View.Parts
import ContentEngine.Proofs.Server.Settled
import ContentEngine.Proofs.Server.EmptyUpdate
import ContentEngine.Proofs.Server.Overlap
import ContentEngine.Proofs.Visibility.Last
import ContentEngine.Proofs.Title.Tokens
import ContentEngine.Proofs.Visibility.Failure
import ContentEngine.Proofs.Title.Order
import ContentEngine.Proofs.Visibility.Order
import ContentEngine.Proofs.View.Sections
import ContentEngine.Proofs.Registry.Targets
import ContentEngine.Proofs.Repeater.Update
import ContentEngine.Proofs.View.Rank
import ContentEngine.Proofs.View.First
import ContentEngine.Proofs.View.Access
import ContentEngine.Proofs.Format.Spelling
import ContentEngine.Proofs.Entry.Keys
import ContentEngine.Proofs.Layout.Section
import ContentEngine.Proofs.Repeater.WellFormed
import ContentEngine.Proofs.Format.Phone
import ContentEngine.Proofs.Repeater.Undo
import ContentEngine.Proofs.EntryStore.Listing
import ContentEngine.Proofs.Service.Listed
import ContentEngine.Proofs.Key.Alias
