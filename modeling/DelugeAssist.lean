import DelugeAssist.Catalog.Documentation
import DelugeAssist.Catalog.Generic
import DelugeAssist.Catalog.Method
import DelugeAssist.Catalog.Service
import DelugeAssist.CommandLine.Command
import DelugeAssist.CommandLine.Outcome
import DelugeAssist.CommandLine.Request
import DelugeAssist.CommandLine.Similarity
import DelugeAssist.CommandLine.Terminal
import DelugeAssist.Completion
import DelugeAssist.Document
import DelugeAssist.Files.State
import DelugeAssist.Hover
import DelugeAssist.Json.Reader
import DelugeAssist.Json.Typed
import DelugeAssist.Json.Value
import DelugeAssist.Number.Binary64
import DelugeAssist.Number.Shortest
import DelugeAssist.Number.Width
import DelugeAssist.Protocol.Abilities
import DelugeAssist.Protocol.Check
import DelugeAssist.Protocol.Content
import DelugeAssist.Protocol.Params
import DelugeAssist.Protocol.Place
import DelugeAssist.Protocol.Shown
import DelugeAssist.Protocol.Unserved
import DelugeAssist.Record.Mismatch
import DelugeAssist.Record.Reading
import DelugeAssist.Session.Dispatch
import DelugeAssist.Session.Server
import DelugeAssist.Settings.Layer
import DelugeAssist.Settings.Load
import DelugeAssist.Settings.Reading
import DelugeAssist.Settings.Source
import DelugeAssist.Text.Combining
import DelugeAssist.Text.Composed
import DelugeAssist.Text.Composite
import DelugeAssist.Text.Direction
import DelugeAssist.Text.Edit
import DelugeAssist.Text.Joining
import DelugeAssist.Text.Line
import DelugeAssist.Text.Mark
import DelugeAssist.Text.Measure
import DelugeAssist.Text.Position
import DelugeAssist.Text.Quoted
import DelugeAssist.Text.Ranges
import DelugeAssist.Text.Unassigned
import DelugeAssist.Text.Unprinted
import DelugeAssist.Text.Utf8
import DelugeAssist.Text.Word
import DelugeAssist.Toml.Diagnostic
import DelugeAssist.Toml.Quotation
import DelugeAssist.Toml.Reader
import DelugeAssist.Toml.Scalar
import DelugeAssist.Toml.Tree
import DelugeAssist.Toml.Value
import DelugeAssist.Trigger
import DelugeAssist.Uri
import DelugeAssist.Url.Basic
import DelugeAssist.Url.Fold.Barred
import DelugeAssist.Url.Fold.Shift
import DelugeAssist.Url.Fold.Spelling
import DelugeAssist.Url.Host
import DelugeAssist.Url.Label
import DelugeAssist.Url.Percent
import DelugeAssist.Url.Punycode
import DelugeAssist.Url.Reading
import DelugeAssist.Main
import DelugeAssist.Proofs.Text.Column
import DelugeAssist.Proofs.Text.Line
import DelugeAssist.Proofs.Text.Offset
import DelugeAssist.Proofs.Text.Synchronisation
import DelugeAssist.Proofs.Session.Documents
import DelugeAssist.Proofs.Document.Operation
import DelugeAssist.Proofs.Settings.Resolution
import DelugeAssist.Proofs.Text.Word
import DelugeAssist.Proofs.Session.Hover
import DelugeAssist.Proofs.Text.Concatenation
import DelugeAssist.Proofs.Text.Guarded
import DelugeAssist.Proofs.Text.Locality
import DelugeAssist.Proofs.Text.Place
import DelugeAssist.Proofs.Text.Resolution
import DelugeAssist.Proofs.Text.Returns
import DelugeAssist.Proofs.Text.Simultaneous
import DelugeAssist.Proofs.Completion.Ending
import DelugeAssist.Proofs.Completion.Method
import DelugeAssist.Proofs.Completion.Trigger
import DelugeAssist.Proofs.Completion.Identifier
import DelugeAssist.Proofs.Completion.SortText
import DelugeAssist.Proofs.Completion.Switch
import DelugeAssist.Proofs.Session.Completion
import DelugeAssist.Proofs.Record.Reading
import DelugeAssist.Proofs.Session.Gate
import DelugeAssist.Proofs.Session.Settings
import DelugeAssist.Proofs.Session.Requests
import DelugeAssist.Proofs.Session.Separation
import DelugeAssist.Proofs.Protocol.Abilities
import DelugeAssist.Proofs.Session.Snippets
import DelugeAssist.Proofs.Json.Object
import DelugeAssist.Proofs.Record.Blame
import DelugeAssist.Proofs.Text.OctetOrder
import DelugeAssist.Proofs.Settings.Acceptance
import DelugeAssist.Proofs.Text.Breaks
import DelugeAssist.Proofs.Text.Run
import DelugeAssist.Proofs.Text.RoundTrip
import DelugeAssist.Proofs.Settings.Section
import DelugeAssist.Proofs.Text.Normalisation
import DelugeAssist.Proofs.Text.PositionOrder
import DelugeAssist.Proofs.Text.WholeBreaks
import DelugeAssist.Proofs.Text.Undo
import DelugeAssist.Proofs.Text.ColumnEnd
import DelugeAssist.Proofs.Text.Conversion
import DelugeAssist.Proofs.Text.LineTable
import DelugeAssist.Proofs.Text.LineSearch
import DelugeAssist.Proofs.Text.Cursor
import DelugeAssist.Proofs.Text.LineEdit
import DelugeAssist.Proofs.Settings.Merging
