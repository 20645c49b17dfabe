import Bulletin.Check.Rules
import Bulletin.Check.Violation
import Bulletin.Color
import Bulletin.Command.Basic
import Bulletin.Command.Options
import Bulletin.Command.Run
import Bulletin.Compiled
import Bulletin.Digest
import Bulletin.Document.Basic
import Bulletin.Document.Edit
import Bulletin.Document.Format
import Bulletin.Failure
import Bulletin.Identity
import Bulletin.Json.Basic
import Bulletin.Json.Canonical
import Bulletin.Json.Fault
import Bulletin.Json.Format
import Bulletin.Json.Reader
import Bulletin.Json.Scan.Bracket
import Bulletin.Json.Scan.Cursor
import Bulletin.Json.Scan.Number
import Bulletin.Json.Scan.Skip
import Bulletin.Json.Scan.Text
import Bulletin.Json.Writer
import Bulletin.Library.Basic
import Bulletin.Main
import Bulletin.Number.Binary
import Bulletin.Number.Decimal
import Bulletin.Number.Hexadecimal
import Bulletin.Number.Shortest
import Bulletin.Page.Document
import Bulletin.Page.Widget
import Bulletin.Page.VideoLink
import Bulletin.Preset.Basic
import Bulletin.Preset.Registry
import Bulletin.Storage.Disk
import Bulletin.Storage.Files
import Bulletin.Storage.Host
import Bulletin.Text.Basic
import Bulletin.Text.Bytes
import Bulletin.Text.Quoted
import Bulletin.Time.Date
import Bulletin.Time.Timestamp
import Bulletin.Widget.Basic
import Bulletin.Widget.Format
import Bulletin.Widget.Variant
import Bulletin.Proofs.Document.Layout
import Bulletin.Proofs.Page.Frame
import Bulletin.Proofs.Page.Injection
import Bulletin.Proofs.Page.Tags
import Bulletin.Proofs.Page.Template
import Bulletin.Proofs.Page.Nesting
import Bulletin.Proofs.Page.PlainStyles
import Bulletin.Proofs.Page.WellFormed
import Bulletin.Proofs.Json.Strings
import Bulletin.Proofs.Json.Integers
import Bulletin.Proofs.Json.Spelling
import Bulletin.Proofs.Json.Reading
import Bulletin.Proofs.Json.Finding
import Bulletin.Proofs.Document.Proper
import Bulletin.Proofs.Widget.RoundTrip
import Bulletin.Proofs.Document.RoundTrip
import Bulletin.Proofs.Digest
import Bulletin.Proofs.Document.Accepted
import Bulletin.Proofs.Storage.Disk
import Bulletin.Proofs.Storage.Effects
import Bulletin.Proofs.Storage.Files
import Bulletin.Proofs.Time.Timestamp
import Bulletin.Proofs.Library.RoundTrip
import Bulletin.Proofs.Library.Reachable
import Bulletin.Proofs.Document.Addressing
import Bulletin.Proofs.Library.Removal
import Bulletin.Proofs.Library.Contents
import Bulletin.Proofs.Document.Growth
import Bulletin.Proofs.Document.Identities
import Bulletin.Proofs.Document.Session
import Bulletin.Proofs.Command.Atomicity
import Bulletin.Proofs.Command.LibraryFile
import Bulletin.Proofs.Library.History
import Bulletin.Proofs.Library.Exchange
import Bulletin.Proofs.Library.Dates
import Bulletin.Proofs.Text.Blank
import Bulletin.Proofs.Text.Bytes
import Bulletin.Proofs.Text.Escape
import Bulletin.Proofs.Document.Wording
import Bulletin.Proofs.Page.Recovery
import Bulletin.Proofs.Page.Lossless
import Bulletin.Proofs.Page.VideoLink
import Bulletin.Proofs.Check.Findings
import Bulletin.Proofs.Check.Unknown
import Bulletin.Proofs.Check.Faults
import Bulletin.Proofs.Command.Agreement
import Bulletin.Proofs.Json.Outline
import Bulletin.Proofs.Json.Tokens
import Bulletin.Proofs.Json.Skipping
import Bulletin.Proofs.Json.Lexing
import Bulletin.Proofs.Json.Parsing
import Bulletin.Proofs.Json.Folding
import Bulletin.Proofs.Json.Reordering
import Bulletin.Proofs.Json.Telling
import Bulletin.Proofs.Json.Steadiness
import Bulletin.Proofs.Json.RecordOrder
import Bulletin.Proofs.Json.Accepting
import Bulletin.Proofs.Json.Altering
import Bulletin.Proofs.Json.Disregarding
import Bulletin.Proofs.Json.Parallel
import Bulletin.Proofs.Json.SettingAside
import Bulletin.Proofs.Json.Outlining
import Bulletin.Proofs.Json.Canonical
import Bulletin.Proofs.Widget.Order
import Bulletin.Proofs.Document.Order
import Bulletin.Proofs.Document.Retouching
import Bulletin.Proofs.Page.Resolution
import Bulletin.Proofs.Preset.History
import Bulletin.Proofs.Preset.Accepted
import Bulletin.Proofs.Command.Running
import Bulletin.Proofs.Command.InPlace
import Bulletin.Proofs.Page.Reordering
import Bulletin.Proofs.Number.Hexadecimal
import Bulletin.Proofs.Color.Shades
import Bulletin.Proofs.Document.Duplicating
import Bulletin.Proofs.Document.Moving
import Bulletin.Proofs.Check.Warnings
import Bulletin.Proofs.Page.Silence
import Bulletin.Proofs.Text.ByteOrder
import Bulletin.Proofs.Json.Equality
import Bulletin.Proofs.Preset.Directory
import Bulletin.Proofs.Preset.RoundTrip
import Bulletin.Proofs.Number.Word
import Bulletin.Proofs.Color.Reading
import Bulletin.Proofs.Color.Spelling
import Bulletin.Proofs.Color.Grammar
import Bulletin.Proofs.Check.Unplaced
import Bulletin.Proofs.Color.Saturation
import Bulletin.Proofs.Command.ExitCode
import Bulletin.Proofs.Document.Revising
