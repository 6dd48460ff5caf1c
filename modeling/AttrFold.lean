import AttrFold.Text.LowerCase
import AttrFold.Text.CellWidth
import AttrFold.Text.Quoted
import AttrFold.Span
import AttrFold.Json.Reader
import AttrFold.Json.Writer
import AttrFold.ClassList.Layout
import AttrFold.Language
import AttrFold.Text.Encoding
import AttrFold.Settings.Load
import AttrFold.Classification
import AttrFold.Workspace
import AttrFold.Document.Open
import AttrFold.Store.File
import AttrFold.Watch
import AttrFold.Terminal.Markup
import AttrFold.Terminal.Table
import AttrFold.Cli.Place
import AttrFold.Cli.Command
import AttrFold.Cli.Reach
import AttrFold.Main
import AttrFold.Proofs.Occurrence
import AttrFold.Proofs.Attribute.Choice
import AttrFold.Proofs.Occurrence.Overrun
import AttrFold.Proofs.Document.Lines
import AttrFold.Proofs.Span
import AttrFold.Proofs.Span.Inner
import AttrFold.Proofs.Classification
import AttrFold.Proofs.Drawing
import AttrFold.Proofs.View
import AttrFold.Proofs.View.Overlap
import AttrFold.Proofs.Session
import AttrFold.Proofs.Workspace.Notification
import AttrFold.Proofs.Settings
import AttrFold.Proofs.Settings.Loading
import AttrFold.Proofs.Workspace.Coherence
import AttrFold.Proofs.Workspace.Sync
import AttrFold.Proofs.Workspace.Cursor
import AttrFold.Proofs.Workspace.Toggle
import AttrFold.Proofs.Hover
import AttrFold.Proofs.ClassList.Layout
import AttrFold.Proofs.Store.Reading
import AttrFold.Proofs.Cli.Toggle
import AttrFold.Proofs.Cli.Effects
import AttrFold.Proofs.Cli.Watch
import AttrFold.Proofs.Watch
import AttrFold.Proofs.Cli.Batch
import AttrFold.Proofs.ClassList.Reformat
import AttrFold.Proofs.Document.Inverse
import AttrFold.Proofs.Classification.Monotone
import AttrFold.Proofs.Store.Canonical
import AttrFold.Proofs.Span.Modes
import AttrFold.Proofs.Cli.Scan
import AttrFold.Proofs.Cli.Place
import AttrFold.Proofs.Document.Counting
import AttrFold.Proofs.SpanIndex
import AttrFold.Proofs.Language
import AttrFold.Proofs.Cli.SetSetting
