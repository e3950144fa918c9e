import SailNav.Text.Measure
import SailNav.Text.Lowercase
import SailNav.Json.Reader
import SailNav.Json.Writer
import SailNav.Token.Span
import SailNav.Token.Lexicon
import SailNav.Token.Include
import SailNav.Token.Cursor
import SailNav.Definition.Extract
import SailNav.Document.Basic
import SailNav.Url.Parse
import SailNav.Table
import SailNav.Path
import SailNav.FileId
import SailNav.Document.Store
import SailNav.Analysis.Symbol
import SailNav.Protocol.Render
import SailNav.Settings.Patch
import SailNav.Disk.Edit
import SailNav.Protocol.Method
import SailNav.Main
import SailNav.Proofs.Token.Extent
import SailNav.Proofs.Document.Editing
import SailNav.Proofs.Document.Clamp
import SailNav.Proofs.Definition.Member
import SailNav.Proofs.Definition.Head
import SailNav.Proofs.Index.Refinement
import SailNav.Proofs.Analysis.Agreement
import SailNav.Proofs.Analysis.Resolution
import SailNav.Proofs.Analysis.Destination
import SailNav.Proofs.Session.Ownership
import SailNav.Proofs.Token.Longest
import SailNav.Proofs.Token.Vocabulary
import SailNav.Proofs.Token.Munch
import SailNav.Proofs.Token.Outline
import SailNav.Proofs.Token.Bracket
import SailNav.Proofs.Token.Nesting
import SailNav.Proofs.Token.Seam
import SailNav.Proofs.Token.LineBreak
import SailNav.Proofs.Text.Bytes
import SailNav.Proofs.Url.Scheme
import SailNav.Proofs.Session.Frame
import SailNav.Proofs.FileId
import SailNav.Proofs.Session.Foreign
import SailNav.Proofs.Session.Same
import SailNav.Proofs.Session.Standing
import SailNav.Proofs.Session.Report
import SailNav.Proofs.Session.Current
import SailNav.Proofs.Path
import SailNav.Proofs.Url.FilePath
import SailNav.Proofs.Disk.Resolve
import SailNav.Proofs.Disk.Tree
import SailNav.Proofs.Disk.Location
import SailNav.Proofs.Disk.Downward
import SailNav.Proofs.Disk.Walk
import SailNav.Proofs.Disk.Change
import SailNav.Proofs.Session.Admission
import SailNav.Proofs.Workspace.Order
import SailNav.Proofs.Workspace.Discover
import SailNav.Proofs.Workspace.Sight
import SailNav.Proofs.Session.Plain
import SailNav.Proofs.Session.Visit
import SailNav.Proofs.Session.Startup
import SailNav.Proofs.Session.Watch
import SailNav.Proofs.Disk.Trail
import SailNav.Proofs.Workspace.Reach
import SailNav.Proofs.Session.Removal
import SailNav.Proofs.Token.Delimited
import SailNav.Proofs.Token.Piece
import SailNav.Proofs.Token.LineStart
import SailNav.Proofs.Token.Region
import SailNav.Proofs.Token.Flag
import SailNav.Proofs.Definition.Trivia
import SailNav.Proofs.Json.Fields
import SailNav.Proofs.Settings.Field
import SailNav.Proofs.Settings.Overlay
import SailNav.Proofs.Settings.Normal
import SailNav.Proofs.Session.Configuration
import SailNav.Proofs.Index.Search
import SailNav.Proofs.Progress.Course
import SailNav.Proofs.Progress.Scan
import SailNav.Proofs.Disk.Deletion
import SailNav.Proofs.Session.Deletion
import SailNav.Proofs.Token.Quoted
import SailNav.Proofs.Definition.Blank
