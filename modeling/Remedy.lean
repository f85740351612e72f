import Remedy.Action
import Remedy.Answer.Basic
import Remedy.Answer.CodeBlock
import Remedy.Answer.Sections
import Remedy.Batch
import Remedy.Benchmark.Basic
import Remedy.Benchmark.Example
import Remedy.Benchmark.Installed
import Remedy.Client.Call
import Remedy.Client.Fix
import Remedy.Client.Solve
import Remedy.Command.Client
import Remedy.Command.Compare
import Remedy.Command.Dispatch
import Remedy.Command.FillHub
import Remedy.Command.ImportHub
import Remedy.Command.LoadStore
import Remedy.Command.Serve
import Remedy.CommandLine
import Remedy.Config.Basic
import Remedy.Config.Kinds
import Remedy.Config.Load
import Remedy.Config.Toml
import Remedy.Detection.Basic
import Remedy.Detection.LineMatch
import Remedy.Detection.SyntaxTree
import Remedy.Digest
import Remedy.Failure
import Remedy.Files.Tree
import Remedy.History
import Remedy.Host.Basic
import Remedy.Host.Logging
import Remedy.Hub.Entries
import Remedy.Hub.Import
import Remedy.Hub.Model
import Remedy.Hub.Server
import Remedy.Hub.Upload
import Remedy.Installation
import Remedy.Json.Access
import Remedy.Json.Basic
import Remedy.Json.Decode
import Remedy.Json.Display
import Remedy.Json.Merge
import Remedy.Json.Order
import Remedy.Json.Reader
import Remedy.Json.Writer
import Remedy.Language
import Remedy.Main
import Remedy.Model.Basic
import Remedy.Model.Dialogue
import Remedy.Model.Remote
import Remedy.Number.Binary64
import Remedy.Number.Decimal
import Remedy.Path
import Remedy.Playback
import Remedy.Prompt.Installed
import Remedy.Prompt.Library
import Remedy.Prompt.Texts
import Remedy.Recorded.Journal
import Remedy.Recorded.Network
import Remedy.Recorded.Service
import Remedy.Recorded.Surroundings
import Remedy.Recorded.World
import Remedy.Report.Basic
import Remedy.Report.Decode
import Remedy.Report.Encode
import Remedy.Report.Impacted
import Remedy.Report.Location
import Remedy.Report.Markdown
import Remedy.Repository
import Remedy.Rpc.Frame
import Remedy.Rpc.Params
import Remedy.Rpc.Server
import Remedy.Samples.Analyze
import Remedy.Samples.Basic
import Remedy.Samples.Fetch
import Remedy.Samples.Shell
import Remedy.Service.Assembly
import Remedy.Service.Basic
import Remedy.Service.File
import Remedy.Service.Single
import Remedy.Solution.Basic
import Remedy.Solution.Consumer
import Remedy.Solution.Producer
import Remedy.Store.Backend
import Remedy.Store.Basic
import Remedy.Store.Directory
import Remedy.Store.Encode
import Remedy.Store.Find
import Remedy.Store.Load
import Remedy.Store.Matching
import Remedy.Store.Row
import Remedy.Template.Basic
import Remedy.Text.Blank
import Remedy.Text.Digit
import Remedy.Text.EditDistance
import Remedy.Text.LetterCase
import Remedy.Text.Lines
import Remedy.Text.Printable
import Remedy.Text.Quoted
import Remedy.Text.Ranges
import Remedy.Text.Search
import Remedy.Text.Utf8
import Remedy.Text.Word
import Remedy.Time
import Remedy.Timestamp
import Remedy.Trace
import Remedy.Trial.Basic
import Remedy.Trial.First
import Remedy.Truth
import Remedy.Url.Basic
import Remedy.Url.Host
import Remedy.Web.Routes
import Remedy.Web.Socket
import Remedy.Proofs.Action
import Remedy.Proofs.Detection.Naive
import Remedy.Proofs.Store.Load
import Remedy.Proofs.Detection.Moved
import Remedy.Proofs.Json.DeepSort
import Remedy.Proofs.Store.Consistent
import Remedy.Proofs.Store.Find
import Remedy.Proofs.Detection.Conservation
import Remedy.Proofs.Store.Commits
import Remedy.Proofs.Store.Integrity
import Remedy.Proofs.Store.Part
import Remedy.Proofs.Store.Separation
import Remedy.Proofs.Service.Asking
import Remedy.Proofs.Service.Turns
import Remedy.Proofs.Detection.Refinement
import Remedy.Proofs.Store.Distinct
import Remedy.Proofs.Store.Reload
import Remedy.Proofs.Store.Kept
import Remedy.Proofs.Json.Fields
import Remedy.Proofs.Hub.Issues
import Remedy.Proofs.Number.Binary64
import Remedy.Proofs.Number.Decimal
import Remedy.Proofs.Json.Numbers
import Remedy.Proofs.Json.RoundTrip
import Remedy.Proofs.Text.Utf8
import Remedy.Proofs.Json.Ascii
import Remedy.Proofs.Rpc.Frame
import Remedy.Proofs.Rpc.Messages
import Remedy.Proofs.Rpc.Replies
import Remedy.Proofs.Rpc.Strays
import Remedy.Proofs.Hub.Credentials
import Remedy.Proofs.Client.Requested
import Remedy.Proofs.Hub.Cursor
import Remedy.Proofs.Prompt.Rendering
import Remedy.Proofs.Service.Containment
import Remedy.Proofs.Store.Failing
import Remedy.Proofs.Store.Summaries
import Remedy.Proofs.Text.Search
import Remedy.Proofs.Text.EditDistance
import Remedy.Proofs.Answer.Written
import Remedy.Proofs.Detection.Tightest
import Remedy.Proofs.Detection.LineRange
import Remedy.Proofs.Url.Escapes
import Remedy.Proofs.Report.Impacted
import Remedy.Proofs.Report.Location
import Remedy.Proofs.Client.InPlace
import Remedy.Proofs.Detection.FileNames
import Remedy.Proofs.Solution.Shown
import Remedy.Proofs.Prompt.Migration
import Remedy.Proofs.Service.Batches
import Remedy.Proofs.Report.Listing
import Remedy.Proofs.Client.OwnFile
import Remedy.Proofs.Json.Reordered
import Remedy.Proofs.Json.CanonicalOrder
import Remedy.Proofs.Json.CanonicalText
import Remedy.Proofs.Store.Identity
import Remedy.Proofs.Client.Spared
import Remedy.Proofs.Hub.Pages
import Remedy.Proofs.Service.Recorded
import Remedy.Proofs.Web.TracePlace
import Remedy.Proofs.Answer.Partition
import Remedy.Proofs.Hub.Numbering
import Remedy.Proofs.Files.Sound
import Remedy.Proofs.Benchmark.Independence
