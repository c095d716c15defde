import HamlServer.CommandLine.Setting
import HamlServer.CommandLine.Startup
import HamlServer.CommandLine.Words
import HamlServer.Config.LintConfig
import HamlServer.Config.ServerConfig
import HamlServer.Correct.Corrector
import HamlServer.Correct.Document
import HamlServer.Correct.Line
import HamlServer.Decimal.Binary64
import HamlServer.Decimal.Power
import HamlServer.Decimal.Shortest
import HamlServer.DomainName.Basic
import HamlServer.DomainName.Composition
import HamlServer.DomainName.CompositionTable
import HamlServer.DomainName.Direction
import HamlServer.DomainName.DirectionTable
import HamlServer.DomainName.Joining
import HamlServer.DomainName.JoiningTable
import HamlServer.DomainName.Mapping
import HamlServer.DomainName.MappingTable
import HamlServer.DomainName.Punycode
import HamlServer.DomainName.Run
import HamlServer.Editor.CodeAction
import HamlServer.Editor.CompletionItem
import HamlServer.Editor.Diagnostic
import HamlServer.Editor.Edit
import HamlServer.Editor.Manifest
import HamlServer.Editor.Message
import HamlServer.Editor.Notice
import HamlServer.Editor.Place
import HamlServer.Editor.Request
import HamlServer.Files.Path
import HamlServer.Files.Scan
import HamlServer.Files.Tree
import HamlServer.Frame
import HamlServer.Json.Basic
import HamlServer.Json.Number
import HamlServer.Json.Printer
import HamlServer.Json.Record
import HamlServer.Json.Written
import HamlServer.KeyedList
import HamlServer.Locate.ActionLine
import HamlServer.Locate.AssetFile
import HamlServer.Locate.Definition
import HamlServer.Locate.PartialFile
import HamlServer.Main
import HamlServer.Proofs.CommandLine.Precedence
import HamlServer.Proofs.CommandLine.Words
import HamlServer.Proofs.Config.Discovery
import HamlServer.Proofs.Config.LinterEntry
import HamlServer.Proofs.Config.ServerConfig
import HamlServer.Proofs.Correct.Attribute
import HamlServer.Proofs.Correct.Block
import HamlServer.Proofs.Correct.Body
import HamlServer.Proofs.Correct.Content
import HamlServer.Proofs.Correct.Document
import HamlServer.Proofs.Correct.FilterBlock
import HamlServer.Proofs.Correct.Hash
import HamlServer.Proofs.Correct.Indent
import HamlServer.Proofs.Correct.Line
import HamlServer.Proofs.Correct.Nesting
import HamlServer.Proofs.Correct.NormalForm
import HamlServer.Proofs.Correct.Segment
import HamlServer.Proofs.Correct.SegmentRun
import HamlServer.Proofs.Correct.Steps
import HamlServer.Proofs.Decimal.Rounding
import HamlServer.Proofs.Documents.Eviction
import HamlServer.Proofs.Documents.Lookup
import HamlServer.Proofs.Documents.Recency
import HamlServer.Proofs.Documents.Stamp
import HamlServer.Proofs.Editor.Replacement
import HamlServer.Proofs.Editor.RoundTrip
import HamlServer.Proofs.Files.Distance
import HamlServer.Proofs.Files.Path
import HamlServer.Proofs.Files.Scan
import HamlServer.Proofs.Frame.Continuation
import HamlServer.Proofs.Frame.HeaderBlock
import HamlServer.Proofs.Frame.RoundTrip
import HamlServer.Proofs.Frame.Truncation
import HamlServer.Proofs.Json.Grammar
import HamlServer.Proofs.Json.Lexeme
import HamlServer.Proofs.Json.Meaning
import HamlServer.Proofs.Json.Member
import HamlServer.Proofs.Json.Numeral
import HamlServer.Proofs.Json.RoundTrip
import HamlServer.Proofs.Json.Token
import HamlServer.Proofs.Locate.ActionLine
import HamlServer.Proofs.Locate.AssetFile
import HamlServer.Proofs.Locate.PartialFile
import HamlServer.Proofs.Rails.Asset
import HamlServer.Proofs.Rails.Insertion
import HamlServer.Proofs.Rails.Listing
import HamlServer.Proofs.Rails.Locals
import HamlServer.Proofs.Rails.Partial
import HamlServer.Proofs.Rails.Separator
import HamlServer.Proofs.Rails.Table
import HamlServer.Proofs.Session.Actions
import HamlServer.Proofs.Session.Answers
import HamlServer.Proofs.Session.Failure
import HamlServer.Proofs.Session.Findings
import HamlServer.Proofs.Session.Handlers
import HamlServer.Proofs.Session.Loading
import HamlServer.Proofs.Session.OneDocument
import HamlServer.Proofs.Session.Opening
import HamlServer.Proofs.Session.Progress
import HamlServer.Proofs.Session.Results
import HamlServer.Proofs.Session.Run
import HamlServer.Proofs.Session.Separation
import HamlServer.Proofs.Session.Stream
import HamlServer.Proofs.Session.Surroundings
import HamlServer.Proofs.Session.Texts
import HamlServer.Proofs.Session.Upkeep
import HamlServer.Proofs.Session.Writer
import HamlServer.Proofs.Suggest.PartialCall
import HamlServer.Proofs.Suggest.RouteHelper
import HamlServer.Proofs.Template.Call
import HamlServer.Proofs.Text.Cursor
import HamlServer.Proofs.Text.Cut
import HamlServer.Proofs.Text.Decimal
import HamlServer.Proofs.Text.Ink
import HamlServer.Proofs.Text.Lines
import HamlServer.Proofs.Text.Lossy
import HamlServer.Proofs.Text.Order
import HamlServer.Proofs.Text.Slice
import HamlServer.Proofs.Text.Trim
import HamlServer.Proofs.Text.Utf8
import HamlServer.Proofs.Text.Word
import HamlServer.Proofs.Url.FileUrl
import HamlServer.Proofs.Url.Percent
import HamlServer.Proofs.Workspace.Assets
import HamlServer.Proofs.Workspace.PartialOrder
import HamlServer.Proofs.Workspace.Partials
import HamlServer.Proofs.Yaml.Reading
import HamlServer.Rails.Asset
import HamlServer.Rails.Listing
import HamlServer.Rails.Partial
import HamlServer.Rails.Project
import HamlServer.Rails.Route
import HamlServer.Session.Connection
import HamlServer.Session.Documents
import HamlServer.Session.Handle
import HamlServer.Session.Project
import HamlServer.Session.State
import HamlServer.Session.Step
import HamlServer.Suggest.AssetName
import HamlServer.Suggest.Completion
import HamlServer.Suggest.Element
import HamlServer.Suggest.PartialCall
import HamlServer.Suggest.RouteHelper
import HamlServer.Template.Call
import HamlServer.Text.Blank
import HamlServer.Text.Cursor
import HamlServer.Text.Digits
import HamlServer.Text.EscapedTable
import HamlServer.Text.Line
import HamlServer.Text.Position
import HamlServer.Text.Quoted
import HamlServer.Text.Utf8
import HamlServer.Text.Word
import HamlServer.Text.WordTable
import HamlServer.Toml.Document
import HamlServer.Toml.Numeral
import HamlServer.Toml.Quoted
import HamlServer.Toml.Value
import HamlServer.Tool.Invocation
import HamlServer.Tool.Launch
import HamlServer.Tool.Machine
import HamlServer.Tool.Report
import HamlServer.Url.Address
import HamlServer.Url.FileUrl
import HamlServer.Url.Host
import HamlServer.Url.PathState
import HamlServer.Url.Percent
import HamlServer.Workspace
import HamlServer.Yaml.Lexer
import HamlServer.Yaml.Node
import HamlServer.Yaml.ScalarText
import HamlServer.Yaml.Token
import HamlServer.Yaml.Value
