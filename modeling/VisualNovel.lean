import VisualNovel.Assets
import VisualNovel.Command.Arguments
import VisualNovel.Command.Check
import VisualNovel.Command.Endings
import VisualNovel.Command.Help
import VisualNovel.Command.Play
import VisualNovel.Command.Request
import VisualNovel.Command.Run
import VisualNovel.Command.Sources
import VisualNovel.Config
import VisualNovel.Decimal.Binary
import VisualNovel.Decimal.Shortest
import VisualNovel.EventLoop
import VisualNovel.Json.Document
import VisualNovel.Json.Numeral
import VisualNovel.Json.Printer
import VisualNovel.Json.Quote
import VisualNovel.Json.Reader
import VisualNovel.Json.Scan
import VisualNovel.Json.Tagged
import VisualNovel.Json.Value
import VisualNovel.Ledger.Basic
import VisualNovel.Ledger.Persistence
import VisualNovel.Ledger.Record
import VisualNovel.Ledger.Save
import VisualNovel.Main
import VisualNovel.NameMap
import VisualNovel.Proofs.Assets
import VisualNovel.Proofs.Command.ClosingLine
import VisualNovel.Proofs.Command.EndingCounts
import VisualNovel.Proofs.Command.InputLines
import VisualNovel.Proofs.Command.LoopAndScript
import VisualNovel.Proofs.Command.ScriptedPlay
import VisualNovel.Proofs.EventLoop.Conservation
import VisualNovel.Proofs.EventLoop.Feeding
import VisualNovel.Proofs.EventLoop.Handling
import VisualNovel.Proofs.EventLoop.Rounds
import VisualNovel.Proofs.Json.Quoted
import VisualNovel.Proofs.Json.Reading
import VisualNovel.Proofs.Json.Records
import VisualNovel.Proofs.Json.Rereading
import VisualNovel.Proofs.Json.Sound
import VisualNovel.Proofs.Json.Spelling
import VisualNovel.Proofs.Ledger.Count
import VisualNovel.Proofs.Ledger.Endings
import VisualNovel.Proofs.Ledger.FirstReached
import VisualNovel.Proofs.Ledger.Growth
import VisualNovel.Proofs.Ledger.Hydration
import VisualNovel.Proofs.Ledger.Joining
import VisualNovel.Proofs.Ledger.Kept
import VisualNovel.Proofs.Ledger.SaveCodec
import VisualNovel.Proofs.Ledger.SavedForms
import VisualNovel.Proofs.NameMap
import VisualNovel.Proofs.Scene.Coverage
import VisualNovel.Proofs.Scene.Independence
import VisualNovel.Proofs.Scene.Landing
import VisualNovel.Proofs.Scene.LiveSession
import VisualNovel.Proofs.Scene.Lockstep
import VisualNovel.Proofs.Scene.Operations
import VisualNovel.Proofs.Scene.Progress
import VisualNovel.Proofs.Scene.ProgressReports
import VisualNovel.Proofs.Scene.Protocol
import VisualNovel.Proofs.Scene.Reading
import VisualNovel.Proofs.Scene.Recovery
import VisualNovel.Proofs.Scene.Refusals
import VisualNovel.Proofs.Scene.Screen
import VisualNovel.Proofs.Scene.Script
import VisualNovel.Proofs.Scene.Trace
import VisualNovel.Proofs.Scene.Trail
import VisualNovel.Proofs.Session
import VisualNovel.Proofs.Session.History
import VisualNovel.Proofs.Session.SharedLedger
import VisualNovel.Proofs.Session.Summary
import VisualNovel.Proofs.Stage.Controls
import VisualNovel.Proofs.Stage.Journal
import VisualNovel.Proofs.Stage.Terminal
import VisualNovel.Proofs.Stage.Watched
import VisualNovel.Proofs.Store.Confinement
import VisualNovel.Proofs.Store.Durable
import VisualNovel.Proofs.Store.FileNames
import VisualNovel.Proofs.Store.Folder
import VisualNovel.Proofs.Store.LawfulVolume
import VisualNovel.Proofs.Story.Building
import VisualNovel.Proofs.Story.Lookup
import VisualNovel.Proofs.Story.PassageOrder
import VisualNovel.Proofs.Story.Priority
import VisualNovel.Proofs.Story.Prompt
import VisualNovel.Proofs.Story.Reachability
import VisualNovel.Proofs.Story.Respelling
import VisualNovel.Proofs.Story.Search
import VisualNovel.Proofs.Story.TextAndValue
import VisualNovel.Proofs.Story.Verdict
import VisualNovel.Proofs.Tally
import VisualNovel.Proofs.Tally.Calls
import VisualNovel.Proofs.Text.Bytes
import VisualNovel.Proofs.Text.Delimiter
import VisualNovel.Proofs.Text.Numeral
import VisualNovel.Proofs.Time.Timestamp
import VisualNovel.Proofs.Wire.RoundTrip
import VisualNovel.Scene.Basic
import VisualNovel.Scene.Controller
import VisualNovel.Session
import VisualNovel.Stage.Directive
import VisualNovel.Stage.Recorder
import VisualNovel.Stage.Terminal
import VisualNovel.Store.Basic
import VisualNovel.Store.Disk
import VisualNovel.Store.Faulty
import VisualNovel.Store.File
import VisualNovel.Store.FileTree
import VisualNovel.Store.Memory
import VisualNovel.Store.Volume
import VisualNovel.Story.Basic
import VisualNovel.Story.Outcome
import VisualNovel.Story.Passage
import VisualNovel.Story.Reachable
import VisualNovel.Story.Twison
import VisualNovel.Tally
import VisualNovel.Text.Blank
import VisualNovel.Text.CharSet
import VisualNovel.Text.Delimiter
import VisualNovel.Text.Letter
import VisualNovel.Text.Lines
import VisualNovel.Text.Numeral
import VisualNovel.Text.Style
import VisualNovel.Text.Table
import VisualNovel.Text.Visible
import VisualNovel.Text.Visible.Ranges
import VisualNovel.Text.Width
import VisualNovel.Text.Width.Ranges
import VisualNovel.Time.Calendar
import VisualNovel.Time.Instant
import VisualNovel.Time.Timestamp
import VisualNovel.Wire.Basic
import VisualNovel.Wire.Stage
import VisualNovel.Wire.Story
