import CcsTrans.App.AppService
import CcsTrans.App.ApplicationController
import CcsTrans.App.ApplyImpact
import CcsTrans.App.ControlExecutor
import CcsTrans.Coding
import CcsTrans.Config.Agreement
import CcsTrans.Config.ApplicationConfig
import CcsTrans.Config.Candidate
import CcsTrans.Config.Codec
import CcsTrans.Config.DeepText
import CcsTrans.Config.Document
import CcsTrans.Config.DocumentCodec
import CcsTrans.Config.FieldDescriptor
import CcsTrans.Config.Interchange
import CcsTrans.Config.LineEnds
import CcsTrans.Config.RulesChange
import CcsTrans.Config.RulesText
import CcsTrans.Config.RuntimeCompiler
import CcsTrans.Config.Settings
import CcsTrans.Config.Snapshot
import CcsTrans.Config.TextPieces
import CcsTrans.Config.Unkeyed
import CcsTrans.Core.Cancellation
import CcsTrans.Core.Digests
import CcsTrans.Core.InflightAccounts
import CcsTrans.Core.InflightMemory
import CcsTrans.Core.LeaseCalls
import CcsTrans.Core.Path
import CcsTrans.Core.Sha256
import CcsTrans.Core.Streams
import CcsTrans.Core.Url
import CcsTrans.Core.UrlNormal
import CcsTrans.Decimals
import CcsTrans.Durable
import CcsTrans.Editor.Atomic
import CcsTrans.Editor.Committed
import CcsTrans.Editor.Drafts
import CcsTrans.Editor.Editor
import CcsTrans.Editor.FieldLenses
import CcsTrans.Editor.Identity
import CcsTrans.Editor.Origin
import CcsTrans.Editor.RulesRoundTrip
import CcsTrans.Editor.Saving
import CcsTrans.Fallible
import CcsTrans.Faults
import CcsTrans.Gui.Coherence
import CcsTrans.Gui.Convergence
import CcsTrans.Gui.Outbound
import CcsTrans.Gui.Protocol
import CcsTrans.GuiIpc.Client
import CcsTrans.GuiIpc.ClientSends
import CcsTrans.GuiIpc.Connection
import CcsTrans.GuiIpc.Delivery
import CcsTrans.GuiIpc.Envelope
import CcsTrans.GuiIpc.FrameCodec
import CcsTrans.GuiIpc.FrameStream
import CcsTrans.GuiIpc.Integers
import CcsTrans.GuiIpc.JsonCodec
import CcsTrans.GuiIpc.JsonMessages
import CcsTrans.GuiIpc.JsonState
import CcsTrans.GuiIpc.MessageOrder
import CcsTrans.GuiIpc.MessageRoundTrip
import CcsTrans.GuiIpc.Readers
import CcsTrans.GuiIpc.ServerNumbers
import CcsTrans.GuiIpc.ServerSession
import CcsTrans.GuiIpc.StateReadBack
import CcsTrans.GuiIpc.StateTexts
import CcsTrans.GuiIpc.Utf8
import CcsTrans.Host.CommandRouter
import CcsTrans.Host.Completions
import CcsTrans.Host.Maintenance
import CcsTrans.InPlace
import CcsTrans.Json.Access
import CcsTrans.Json.Document
import CcsTrans.Json.Dump
import CcsTrans.Json.Layout
import CcsTrans.Json.Length
import CcsTrans.Json.Parse
import CcsTrans.Json.RoundTrip
import CcsTrans.Json.Texts
import CcsTrans.Json.Value
import CcsTrans.Logging.ArchiveNames
import CcsTrans.Logging.Compaction
import CcsTrans.Logging.Lines
import CcsTrans.Logging.Queue
import CcsTrans.Logging.ReadBack
import CcsTrans.Logging.Record
import CcsTrans.Logging.Redaction
import CcsTrans.Logging.Retention
import CcsTrans.Pieces
import CcsTrans.Presentation.Bookkeeping
import CcsTrans.Presentation.Coherence
import CcsTrans.Presentation.Contract
import CcsTrans.Presentation.Effects
import CcsTrans.Presentation.PanelRuns
import CcsTrans.Presentation.Panels
import CcsTrans.Presentation.RevisionTokens
import CcsTrans.Presentation.RulesShown
import CcsTrans.Presentation.ViewModel
import CcsTrans.Procs
import CcsTrans.Protocols.Registry
import CcsTrans.Repository.Commit
import CcsTrans.Repository.Crash
import CcsTrans.Repository.Disk
import CcsTrans.Repository.DocumentDrafts
import CcsTrans.Repository.Journal
import CcsTrans.Repository.LegacySave
import CcsTrans.Repository.Lives
import CcsTrans.Repository.Load
import CcsTrans.Repository.Pending
import CcsTrans.Repository.Recovery
import CcsTrans.Repository.Restart
import CcsTrans.Repository.Writers
import CcsTrans.Routing.History
import CcsTrans.Routing.RouteTable
import CcsTrans.Rows
import CcsTrans.Rules.ArrayIndex
import CcsTrans.Rules.Frames
import CcsTrans.Rules.Pipeline
import CcsTrans.Rules.Pointer
import CcsTrans.Rules.RemoveTool
import CcsTrans.Rules.Rule
import CcsTrans.Rules.SetField
import CcsTrans.Runs
import CcsTrans.Scanning
import CcsTrans.SecureHash
import CcsTrans.Server.AcceptLoop
import CcsTrans.Server.Accounting
import CcsTrans.Server.Connections
import CcsTrans.Server.Framing
import CcsTrans.Server.HttpRequest
import CcsTrans.Server.Ledger
import CcsTrans.Server.LogLimits
import CcsTrans.Server.OneResponse
import CcsTrans.Server.Processing
import CcsTrans.Server.RequestHead
import CcsTrans.Server.ResponseHead
import CcsTrans.Server.Responses
import CcsTrans.Server.Ways
import CcsTrans.Storage.Accepted
import CcsTrans.Storage.Exact
import CcsTrans.Storage.File
import CcsTrans.Storage.Parking
import CcsTrans.Storage.Placing
import CcsTrans.Storage.PlainFile
import CcsTrans.Storage.Profile
import CcsTrans.Storage.Save
import CcsTrans.Storage.Stored
import CcsTrans.Storage.Table
import CcsTrans.Storage.Tables
import CcsTrans.Text
import CcsTrans.Transport.HeaderFilter
import CcsTrans.Transport.ResponseAccounting
import CcsTrans.Window.Closing
import CcsTrans.Window.Dispatcher
import CcsTrans.Window.ListModels
import CcsTrans.Window.RulesEditor
