import HostBridge.Callback
import HostBridge.Channel
import HostBridge.Config
import HostBridge.Context
import HostBridge.Cookie
import HostBridge.Error
import HostBridge.Event.Basic
import HostBridge.Event.Bus
import HostBridge.Event.Codec
import HostBridge.Event.Session
import HostBridge.Handle
import HostBridge.Image.Bitmap
import HostBridge.Image.Engine
import HostBridge.Image.Format
import HostBridge.Image.Rect
import HostBridge.Image.Scripted
import HostBridge.Json.Basic
import HostBridge.Json.Decode
import HostBridge.Json.Numeral
import HostBridge.Json.Parser
import HostBridge.Json.Printer
import HostBridge.Json.Syntax
import HostBridge.Json.Token
import HostBridge.Logging.Config
import HostBridge.Logging.Directive
import HostBridge.Logging.Entry
import HostBridge.Logging.Filter
import HostBridge.Logging.Pattern
import HostBridge.Logging.Redaction
import HostBridge.Logging.Sink
import HostBridge.Net.Client
import HostBridge.Net.Request
import HostBridge.Net.Response
import HostBridge.Net.Scripted
import HostBridge.Net.Transport
import HostBridge.Number.Binary64
import HostBridge.Number.Word
import HostBridge.Proofs.Callback
import HostBridge.Proofs.Chronicle
import HostBridge.Proofs.Cookie
import HostBridge.Proofs.Event.Announcing
import HostBridge.Proofs.Event.Backlog
import HostBridge.Proofs.Event.Following
import HostBridge.Proofs.Event.Perusal
import HostBridge.Proofs.Event.Recovery
import HostBridge.Proofs.Event.Stretch
import HostBridge.Proofs.Handle
import HostBridge.Proofs.Image.Album
import HostBridge.Proofs.Image.Ownership
import HostBridge.Proofs.Image.Recording
import HostBridge.Proofs.Json.Fields
import HostBridge.Proofs.Json.Lexeme
import HostBridge.Proofs.Json.Numeral
import HostBridge.Proofs.Json.Reading
import HostBridge.Proofs.Json.Rereading
import HostBridge.Proofs.Logging.Redaction
import HostBridge.Proofs.Message
import HostBridge.Proofs.Net.Accounting
import HostBridge.Proofs.Net.Alike
import HostBridge.Proofs.Net.Discretion
import HostBridge.Proofs.Net.Lookup
import HostBridge.Proofs.Net.Totals
import HostBridge.Proofs.Net.Turn
import HostBridge.Proofs.Net.Wire
import HostBridge.Proofs.Number.Arithmetic
import HostBridge.Proofs.Number.Binary64
import HostBridge.Proofs.Number.Rounding
import HostBridge.Proofs.Number.Significand
import HostBridge.Proofs.Raster.Addressing
import HostBridge.Proofs.Raster.Clipping
import HostBridge.Proofs.Raster.Confinement
import HostBridge.Proofs.Raster.Depiction
import HostBridge.Proofs.Raster.Faultlessness
import HostBridge.Proofs.Raster.Position
import HostBridge.Proofs.Raster.Projection
import HostBridge.Proofs.Registry
import HostBridge.Proofs.Registry.Attribution
import HostBridge.Proofs.Registry.Pruning
import HostBridge.Proofs.Script.OneShot
import HostBridge.Proofs.Session.Airing
import HostBridge.Proofs.Session.Announcement
import HostBridge.Proofs.Session.Atomicity
import HostBridge.Proofs.Session.Concordance
import HostBridge.Proofs.Session.Continuation
import HostBridge.Proofs.Session.Core
import HostBridge.Proofs.Session.Correspondence
import HostBridge.Proofs.Session.Frame
import HostBridge.Proofs.Session.History
import HostBridge.Proofs.Session.Invariant
import HostBridge.Proofs.Session.Isolation
import HostBridge.Proofs.Session.Issuing
import HostBridge.Proofs.Session.Ledger
import HostBridge.Proofs.Session.Listening
import HostBridge.Proofs.Session.Observation
import HostBridge.Proofs.Session.Outcome
import HostBridge.Proofs.Session.Registration
import HostBridge.Proofs.Session.Release
import HostBridge.Proofs.Session.Settlement
import HostBridge.Proofs.Session.Simulation
import HostBridge.Proofs.Session.Stack
import HostBridge.Proofs.Session.Tracking
import HostBridge.Proofs.Table
import HostBridge.Proofs.Text.Spelling
import HostBridge.Proofs.Text.Utf8
import HostBridge.Raster.Blend
import HostBridge.Raster.Engine
import HostBridge.Raster.Netpbm
import HostBridge.Raster.Picture
import HostBridge.Raster.Resample
import HostBridge.Raster.Span
import HostBridge.Raster.Tools
import HostBridge.Registry
import HostBridge.Report.Event
import HostBridge.Report.Failure
import HostBridge.Report.Image
import HostBridge.Report.Log
import HostBridge.Report.Net
import HostBridge.Report.Session
import HostBridge.Report.Table
import HostBridge.Report.Web
import HostBridge.Router
import HostBridge.Router.Recorder
import HostBridge.Script.Basic
import HostBridge.Script.Run
import HostBridge.Service
import HostBridge.Session.Action
import HostBridge.Session.Bitmaps
import HostBridge.Session.Machine
import HostBridge.Session.Services
import HostBridge.Session.State
import HostBridge.Session.Views
import HostBridge.Table
import HostBridge.Text.Alphanumeric
import HostBridge.Text.Blank
import HostBridge.Text.CodeTable
import HostBridge.Text.Combining
import HostBridge.Text.Composite
import HostBridge.Text.Digits
import HostBridge.Text.Direction
import HostBridge.Text.Joining
import HostBridge.Text.Mark
import HostBridge.Text.Normalize
import HostBridge.Text.Printable
import HostBridge.Text.Quoted
import HostBridge.Text.Shortest
import HostBridge.Text.Split
import HostBridge.Text.Utf8
import HostBridge.View.Basic
import HostBridge.View.Message
import HostBridge.Web.CookieDate
import HostBridge.Web.CookieJar
import HostBridge.Web.Domain
import HostBridge.Web.Domain.Forms
import HostBridge.Web.Domain.Label
import HostBridge.Web.Domain.Letters
import HostBridge.Web.Domain.Mapping
import HostBridge.Web.Domain.Punycode
import HostBridge.Web.Domain.Refused
import HostBridge.Web.Domain.Supplements
import HostBridge.Web.Domain.Symbols
import HostBridge.Web.Exchange
import HostBridge.Web.Host
import HostBridge.Web.Path
import HostBridge.Web.Url
