import Meterboard.AxisRange
import Meterboard.Base64
import Meterboard.Board
import Meterboard.Board.Input
import Meterboard.Calendar
import Meterboard.Cascade
import Meterboard.Cbor.Item
import Meterboard.Cbor.Reader
import Meterboard.Codec
import Meterboard.Command
import Meterboard.CommandLine
import Meterboard.Double
import Meterboard.Double.Decimal
import Meterboard.Double.Shortest
import Meterboard.Duration
import Meterboard.Identifier
import Meterboard.Json.Number
import Meterboard.Json.Reader
import Meterboard.Json.Writer
import Meterboard.Labels
import Meterboard.Main
import Meterboard.Message
import Meterboard.Proofs.AxisRange
import Meterboard.Proofs.Base64
import Meterboard.Proofs.Board.Drag
import Meterboard.Proofs.Board.Drain
import Meterboard.Proofs.Board.Drawn
import Meterboard.Proofs.Board.Refetch
import Meterboard.Proofs.Board.Replies
import Meterboard.Proofs.Board.Turn
import Meterboard.Proofs.Board.Typing
import Meterboard.Proofs.Calendar
import Meterboard.Proofs.Calendar.Moment
import Meterboard.Proofs.Cascade.Listing
import Meterboard.Proofs.Cascade.Names
import Meterboard.Proofs.Cascade.Offered
import Meterboard.Proofs.Cascade.Scope
import Meterboard.Proofs.Cascade.Traffic
import Meterboard.Proofs.Cbor.Conform
import Meterboard.Proofs.Cbor.Grammar
import Meterboard.Proofs.Cbor.Head
import Meterboard.Proofs.Cbor.Record
import Meterboard.Proofs.Cbor.Rewriting
import Meterboard.Proofs.Cbor.Write
import Meterboard.Proofs.Codec
import Meterboard.Proofs.Codec.Rewritten
import Meterboard.Proofs.Command
import Meterboard.Proofs.Double.Arithmetic
import Meterboard.Proofs.Double.Machine
import Meterboard.Proofs.Double.Order
import Meterboard.Proofs.Double.Rounding
import Meterboard.Proofs.Double.Value
import Meterboard.Proofs.Duration
import Meterboard.Proofs.Duration.Grammar
import Meterboard.Proofs.Duration.Label
import Meterboard.Proofs.Identifier
import Meterboard.Proofs.Identifier.Grammar
import Meterboard.Proofs.Json.Message
import Meterboard.Proofs.Json.Token
import Meterboard.Proofs.Json.Value
import Meterboard.Proofs.Message
import Meterboard.Proofs.Run
import Meterboard.Proofs.Selection
import Meterboard.Proofs.Series
import Meterboard.Proofs.Store.Courier
import Meterboard.Proofs.Store.Source
import Meterboard.Proofs.Store.Transport
import Meterboard.Proofs.Text.Blank
import Meterboard.Proofs.Text.Utf8
import Meterboard.Proofs.View.Choices
import Meterboard.Proofs.View.Drawn
import Meterboard.Proofs.View.Polling
import Meterboard.Proofs.View.Query
import Meterboard.Proofs.View.Ready
import Meterboard.Proofs.View.Refusal
import Meterboard.Proofs.View.Session
import Meterboard.Proofs.View.Stale
import Meterboard.Proofs.View.Step
import Meterboard.Proofs.View.Subject
import Meterboard.Proofs.View.Window
import Meterboard.Proofs.View.Zoom
import Meterboard.Proofs.Window
import Meterboard.Proofs.Wire.Kind
import Meterboard.Proofs.Zoom
import Meterboard.Screen
import Meterboard.Screen.Bars
import Meterboard.Screen.Chart
import Meterboard.Screen.Row
import Meterboard.Selection
import Meterboard.Series
import Meterboard.Settings
import Meterboard.Settings.Tree
import Meterboard.Startup
import Meterboard.Store.Call
import Meterboard.Store.Courier
import Meterboard.Store.Error
import Meterboard.Store.Exchange
import Meterboard.Store.Http
import Meterboard.Store.Transport
import Meterboard.Store.Url
import Meterboard.Text
import Meterboard.Text.Printable
import Meterboard.Theme
import Meterboard.Toml.Document
import Meterboard.Toml.Scalar
import Meterboard.Transform
import Meterboard.View
import Meterboard.Window
import Meterboard.Wire.Kind
import Meterboard.Wire.Value
