import Smpp34.Base.Octets
import Smpp34.Base.Utf8
import Smpp34.Base.Correlation
import Smpp34.Base.Machine
import Smpp34.Base.Mailbox
import Smpp34.Base.Parse
import Smpp34.Base.Delimited
import Smpp34.Base.Filing
import Smpp34.Common.Header
import Smpp34.Common.Fields
import Smpp34.Common.Tlv
import Smpp34.Commands.Message
import Smpp34.Commands.DataSm
import Smpp34.Commands.SubmitSmMulti
import Smpp34.Commands.Manage
import Smpp34.Commands.Link
import Smpp34.Commands.Bind
import Smpp34.Commands.Pdu
import Smpp34.Codec.SelfDelimiting
import Smpp34.Codec.RoundTrip
import Smpp34.Codec.Relay
import Smpp34.Codec.Bounds
import Smpp34.Codec.Alert
import Smpp34.Codec.Responses
import Smpp34.Codec.Legible
import Smpp34.Codec.Payload
import Smpp34.Codec.Laid
import Smpp34.Codec.Forgery
import Smpp34.Session.Framing
import Smpp34.Session.Writer
import Smpp34.Session.Handshake
import Smpp34.Session.Dispatch
import Smpp34.Session.Replies
import Smpp34.Session.Layout
import Smpp34.Session.Machine
import Smpp34.Session.Builders
import Smpp34.Session.Ledger
import Smpp34.Session.Correlation
import Smpp34.Session.Window
import Smpp34.Session.Frames
import Smpp34.Session.Numbers
import Smpp34.Session.Stream
import Smpp34.Session.Single
import Smpp34.Session.Spawned
import Smpp34.Session.Buffer
import Smpp34.Session.Causes
import Smpp34.Session.Pair
import Smpp34.Session.Progress
import Smpp34.Session.Standstill
import Smpp34.Session.KeepAlive
import Smpp34.Session.Unbinding
import Smpp34.Session.Exchange
import Smpp34.Session.Fates
import Smpp34.Session.Timeouts
import Smpp34.Session.Incoming
import Smpp34.Session.Client
import Smpp34.Session.Stopping
import Smpp34.Session.Delivery
import Smpp34.Session.Line
import Smpp34.Session.Opened
import Smpp34.Session.Returned
import Smpp34.Python.Connect
import Smpp34.Python.Client
import Smpp34.Python.Server
import Smpp34.Python.Answers
