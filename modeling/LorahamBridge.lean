import LorahamBridge.Backend.FakeBackend
import LorahamBridge.Backend.RadioBackend
import LorahamBridge.Bridge.Accord
import LorahamBridge.Bridge.Agreement
import LorahamBridge.Bridge.Attribution
import LorahamBridge.Bridge.Bond
import LorahamBridge.Bridge.BondRefinement
import LorahamBridge.Bridge.Configuration
import LorahamBridge.Bridge.Coupling
import LorahamBridge.Bridge.Dialogue
import LorahamBridge.Bridge.EndToEnd
import LorahamBridge.Bridge.FakeBridge
import LorahamBridge.Bridge.Offers
import LorahamBridge.Bridge.Patience
import LorahamBridge.Bridge.Process
import LorahamBridge.Bridge.RfAccount
import LorahamBridge.Bridge.RfReadBack
import LorahamBridge.Bridge.RxPath
import LorahamBridge.Bridge.Startup
import LorahamBridge.Bridge.System
import LorahamBridge.Bridge.TxOwnership
import LorahamBridge.Bridge.TxPath
import LorahamBridge.Bridge.Waiting
import LorahamBridge.Foundation.ByteOrder
import LorahamBridge.Foundation.CharBuffer
import LorahamBridge.Foundation.Descriptors
import LorahamBridge.Foundation.FrameStream
import LorahamBridge.Foundation.Lines
import LorahamBridge.Foundation.Printing
import LorahamBridge.Foundation.ShortIo
import LorahamBridge.Foundation.Strtoul
import LorahamBridge.Loraham.Backend
import LorahamBridge.Loraham.BackendRun
import LorahamBridge.Loraham.BackendSound
import LorahamBridge.Loraham.BackendSteps
import LorahamBridge.Loraham.Codec
import LorahamBridge.Loraham.ConfBound
import LorahamBridge.Loraham.ConfEvidence
import LorahamBridge.Loraham.ConfLines
import LorahamBridge.Loraham.ConfStream
import LorahamBridge.Loraham.Config
import LorahamBridge.Loraham.Configure
import LorahamBridge.Loraham.Custody
import LorahamBridge.Loraham.Daemon
import LorahamBridge.Loraham.DataPump
import LorahamBridge.Loraham.Framing
import LorahamBridge.Loraham.Link
import LorahamBridge.Loraham.PosixTransport
import LorahamBridge.Loraham.RxStream
import LorahamBridge.Loraham.SetCommand
import LorahamBridge.Loraham.StatusLine
import LorahamBridge.Loraham.TxStream
import LorahamBridge.Util.RfLine
import LorahamBridge.Util.RfLog
import LorahamBridge.Util.RfReader
import LorahamBridge.Util.Sockets
import LorahamBridge.Wire.ClientRun
import LorahamBridge.Wire.ClientSession
import LorahamBridge.Wire.Protocol
import LorahamBridge.Xr.Auth
import LorahamBridge.Xr.Authentication
import LorahamBridge.Xr.BoundedBuffer
import LorahamBridge.Xr.ClientMessages
import LorahamBridge.Xr.Conduct
import LorahamBridge.Xr.Deadlines
import LorahamBridge.Xr.EventLoop
import LorahamBridge.Xr.Fragmentation
import LorahamBridge.Xr.OutputTrace
import LorahamBridge.Xr.Results
import LorahamBridge.Xr.Served
import LorahamBridge.Xr.Server
import LorahamBridge.Xr.ServerSteps
import LorahamBridge.Xr.Session
import LorahamBridge.Xr.SessionRun
import LorahamBridge.Xr.SessionSteps
import LorahamBridge.Xr.SessionView
