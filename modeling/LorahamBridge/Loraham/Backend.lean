import LorahamBridge.Loraham.Config

/-!
# The LoRaHAM backend

One state machine owns the whole daemon lifecycle: it connects the DATA and CONF
sockets, submits the configuration, forwards received packets, writes one
`TX_PACKET` at a time, and recovers when the session gives up on a packet that
the daemon already owns.  This file embeds `loraham_backend`.

Everything the transport answers is unknown to the bridge.  An operation is
therefore run against a script of answers: each call of a transport method takes
the next answer of its kind, and a script that has run out answers that no
progress is possible now.  Quantifying over the scripts quantifies over every
behaviour of the daemon and of the kernel buffers in between.

Two fields of the state are history variables that the code does not have.
`trace` records what crossed the transport and the sink, in order; `calls` holds
the callbacks of the current operation until the session runs them.  No branch
of the code reads either of them.
-/

namespace LorahamBridge

open Foundation Extradio Loraham

/-! ## The daemon transport -/

/-- Progress of a non-blocking connect. -/
inductive ConnectState where
  | connecting
  | connected
  | failed
deriving DecidableEq

/-- Answer of a non-blocking send.  `took n` accepts `n` bytes, or everything
offered if that is less; `took 0` is a full kernel buffer. -/
inductive SendAnswer where
  | took (n : Nat)
  | failed
deriving DecidableEq

/-- Bytes delivered by one read into a buffer of the given capacity. -/
structure Chunk (cap : Nat) where
  bytes : Bytes
  fits : bytes.length ≤ cap
deriving DecidableEq

/-- Answer of a non-blocking receive; an empty chunk means nothing is available. -/
inductive RecvAnswer (cap : Nat) where
  | data (chunk : Chunk cap)
  | failed
deriving DecidableEq

/-- The size of the buffer of a read. -/
def kReadChunk : Nat := 512
/-- A longer line without an end is a broken link. -/
def kMaxConfLine : Nat := 1024

/-- The answers the transport will give, one list per method. -/
structure DaemonTransport where
  beginConnect : List Bool := []
  pollConnect : List ConnectState := []
  confSendSome : List SendAnswer := []
  dataSendSome : List SendAnswer := []
  confRecv : List (RecvAnswer kReadChunk) := []
  dataRecv : List (RecvAnswer kReadChunk) := []
deriving DecidableEq

/-! ## State -/

/-- The states of the backend. -/
inductive BackendState where
  | disconnected
  | connecting
  | configuring
  | ready
  | txWriting
  | txPending
  | draining
  | faulted
deriving DecidableEq

/-- How an attempt to write the packet ends. -/
inductive TxFlush where
  | complete
  | partly
  | failed
deriving DecidableEq

/-- Outcome field of a transmit line in the RF log. -/
inductive LoggedOutcome where
  | ok
  | unconfirmed
deriving DecidableEq

/-- What crosses the transport, the RF log and the sink. -/
inductive Event where
  | opened (owner : Option Nat) (band : Band)
  | connectRefused (band : Band)
  | closed
  | confSent (bytes : Bytes)
  | confReceived (bytes : Bytes)
  | submitted (payload : Bytes)
  | dataSent (bytes : Bytes)
  | dataReceived (bytes : Bytes)
  | dispatched (frame : Loraham.Frame)
  | loggedRx (rx : RxEvent)
  | loggedTx (outcome : LoggedOutcome) (rf : Bytes)
  | notified (sink : Nat) (call : SinkCall)
deriving DecidableEq

/-- State of the backend.  The sink pointer is the identity of the session it
points to, and `now` is the clock reading of the operation in progress. -/
structure LorahamBackend where
  transport : DaemonTransport := {}
  now : Nat := 0
  configTimeoutMs : Nat := 2000
  drainTimeoutMs : Nat := 30000
  sink : Option Nat := none
  started : Bool := false
  state : BackendState := .disconnected
  configToken : UInt32 := 0
  nextToken : UInt32 := 0
  configDeadlineAt : Nat := 0
  pendingCfg : RadioConfig := RadioConfig.zero
  confOut : Bytes := []
  confOutOff : Nat := 0
  awaitingStatus : Bool := false
  confLine : Bytes := []
  drainDeadlineAt : Nat := 0
  txOut : Bytes := []
  txOutOff : Nat := 0
  txEpoch : UInt32 := 0
  pendingEpoch : UInt32 := 0
  parser : Bytes := []
  trace : List Event := []
  calls : List (Nat × SinkCall) := []
deriving DecidableEq

namespace LorahamBackend

/-- The transport has given an answer. -/
def answered (update : DaemonTransport → DaemonTransport) (b : LorahamBackend) :
    LorahamBackend :=
  { b with transport := update b.transport }

/-- Append one event to the history. -/
def record (e : Event) (b : LorahamBackend) : LorahamBackend :=
  { b with trace := b.trace ++ [e] }

/-- Call a method of the sink, if one is attached. -/
def notify (call : SinkCall) (b : LorahamBackend) : LorahamBackend :=
  { b with
    trace := b.trace ++ b.sink.toList.map fun id => .notified id call
    calls := b.calls ++ b.sink.toList.map fun id => (id, call) }

/-- The session that is called. -/
def setSink (sink : Option Nat) (b : LorahamBackend) : LorahamBackend :=
  { b with sink := sink }

def start (b : LorahamBackend) : LorahamBackend :=
  { b with started := true }

/-- Started, configured, and nothing in flight. -/
def ready (b : LorahamBackend) : Bool :=
  b.started && b.state == .ready

/-! ## Leaving the link -/

/-- Close the link and return to the unconfigured state. -/
def resetLinkUnconfigured (b : LorahamBackend) : LorahamBackend :=
  { b with
    state := .disconnected
    parser := []
    confLine := []
    confOut := []
    confOutOff := 0
    txOut := []
    txOutOff := 0
    awaitingStatus := false
    trace := b.trace ++ [.closed] }

/-- RF log line from the held frame, unless no payload is held. -/
def logTxOutcome (outcome : LoggedOutcome) (b : LorahamBackend) : LorahamBackend :=
  { b with
    trace := b.trace ++
      if b.txOut.length ≤ kFramedHeaderLen then []
      else [.loggedTx outcome (b.txOut.drop kFramedHeaderLen)] }

/-- Unrecoverable: transmission stays disabled until the process restarts. -/
def enterFault (b : LorahamBackend) : LorahamBackend :=
  let b := b.logTxOutcome .unconfirmed
  { b with
    state := .faulted
    parser := []
    confLine := []
    confOut := []
    confOutOff := 0
    txOut := []
    txOutOff := 0
    awaitingStatus := false
    trace := b.trace ++ [.closed] }

/-- The daemon link was lost.  A packet the daemon already owns cannot be proven
clear any more, so the backend faults instead of becoming reusable. -/
def handleDisconnect (b : LorahamBackend) : LorahamBackend :=
  match b.state with
  | .draining => b.enterFault
  | .txPending => b.enterFault.notify .onBackendFailure
  | _ => b.resetLinkUnconfigured.notify .onBackendFailure

/-! ## Configuration -/

/-- The CONF commands around the radio configuration line, one line each. -/
def confCommands (setCmd : Bytes) : Bytes :=
  ascii "SET TXMODE=MANAGED\n" ++ ascii "SET TXQUEUE=1\n" ++ ascii "SET TXRESULT=1\n" ++
    setCmd ++ ascii "GET STATUS\n"

/-- Ask the transport for a fresh pair of sockets; any existing pair is replaced. -/
def beginConnect (band : Band) (b : LorahamBackend) : Bool × LorahamBackend :=
  let answer := b.transport.beginConnect.headD false
  let b := b.answered fun t => { t with beginConnect := t.beginConnect.tail }
  (answer, b.record (if answer then .opened b.sink band else .connectRefused band))

/-- The part of `begin_configure` behind its state checks. -/
def startConfigure (requested : RadioConfig) (b : LorahamBackend) : UInt32 × LorahamBackend :=
  match validateConfig requested with
  | .error _ => (0, b)
  | .ok band =>
      match buildSetCommand requested with
      | none => (0, b)
      | some setCmd =>
          match b.beginConnect band with
          | (false, b) => (0, b)
          | (true, b) =>
              (b.nextToken + 1,
                { b with
                  confOut := confCommands setCmd
                  confOutOff := 0
                  awaitingStatus := false
                  confLine := []
                  parser := []
                  pendingCfg := requested
                  state := .connecting
                  configDeadlineAt := addMs b.now b.configTimeoutMs
                  nextToken := b.nextToken + 1
                  configToken := b.nextToken + 1 })

/-- Start applying a configuration.  Returns the operation token, zero if refused:
nothing may be started while a configuration or a transmission is in flight. -/
def beginConfigure (requested : RadioConfig) (b : LorahamBackend) : UInt32 × LorahamBackend :=
  match b.state with
  | .faulted | .draining | .connecting | .configuring | .txWriting | .txPending => (0, b)
  | .disconnected | .ready => b.startConfigure requested

/-- The configuration was applied; the request is echoed as effective. -/
def configSucceed (b : LorahamBackend) : LorahamBackend :=
  notify (.onConfigureComplete b.configToken ⟨true, b.pendingCfg⟩)
    { b with
      state := .ready
      txEpoch := b.txEpoch + 1
      confOut := []
      confOutOff := 0
      awaitingStatus := false }

/-- The configuration failed; the link is closed before the sink is told. -/
def configFail (b : LorahamBackend) : LorahamBackend :=
  b.resetLinkUnconfigured.notify (.onConfigureComplete b.configToken .failed)

/-! ## CONF input -/

/-- Lines the daemon sends to everybody at any time. -/
def isBroadcastLine (line : Bytes) : Bool :=
  (ascii "TX=").isPrefixOf line || (ascii "CAD=").isPrefixOf line ||
    (ascii "RSSI=").isPrefixOf line

/-- The bytes trimmed from the end of a line: CR, space and tab. -/
def isLineTail (c : UInt8) : Bool :=
  c == 0x0D || c == 0x20 || c == 0x09

/-- A line without blanks and carriage return at its end. -/
def trimLine (line : Bytes) : Bytes :=
  line.rdropWhile isLineTail

/-- The first line of a text without its newline, and the text behind it. -/
def splitLine : Bytes → Option (Bytes × Bytes)
  | [] => none
  | c :: rest =>
      if c = 0x0A then some ([], rest)
      else (splitLine rest).map fun p => (c :: p.1, p.2)

/-- What one CONF line means to `pump_conf`. -/
inductive LineVerdict where
  | ignore
  | status (ready : Bool)
  | fatal
deriving DecidableEq

/-- Verdict on a line with its trailing blanks removed. -/
def judgeLine (awaitingStatus : Bool) (line : Bytes) : LineVerdict :=
  if line.isEmpty then .ignore
  else if isBroadcastLine line then .ignore
  else if awaitingStatus && line == ascii "OK" then .ignore
  else if awaitingStatus && (ascii "ERR").isPrefixOf line then .fatal
  else if (ascii "STATUS").isPrefixOf line then
    if awaitingStatus then .status (statusLineRadioReady line) else .fatal
  else .fatal

/-- Result of `pump_conf`: a fatal line or a lost link, nothing decisive yet, or
the awaited status reply. -/
inductive ConfOutcome where
  | fatal
  | quiet
  | status (ready : Bool)
deriving DecidableEq

/-- What follows a line is shorter. -/
theorem splitLine_length_lt {text line rest : Bytes}
    (h : splitLine text = some (line, rest)) : rest.length < text.length := by
  induction text generalizing line rest with
  | nil => simp [splitLine] at h
  | cons c tail ih =>
      simp only [splitLine] at h
      split at h
      · simp only [Option.some.injEq, Prod.mk.injEq] at h
        simp [h.2]
      · simp only [Option.map_eq_some_iff, Prod.mk.injEq] at h
        rcases h with ⟨⟨l, r⟩, hsplit, -, rfl⟩
        have := ih hsplit
        simp only [List.length_cons]
        omega

/-- Take complete lines off the reassembly buffer until one is decisive. -/
def scanConf (awaitingStatus : Bool) (text : Bytes) : ConfOutcome × Bytes :=
  match _h : splitLine text with
  | none => (.quiet, text)
  | some (line, rest) =>
      match judgeLine awaitingStatus (trimLine line) with
      | .ignore => scanConf awaitingStatus rest
      | .status r => (.status r, rest)
      | .fatal => (.fatal, rest)
termination_by text.length
decreasing_by exact splitLine_length_lt _h

/-- One CONF read: the received bytes, and what is kept of the line buffer. -/
def takeConf (chunk line : Bytes) (b : LorahamBackend) : LorahamBackend :=
  { b with confLine := line, trace := b.trace ++ [.confReceived chunk] }

/-- Read CONF input and reassemble its lines. -/
def pumpConf (awaitingStatus : Bool) (b : LorahamBackend) :
    List (RecvAnswer kReadChunk) → ConfOutcome × LorahamBackend
  | [] => (.quiet, b.answered fun t => { t with confRecv := [] })
  | .failed :: answers => (.fatal, b.answered fun t => { t with confRecv := answers })
  | .data chunk :: answers =>
      let b := b.answered fun t => { t with confRecv := answers }
      let text := b.confLine ++ chunk.bytes
      if chunk.bytes = [] then (.quiet, b)
      else if kMaxConfLine < text.length then (.fatal, b.takeConf chunk.bytes text)
      else
        match scanConf awaitingStatus text with
        | (.quiet, rest) =>
            if chunk.bytes.length < kReadChunk then (.quiet, b.takeConf chunk.bytes rest)
            else pumpConf awaitingStatus (b.takeConf chunk.bytes rest) answers
        | (outcome, rest) => (outcome, b.takeConf chunk.bytes rest)

/-- Discard CONF input while draining; closure is detected on the DATA socket. -/
def drainConfInput (b : LorahamBackend) : List (RecvAnswer kReadChunk) → LorahamBackend
  | [] => b.answered fun t => { t with confRecv := [] }
  | .failed :: answers => b.answered fun t => { t with confRecv := answers }
  | .data chunk :: answers =>
      let b := b.answered fun t => { t with confRecv := answers }
      if chunk.bytes = [] then b
      else if chunk.bytes.length < kReadChunk then b.record (.confReceived chunk.bytes)
      else drainConfInput (b.record (.confReceived chunk.bytes)) answers

/-! ## Writing -/

/-- The CONF socket accepts at most `n` of the bytes it is offered.  The transport reports how
many, and they are recorded with its answer. -/
def confSendSome (offered : Bytes) (n : Nat) (b : LorahamBackend) : Nat × LorahamBackend :=
  ((offered.take n).length, b.record (.confSent (offered.take n)))

/-- The DATA socket accepts at most `n` of the bytes it is offered. -/
def dataSendSome (offered : Bytes) (n : Nat) (b : LorahamBackend) : Nat × LorahamBackend :=
  ((offered.take n).length, b.record (.dataSent (offered.take n)))

/-- Offer the unsent CONF commands; what is accepted need not be sent again. -/
def sendConf (n : Nat) (b : LorahamBackend) : LorahamBackend :=
  match b.confSendSome (b.confOut.drop b.confOutOff) n with
  | (taken, b) => { b with confOutOff := b.confOutOff + taken }

/-- Both effects of an accepted write to CONF. -/
theorem sendConf_eq (n : Nat) (b : LorahamBackend) : b.sendConf n =
    { b with
      confOutOff := b.confOutOff + ((b.confOut.drop b.confOutOff).take n).length
      trace := b.trace ++ [.confSent ((b.confOut.drop b.confOutOff).take n)] } :=
  rfl

/-- Write the queued CONF commands; `false` on a write failure. -/
def pumpConfOut (b : LorahamBackend) : List SendAnswer → Bool × LorahamBackend
  | [] => (true, b.answered fun t => { t with confSendSome := [] })
  | answer :: answers =>
      if b.confOut.length ≤ b.confOutOff then
        (true, b.answered fun t => { t with confSendSome := answer :: answers })
      else
        match answer with
        | .failed => (false, b.answered fun t => { t with confSendSome := answers })
        | .took n =>
            if n = 0 then
              (true, b.answered fun t => { t with confSendSome := answers })
            else pumpConfOut (b.sendConf n) answers

/-- Offer the unsent part of the held frame; what is accepted need not be sent again. -/
def sendData (n : Nat) (b : LorahamBackend) : LorahamBackend :=
  match b.dataSendSome (b.txOut.drop b.txOutOff) n with
  | (taken, b) => { b with txOutOff := b.txOutOff + taken }

/-- Both effects of an accepted write to DATA. -/
theorem sendData_eq (n : Nat) (b : LorahamBackend) : b.sendData n =
    { b with
      txOutOff := b.txOutOff + ((b.txOut.drop b.txOutOff).take n).length
      trace := b.trace ++ [.dataSent ((b.txOut.drop b.txOutOff).take n)] } :=
  rfl

/-- Write the held frame as far as the DATA socket takes it. -/
def pumpTxWrite (b : LorahamBackend) : List SendAnswer → TxFlush × LorahamBackend
  | [] =>
      (if b.txOut.length ≤ b.txOutOff then .complete else .partly,
        b.answered fun t => { t with dataSendSome := [] })
  | answer :: answers =>
      if b.txOut.length ≤ b.txOutOff then
        (.complete,
          b.answered fun t => { t with dataSendSome := answer :: answers })
      else
        match answer with
        | .failed =>
            (.failed, b.answered fun t => { t with dataSendSome := answers })
        | .took n =>
            if n = 0 then
              (.partly, b.answered fun t => { t with dataSendSome := answers })
            else pumpTxWrite (b.sendData n) answers

/-- Submit one packet.  `true` only means that it was accepted for writing. -/
def submitTx (data : Bytes) (b : LorahamBackend) : Bool × LorahamBackend :=
  if b.started = false ∨ b.state ≠ .ready then (false, b)
  else if data.length = 0 ∨ kMaxRfPayload < data.length then (false, b)
  else
    match encodeTxPacket (kFramedHeaderLen + kMaxRfPayload) data with
    | none => (false, b)
    | some frame =>
        let b := { b with
          txOut := frame
          txOutOff := 0
          txEpoch := b.txEpoch + 1
          pendingEpoch := b.txEpoch + 1
          state := .txWriting
          trace := b.trace ++ [Event.submitted data] }
        match b.pumpTxWrite b.transport.dataSendSome with
        | (.failed, b) => (false, b.resetLinkUnconfigured)
        | (.complete, b) => (true, { b with state := .txPending })
        | (.partly, b) => (true, b)

/-- The session gives up on its transmission.  A complete frame is drained, an
incomplete one is discarded with the link. -/
def abandonPendingTx (b : LorahamBackend) : LorahamBackend :=
  match b.state with
  | .txPending =>
      { b with
        state := .draining
        drainDeadlineAt := addMs b.now b.drainTimeoutMs }
  | .txWriting => b.resetLinkUnconfigured
  | _ => b

/-! ## DATA input -/

/-- A terminal frame for the outstanding packet.  It is delivered while the
session waits for it, and clears ownership while draining. -/
def resolveTx (outcome : TxOutcome) (b : LorahamBackend) : LorahamBackend :=
  match b.state with
  | .txPending =>
      let b := { b with state := .ready, txOut := [], txOutOff := 0 }
      if b.pendingEpoch = b.txEpoch then b.notify (.onTxComplete outcome) else b
  | .draining => b.resetLinkUnconfigured
  | _ => b

/-- States in which received packets are forwarded. -/
def rxOk (state : BackendState) : Bool :=
  state == .ready || state == .txWriting || state == .txPending

/-- Act on one DATA frame. -/
def dispatch (f : Loraham.Frame) (b : LorahamBackend) : LorahamBackend :=
  let b := b.record (.dispatched f)
  match f.type with
  | .rxPacket =>
      match decodeRx f with
      | none => b
      | some rx =>
          let b := b.record (.loggedRx rx)
          if rxOk b.state then b.notify (.onRx rx) else b
  | .txResult =>
      match decodeTxResult f with
      | none => b
      | some r =>
          if r.status = txStatusOk ∧ (b.state = .txPending ∨ b.state = .draining) then
            (b.logTxOutcome .ok).resolveTx (mapTxStatus r.status)
          else b.resolveTx (mapTxStatus r.status)
  | .error => b.resolveTx .radioError
  | .txPacket => b

/-- The backend with other unparsed bytes. -/
def withParser (buf : Bytes) (b : LorahamBackend) : LorahamBackend :=
  { b with parser := buf }

/-- The pop-and-dispatch loop over one read.  `dispatch` resets the parser only
when it takes the link down, and then the loop ends. -/
def driveData (halted : BackendState → Bool) (data : Bytes) (b : LorahamBackend) :
    Driven Unit LorahamBackend :=
  daemonFormat.drive (fun f rest b => dispatch f (b.withParser rest))
    (fun b => halted b.state) b.parser data b

/-- Read DATA input.  The operational and the draining loop differ only in the
states that end them. -/
def dataLoop (halted : BackendState → Bool) (b : LorahamBackend) :
    List (RecvAnswer kReadChunk) → LorahamBackend
  | [] => b.answered fun t => { t with dataRecv := [] }
  | .failed :: answers =>
      (b.answered fun t => { t with dataRecv := answers }).handleDisconnect
  | .data chunk :: answers =>
      let b := b.answered fun t => { t with dataRecv := answers }
      if chunk.bytes = [] then b
      else
        let r := driveData halted chunk.bytes (b.record (.dataReceived chunk.bytes))
        match r.exit with
        | .halted => r.state
        | .malformed _ | .stuck => (r.state.withParser r.buf).handleDisconnect
        | .drained =>
            if chunk.bytes.length < kReadChunk then r.state.withParser r.buf
            else dataLoop halted (r.state.withParser r.buf) answers

/-- States in which the operational loop stops. -/
def operationalHalted (state : BackendState) : Bool :=
  state == .disconnected || state == .faulted || state == .draining

/-- States in which the draining loop stops. -/
def drainHalted (state : BackendState) : Bool :=
  state != .draining

/-! ## Polling -/

/-- What the CONF input means for the configuration in progress. -/
def concludeConfigure : ConfOutcome × LorahamBackend → LorahamBackend
  | (.fatal, b) => b.configFail
  | (.quiet, b) => b
  | (.status true, b) => b.configSucceed
  | (.status false, b) => b.configFail

/-- Write the commands, then read the terminal status reply. -/
def advanceConfigure (b : LorahamBackend) : LorahamBackend :=
  match b.pumpConfOut b.transport.confSendSome with
  | (false, b) => b.configFail
  | (true, b) =>
      let b := if b.confOut.length ≤ b.confOutOff then { b with awaitingStatus := true } else b
      if b.awaitingStatus then concludeConfigure (b.pumpConf true b.transport.confRecv)
      else b

/-- Ask whether both sockets are connected, and go on to configure if they are. -/
def advanceConnect (b : LorahamBackend) : LorahamBackend :=
  let answer := b.transport.pollConnect.headD .connecting
  let b := b.answered fun t => { t with pollConnect := t.pollConnect.tail }
  match answer with
  | .failed => b.configFail
  | .connecting => b
  | .connected => advanceConfigure { b with state := .configuring }

/-- CONF input first, then the packet that is being written, then DATA input. -/
def advanceOperational (b : LorahamBackend) : LorahamBackend :=
  match b.pumpConf false b.transport.confRecv with
  | (.fatal, b) => b.handleDisconnect
  | (_, b) =>
      if b.state = .txWriting then
        match b.pumpTxWrite b.transport.dataSendSome with
        | (.failed, b) => b.resetLinkUnconfigured.notify .onBackendFailure
        | (.complete, b) =>
            dataLoop operationalHalted { b with state := .txPending } b.transport.dataRecv
        | (.partly, b) => dataLoop operationalHalted b b.transport.dataRecv
      else dataLoop operationalHalted b b.transport.dataRecv

/-- Wait for the answer of an abandoned packet, up to a deadline. -/
def advanceDrain (b : LorahamBackend) : LorahamBackend :=
  if b.drainDeadlineAt ≤ b.now then b.enterFault
  else
    let b := b.drainConfInput b.transport.confRecv
    dataLoop drainHalted b b.transport.dataRecv

/-- What a poll does in each state. -/
def poll (b : LorahamBackend) : LorahamBackend :=
  match b.state with
  | .disconnected | .faulted => b
  | .connecting => if b.configDeadlineAt ≤ b.now then b.configFail else b.advanceConnect
  | .configuring => if b.configDeadlineAt ≤ b.now then b.configFail else b.advanceConfigure
  | .ready | .txWriting | .txPending => b.advanceOperational
  | .draining => b.advanceDrain

/-- Stop after a connection teardown.  Recovery keeps the daemon socket open. -/
def stop (b : LorahamBackend) : LorahamBackend :=
  if b.state = .draining ∨ b.state = .faulted then { b with started := false }
  else { b.resetLinkUnconfigured with started := false }

/-- The deadline of the state, or none. -/
def nextDeadlineMs (b : LorahamBackend) : Nat :=
  if b.state = .connecting ∨ b.state = .configuring then b.configDeadlineAt
  else if b.state = .draining then b.drainDeadlineAt
  else uint64Max

end LorahamBackend

/-- The LoRaHAM backend behind the interface the session is written against. -/
def lorahamRadio : RadioBackend LorahamBackend where
  start := LorahamBackend.start
  beginConfigure := LorahamBackend.beginConfigure
  submitTx := LorahamBackend.submitTx
  abandonPendingTx := LorahamBackend.abandonPendingTx

end LorahamBridge
