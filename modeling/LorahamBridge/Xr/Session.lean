import LorahamBridge.Backend.RadioBackend
import LorahamBridge.Xr.BoundedBuffer
import LorahamBridge.Xr.Auth

/-!
# The XR server session

One session is the bridge's protocol machine for one connected client: it takes
inbound bytes, clock ticks and backend callbacks, drives the backend, and appends
frames to a bounded output queue.  This file embeds `xr_session`.

The session is written against any backend; a backend state is threaded through
the operations that call it.  `id`, `drained` and `log` are history variables:
they identify the session, keep the output bytes that `send` has accepted, and
record what the session received, emitted and called.  `entropy` is what the
random source will answer when the session asks for its challenge.
-/

namespace LorahamBridge

open Foundation Extradio

/-! ## State -/

/-- The phases of a session. -/
inductive Phase where
  | waitHello
  | waitAuth
  | waitConfigure
  | configuring
  | ready
  | closed
deriving DecidableEq

/-- Why a session was closed. -/
inductive CloseReason where
  | none
  | outputOverflow
  | malformedFrame
  | parserError
  | badState
  | remoteError
  | authFailed
  | authError
  | configFailed
  | backendFailure
  | handshakeTimeout
  | authTimeout
  | configTimeout
  | pongTimeout
  | txTimeoutUncertain
  | internalError
deriving DecidableEq

/-- Session timeouts in milliseconds. -/
structure Timeouts where
  handshakeMs : Nat
  authMs : Nat
  configMs : Nat
  txMs : Nat
  pingIntervalMs : Nat
  pongTimeoutMs : Nat

/-- The timeouts of a bridge that is started without options. -/
def defaultTimeouts : Timeouts where
  handshakeMs := 5000
  authMs := 5000
  configMs := 5000
  txMs := 10000
  pingIntervalMs := 15000
  pongTimeoutMs := 10000

/-- What a session is constructed with, and the unspecified parts of its
environment: the keyed hash and the growth policy of the output queue. -/
structure XrEnv where
  auth : AuthConfig
  hmac : Hmac
  timeouts : Timeouts
  maxOutbox : Nat
  grow : Nat → Nat → Nat

/-- What a session did, in order. -/
inductive SessionEvent where
  | received (frame : Frame)
  | emitted (frame : Frame)
  | verified (response : Bytes) (ok : Bool)
  | configureCalled (requested : RadioConfig) (token : UInt32)
  | submitCalled (seq : UInt16) (payload : Bytes) (accepted : Bool)
  | abandonCalled
  | pongAccepted
  | callback (call : SinkCall)
  | closed (reason : CloseReason)
deriving DecidableEq

/-- The session of a client.  The history variables `drained` and `log` are the bytes the socket
has taken and what has happened. -/
structure XrSession where
  id : Nat
  entropy : Option Nonce
  parser : Bytes
  outbox : BoundedBuffer
  phase : Phase
  closeReason : CloseReason
  deadlineActive : Bool
  deadlineAt : Nat
  deadlineReason : CloseReason
  nonce : Bytes
  appliedCfg : RadioConfig
  requestedCfg : RadioConfig
  configOpToken : UInt32
  txInFlight : Bool
  txSeq : UInt16
  txDeadlineAt : Nat
  awaitingPong : Bool
  nextPingAt : Nat
  pongDeadlineAt : Nat
  pingSentAt : Nat
  lastPongRttMs : Nat
  latePongWarns : UInt32
  drained : Bytes
  log : List SessionEvent
deriving DecidableEq

/-- Only these message types are legal from the firmware. -/
def isClientMessage : MsgType → Bool
  | .hello | .authResponse | .configure | .txRequest | .pong | .error => true
  | _ => false

/-- The code of an outcome on the wire. -/
def txOutcomeToWire : TxOutcome → UInt8
  | .success => txrSuccess
  | .channelBusy => txrChannelBusy
  | .timeout => txrTimeout
  | .radioError => txrRadioError

namespace XrSession

/-- A constructed session, before it is opened. -/
def new (env : XrEnv) (id : Nat) (entropy : Option Nonce) : XrSession where
  id := id
  entropy := entropy
  parser := []
  outbox := BoundedBuffer.new env.maxOutbox
  phase := .closed
  closeReason := .none
  deadlineActive := false
  deadlineAt := 0
  deadlineReason := .none
  nonce := List.replicate kAuthNonceSize 0
  appliedCfg := RadioConfig.zero
  requestedCfg := RadioConfig.zero
  configOpToken := 0
  txInFlight := false
  txSeq := 0
  txDeadlineAt := 0
  awaitingPong := false
  nextPingAt := 0
  pongDeadlineAt := 0
  pingSentAt := 0
  lastPongRttMs := 0
  latePongWarns := 0
  drained := []
  log := []

/-- Append one event to the history. -/
def record (e : SessionEvent) (s : XrSession) : XrSession :=
  { s with log := s.log ++ [e] }

/-- The bytes the socket has accepted, followed by those still queued. -/
def output (s : XrSession) : Bytes :=
  s.drained ++ s.outbox.data

/-! ## Closing and emitting -/

/-- Set the deadline of a phase. -/
def arm (now timeoutMs : Nat) (onExpire : CloseReason) (s : XrSession) : XrSession :=
  { s with
    deadlineActive := true
    deadlineAt := addMs now timeoutMs
    deadlineReason := onExpire }

/-- Close with the first reason only.  The output queue stays as it is, so that a
final frame can still be flushed. -/
def close (reason : CloseReason) (s : XrSession) : XrSession :=
  if s.phase = .closed then s
  else { s with
    closeReason := reason
    phase := .closed
    deadlineActive := false
    txInFlight := false
    log := s.log ++ [.closed reason] }

/-- Queue one frame.  A frame that does not fit closes the session. -/
def emit (env : XrEnv) (type : MsgType) (seq : UInt16) (payload : Bytes) (s : XrSession) :
    Bool × XrSession :=
  match encode kMaxFrame type seq payload with
  | none => (false, s.close .internalError)
  | some bytes =>
      match s.outbox.append env.grow bytes with
      | none => (false, s.close .outputOverflow)
      | some outbox =>
          (true, { s with
            outbox := outbox
            log := s.log ++ [.emitted ⟨type, seq, payload⟩] })

/-- Best-effort delivery of a final frame, then close. -/
def emitAndClose (env : XrEnv) (type : MsgType) (payload : Bytes) (reason : CloseReason)
    (s : XrSession) : XrSession :=
  ((s.emit env type 0 payload).2).close reason

/-! ## Inbound frames -/

section Frames

variable {β : Type} (R : RadioBackend β) (env : XrEnv) (now : Nat)

/-- `HELLO_ACK`, then a challenge or, in open mode, `AUTH_OK` at once. -/
def handleHello (s : XrSession) : XrSession :=
  match s.emit env .helloAck 0 [kVersion] with
  | (false, s) => s
  | (true, s) =>
      if env.auth.passwordConfigured then
        match s.entropy with
        | none => s.close .authError
        | some nonce =>
            match emit env .authChallenge 0 nonce.bytes { s with nonce := nonce.bytes } with
            | (false, s) => s
            | (true, s) => arm now env.timeouts.authMs .authTimeout { s with phase := .waitAuth }
      else
        match s.emit env .authResult 0 [authOk] with
        | (false, s) => s
        | (true, s) =>
            arm now env.timeouts.configMs .configTimeout { s with phase := .waitConfigure }

/-- The client's proof: a wrong one ends the session. -/
def handleAuthResponse (f : Frame) (s : XrSession) : XrSession :=
  let ok := verifyAuthResponse env.hmac env.auth s.nonce f.payload
  let s := s.record (.verified f.payload ok)
  if ok then
    match s.emit env .authResult 0 [authOk] with
    | (false, s) => s
    | (true, s) =>
        arm now env.timeouts.configMs .configTimeout { s with phase := .waitConfigure }
  else s.emitAndClose env .authResult [authFail] .authFailed

/-- Start the asynchronous configuration; its result arrives as a callback. -/
def handleConfigure (f : Frame) (s : XrSession) (b : β) : XrSession × β :=
  match (decodeConfig f).filter radioConfigValid with
  | none => (s.emitAndClose env .configResult [cfgInvalid] .configFailed, b)
  | some requested =>
      match R.beginConfigure requested b with
      | (token, b) =>
          let s := s.record (.configureCalled requested token)
          if token = 0 then
            (s.emitAndClose env .configResult [cfgUnsupported] .configFailed, b)
          else
            (arm now env.timeouts.configMs .configTimeout
              { s with
                configOpToken := token
                requestedCfg := requested
                phase := .configuring }, b)

/-- A solicited `PONG`; a round trip of half the timeout or more is counted. -/
def acceptPong (s : XrSession) : XrSession :=
  let rtt := subMs now s.pingSentAt
  { s with
    awaitingPong := false
    lastPongRttMs := rtt
    latePongWarns :=
      if env.timeouts.pongTimeoutMs ≤ (rtt * 2) % 2 ^ 64 then s.latePongWarns + 1
      else s.latePongWarns
    nextPingAt := addMs now env.timeouts.pingIntervalMs
    log := s.log ++ [.pongAccepted] }

/-- Hand a transmission to the backend.  A refusal is uncertain and closes. -/
def submitRequest (f : Frame) (s : XrSession) (b : β) : XrSession × β :=
  let s := { s with txSeq := f.seq }
  match R.submitTx f.payload b with
  | (false, b) => ((s.record (.submitCalled f.seq f.payload false)).close .backendFailure, b)
  | (true, b) =>
      ({ s.record (.submitCalled f.seq f.payload true) with
        txInFlight := true
        txDeadlineAt := addMs now env.timeouts.txMs }, b)

/-- A frame in operation: a pong that is awaited, or a request while nothing is in flight. -/
def handleReadyFrame (f : Frame) (s : XrSession) (b : β) : XrSession × β :=
  match f.type with
  | .pong =>
      if s.awaitingPong then (s.acceptPong env now, b) else (s.close .badState, b)
  | .txRequest =>
      if s.txInFlight then (s.close .badState, b) else submitRequest R env now f s b
  | _ => (s.close .badState, b)

/-- Strict validation, direction check, and the phase's own handling. -/
def handleFrame (f : Frame) (s : XrSession) (b : β) : XrSession × β :=
  let s := s.record (.received f)
  if validate f ≠ .none then (s.close .malformedFrame, b)
  else if !isClientMessage f.type then (s.close .badState, b)
  else if f.type = .error then (s.close .remoteError, b)
  else
    match s.phase with
    | .waitHello =>
        if f.type ≠ .hello then (s.close .badState, b) else (s.handleHello env now, b)
    | .waitAuth =>
        if f.type ≠ .authResponse then (s.close .badState, b)
        else (s.handleAuthResponse env now f, b)
    | .waitConfigure =>
        if f.type ≠ .configure then (s.close .badState, b)
        else handleConfigure R env now f s b
    | .configuring => (s.close .badState, b)
    | .ready => handleReadyFrame R env now f s b
    | .closed => (s, b)

def withParser (buf : Bytes) (s : XrSession) : XrSession :=
  { s with parser := buf }

/-- Feed inbound bytes: pop and handle frames until the read is used up or the
session closes. -/
def feed (data : Bytes) (s : XrSession) (b : β) : XrSession × β :=
  if s.phase = .closed then (s, b)
  else
    let r := xrFormat.drive
      (fun f rest p => handleFrame R env now f (p.1.withParser rest) p.2)
      (fun p => p.1.phase == .closed) s.parser data (s, b)
    match r.exit with
    | .halted => r.state
    | .malformed _ | .stuck => ((r.state.1.withParser r.buf).close .parserError, r.state.2)
    | .drained => (r.state.1.withParser r.buf, r.state.2)

/-- Phase deadlines, the transmission ceiling, and the keepalive. -/
def tick (s : XrSession) (b : β) : XrSession × β :=
  if s.phase = .closed then (s, b)
  else if s.deadlineActive ∧ s.deadlineAt ≤ now then (s.close s.deadlineReason, b)
  else if s.phase ≠ .ready then (s, b)
  else if s.txInFlight ∧ s.txDeadlineAt ≤ now then
    ((s.record .abandonCalled).close .txTimeoutUncertain, R.abandonPendingTx b)
  else if s.awaitingPong then
    (if s.pongDeadlineAt ≤ now then s.close .pongTimeout else s, b)
  else if s.nextPingAt ≤ now then
    match s.emit env .ping 0 [] with
    | (false, s) => (s, b)
    | (true, s) =>
        ({ s with
          awaitingPong := true
          pingSentAt := now
          pongDeadlineAt := addMs now env.timeouts.pongTimeoutMs }, b)
  else (s, b)

/-- Begin a fresh connection: arm the handshake deadline and start the backend. -/
def openSession (s : XrSession) (b : β) : XrSession × β :=
  (arm now env.timeouts.handshakeMs .handshakeTimeout
    { s with
      parser := []
      outbox := s.outbox.clear
      phase := .waitHello
      closeReason := .none
      txInFlight := false
      awaitingPong := false },
    R.start b)

end Frames

/-! ## Backend callbacks -/

section Callbacks

variable (env : XrEnv) (now : Nat)

/-- The session goes into operation: its timer stops and the first ping is planned. -/
def enterReady (s : XrSession) : XrSession :=
  { s with
    phase := .ready
    deadlineActive := false
    awaitingPong := false
    nextPingAt := addMs now env.timeouts.pingIntervalMs }

/-- Success is reported only for the pending request, applied exactly. -/
def onConfigureComplete (opToken : UInt32) (res : ConfigureResult) (s : XrSession) : XrSession :=
  if s.phase ≠ .configuring then s
  else if opToken ≠ s.configOpToken then s
  else if !res.applied || !configEqual res.effective s.requestedCfg then
    s.emitAndClose env .configResult [cfgUnsupported] .configFailed
  else
    match emit env .configResult 0 (cfgOk :: packConfig res.effective)
        { s with appliedCfg := res.effective } with
    | (false, s) => s
    | (true, s) => s.enterReady env now

/-- Payload of an `RX_PACKET` frame: signal quality, length, data. -/
def rxPayload (rx : RxEvent) : Bytes :=
  putBE16 rx.rssiCdbm.toUInt16 ++ putBE16 rx.snrCdb.toUInt16 ++
    putBE16 rx.data.length.toUInt16 ++ rx.data

/-- A received packet is forwarded in operation, if it may be. -/
def onRx (rx : RxEvent) (s : XrSession) : XrSession :=
  if s.phase ≠ .ready then s
  else if !rxPayloadAcceptable rx.data.length then s
  else (s.emit env .rxPacket 0 (rxPayload rx)).2

/-- The result of the request in flight, under its number. -/
def mapAndSendTxResult (outcome : TxOutcome) (s : XrSession) : XrSession :=
  (emit env .txResult s.txSeq [txOutcomeToWire outcome] { s with txInFlight := false }).2

/-- An outcome without a request in flight is ignored. -/
def onTxComplete (outcome : TxOutcome) (s : XrSession) : XrSession :=
  if s.txInFlight then s.mapAndSendTxResult env outcome else s

/-- The session cannot go on without the radio. -/
def onBackendFailure (s : XrSession) : XrSession :=
  s.close .backendFailure

/-- A callback of the backend sink. -/
def onCall (call : SinkCall) (s : XrSession) : XrSession :=
  let s := s.record (.callback call)
  match call with
  | .onRx rx => s.onRx env rx
  | .onTxComplete outcome => s.onTxComplete env outcome
  | .onBackendFailure => s.onBackendFailure
  | .onConfigureComplete opToken res => s.onConfigureComplete env now opToken res

end Callbacks

/-! ## Queries and output -/

/-- Remove bytes from the front of the output queue. -/
def outConsume (n : Nat) (s : XrSession) : XrSession :=
  { s with outbox := s.outbox.consume n }

/-- The socket accepts bytes it was offered. -/
def accepted (bytes : Bytes) (s : XrSession) : XrSession :=
  { s with drained := s.drained ++ bytes }

/-- One `send` of the whole output queue, of which the socket accepts at most `n` bytes.
What it accepts is recorded at its answer; the session then consumes as many. -/
def sendSome (n : Nat) (s : XrSession) : XrSession :=
  (s.accepted (s.outbox.data.take n)).outConsume (s.outbox.data.take n).length

/-- The nearest active deadline. -/
def nextDeadlineMs (s : XrSession) : Nat :=
  if s.phase = .closed then uint64Max
  else
    let next := if s.deadlineActive then min uint64Max s.deadlineAt else uint64Max
    if s.phase = .ready then
      let next := if s.txInFlight then min next s.txDeadlineAt else next
      if s.awaitingPong then min next s.pongDeadlineAt else min next s.nextPingAt
    else next

end XrSession

end LorahamBridge
