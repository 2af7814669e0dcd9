import LorahamBridge.Wire.Protocol

/-!
# The client's session

The other end of an XR connection is the firmware.  Its protocol machine is part of
the same library: it is fed the frames its transport has parsed, answers each with
the event the transport must act on, and fails closed on whatever it does not expect.
This file embeds the `Session` class of `external_radio_protocol`.

Main results:

- Theorem `onFrame_of_valid`: only the state decides about a valid frame.
- Theorem `submitTx_cases`: a transmission is refused, or takes the next number.
-/

namespace LorahamBridge
namespace Extradio

open Foundation

/-! ## States and events -/

/-- The states of the firmware's session. -/
inductive Session.State where
  | disconnected
  | connecting
  | handshake
  | authenticating
  | configuring
  | readyRx
  | txPending
  | degraded
deriving DecidableEq

/-- What the transport must do. -/
inductive Session.Event where
  | none
  | sendHello
  | sendAuth
  | sendConfig
  | ready
  | rx
  | txDone
  | sendPong
  | needDisconnect
deriving DecidableEq

/-- The final outcome of a submitted transmission. -/
inductive Session.TxOutcome where
  | none
  | success
  | channelBusy
  | timeout
  | radioError
  | unknown
deriving DecidableEq

inductive Session.TimeoutKind where
  | handshake
  | auth
  | config
  | pendingTx
deriving DecidableEq

/-- The firmware's session. -/
structure Session where
  state : Session.State
  txInFlight : Bool
  txSeq : UInt16
  nextSeq : UInt16
  haveCfg : Bool
  cfg : RadioConfig
  nonce : Bytes
  lastRx : RxPacket
  lastTxOutcome : Session.TxOutcome
  lastErr : ErrorCode
deriving DecidableEq

namespace Session

/-! ## Lifecycle -/

/-- Reset what belongs to one connection; the desired configuration stays. -/
def clearVolatile (s : Session) : Session :=
  { s with
    state := .disconnected
    txInFlight := false
    txSeq := 0
    nextSeq := 1
    lastTxOutcome := .none
    lastErr := .none
    nonce := List.replicate kAuthNonceSize 0
    lastRx := ⟨0, 0, []⟩ }

/-- A session after `reset`, as it is constructed. -/
def new : Session where
  state := .disconnected
  txInFlight := false
  txSeq := 0
  nextSeq := 1
  haveCfg := false
  cfg := RadioConfig.zero
  nonce := List.replicate kAuthNonceSize 0
  lastRx := ⟨0, 0, []⟩
  lastTxOutcome := .none
  lastErr := .none

/-- Set the configuration to ask for, before a connection begins. -/
def setDesiredConfig (cfg : RadioConfig) (s : Session) : Bool × Session :=
  if s.state ≠ .disconnected then (false, s)
  else if !radioConfigValid cfg then (false, s)
  else (true, { s with cfg := cfg, haveCfg := true })

/-- Fail closed.  A transmission in flight ends with an unknown outcome. -/
def fail (reason : ErrorCode) (s : Session) : Event × Session :=
  (.needDisconnect,
    { s with
      lastTxOutcome := if s.txInFlight then .unknown else s.lastTxOutcome
      txInFlight := false
      lastErr := reason
      state := .degraded })

/-- A connection is being made. -/
def onConnecting (s : Session) : Event × Session :=
  if s.state ≠ .disconnected then (.none, s)
  else (.none, { s with state := .connecting })

/-- The connection stands: the handshake begins with `HELLO`. -/
def onConnected (s : Session) : Event × Session :=
  if s.state ≠ .connecting ∧ s.state ≠ .disconnected then (.none, s)
  else (.sendHello, { s.clearVolatile with state := .handshake })

/-- The connection is gone; whether a transmission was in flight. -/
def onDisconnected (s : Session) : Bool × Session :=
  (s.txInFlight,
    { s.clearVolatile with lastTxOutcome := if s.txInFlight then .unknown else .none })

/-- A timer of the firmware expires; it counts only in the state it belongs to. -/
def onTimeout (kind : TimeoutKind) (s : Session) : Event × Session :=
  match kind, s.state with
  | .handshake, .connecting | .handshake, .handshake => s.fail .timeout
  | .auth, .authenticating => s.fail .timeout
  | .config, .configuring => s.fail .timeout
  | .pendingTx, .txPending => s.fail .timeout
  | _, _ => (.none, s)

/-! ## Frames -/

/-- The outcome a validated `TX_RESULT` code stands for. -/
def outcomeOfCode (code : UInt8) : TxOutcome :=
  if code = txrSuccess then .success
  else if code = txrChannelBusy then .channelBusy
  else if code = txrTimeout then .timeout
  else .radioError

/-- A received packet, in either operational state. -/
def onRxPacket (f : Frame) (s : Session) : Event × Session :=
  match decodeRxPacket f with
  | none => s.fail .badLength
  | some rx => (.rx, { s with lastRx := rx })

/-- The `CONFIG_RESULT` must echo the desired configuration. -/
def onConfigResult (f : Frame) (s : Session) : Event × Session :=
  if f.payload.length = 1 then s.fail .config
  else
    match decodeConfigEcho f with
    | none => s.fail .config
    | some echo =>
        if !s.haveCfg || !configEqual echo s.cfg then s.fail .config
        else (.ready, { s with state := .readyRx })

/-- A `TX_RESULT` while a transmission is pending. -/
def onTxResult (f : Frame) (s : Session) : Event × Session :=
  if f.seq ≠ s.txSeq then (.none, s)
  else
    (.txDone,
      { s with
        lastTxOutcome := outcomeOfCode (f.payload.getD 0 0)
        txInFlight := false
        state := .readyRx })

/-- The frames that depend on the state. -/
def onStateFrame (f : Frame) (s : Session) : Event × Session :=
  match s.state, f.type with
  | .handshake, .helloAck => (.none, { s with state := .authenticating })
  | .authenticating, .authChallenge =>
      (.sendAuth, { s with nonce := f.payload.take kAuthNonceSize })
  | .authenticating, .authResult =>
      if f.payload.getD 0 0 ≠ authOk then s.fail .auth
      else (.sendConfig, { s with state := .configuring })
  | .configuring, .configResult => s.onConfigResult f
  | .readyRx, .rxPacket => s.onRxPacket f
  | .readyRx, .txResult => (.none, s)
  | .txPending, .txResult => s.onTxResult f
  | .txPending, .rxPacket => s.onRxPacket f
  | _, _ => s.fail .badState

/-- Feed one parsed frame. -/
def onFrame (f : Frame) (s : Session) : Event × Session :=
  if validate f ≠ .none then s.fail (validate f)
  else if f.type = .error then s.fail .remote
  else if f.type = .ping then
    if s.state = .readyRx ∨ s.state = .txPending then (.sendPong, s) else s.fail .badState
  else if f.type = .pong then s.fail .badState
  else s.onStateFrame f

/-- The keepalive and `ERROR` apart, only the state decides about a valid frame. -/
theorem onFrame_of_valid {f : Frame} (s : Session) (hvalid : validate f = .none)
    (htype : f.type ≠ .error ∧ f.type ≠ .ping ∧ f.type ≠ .pong) :
    s.onFrame f = s.onStateFrame f := by
  simp [onFrame, hvalid, htype]

/-- A configuration is accepted only if it is the desired one. -/
theorem onConfigResult_cases (s : Session) (cfg : RadioConfig)
    (hvalid : radioConfigValid cfg = true) (seq : UInt16) :
    s.onConfigResult ⟨.configResult, seq, cfgOk :: packConfig cfg⟩ = s.fail .config ∨
      cfg = s.cfg ∧ s.onConfigResult ⟨.configResult, seq, cfgOk :: packConfig cfg⟩ =
        (.ready, { s with state := .readyRx }) := by
  have hlength : (cfgOk :: packConfig cfg).length = 1 + kConfigPayloadSize := by
    simp [Nat.add_comm]
  have hecho : decodeConfigEcho ⟨.configResult, seq, cfgOk :: packConfig cfg⟩ = some cfg := by
    simp only [decodeConfigEcho, hlength, List.getD_cons_zero, List.drop_one, List.tail_cons]
    simpa using unpackConfig_packConfig hvalid
  unfold onConfigResult
  rw [if_neg (by simp only [hlength]; decide), hecho]
  simp only
  split <;> rename_i hequal
  · exact Or.inl rfl
  · simp only [Bool.or_eq_true, Bool.not_eq_true', not_or, Bool.not_eq_false] at hequal
    exact Or.inr ⟨(configEqual_iff _ _).mp hequal.2, rfl⟩

/-- A valid packet is delivered. -/
theorem onRxPacket_of_valid {f : Frame} (s : Session) (htype : f.type = .rxPacket)
    (hvalid : validate f = .none) :
    ∃ rx, s.onRxPacket f = (.rx, { s with lastRx := rx }) := by
  unfold onRxPacket
  cases hdecode : decodeRxPacket f with
  | some rx => exact ⟨rx, rfl⟩
  | none =>
      simp only [validate, htype] at hvalid
      simp only [decodeRxPacket, htype] at hdecode
      repeat' split at hvalid
      all_goals first | contradiction | simp_all

/-! ## Transmissions -/

/-- In operation with nothing in flight. -/
def canSubmitTx (s : Session) : Bool :=
  s.state == .readyRx && !s.txInFlight

/-- Allocate a sequence number and enter `TX_PENDING`; `none` if not ready. -/
def submitTx (s : Session) : Option UInt16 × Session :=
  if !s.canSubmitTx then (none, s)
  else
    let next := s.nextSeq + 1
    (some s.nextSeq,
      { s with
        nextSeq := if next = 0 then 1 else next
        txSeq := s.nextSeq
        txInFlight := true
        state := .txPending })

/-- A transmission is refused, or takes the next sequence number. -/
theorem submitTx_cases (s : Session) :
    s.submitTx = (none, s) ∨
      s.state = .readyRx ∧ ∃ next, next ≠ 0 ∧ s.submitTx =
        (some s.nextSeq,
          { s with
            nextSeq := next
            txSeq := s.nextSeq
            txInFlight := true
            state := .txPending }) := by
  unfold submitTx
  split <;> rename_i hsubmit
  · exact Or.inl rfl
  · simp only [canSubmitTx, Bool.not_eq_true', Bool.not_eq_false, Bool.and_eq_true,
      beq_iff_eq] at hsubmit
    refine Or.inr ⟨hsubmit.1, _, ?_, rfl⟩
    split
    · decide
    · assumption

end Session

end Extradio
end LorahamBridge
