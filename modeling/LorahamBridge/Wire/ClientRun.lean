import LorahamBridge.Wire.ClientSession

/-!
# Lifetimes of the client's session

The firmware keeps one session for good and calls it as its connection comes and
goes, with whatever frames arrive.  For every sequence of calls: a transmission is
resolved at most once, under its own number and before the next one is accepted; what
is not the verdict of a matching `TX_RESULT` is `UNKNOWN`; and the session is ready
only behind the frames of a whole handshake.

Main results:

- Theorem `Session.onFrame_cases`: what a frame can do.
- Theorem `Client.transmissions_settled`: what becomes of transmissions in every lifetime.
- Theorem `Client.ready_behind_handshake`: what stands behind a session in operation.
-/

namespace LorahamBridge
namespace Extradio

open Foundation

/-! ## What a frame can do -/

namespace Session

/-- A session in operation. -/
def Operational (s : Session) : Prop :=
  s.state = .readyRx ∨ s.state = .txPending

/-- The outcomes of one frame. -/
inductive FrameStep (f : Frame) (s : Session) : Event × Session → Prop
  | failed (reason : ErrorCode) : FrameStep f s (s.fail reason)
  | pinged (htype : f.type = .ping) (hstate : s.Operational) : FrameStep f s (.sendPong, s)
  | acked (htype : f.type = .helloAck) (hstate : s.state = .handshake) :
      FrameStep f s (.none, { s with state := .authenticating })
  | challenged (htype : f.type = .authChallenge) (hstate : s.state = .authenticating) :
      FrameStep f s (.sendAuth, { s with nonce := f.payload.take kAuthNonceSize })
  | authenticated (htype : f.type = .authResult) (hstate : s.state = .authenticating)
      (hresult : f.payload.getD 0 0 = authOk) :
      FrameStep f s (.sendConfig, { s with state := .configuring })
  | configured (htype : f.type = .configResult) (hstate : s.state = .configuring)
      (hcfg : s.haveCfg = true) (hecho : decodeConfigEcho f = some s.cfg) :
      FrameStep f s (.ready, { s with state := .readyRx })
  | received (rx : RxPacket) (htype : f.type = .rxPacket) (hstate : s.Operational)
      (hrx : decodeRxPacket f = some rx) : FrameStep f s (.rx, { s with lastRx := rx })
  | stale (htype : f.type = .txResult)
      (hstate : s.state = .readyRx ∨ s.state = .txPending ∧ f.seq ≠ s.txSeq) :
      FrameStep f s (.none, s)
  | completed (htype : f.type = .txResult) (hvalid : validate f = .none)
      (hstate : s.state = .txPending) (hseq : f.seq = s.txSeq) :
      FrameStep f s
        (.txDone,
          { s with
            lastTxOutcome := outcomeOfCode (f.payload.getD 0 0)
            txInFlight := false
            state := .readyRx })

/-- What a `CONFIG_RESULT` does. -/
theorem onConfigResult_step {f : Frame} {s : Session} (htype : f.type = .configResult)
    (hstate : s.state = .configuring) : FrameStep f s (s.onConfigResult f) := by
  unfold onConfigResult
  split
  · exact .failed _
  · split
    · exact .failed _
    · rename_i echo hecho
      split <;> rename_i hequal
      · exact .failed _
      · simp only [Bool.or_eq_true, Bool.not_eq_true', not_or, Bool.not_eq_false] at hequal
        have hsame := (configEqual_iff _ _).mp hequal.2
        exact .configured htype hstate hequal.1 (hsame ▸ hecho)

/-- What an `RX_PACKET` does. -/
theorem onRxPacket_step {f : Frame} {s : Session} (htype : f.type = .rxPacket)
    (hstate : s.Operational) : FrameStep f s (s.onRxPacket f) := by
  unfold onRxPacket
  split
  · exact .failed _
  · rename_i rx hrx
    exact .received rx htype hstate hrx

/-- What a valid frame does in each state. -/
theorem onStateFrame_step {f : Frame} (s : Session) (hvalid : validate f = .none) :
    FrameStep f s (s.onStateFrame f) := by
  unfold onStateFrame
  split <;> rename_i hstate htype
  · exact .acked htype hstate
  · exact .challenged htype hstate
  · split <;> rename_i hresult
    · exact .failed _
    · exact .authenticated htype hstate (not_not.mp hresult)
  · exact onConfigResult_step htype hstate
  · exact onRxPacket_step htype (Or.inl hstate)
  · exact .stale htype (Or.inl hstate)
  · unfold onTxResult
    split <;> rename_i hseq
    · exact .stale htype (Or.inr ⟨hstate, hseq⟩)
    · exact .completed htype hvalid hstate (not_not.mp hseq)
  · exact onRxPacket_step htype (Or.inr hstate)
  · exact .failed _

/-- A frame has one of these outcomes. -/
theorem onFrame_cases (f : Frame) (s : Session) : FrameStep f s (s.onFrame f) := by
  unfold onFrame
  split
  · exact .failed _
  · rename_i hvalid
    split
    · exact .failed _
    · split <;> rename_i hping
      · split <;> rename_i hstate
        · exact .pinged hping hstate
        · exact .failed _
      · split
        · exact .failed _
        · exact onStateFrame_step s (not_not.mp hvalid)

/-- A timeout is ignored, or the session fails. -/
theorem onTimeout_cases (kind : TimeoutKind) (s : Session) :
    s.onTimeout kind = (.none, s) ∨ s.onTimeout kind = s.fail .timeout := by
  unfold onTimeout
  split <;> simp

/-- Full reset; the desired configuration is gone as well. -/
def reset (s : Session) : Session :=
  { s with haveCfg := false, cfg := RadioConfig.zero }.clearVolatile

end Session

/-! ## Calls and what the caller is told -/

namespace Session

/-- The calls of a transport. -/
inductive Call where
  | reset
  | setDesiredConfig (cfg : RadioConfig)
  | connecting
  | connected
  | disconnected
  | timeout (kind : TimeoutKind)
  | frame (f : Frame)
  | submit

/-- What the caller learns about its connection and its transmissions. -/
inductive Notice where
  | connected
  | submitted (seq : UInt16)
  | resolved (seq : UInt16) (outcome : Session.TxOutcome)
  | forgotten (seq : UInt16)
deriving DecidableEq

/-- The state after a call. -/
def call (c : Call) (s : Session) : Session :=
  match c with
  | .reset => s.reset
  | .setDesiredConfig cfg => (s.setDesiredConfig cfg).2
  | .connecting => s.onConnecting.2
  | .connected => s.onConnected.2
  | .disconnected => s.onDisconnected.2
  | .timeout kind => (s.onTimeout kind).2
  | .frame f => (s.onFrame f).2
  | .submit => s.submitTx.2

/-- The transmission in flight ends as `last_tx_outcome` says. -/
def settled (s after : Session) : List Notice :=
  if s.txInFlight then [.resolved s.txSeq after.lastTxOutcome] else []

/-- What an event says about a transmission: `EV_TX_DONE` and `EV_NEED_DISCONNECT` end it. -/
def noticesOf (event : Event) (s after : Session) : List Notice :=
  match event with
  | .txDone => [.resolved s.txSeq after.lastTxOutcome]
  | .needDisconnect => s.settled after
  | _ => []

/-- What a call tells about the transmissions. -/
def notices (c : Call) (s : Session) : List Notice :=
  match c with
  | .reset => if s.txInFlight then [.forgotten s.txSeq] else []
  | .setDesiredConfig _ | .connecting => []
  | .connected => if s.onConnected.1 = .sendHello then [.connected] else []
  | .disconnected =>
      if s.onDisconnected.1 then [.resolved s.txSeq s.onDisconnected.2.lastTxOutcome] else []
  | .timeout kind => noticesOf (s.onTimeout kind).1 s (s.onTimeout kind).2
  | .frame f => noticesOf (s.onFrame f).1 s (s.onFrame f).2
  | .submit => s.submitTx.1.toList.map .submitted

end Session

/-- A session with what its caller was told, and the frames since it last connected. -/
structure Client where
  session : Session
  told : List Session.Notice
  heard : List Frame

namespace Client

open Session

def new : Client :=
  ⟨Session.new, [], []⟩

/-- The frames of the present connection. -/
def hear (c : Call) (k : Client) : List Frame :=
  match c with
  | .frame f => k.heard ++ [f]
  | .connected => if k.session.onConnected.1 = .sendHello then [] else k.heard
  | _ => k.heard

/-- A call, with what it tells and what it has heard. -/
def step (k : Client) (c : Call) : Client where
  session := k.session.call c
  told := k.told ++ k.session.notices c
  heard := k.hear c

/-- The client after some calls. -/
def run (calls : List Call) : Client :=
  calls.foldl step new

theorem run_append_singleton (calls : List Call) (c : Call) :
    run (calls ++ [c]) = (run calls).step c := by
  simp [run]

end Client

/-! ## Transmissions -/

/-- What a caller can infer from the notices alone: how many transmissions the present
connection has accepted, and which one is still open. -/
structure Ledger where
  submissions : Nat
  pending : Option UInt16
deriving DecidableEq

namespace Ledger

open Session

/-- Numbers count from 1 and skip 0; one transmission is open at a time, and it ends once,
under its own number. -/
def step (l : Ledger) : Notice → Option Ledger
  | .connected => if l.pending = none then some ⟨0, none⟩ else none
  | .submitted seq =>
      if l.pending = none ∧ seq.toNat = l.submissions % 65535 + 1 then
        some ⟨l.submissions + 1, some seq⟩
      else none
  | .resolved seq outcome =>
      if l.pending = some seq ∧ outcome ≠ .none then some { l with pending := none } else none
  | .forgotten seq => if l.pending = some seq then some { l with pending := none } else none

/-- The session has a connection that has not failed. -/
def engaged (state : State) : Bool :=
  match state with
  | .disconnected | .connecting | .degraded => false
  | _ => true

/-- The ledger of a session. -/
structure Keeps (l : Ledger) (s : Session) : Prop where
  flight : s.txInFlight = true ↔ s.state = .txPending
  pending : l.pending = if s.txInFlight then some s.txSeq else none
  number : engaged s.state = true → s.nextSeq.toNat = l.submissions % 65535 + 1

variable {l : Ledger} {s s' : Session}

/-- Nothing was said, and the transmission in flight goes on. -/
theorem Keeps.same (h : l.Keeps s) (hflight : s'.txInFlight = s.txInFlight)
    (hstate : s'.state = .txPending ↔ s.state = .txPending) (hseq : s'.txSeq = s.txSeq)
    (hnext : engaged s'.state = true → engaged s.state = true ∧ s'.nextSeq = s.nextSeq) :
    l.Keeps s' where
  flight := by rw [hflight, hstate]; exact h.flight
  pending := by rw [hflight, hseq]; exact h.pending
  number hengaged := by
    obtain ⟨hbefore, heq⟩ := hnext hengaged
    rw [heq]
    exact h.number hbefore

/-- The transmission in flight, if there is one, ends with an outcome. -/
theorem Keeps.settled (h : l.Keeps s) (s' : Session) (hflight : s'.txInFlight = false)
    (hstate : s'.state ≠ .txPending)
    (houtcome : s.txInFlight = true → s'.lastTxOutcome ≠ .none)
    (hnext : engaged s'.state = true → engaged s.state = true ∧ s'.nextSeq = s.nextSeq) :
    ∃ l', (s.settled s').foldlM step l = some l' ∧ l'.Keeps s' := by
  have hpending := h.pending
  have hnumber : engaged s'.state = true → s'.nextSeq.toNat = l.submissions % 65535 + 1 := by
    intro hengaged
    obtain ⟨hbefore, heq⟩ := hnext hengaged
    rw [heq]
    exact h.number hbefore
  have hkept : ∀ pending, pending = none → Keeps { l with pending := pending } s' := by
    rintro pending rfl
    exact ⟨by simp [hflight, hstate], by simp [hflight], hnumber⟩
  cases hbefore : s.txInFlight with
  | true =>
      rw [if_pos hbefore] at hpending
      refine ⟨{ l with pending := none }, ?_, hkept none rfl⟩
      simp [Session.settled, hbefore, step, hpending, houtcome hbefore]
  | false =>
      simp only [hbefore, Bool.false_eq_true, if_false] at hpending
      exact ⟨l, by simp [Session.settled, hbefore], hkept l.pending hpending⟩

/-- A failure settles the transmission in flight. -/
theorem Keeps.fail (h : l.Keeps s) (reason : ErrorCode) :
    ∃ l', (s.settled (s.fail reason).2).foldlM step l = some l' ∧ l'.Keeps (s.fail reason).2 :=
  h.settled _ rfl (by simp [Session.fail]) (by simp +contextual [Session.fail])
    (by simp [Session.fail, engaged])

theorem outcomeOfCode_ne_none (code : UInt8) : outcomeOfCode code ≠ .none := by
  unfold outcomeOfCode
  repeat' split
  all_goals simp

/-- A frame. -/
theorem Keeps.frame (h : l.Keeps s) (f : Frame) :
    ∃ l', (s.notices (.frame f)).foldlM step l = some l' ∧ l'.Keeps (s.call (.frame f)) := by
  have hcases := s.onFrame_cases f
  simp only [notices, call]
  generalize s.onFrame f = r at hcases
  cases hcases with
  | failed reason => exact h.fail reason
  | pinged | stale => exact ⟨l, rfl, h⟩
  | acked _ hstate | challenged _ hstate | authenticated _ hstate | configured _ hstate =>
      exact ⟨l, rfl, h.same rfl (by simp [hstate]) rfl fun _ => ⟨by simp [hstate, engaged], rfl⟩⟩
  | received => exact ⟨l, rfl, h.same rfl Iff.rfl rfl fun hengaged => ⟨hengaged, rfl⟩⟩
  | completed htype hvalid hstate hseq =>
      have hflight := h.flight.mpr hstate
      have hsettled := h.settled { s with
        lastTxOutcome := outcomeOfCode (f.payload.getD 0 0)
        txInFlight := false
        state := .readyRx } rfl (by simp)
        (fun _ => outcomeOfCode_ne_none _)
        fun _ => ⟨by simp [hstate, engaged], rfl⟩
      simpa [Session.settled, hflight, noticesOf] using hsettled

/-- A submission takes the next number. -/
theorem Keeps.submit (h : l.Keeps s) :
    ∃ l', (s.notices .submit).foldlM step l = some l' ∧ l'.Keeps (s.call .submit) := by
  simp only [notices, call]
  unfold submitTx
  split <;> rename_i hsubmit
  · exact ⟨l, rfl, h⟩
  · simp only [canSubmitTx, Bool.not_eq_true', Bool.not_eq_false, Bool.and_eq_true,
      beq_iff_eq] at hsubmit
    have hpending : l.pending = none := by simpa [hsubmit.2] using h.pending
    have hnumber := h.number (by simp [hsubmit.1, engaged])
    refine ⟨⟨l.submissions + 1, some s.nextSeq⟩, by simp [step, hpending, hnumber], by simp,
      by simp, fun _ => ?_⟩
    simp only
    split <;> rename_i hwrap
    · have hlast : s.nextSeq.toNat = 65535 := by
        have := congrArg UInt16.toNat hwrap
        simp [UInt16.toNat_add] at this
        omega
      simp
      omega
    · have hnot : s.nextSeq.toNat ≠ 65535 := by
        intro hlast
        apply hwrap
        apply UInt16.toNat.inj
        simp [UInt16.toNat_add, hlast]
      rw [UInt16.toNat_add]
      simp
      omega

/-- Every call. -/
theorem Keeps.call (h : l.Keeps s) (c : Call) :
    ∃ l', (s.notices c).foldlM step l = some l' ∧ l'.Keeps (s.call c) := by
  cases c with
  | frame f => exact h.frame f
  | submit => exact h.submit
  | timeout kind =>
      simp only [notices, Session.call]
      rcases s.onTimeout_cases kind with hquiet | hfail
      · rw [hquiet]
        exact ⟨l, rfl, h⟩
      · rw [hfail]
        exact h.fail .timeout
  | setDesiredConfig cfg =>
      refine ⟨l, rfl, ?_⟩
      simp only [Session.call, setDesiredConfig]
      repeat' split
      all_goals exact h.same rfl Iff.rfl rfl fun hengaged => ⟨hengaged, rfl⟩
  | connecting =>
      refine ⟨l, rfl, ?_⟩
      simp only [Session.call, onConnecting]
      split <;> rename_i hstate
      · exact h
      · exact h.same rfl (by simp [not_not.mp hstate]) rfl (by simp [engaged])
  | connected =>
      simp only [notices, Session.call, onConnected]
      split <;> rename_i hstate
      · exact ⟨l, rfl, h⟩
      · have hidle : s.txInFlight = false := by
          rw [← Bool.not_eq_true, h.flight]
          intro hpending
          simp [hpending] at hstate
        have hpending : l.pending = none := by simpa [hidle] using h.pending
        exact ⟨⟨0, none⟩, by simp [step, hpending],
          by simp [clearVolatile], by simp [clearVolatile], by simp [clearVolatile]⟩
  | disconnected =>
      exact h.settled s.onDisconnected.2 rfl (by simp [onDisconnected, clearVolatile])
        (by simp +contextual [onDisconnected]) (by simp [onDisconnected, clearVolatile, engaged])
  | reset =>
      have hkept : ∀ pending, pending = none → Keeps { l with pending := pending } s.reset := by
        rintro pending rfl
        exact ⟨by simp [Session.reset, clearVolatile], by simp [Session.reset, clearVolatile],
          by simp [Session.reset, clearVolatile, engaged]⟩
      have hpending := h.pending
      simp only [notices, Session.call]
      split at hpending <;> rename_i hflight
      · exact ⟨{ l with pending := none }, by simp [hflight, step, hpending], hkept none rfl⟩
      · exact ⟨l, by simp [hflight], hkept l.pending hpending⟩

end Ledger

namespace Client

open Session

/-- The ledger of every lifetime is in order. -/
theorem run_ledger (calls : List Call) :
    ∃ l : Ledger, (run calls).told.foldlM Ledger.step ⟨0, none⟩ = some l ∧
      l.Keeps (run calls).session := by
  induction calls using List.reverseRecOn with
  | nil => exact ⟨⟨0, none⟩, rfl, by simp [run, new, Session.new], rfl, by simp [run, new,
      Session.new, Ledger.engaged]⟩
  | append_singleton calls c ih =>
      obtain ⟨l, hfold, hkeeps⟩ := ih
      obtain ⟨l', hstep, hkeeps'⟩ := hkeeps.call c
      rw [run_append_singleton]
      refine ⟨l', ?_, hkeeps'⟩
      simp only [step, List.foldlM_append, hfold]
      exact hstep

/-- The payloads of a `TX_RESULT`, and what each of them says. -/
def resultTable : List (Bytes × Session.TxOutcome) :=
  [([0x00], .success), ([0x01], .channelBusy), ([0x02], .timeout), ([0x03], .radioError)]

/-- A valid `TX_RESULT` is read as the table says. -/
theorem outcomeOfCode_mem {f : Frame} (hvalid : validate f = .none) (htype : f.type = .txResult) :
    (f.payload, outcomeOfCode (f.payload.getD 0 0)) ∈ resultTable := by
  have hseq : f.seq ≠ 0 := by
    intro hseq
    simp [validate, htype, hseq] at hvalid
  simp only [validate, htype, beq_self_eq_true, Bool.or_true, Bool.true_and, beq_iff_eq, hseq,
    if_false, Bool.not_true, Bool.false_and, Bool.false_eq_true] at hvalid
  split at hvalid <;> rename_i hlength
  · cases hvalid
  · split at hvalid <;> rename_i hbound
    · cases hvalid
    · obtain ⟨code, hcode⟩ := List.length_eq_one_iff.mp (not_not.mp hlength)
      rw [hcode] at hbound ⊢
      have hle : code.toNat ≤ 3 := by simpa [UInt8.lt_iff_toNat_lt, kTxResultMax, txrRadioError] using hbound
      have hcases : code = 0 ∨ code = 1 ∨ code = 2 ∨ code = 3 := by
        simp only [← UInt8.toNat_inj]
        simp
        omega
      rcases hcases with rfl | rfl | rfl | rfl <;> decide

/-- Only a matching `TX_RESULT` ends a transmission with anything but `UNKNOWN`. -/
theorem resolved_cases {c : Call} {s : Session} {seq : UInt16} {outcome : Session.TxOutcome}
    (h : .resolved seq outcome ∈ s.notices c) :
    outcome = .unknown ∨ ∃ f, c = .frame f ∧ validate f = .none ∧ f.type = .txResult ∧
      f.seq = seq ∧ (f.payload, outcome) ∈ resultTable := by
  have hfail : ∀ reason, Notice.resolved seq outcome ∈ s.settled (s.fail reason).2 →
      outcome = .unknown := by
    intro reason hmem
    unfold settled at hmem
    split at hmem <;> rename_i hflight
    · simp only [List.mem_singleton, Notice.resolved.injEq] at hmem
      simpa [fail, hflight] using hmem.2
    · cases hmem
  cases c with
  | frame f =>
      have hcases := s.onFrame_cases f
      simp only [notices] at h
      generalize s.onFrame f = r at hcases h
      cases hcases with
      | failed reason => exact Or.inl (hfail reason h)
      | completed htype hvalid hstate hseq =>
          simp only [noticesOf, List.mem_singleton, Notice.resolved.injEq] at h
          refine Or.inr ⟨f, rfl, hvalid, htype, hseq.trans h.1.symm, ?_⟩
          rw [h.2]
          exact outcomeOfCode_mem hvalid htype
      | _ => cases h
  | timeout kind =>
      simp only [notices] at h
      rcases s.onTimeout_cases kind with hquiet | htimeout
      · rw [hquiet] at h
        cases h
      · rw [htimeout] at h
        exact Or.inl (hfail _ h)
  | disconnected =>
      simp only [notices] at h
      split at h <;> rename_i hflight
      · simp only [List.mem_singleton, Notice.resolved.injEq] at h
        have hflight : s.txInFlight = true := hflight
        left
        simpa [onDisconnected, hflight] using h.2
      · cases h
  | setDesiredConfig | connecting => cases h
  | reset =>
      simp only [notices] at h
      split at h <;> simp at h
  | connected =>
      simp only [notices] at h
      split at h <;> simp at h
  | submit => simp [notices] at h

/-- In every lifetime of the client's session the caller's ledger is in order: one
transmission is open at a time, it has the next number of its connection, and it ends
once, under that number, before another is accepted or the connection begins anew; it is
still open exactly while the session is in `TX_PENDING`; and it ends with anything but
`UNKNOWN` only by a valid `TX_RESULT` of the same number, whose one byte says so. -/
theorem transmissions_settled (calls : List Call) :
    let k := run calls
    (∃ l : Ledger, k.told.foldlM Ledger.step ⟨0, none⟩ = some l ∧
      l.pending = if k.session.state = .txPending then some k.session.txSeq else none) ∧
    ∀ pre c post seq outcome, calls = pre ++ c :: post →
      .resolved seq outcome ∈ (run pre).session.notices c →
      outcome = .unknown ∨ ∃ f, c = .frame f ∧ validate f = .none ∧ f.type = .txResult ∧
        f.seq = seq ∧ (f.payload, outcome) ∈ resultTable := by
  refine ⟨?_, fun _ _ _ _ _ _ hmem => resolved_cases hmem⟩
  obtain ⟨l, hfold, hkeeps⟩ := run_ledger calls
  refine ⟨l, hfold, ?_⟩
  rw [hkeeps.pending]
  simp only [hkeeps.flight]

end Client

/-! ## The way to `READY_RX` -/

/-- The frames up to a finished handshake: the server's `HELLO_ACK` and its challenges. -/
def Greeting (frames : List Frame) : Prop :=
  ∃ ack challenges, frames = ack :: challenges ∧ ack.type = .helloAck ∧
    ∀ c ∈ challenges, c.type = .authChallenge

/-- The frames up to an admission: also the positive `AUTH_RESULT`. -/
def Admission (frames : List Frame) : Prop :=
  ∃ greeting result, frames = greeting ++ [result] ∧ Greeting greeting ∧
    result.type = .authResult ∧ result.payload.getD 0 0 = authOk

/-- The frames of a configured connection: also the echo of the desired configuration, and
then only packets, results and pings. -/
def Admitted (cfg : RadioConfig) (frames : List Frame) : Prop :=
  ∃ admission echo traffic, frames = admission ++ echo :: traffic ∧ Admission admission ∧
    decodeConfigEcho echo = some cfg ∧
    ∀ f ∈ traffic, f.type = .rxPacket ∨ f.type = .txResult ∨ f.type = .ping

/-- What the present connection has brought, by the state it led to. -/
def Progress (s : Session) (heard : List Frame) : Prop :=
  match s.state with
  | .disconnected | .connecting | .degraded => True
  | .handshake => heard = []
  | .authenticating => Greeting heard
  | .configuring => Admission heard
  | .readyRx | .txPending => s.haveCfg = true ∧ Admitted s.cfg heard

namespace Progress

open Session

variable {s s' : Session} {heard : List Frame}

/-- In operation the handshake is complete. -/
theorem operational (h : Progress s heard) (hstate : s.Operational) :
    s.haveCfg = true ∧ Admitted s.cfg heard := by
  unfold Progress at h
  rcases hstate with hstate | hstate <;> rw [hstate] at h <;> exact h

/-- With a complete handshake the session may be in operation. -/
theorem of_operational (hstate : s.Operational) (hcfg : s.haveCfg = true)
    (h : Admitted s.cfg heard) : Progress s heard := by
  unfold Progress
  rcases hstate with hstate | hstate <;> rw [hstate] <;> exact ⟨hcfg, h⟩

/-- A session without a connection needs no handshake behind it. -/
theorem of_failed (h : s.state = .degraded ∨ s.state = .disconnected ∨ s.state = .connecting) :
    Progress s heard := by
  unfold Progress
  rcases h with h | h | h <;> simp [h]

/-- More traffic on a configured connection. -/
theorem traffic (h : Progress s heard) (hstate : s.Operational) {f : Frame}
    (htype : f.type = .rxPacket ∨ f.type = .txResult ∨ f.type = .ping)
    (hstate' : s'.Operational) (hcfg : s'.haveCfg = s.haveCfg ∧ s'.cfg = s.cfg) :
    Progress s' (heard ++ [f]) := by
  obtain ⟨hhave, admission, echo, traffic, rfl, hadmission, hecho, htraffic⟩ :=
    h.operational hstate
  refine of_operational hstate' (hcfg.1.trans hhave)
    ⟨admission, echo, traffic ++ [f], by simp, hadmission, hcfg.2 ▸ hecho, ?_⟩
  intro g hg
  rcases List.mem_append.mp hg with hg | hg
  · exact htraffic g hg
  · rw [List.mem_singleton.mp hg]
    exact htype

/-- A frame keeps the account of the handshake. -/
theorem frame (h : Progress s heard) (f : Frame) :
    Progress (s.call (.frame f)) (heard ++ [f]) := by
  have hcases := s.onFrame_cases f
  simp only [call]
  generalize s.onFrame f = r at hcases
  cases hcases with
  | failed reason => exact of_failed (Or.inl rfl)
  | pinged htype hstate => exact h.traffic hstate (by simp [htype]) hstate ⟨rfl, rfl⟩
  | received rx htype hstate => exact h.traffic hstate (by simp [htype]) hstate ⟨rfl, rfl⟩
  | stale htype hstate =>
      have hstate : s.Operational := hstate.imp_right And.left
      exact h.traffic hstate (by simp [htype]) hstate ⟨rfl, rfl⟩
  | completed htype _ hstate =>
      exact h.traffic (Or.inr hstate) (by simp [htype]) (Or.inl rfl) ⟨rfl, rfl⟩
  | acked htype hstate =>
      unfold Progress at h
      rw [hstate] at h
      obtain rfl : heard = [] := h
      exact ⟨f, [], rfl, htype, by simp⟩
  | challenged htype hstate =>
      unfold Progress at h
      rw [hstate] at h
      obtain ⟨ack, challenges, rfl, hack, hchallenges⟩ := h
      unfold Progress
      simp only [hstate]
      refine ⟨ack, challenges ++ [f], rfl, hack, ?_⟩
      intro c hc
      rcases List.mem_append.mp hc with hc | hc
      · exact hchallenges c hc
      · rw [List.mem_singleton.mp hc]
        exact htype
  | authenticated htype hstate hresult =>
      unfold Progress at h
      rw [hstate] at h
      exact ⟨heard, f, rfl, h, htype, hresult⟩
  | configured htype hstate hcfg hecho =>
      unfold Progress at h
      rw [hstate] at h
      exact ⟨hcfg, heard, f, [], rfl, h, hecho, by simp⟩

/-- A timeout keeps the account of the handshake. -/
theorem timeout (h : Progress s heard) (kind : TimeoutKind) :
    Progress (s.onTimeout kind).2 heard := by
  rcases s.onTimeout_cases kind with hquiet | hfail
  · rw [hquiet]
    exact h
  · rw [hfail]
    exact of_failed (Or.inl rfl)

/-- A submission keeps the account of the handshake. -/
theorem submit (h : Progress s heard) : Progress s.submitTx.2 heard := by
  rcases s.submitTx_cases with hrefused | ⟨hstate, next, -, haccepted⟩
  · rw [hrefused]
    exact h
  · obtain ⟨hcfg, hadmitted⟩ := h.operational (Or.inl hstate)
    rw [haccepted]
    exact of_operational (Or.inr rfl) hcfg hadmitted

end Progress

namespace Client

open Session

/-- Every state of the session has the frames that lead to it behind it. -/
theorem run_progress (calls : List Call) : Progress (run calls).session (run calls).heard := by
  induction calls using List.reverseRecOn with
  | nil => exact Progress.of_failed (by simp [run, new, Session.new])
  | append_singleton calls c ih =>
      rw [run_append_singleton]
      generalize run calls = k at ih
      simp only [step]
      cases c with
      | frame f => exact ih.frame f
      | reset | disconnected => exact Progress.of_failed (by simp [call, Session.reset, onDisconnected, clearVolatile])
      | setDesiredConfig cfg =>
          simp only [call, setDesiredConfig, hear]
          split <;> rename_i hstate
          · exact ih
          · split
            · exact ih
            · exact Progress.of_failed (by simp [not_not.mp hstate])
      | connecting =>
          simp only [call, onConnecting, hear]
          split
          · exact ih
          · exact Progress.of_failed (by simp)
      | connected =>
          simp only [call, onConnected, hear]
          split
          · exact ih
          · rfl
      | timeout kind => exact ih.timeout kind
      | submit => exact ih.submit

/-- A session in operation has received, since it connected, a `HELLO_ACK`, any number of
challenges, a positive `AUTH_RESULT` and the exact echo of its desired configuration, in
this order and nothing else, and after that only packets, results and pings. -/
theorem ready_behind_handshake (calls : List Call) (h : (run calls).session.Operational) :
    let k := run calls
    ∃ ack challenges result echo traffic,
      k.heard = ack :: challenges ++ result :: echo :: traffic ∧ ack.type = .helloAck ∧
      (∀ c ∈ challenges, c.type = .authChallenge) ∧
      result.type = .authResult ∧ result.payload.getD 0 0 = authOk ∧
      k.session.haveCfg = true ∧ echo.type = .configResult ∧
      echo.payload = 0x00 :: packConfig k.session.cfg ∧
      decodeConfigEcho echo = some k.session.cfg ∧
      ∀ f ∈ traffic, f.type = .rxPacket ∨ f.type = .txResult ∨ f.type = .ping := by
  intro k
  obtain ⟨hcfg, admission, echo, traffic, hheard, hadmission, hecho, htraffic⟩ :=
    (run_progress calls).operational h
  obtain ⟨greeting, result, rfl, ⟨ack, challenges, rfl, hack, hchallenges⟩, htype, hresult⟩ :=
    hadmission
  obtain ⟨hechoed, hpayload⟩ := eq_of_decodeConfigEcho hecho
  exact ⟨ack, challenges, result, echo, traffic, by simp [k, hheard], hack, hchallenges, htype,
    hresult, hcfg, hechoed, hpayload, hecho, htraffic⟩

/-- A configuration of the 868 MHz band. -/
def desiredConfig : RadioConfig :=
  { freqHz := 868500000, bwHz := 250000, sf := 11, crDenom := 6, syncWord := 0x2B,
    preamble := 32, txPowerDbm := 17, crc := 1, ldro := 0 }

/-- A lifetime that reaches `READY_RX` behind a challenge. -/
def challengedLifetime : List Call :=
  [.setDesiredConfig desiredConfig, .connecting, .connected,
    .frame ⟨.helloAck, 0, [kVersion]⟩,
    .frame ⟨.authChallenge, 0, List.replicate kAuthNonceSize 7⟩,
    .frame ⟨.authResult, 0, [authOk]⟩,
    .frame ⟨.configResult, 0, cfgOk :: packConfig desiredConfig⟩, .frame ⟨.ping, 0, []⟩]

/-- The client of this lifetime is in operation. -/
theorem ready_behind_handshake_challenged :
    let k := run challengedLifetime
    k.session.Operational ∧ ∃ ack challenges result echo traffic,
      k.heard = ack :: challenges ++ result :: echo :: traffic ∧ ack.type = .helloAck ∧
      (∀ c ∈ challenges, c.type = .authChallenge) ∧
      result.type = .authResult ∧ result.payload.getD 0 0 = authOk ∧
      k.session.haveCfg = true ∧ echo.type = .configResult ∧
      echo.payload = 0x00 :: packConfig k.session.cfg ∧
      decodeConfigEcho echo = some k.session.cfg ∧
      ∀ f ∈ traffic, f.type = .rxPacket ∨ f.type = .txResult ∨ f.type = .ping :=
  have hready : (run challengedLifetime).session.Operational := Or.inl (by decide +kernel)
  ⟨hready, ready_behind_handshake challengedLifetime hready⟩

end Client

end Extradio
end LorahamBridge
