import LorahamBridge.Xr.ServerSteps
import LorahamBridge.Xr.SessionRun

/-!
# Session and backend move together

The session has six phases and the backend eight states, and they are updated in
different places: by inbound frames, by callbacks in the middle of a poll, by
deadlines, and by the teardown of a connection.  The coupling invariant says which
combinations exist.

Main results:

- Definition `coupling`: the invariant, with every step it survives.
- Theorems `SessionInvariant.run_sessions` and `SessionInvariant.run_server`: invariants
  of sessions in the server.
- Theorem `session_backend_coupled`: the combinations of phase and state in every
  reachable state, and why a transmission can be refused.
-/

namespace LorahamBridge

open Foundation Extradio LorahamBackend XrSession

/-- The backend states in which no session owns the link. -/
def Parked (state : BackendState) : Prop :=
  state = .disconnected ∨ state = .draining ∨ state = .faulted

/-- The sessions of the past carry the numbers below the next one. -/
structure Numbered (past : List XrSession) : Prop where
  eq : past.map XrSession.id = List.range past.length

/-- Session and backend of an active connection. -/
structure Coupled (s : XrSession) (b : LorahamBackend) : Prop where
  sink : b.sink = some s.id
  started : b.started = true
  flight : s.txInFlight = true → s.phase = .ready
  early : s.phase = .waitHello ∨ s.phase = .waitAuth ∨ s.phase = .waitConfigure →
    Parked b.state
  configuring : s.phase = .configuring →
    (b.state = .connecting ∨ b.state = .configuring) ∧ s.configOpToken = b.configToken ∧
      s.requestedCfg = b.pendingCfg
  idle : s.phase = .ready → s.txInFlight = false → b.state = .ready
  busy : s.phase = .ready → s.txInFlight = true → b.state = .txWriting ∨ b.state = .txPending
  epoch : b.state = .txWriting ∨ b.state = .txPending → b.pendingEpoch = b.txEpoch

/-- A backend without a client. -/
structure Detached (b : LorahamBackend) : Prop where
  sink : b.sink = none
  parked : Parked b.state

namespace Coupled

variable {s s' : XrSession} {b b' : LorahamBackend}

/-- A closed session is coupled to any attached backend. -/
theorem of_closed (hclosed : s.phase = .closed) (hflight : s.txInFlight = false)
    (hsink : b.sink = some s.id) (hstarted : b.started = true)
    (hepoch : b.state = .txWriting ∨ b.state = .txPending → b.pendingEpoch = b.txEpoch) :
    Coupled s b where
  sink := hsink
  started := hstarted
  flight := by simp [hflight]
  early := by simp [hclosed]
  configuring := by simp [hclosed]
  idle := by simp [hclosed]
  busy := by simp [hclosed]
  epoch := hepoch

/-- A session before its configuration is coupled to a parked backend. -/
theorem of_early (hphase : s.phase = .waitHello ∨ s.phase = .waitAuth ∨ s.phase = .waitConfigure)
    (hflight : s.txInFlight = false) (hparked : Parked b.state) (hsink : b.sink = some s.id)
    (hstarted : b.started = true) : Coupled s b where
  sink := hsink
  started := hstarted
  flight := by simp [hflight]
  early := fun _ => hparked
  configuring := fun h => by simp [h] at hphase
  idle := fun h => by simp [h] at hphase
  busy := fun h => by simp [h] at hphase
  epoch := fun h => by
    rcases hparked with hs | hs | hs <;> simp [hs] at h

/-- A session that waits for the radio is coupled to a backend that connects for it. -/
theorem of_configuring (hphase : s.phase = .configuring) (hflight : s.txInFlight = false)
    (hstate : b.state = .connecting) (htoken : s.configOpToken = b.configToken)
    (hcfg : s.requestedCfg = b.pendingCfg) (hsink : b.sink = some s.id)
    (hstarted : b.started = true) : Coupled s b where
  sink := hsink
  started := hstarted
  flight := by simp [hflight]
  early := by simp [hphase]
  configuring := fun _ => ⟨Or.inl hstate, htoken, hcfg⟩
  idle := by simp [hphase]
  busy := by simp [hphase]
  epoch := by simp [hstate]

/-- A session in operation is coupled to a ready backend. -/
theorem of_ready (hphase : s.phase = .ready) (hflight : s.txInFlight = false)
    (hstate : b.state = .ready) (hsink : b.sink = some s.id) (hstarted : b.started = true) :
    Coupled s b where
  sink := hsink
  started := hstarted
  flight := by simp [hflight]
  early := by simp [hphase]
  configuring := by simp [hphase]
  idle := fun _ _ => hstate
  busy := by simp [hflight]
  epoch := by simp [hstate]

/-- A transmission in flight is coupled to a backend that transmits in the same epoch. -/
theorem of_flight (hphase : s.phase = .ready) (hflight : s.txInFlight = true)
    (hstate : b.state = .txWriting ∨ b.state = .txPending) (hepoch : b.pendingEpoch = b.txEpoch)
    (hsink : b.sink = some s.id) (hstarted : b.started = true) : Coupled s b where
  sink := hsink
  started := hstarted
  flight := fun _ => hphase
  early := by simp [hphase]
  configuring := by simp [hphase]
  idle := by simp [hflight]
  busy := fun _ _ => hstate
  epoch := fun _ => hepoch

/-- Closing keeps the coupling. -/
theorem close (h : Coupled s b) (hclosed : s'.phase = .closed) (hflight : s'.txInFlight = false)
    (hid : s'.id = s.id) : Coupled s' b :=
  of_closed hclosed hflight (by rw [h.sink, hid]) h.started h.epoch

/-- A step that leaves the control fields of the backend alone keeps the coupling. -/
theorem same (h : Coupled s b) (hsink : b'.sink = b.sink) (hstarted : b'.started = b.started)
    (hstate : b'.state = b.state) (htoken : b'.configToken = b.configToken)
    (hcfg : b'.pendingCfg = b.pendingCfg) (hpending : b'.pendingEpoch = b.pendingEpoch)
    (hepoch : b'.txEpoch = b.txEpoch) : Coupled s b' where
  sink := by rw [hsink, h.sink]
  started := by rw [hstarted, h.started]
  flight := h.flight
  early := by rw [hstate]; exact h.early
  configuring := by rw [hstate, htoken, hcfg]; exact h.configuring
  idle := by rw [hstate]; exact h.idle
  busy := by rw [hstate]; exact h.busy
  epoch := by rw [hstate, hpending, hepoch]; exact h.epoch

/-- A session step that keeps phase, token and flight keeps the coupling. -/
theorem same_session (h : Coupled s b) (hid : s'.id = s.id) (hphase : s'.phase = s.phase)
    (hflight : s'.txInFlight = s.txInFlight) (htoken : s'.configOpToken = s.configOpToken)
    (hcfg : s'.requestedCfg = s.requestedCfg) : Coupled s' b where
  sink := by rw [h.sink, hid]
  started := h.started
  flight := by rw [hflight, hphase]; exact h.flight
  early := by rw [hphase]; exact h.early
  configuring := by rw [hphase, htoken, hcfg]; exact h.configuring
  idle := by rw [hphase, hflight]; exact h.idle
  busy := by rw [hphase, hflight]; exact h.busy
  epoch := h.epoch

/-- In a parked state the session waits for its handshake or is closed. -/
theorem not_ready_of_parked (h : Coupled s b) (hparked : Parked b.state) :
    s.phase ≠ .configuring ∧ s.phase ≠ .ready := by
  constructor
  · intro hphase
    rcases (h.configuring hphase).1 with hs | hs <;> simp [Parked, hs] at hparked
  · intro hphase
    cases hflight : s.txInFlight with
    | false => simp [Parked, h.idle hphase hflight] at hparked
    | true => rcases h.busy hphase hflight with hs | hs <;> simp [Parked, hs] at hparked

/-- Moving between parked states keeps the coupling. -/
theorem park (h : Coupled s b) (hparked : Parked b.state) (hparked' : Parked b'.state)
    (hsink : b'.sink = b.sink) (hstarted : b'.started = b.started) : Coupled s b' where
  sink := by rw [hsink, h.sink]
  started := by rw [hstarted, h.started]
  flight := h.flight
  early := fun _ => hparked'
  configuring := fun hphase => absurd hphase (h.not_ready_of_parked hparked).1
  idle := fun hphase => absurd hphase (h.not_ready_of_parked hparked).2
  busy := fun hphase => absurd hphase (h.not_ready_of_parked hparked).2
  epoch := by
    intro hstate
    rcases hparked' with hs | hs | hs <;> rw [hs] at hstate <;> simp at hstate

end Coupled

/-! ## Poll steps -/

/-- A parked backend takes no packets. -/
theorem rxOk_of_parked {state : BackendState} (h : Parked state) : rxOk state = false := by
  rcases h with rfl | rfl | rfl <;> rfl

/-- A parked backend stays parked. -/
theorem LorahamBackend.QuietStep.parked {x y : Snapshot} (h : QuietStep x y)
    (hparked : Parked x.1.state) : Parked y.1.state := by
  cases h with
  | answers | confWrite | confWritten | configQuiet | confQuiet | dataWrite | dataRead
  | dataPush | dataDrained | dataIgnored | dataHeard | discard | confDiscard => exact hparked
  | connected _ hstate | dataWriteLast _ _ hstate | dataFenced _ _ _ _ _ hstate =>
      simp [Parked, hstate] at hparked
  | dataCleared => exact Or.inl rfl
  | drainLost | drainExpired => exact Or.inr (Or.inr rfl)

/-- A quiet step keeps the sink. -/
theorem LorahamBackend.QuietStep.sink {x y : Snapshot} (h : QuietStep x y) :
    y.1.sink = x.1.sink := by
  cases h <;> rfl

/-- The states in which a poll can call the sink. -/
theorem LorahamBackend.CallStep.not_parked {call : SinkCall} {x y : Snapshot}
    (h : CallStep call x y) : ¬ Parked x.1.state := by
  intro hparked
  cases h with
  | configSucceed _ _ _ hstate | completed _ _ _ _ _ hstate => simp [Parked, hstate] at hparked
  | configFail _ _ _ hstate => rcases hstate with hs | hs <;> simp [Parked, hs] at hparked
  | lost _ _ _ _ hstate | received _ _ _ _ _ hstate => simp [rxOk_of_parked hparked] at hstate

/-- A poll keeps the backend detached. -/
theorem Detached.poll {b b' : LorahamBackend} {unread unread' : Option Bytes}
    (h : Detached b) (hstep : PollStep (b, unread) (b', unread')) : Detached b' := by
  cases hstep with
  | quiet hstep => exact ⟨hstep.sink.trans h.sink, hstep.parked h.parked⟩
  | call hstep => exact absurd h.parked hstep.not_parked

/-- Every quiet step keeps session and backend coupled. -/
theorem Coupled.quiet {s : XrSession} {b b' : LorahamBackend} {unread unread' : Option Bytes}
    (h : Coupled s b) (hstep : QuietStep (b, unread) (b', unread')) : Coupled s b' := by
  cases hstep with
  | answers | confWrite | confWritten | configQuiet | confQuiet | dataWrite | dataRead
  | dataPush | dataDrained | dataIgnored | dataHeard | discard | confDiscard =>
      exact h.same rfl rfl rfl rfl rfl rfl rfl
  | connected _ hstate =>
      exact
        { sink := h.sink
          started := h.started
          flight := h.flight
          early := fun hphase => by simpa [Parked, hstate] using h.early hphase
          configuring := fun hphase => ⟨Or.inr rfl, (h.configuring hphase).2⟩
          idle := fun hphase hflight => by simpa [hstate] using h.idle hphase hflight
          busy := fun hphase hflight => by simpa [hstate] using h.busy hphase hflight
          epoch := by simp }
  | dataWriteLast _ n hstate =>
      exact
        { sink := h.sink
          started := h.started
          flight := h.flight
          early := fun hphase => by simpa [Parked, hstate] using h.early hphase
          configuring := fun hphase => by simpa [hstate] using h.configuring hphase
          idle := fun hphase hflight => by simpa [hstate] using h.idle hphase hflight
          busy := fun _ _ => Or.inr rfl
          epoch := fun _ => h.epoch (Or.inl hstate) }
  | dataFenced _ _ _ _ _ hstate _ _ hepoch => exact absurd (h.epoch (Or.inr hstate)) hepoch
  | dataCleared _ _ _ _ _ hstate => exact h.park (Or.inr (Or.inl hstate)) (Or.inl rfl) rfl rfl
  | drainLost _ _ hstate | drainExpired _ hstate =>
      exact h.park (Or.inr (Or.inl hstate)) (Or.inr (Or.inr rfl)) rfl rfl

/-- A configuration result finds its session waiting for exactly that result, or
closed. -/
theorem Coupled.configuring_or_closed {s : XrSession} {b : LorahamBackend} (h : Coupled s b)
    (hstate : b.state = .connecting ∨ b.state = .configuring) :
    s.phase = .configuring ∨ s.phase = .closed := by
  have hnot : ¬ Parked b.state := by rcases hstate with hs | hs <;> simp [Parked, hs]
  have hnotReady : b.state ≠ .ready ∧ b.state ≠ .txWriting ∧ b.state ≠ .txPending := by
    rcases hstate with hs | hs <;> simp [hs]
  cases hphase : s.phase with
  | waitHello => exact absurd (h.early (Or.inl hphase)) hnot
  | waitAuth => exact absurd (h.early (Or.inr (Or.inl hphase))) hnot
  | waitConfigure => exact absurd (h.early (Or.inr (Or.inr hphase))) hnot
  | configuring => exact Or.inl rfl
  | ready =>
      cases hflight : s.txInFlight with
      | false => exact absurd (h.idle hphase hflight) hnotReady.1
      | true =>
          rcases h.busy hphase hflight with hs | hs
          · exact absurd hs hnotReady.2.1
          · exact absurd hs hnotReady.2.2
  | closed => exact Or.inr rfl

/-- Outside `Ready` nothing is in flight. -/
theorem Coupled.not_flight_of_not_ready {s : XrSession} {b : LorahamBackend} (h : Coupled s b)
    (hphase : s.phase ≠ .ready) : s.txInFlight = false := by
  cases hflight : s.txInFlight with
  | false => rfl
  | true => exact absurd (h.flight hflight) hphase

/-- While a packet is written or awaited, its session has it in flight, or is
closed. -/
theorem Coupled.in_flight_or_closed {s : XrSession} {b : LorahamBackend} (h : Coupled s b)
    (hstate : b.state = .txWriting ∨ b.state = .txPending) :
    (s.phase = .ready ∧ s.txInFlight = true) ∨ s.phase = .closed := by
  have hnot : ¬ Parked b.state := by rcases hstate with hs | hs <;> simp [Parked, hs]
  cases hphase : s.phase with
  | waitHello => exact absurd (h.early (Or.inl hphase)) hnot
  | waitAuth => exact absurd (h.early (Or.inr (Or.inl hphase))) hnot
  | waitConfigure => exact absurd (h.early (Or.inr (Or.inr hphase))) hnot
  | configuring =>
      rcases (h.configuring hphase).1 with hs | hs <;> simp [hs] at hstate
  | ready =>
      cases hflight : s.txInFlight with
      | false => simp [h.idle hphase hflight] at hstate
      | true => exact Or.inl ⟨rfl, rfl⟩
  | closed => exact Or.inr rfl

/-- A closed session stays coupled whatever the link does. -/
theorem Coupled.stay_closed {s s' : XrSession} {b b' : LorahamBackend} (h : Coupled s b)
    (hclosed : s'.phase = .closed) (hflight : s'.txInFlight = false) (hid : s'.id = s.id)
    (hsink : b'.sink = b.sink) (hstarted : b'.started = b.started)
    (hstate : b'.state ≠ .txWriting ∧ b'.state ≠ .txPending) : Coupled s' b' :=
  .of_closed hclosed hflight (by rw [hsink, h.sink, hid]) (by rw [hstarted, h.started])
    (fun hs => absurd hs (by simp [hstate]))

/-- A disconnect keeps the sink. -/
theorem LorahamBackend.handleDisconnect_sink (b : LorahamBackend) :
    b.handleDisconnect.sink = b.sink ∧ b.handleDisconnect.started = b.started := by
  unfold handleDisconnect
  split <;> exact ⟨rfl, rfl⟩

/-- Every callback, with what the session makes of it, keeps them coupled. -/
theorem Coupled.call {s s' : XrSession} {b b' : LorahamBackend} {unread unread' : Option Bytes}
    {call : SinkCall} {env : XrEnv} {now : Nat} (h : Coupled s b)
    (hstep : CallStep call (b, unread) (b', unread'))
    (houtcome : CallOutcome env now s call s') : Coupled s' b' := by
  cases hstep with
  | configSucceed _ chunk rest hstate =>
      have hphase := h.configuring_or_closed (Or.inr hstate)
      cases houtcome with
      | ignored _ hignores =>
          rcases hphase with hphase | hphase
          · simp [ignores, hphase, (h.configuring hphase).2.1] at hignores
          · exact h.stay_closed hphase (h.not_flight_of_not_ready (by simp [hphase])) rfl rfl rfl
              (by simp [LorahamBackend.configSucceed, notify])
      | configured _ _ _ hconfiguring =>
          exact of_ready rfl (h.not_flight_of_not_ready (by simp [hconfiguring])) rfl h.sink
            h.started
      | configOverflow | configFailed =>
          exact h.stay_closed rfl rfl rfl rfl rfl (by simp [LorahamBackend.configSucceed, notify])
  | configFail _ c hc hstate =>
      have hphase := h.configuring_or_closed hstate
      have hsink : c.configFail.sink = b.sink := hc.frame.2.2.1
      have hstarted : c.configFail.started = b.started := by
        rcases hc with rfl | ⟨chunk, line, rfl⟩ <;> rfl
      cases houtcome with
      | ignored _ hignores =>
          rcases hphase with hphase | hphase
          · simp [ignores, hphase, (h.configuring hphase).2.1] at hignores
          · exact h.stay_closed hphase (h.not_flight_of_not_ready (by simp [hphase])) rfl hsink hstarted
              (by simp [LorahamBackend.configFail, notify, resetLinkUnconfigured])
      | configured _ _ _ _ _ happlied => simp [ConfigureResult.failed] at happlied
      | configOverflow | configFailed =>
          exact h.stay_closed rfl rfl rfl hsink hstarted
            (by simp [LorahamBackend.configFail, notify, resetLinkUnconfigured])
  | lost _ c _ hc hstate =>
      have hsink : c.handleDisconnect.sink = b.sink := by
        rw [(handleDisconnect_sink c).1, hc.frame.2.2.1]
      have hstarted : c.handleDisconnect.started = b.started := by
        rw [(handleDisconnect_sink c).2]
        rcases hc with rfl | ⟨chunk, line, rfl⟩ <;> rfl
      have hnext : c.handleDisconnect.state ≠ .txWriting ∧
          c.handleDisconnect.state ≠ .txPending := by
        rcases handleDisconnect_state c with hs | hs <;> simp [hs]
      cases houtcome with
      | ignored _ hignores =>
          have hphase : s.phase = .closed := by simpa [ignores] using hignores
          exact h.stay_closed hphase (h.not_flight_of_not_ready (by simp [hphase])) rfl hsink hstarted hnext
      | failed => exact h.stay_closed rfl rfl rfl hsink hstarted hnext
  | received =>
      cases houtcome with
      | ignored | forwarded =>
          exact Coupled.same (h.same_session rfl rfl rfl rfl rfl) rfl rfl rfl rfl rfl rfl rfl
      | rxOverflow =>
          exact of_closed rfl rfl h.sink h.started h.epoch
  | completed _ _ _ _ _ hstate =>
      cases houtcome with
      | ignored _ hignores =>
          have hidle : s.txInFlight = false := by simpa [ignores] using hignores
          rcases h.in_flight_or_closed (Or.inr hstate) with ⟨-, hflight⟩ | hphase
          · simp [hidle] at hflight
          · exact h.stay_closed hphase hidle rfl rfl rfl (by simp [notify])
      | completed _ _ hphase =>
          exact of_ready hphase rfl rfl h.sink h.started
      | completeOverflow => exact h.stay_closed rfl rfl rfl rfl rfl (by simp [notify])

/-! ## The session's own steps -/

/-- Handling a frame, with what it asks of the backend, keeps them coupled. -/
theorem Coupled.frame {s s' : XrSession} {b b' : LorahamBackend} {env : XrEnv} {now : Nat}
    {f : Frame} (h : Coupled s b)
    (houtcome : FrameOutcome lorahamRadio env now f s b (s', b')) : Coupled s' b' := by
  cases houtcome with
  | rejected | helloFailed | authClosed | configInvalid => exact h.close rfl rfl rfl
  | challenged _ _ hphase | helloOpen _ hphase =>
      exact of_early (by simp [arm]) (h.not_flight_of_not_ready (by simp [hphase]))
        (h.early (Or.inl hphase)) h.sink h.started
  | authenticated _ hphase =>
      exact of_early (by simp [arm]) (h.not_flight_of_not_ready (by simp [hphase]))
        (h.early (Or.inr (Or.inl hphase))) h.sink h.started
  | configRefused _ _ _ requested _ hphase _ hbackend =>
      have hcases := beginConfigure_cases requested b
      change b.beginConfigure requested = _ at hbackend
      rw [hbackend] at hcases
      generalize hzero : (0 : UInt32) = token at hcases
      cases hcases with
      | refused => exact h.close rfl rfl rfl
      | unreachable => exact of_closed rfl rfl h.sink h.started h.epoch
      | opened => exact h.stay_closed rfl rfl rfl rfl rfl (by simp [openLink])
  | configStarted requested _ _ hphase _ _ hbackend htoken =>
      have hcases := beginConfigure_cases requested b
      change b.beginConfigure requested = _ at hbackend
      rw [hbackend] at hcases
      cases hcases with
      | refused | unreachable => simp at htoken
      | opened =>
          exact of_configuring rfl (h.not_flight_of_not_ready (by simp [hphase])) rfl rfl rfl
            h.sink h.started
  | ponged => exact h.same_session rfl rfl rfl rfl rfl
  | submitRefused _ _ _ _ _ hbackend =>
      have hcases := submitTx_cases f.payload b
      change b.submitTx f.payload = _ at hbackend
      rw [hbackend] at hcases
      generalize hfalse : false = accepted at hcases
      cases hcases with
      | refused => exact of_closed rfl rfl h.sink h.started h.epoch
      | failed =>
          exact h.stay_closed rfl rfl rfl rfl rfl (by simp [resetLinkUnconfigured])
      | accepted => simp at hfalse
  | submitted _ hphase _ _ _ hbackend =>
      have hcases := submitTx_cases f.payload b
      change b.submitTx f.payload = _ at hbackend
      rw [hbackend] at hcases
      generalize htrue : true = accepted at hcases
      cases hcases with
      | refused => simp at htrue
      | failed => simp at htrue
      | accepted _ _ _ _ _ _ _ hnext =>
          exact of_flight hphase rfl hnext rfl h.sink h.started

/-- Giving a transmission up keeps the sink. -/
theorem LorahamBackend.abandonPendingTx_sink (b : LorahamBackend) :
    b.abandonPendingTx.sink = b.sink ∧ b.abandonPendingTx.started = b.started := by
  unfold abandonPendingTx
  split <;> exact ⟨rfl, rfl⟩

/-- A tick keeps them coupled. -/
theorem Coupled.tick {s s' : XrSession} {b b' : LorahamBackend} {env : XrEnv} {now : Nat}
    (h : Coupled s b) (houtcome : TickOutcome lorahamRadio env now s b (s', b')) :
    Coupled s' b' := by
  cases houtcome with
  | quiet => exact h
  | expired => exact h.close rfl rfl rfl
  | abandoned =>
      obtain ⟨hsink, hstarted⟩ := abandonPendingTx_sink b
      obtain ⟨hpending, hwriting⟩ := abandonPendingTx_state b
      exact h.stay_closed rfl rfl rfl hsink hstarted ⟨hwriting, hpending⟩
  | pinged => exact h.same_session rfl rfl rfl rfl rfl

/-- A stopped backend is parked. -/
theorem LorahamBackend.stop_parked (b : LorahamBackend) : Parked b.stop.state := by
  unfold stop
  split <;> rename_i hstate
  · exact Or.inr hstate
  · exact Or.inl rfl

/-- The coupling of session and backend, and the numbering of the sessions. -/
def coupling (env : BridgeEnv) : Invariant env where
  idle past b _ := Numbered past ∧ Detached b
  active past s b _ := Numbered past ∧ s.id = past.length ∧ Coupled s b
  initial := ⟨⟨rfl⟩, rfl, Or.inl rfl⟩
  idle_sink h := h.2.sink
  active_sink h := h.2.2.sink
  active_flight h := h.2.2.flight
  idle_environment _ _ h := ⟨h.1, h.2.sink, h.2.parked⟩
  active_environment _ _ h := ⟨h.1, h.2.1, h.2.2.same rfl rfl rfl rfl rfl rfl rfl⟩
  idle_poll h hstep := ⟨h.1, h.2.poll hstep⟩
  quiet_poll h hstep := ⟨h.1, h.2.1, h.2.2.quiet hstep⟩
  call_poll h hstep houtcome := ⟨h.1, houtcome.id.trans h.2.1, h.2.2.call hstep houtcome⟩
  accept _ h := ⟨h.1, rfl, .of_early (Or.inl rfl) rfl h.2.parked rfl rfl⟩
  parser _ h := ⟨h.1, h.2.1, h.2.2.same_session rfl rfl rfl rfl rfl⟩
  parserError h _ := ⟨h.1, h.2.1, h.2.2.close rfl rfl rfl⟩
  frame h _ houtcome := ⟨h.1, houtcome.id.trans h.2.1, h.2.2.frame houtcome⟩
  tick h houtcome := ⟨h.1, houtcome.id.trans h.2.1, h.2.2.tick houtcome⟩
  consume _ h := ⟨h.1, h.2.1, h.2.2.same_session rfl rfl rfl rfl rfl⟩
  teardown h := by
    obtain ⟨hnumbered, hid, -⟩ := h
    refine ⟨⟨?_⟩, ?_, stop_parked _⟩
    · simp [hnumbered.eq, hid, List.range_succ]
    · unfold stop
      split <;> rfl

/-- What every session keeps by itself, the sessions of the server keep. -/
def sessionwise (env : BridgeEnv) {P : XrSession → Prop}
    (I : SessionInvariant lorahamRadio env.toXrEnv (fun _ => True) P) :
    Extension (coupling env) where
  idle past _ _ := ∀ t ∈ past, P t
  active past s _ _ := (∀ t ∈ past, P t) ∧ P s
  initial := by simp
  idle_environment _ _ h := h
  active_environment _ _ h := h
  idle_poll _ h _ := h
  quiet_poll _ h _ := h
  call_poll _ h _ hout := ⟨h.1, I.call trivial h.2 hout⟩
  accept entropy _ h := ⟨h, I.opened _ entropy {} trivial⟩
  parser buf h := ⟨h.1, I.parser buf h.2⟩
  parserError _ h hopen := ⟨h.1, I.parserError h.2 hopen⟩
  frame _ h hopen hout := ⟨h.1, I.frame trivial h.2 hopen hout⟩
  tick _ h hout := ⟨h.1, I.tick trivial h.2 hout⟩
  consume n h := ⟨h.1, I.consume n h.2⟩
  teardown _ h := by
    rw [List.forall_mem_append, List.forall_mem_singleton]
    exact h

/-- Every session of a run, the present one last. -/
def XrServer.sessions (sv : XrServer) : List XrSession :=
  sv.past ++ (sv.conn.map XrConnection.session).toList

/-- An invariant of sessions holds in every session of a run. -/
theorem SessionInvariant.run_sessions {env : BridgeEnv} {P : XrSession → Prop}
    (I : SessionInvariant lorahamRadio env.toXrEnv (fun _ => True) P) (ops : List XrServer.Op)
    {s : XrSession} (hs : s ∈ (XrServer.run env ops).sessions) : P s := by
  have h := (sessionwise env I).toInvariant.run ops
  unfold Invariant.holds at h
  unfold XrServer.sessions at hs
  cases hconn : (XrServer.run env ops).conn with
  | none =>
      rw [hconn] at h hs
      exact h.2 s (by simpa using hs)
  | some c =>
      rw [hconn] at h hs
      rcases List.mem_append.mp hs with hs | hs
      · exact h.2.1 s hs
      · obtain rfl : s = c.session := by simpa using hs
        exact h.2.2

/-- An invariant of sessions holds in the present session. -/
theorem SessionInvariant.run_server {env : BridgeEnv} {P : XrSession → Prop}
    (I : SessionInvariant lorahamRadio env.toXrEnv (fun _ => True) P) (ops : List XrServer.Op)
    {c : XrConnection} (hconn : (XrServer.run env ops).conn = some c) : P c.session :=
  I.run_sessions ops (by simp [XrServer.sessions, hconn])

/-! ## Main result -/

/-- A valid request of an idle `Ready` session is refused only for an empty payload
or because the DATA socket failed on the way. -/
theorem Coupled.submit_refused {s : XrSession} {b : LorahamBackend} (h : Coupled s b)
    (hphase : s.phase = .ready) (hidle : s.txInFlight = false) {f : Frame}
    (htype : f.type = .txRequest) (hvalid : validate f = .none)
    (hrefused : (b.submitTx f.payload).1 = false) :
    f.payload = [] ∨ ∃ taken, b.transport.dataSendSome =
      taken ++ .failed :: (b.submitTx f.payload).2.transport.dataSendSome := by
  have hlen : f.payload.length ≤ kMaxLoraPayload := by
    by_contra hlong
    simp [validate, htype, hlong] at hvalid
    split at hvalid <;> simp at hvalid
  have hcases := submitTx_cases f.payload b
  generalize b.submitTx f.payload = r at hcases hrefused
  cases hcases with
  | refused hwhy =>
      rcases hwhy with hstarted | hstate | hempty | hlong
      · simp [h.started] at hstarted
      · exact absurd (h.idle hphase hidle) hstate
      · exact Or.inl (List.length_eq_zero_iff.mp hempty)
      · simp only [Loraham.kMaxRfPayload, kMaxLoraPayload] at hlong hlen
        omega
  | failed _ _ _ _ _ _ hanswer => exact Or.inr hanswer
  | accepted => simp at hrefused

/-- Session and backend move together.  Without a connection the backend has no
sink and is `Disconnected`, `Draining` or `Faulted`; with one, the phase of its
session and the state of the backend fit, and an idle `Ready` session is refused a
transmission only for an empty payload or a failed write. -/
theorem session_backend_coupled (env : BridgeEnv) (ops : List XrServer.Op) :
    let sv := XrServer.run env ops
    (sv.conn = none → sv.backend.sink = none ∧ Parked sv.backend.state) ∧
    ∀ c, sv.conn = some c →
      sv.backend.sink = some c.session.id ∧ c.session.id ∉ sv.past.map XrSession.id ∧
      sv.backend.started = true ∧
      (c.session.phase = .waitHello ∨ c.session.phase = .waitAuth ∨
        c.session.phase = .waitConfigure → Parked sv.backend.state) ∧
      (c.session.phase = .configuring →
        (sv.backend.state = .connecting ∨ sv.backend.state = .configuring) ∧
        c.session.configOpToken = sv.backend.configToken ∧
        c.session.requestedCfg = sv.backend.pendingCfg) ∧
      (c.session.phase = .ready → c.session.txInFlight = false → sv.backend.state = .ready) ∧
      (c.session.phase = .ready → c.session.txInFlight = true →
        sv.backend.state = .txWriting ∨ sv.backend.state = .txPending) ∧
      ∀ (f : Frame) (transport : DaemonTransport),
        c.session.phase = .ready → c.session.txInFlight = false →
        f.type = .txRequest → validate f = .none →
        (submitTx f.payload { sv.backend with transport := transport }).1 = false →
        f.payload = [] ∨ ∃ taken, transport.dataSendSome = taken ++ .failed ::
          (submitTx f.payload { sv.backend with transport := transport }).2.transport.dataSendSome := by
  have hcoupling := (coupling env).run ops
  simp only
  generalize XrServer.run env ops = sv at hcoupling
  unfold Invariant.holds at hcoupling
  constructor
  · intro hconn
    rw [hconn] at hcoupling
    exact ⟨hcoupling.2.sink, hcoupling.2.parked⟩
  · intro c hconn
    rw [hconn] at hcoupling
    obtain ⟨hnumbered, hid, h⟩ := hcoupling
    refine ⟨h.sink, ?_, h.started, h.early, h.configuring, h.idle, h.busy, ?_⟩
    · simp [hnumbered.eq, hid]
    · intro f transport hphase hidle htype hvalid hrefused
      have hsame : Coupled c.session { sv.backend with transport := transport } :=
        h.same rfl rfl rfl rfl rfl rfl rfl
      exact hsame.submit_refused hphase hidle htype hvalid hrefused

end LorahamBridge
