import LorahamBridge.Xr.SessionRun
import LorahamBridge.Xr.SessionView

/-!
# The conduct of a session

An automaton that reads the history of a session and knows, event by event, what a
server may do next: which frame it owes, which callbacks concern it, when it must
close.  It is the protocol as the session speaks it, without buffers, deadlines or
overflow.  Every session, with any backend, any client and any callbacks, keeps to
it, so that what the automaton excludes never happens.

Main results:

- Definition `Conduct.step`: the automaton.
- Theorems `FrameOutcome.conducted`, `CallOutcome.conducted`, `TickOutcome.conducted`:
  a session keeps to it.
- Theorem `replay_induction`: what the automaton keeps holds of every history.
- Theorem `run_conducted`: the session of any run.
-/

namespace LorahamBridge

open Foundation Extradio

/-! ## The automaton -/

/-- Where a session stands, as its history tells. -/
inductive Stage where
  | start
  | acked
  | challenged (nonce : Bytes)
  | admitted
  | configuring (requested : RadioConfig) (token : UInt32)
  | ready
  /-- A frame is owed; behind it the session goes on. -/
  | due (frame : Frame) (next : Stage)
  /-- Nothing but the close may follow. -/
  | closing
  | closed
deriving DecidableEq

/-- What the history of a session says about it. -/
structure Conduct where
  stage : Stage
  /-- The frame received last, and not before the challenge. -/
  heard : Option Frame
  /-- A `PING` is unanswered. -/
  pinged : Bool
  /-- The sequence number of the transmission in flight. -/
  flight : Option UInt16
deriving DecidableEq

namespace Conduct

/-- Before anything has happened. -/
def initial : Conduct :=
  ⟨.start, none, false, none⟩

/-- The stages between two operations of the session. -/
def resting : Stage → Bool
  | .start | .challenged _ | .admitted | .configuring _ _ | .ready => true
  | _ => false

/-- A frame is sent. -/
def emit (auth : AuthConfig) (c : Conduct) (f : Frame) : Option Conduct :=
  match c.stage with
  | .start => if f = ⟨.helloAck, 0, [kVersion]⟩ then some { c with stage := .acked } else none
  | .acked =>
      if auth.passwordConfigured then
        if f.type = .authChallenge ∧ f.seq = 0 ∧ f.payload.length = kAuthNonceSize then
          some { c with stage := .challenged f.payload, heard := none }
        else none
      else if f = ⟨.authResult, 0, [authOk]⟩ then some { c with stage := .admitted }
      else none
  | .admitted =>
      if f = ⟨.configResult, 0, [cfgInvalid]⟩ then some { c with stage := .closing } else none
  | .ready =>
      if f = ⟨.ping, 0, []⟩ ∧ c.pinged = false then some { c with pinged := true } else none
  | .due g next => if f = g then some { c with stage := next } else none
  | _ => none

/-- The backend calls. -/
def call (c : Conduct) (call : SinkCall) : Option Conduct :=
  match c.stage, call with
  | .configuring requested token, .onConfigureComplete token' res =>
      if token' ≠ token then some c
      else if res.applied ∧ res.effective = requested then
        some { c with stage := .due (XrSession.configOkFrame requested) .ready }
      else some { c with stage := .due ⟨.configResult, 0, [cfgUnsupported]⟩ .closing }
  | .ready, .onRx rx =>
      if rxPayloadAcceptable rx.data.length then
        some { c with stage := .due (XrSession.rxFrame rx) .ready }
      else some c
  | .ready, .onTxComplete outcome =>
      match c.flight with
      | none => some c
      | some seq =>
          some { c with
            stage := .due (XrSession.txResultFrame seq outcome) .ready
            flight := none }
  | .acked, _ | .due _ _, _ | .closing, _ => none
  | _, _ => some c

/-- One event of the history; `none` if the protocol does not allow it. -/
def step (env : XrEnv) (c : Conduct) : SessionEvent → Option Conduct
  | .received f => if resting c.stage then some { c with heard := some f } else none
  | .emitted f => c.emit env.auth f
  | .callback call => c.call call
  | .verified response ok =>
      match c.stage, c.heard with
      | .challenged nonce, some f =>
          if f.type = .authResponse ∧ f.payload = response ∧
              ok = verifyAuthResponse env.hmac env.auth nonce response then
            some { c with
              stage :=
                if ok then .due ⟨.authResult, 0, [authOk]⟩ .admitted
                else .due ⟨.authResult, 0, [authFail]⟩ .closing }
          else none
      | _, _ => none
  | .configureCalled requested token =>
      match c.stage, c.heard with
      | .admitted, some f =>
          if decodeConfig f = some requested then
            some { c with
              stage :=
                if token = 0 then .due ⟨.configResult, 0, [cfgUnsupported]⟩ .closing
                else .configuring requested token }
          else none
      | _, _ => none
  | .submitCalled seq payload accepted =>
      match c.stage, c.flight, c.heard with
      | .ready, none, some f =>
          if f.type = .txRequest ∧ f.seq = seq ∧ f.payload = payload ∧ validate f = .none then
            if accepted then some { c with flight := some seq }
            else some { c with stage := .closing }
          else none
      | _, _, _ => none
  | .abandonCalled =>
      match c.stage, c.flight with
      | .ready, some _ => some { c with stage := .closing }
      | _, _ => none
  | .pongAccepted =>
      if c.stage = .ready ∧ c.pinged = true then some { c with pinged := false } else none
  | .closed reason =>
      match c.stage with
      | .closed => none
      | .due _ .ready =>
          if reason = .outputOverflow then some { c with stage := .closed, flight := none }
          else none
      | _ => some { c with stage := .closed, flight := none }

/-- Every way the automaton can move. -/
inductive Move (env : XrEnv) (c : Conduct) : SessionEvent → Conduct → Prop
  | received (f : Frame) (hresting : resting c.stage = true) :
      Move env c (.received f) { c with heard := some f }
  | acked (hstage : c.stage = .start) :
      Move env c (.emitted ⟨.helloAck, 0, [kVersion]⟩) { c with stage := .acked }
  | challenged (nonce : Bytes) (hstage : c.stage = .acked)
      (hauth : env.auth.passwordConfigured = true) (hlen : nonce.length = kAuthNonceSize) :
      Move env c (.emitted ⟨.authChallenge, 0, nonce⟩)
        { c with stage := .challenged nonce, heard := none }
  | admitted (hstage : c.stage = .acked) (hauth : env.auth.passwordConfigured = false) :
      Move env c (.emitted ⟨.authResult, 0, [authOk]⟩) { c with stage := .admitted }
  | configInvalid (hstage : c.stage = .admitted) :
      Move env c (.emitted ⟨.configResult, 0, [cfgInvalid]⟩) { c with stage := .closing }
  | pinged (hstage : c.stage = .ready) (hidle : c.pinged = false) :
      Move env c (.emitted ⟨.ping, 0, []⟩) { c with pinged := true }
  | paid (f : Frame) (next : Stage) (hstage : c.stage = .due f next) :
      Move env c (.emitted f) { c with stage := next }
  | authenticated (f : Frame) (nonce : Bytes) (hstage : c.stage = .challenged nonce)
      (hheard : c.heard = some f) (htype : f.type = .authResponse)
      (hok : verifyAuthResponse env.hmac env.auth nonce f.payload = true) :
      Move env c (.verified f.payload true)
        { c with stage := .due ⟨.authResult, 0, [authOk]⟩ .admitted }
  | refused (response nonce : Bytes) (hstage : c.stage = .challenged nonce) :
      Move env c (.verified response false)
        { c with stage := .due ⟨.authResult, 0, [authFail]⟩ .closing }
  | configRefused (requested : RadioConfig) (hstage : c.stage = .admitted) :
      Move env c (.configureCalled requested 0)
        { c with stage := .due ⟨.configResult, 0, [cfgUnsupported]⟩ .closing }
  | configStarted (f : Frame) (requested : RadioConfig) (token : UInt32)
      (hstage : c.stage = .admitted) (hheard : c.heard = some f)
      (hconfig : decodeConfig f = some requested) (htoken : token ≠ 0) :
      Move env c (.configureCalled requested token)
        { c with stage := .configuring requested token }
  | submitted (f : Frame) (hstage : c.stage = .ready) (hidle : c.flight = none)
      (hheard : c.heard = some f) (htype : f.type = .txRequest) (hvalid : validate f = .none) :
      Move env c (.submitCalled f.seq f.payload true) { c with flight := some f.seq }
  | submitRefused (seq : UInt16) (payload : Bytes) (hstage : c.stage = .ready) :
      Move env c (.submitCalled seq payload false) { c with stage := .closing }
  | abandoned (hstage : c.stage = .ready) :
      Move env c .abandonCalled { c with stage := .closing }
  | ponged (hstage : c.stage = .ready) (hpinged : c.pinged = true) :
      Move env c .pongAccepted { c with pinged := false }
  | closed (reason : CloseReason) (hopen : c.stage ≠ .closed)
      (hdue : ∀ f, c.stage = .due f .ready → reason = .outputOverflow) :
      Move env c (.closed reason) { c with stage := .closed, flight := none }
  | ignored (call : SinkCall) (hstage : resting c.stage = true ∨ c.stage = .closed) :
      Move env c (.callback call) c
  | configured (call : SinkCall) (requested : RadioConfig) (token : UInt32)
      (hstage : c.stage = .configuring requested token) :
      Move env c (.callback call)
        { c with stage := .due (XrSession.configOkFrame requested) .ready }
  | configFailed (call : SinkCall) (requested : RadioConfig) (token : UInt32)
      (hstage : c.stage = .configuring requested token) :
      Move env c (.callback call)
        { c with stage := .due ⟨.configResult, 0, [cfgUnsupported]⟩ .closing }
  | forwarded (rx : RxEvent) (hstage : c.stage = .ready)
      (hrx : rxPayloadAcceptable rx.data.length = true) :
      Move env c (.callback (.onRx rx))
        { c with stage := .due (XrSession.rxFrame rx) .ready }
  | completed (seq : UInt16) (outcome : TxOutcome) (hstage : c.stage = .ready)
      (hflight : c.flight = some seq) :
      Move env c (.callback (.onTxComplete outcome))
        { c with stage := .due (XrSession.txResultFrame seq outcome) .ready, flight := none }

/-- A frame that may be sent is a move. -/
theorem move_of_emit {env : XrEnv} {c c' : Conduct} {f : Frame} (h : c.emit env.auth f = some c') :
    Move env c (.emitted f) c' := by
  obtain ⟨type, seq, payload⟩ := f
  unfold emit at h
  split at h <;> rename_i hstage
  · obtain ⟨hframe, h⟩ := Option.ite_none_right_eq_some.mp h
    exact Option.some.inj h ▸ hframe ▸ .acked hstage
  · split at h <;> rename_i hauth
    · obtain ⟨⟨rfl, rfl, hlen⟩, h⟩ := Option.ite_none_right_eq_some.mp h
      exact Option.some.inj h ▸ .challenged payload hstage hauth hlen
    · obtain ⟨hframe, h⟩ := Option.ite_none_right_eq_some.mp h
      exact Option.some.inj h ▸ hframe ▸ .admitted hstage (by simpa using hauth)
  · obtain ⟨hframe, h⟩ := Option.ite_none_right_eq_some.mp h
    exact Option.some.inj h ▸ hframe ▸ .configInvalid hstage
  · obtain ⟨⟨hframe, hidle⟩, h⟩ := Option.ite_none_right_eq_some.mp h
    exact Option.some.inj h ▸ hframe ▸ .pinged hstage hidle
  · obtain ⟨hframe, h⟩ := Option.ite_none_right_eq_some.mp h
    exact Option.some.inj h ▸ hframe ▸ .paid _ _ hstage
  · contradiction

/-- A callback that may come is a move. -/
theorem move_of_call {env : XrEnv} {c c' : Conduct} {call : SinkCall} (h : c.call call = some c') :
    Move env c (.callback call) c' := by
  unfold Conduct.call at h
  split at h
  case h_1 requested token token' res hstage =>
    split at h
    · exact Option.some.inj h ▸ .ignored _ (by simp [hstage, resting])
    · split at h
      · exact Option.some.inj h ▸ .configured _ requested token hstage
      · exact Option.some.inj h ▸ .configFailed _ requested token hstage
  case h_2 rx hstage =>
    split at h <;> rename_i hrx
    · exact Option.some.inj h ▸ .forwarded rx hstage hrx
    · exact Option.some.inj h ▸ .ignored _ (by simp [hstage, resting])
  case h_3 outcome hstage =>
    split at h <;> rename_i hflight
    · exact Option.some.inj h ▸ .ignored _ (by simp [hstage, resting])
    · exact Option.some.inj h ▸ .completed _ outcome hstage hflight
  case h_7 hacked hdue hclosing =>
    refine Option.some.inj h ▸ .ignored _ ?_
    cases hstage : c.stage <;> simp_all [resting]
  all_goals contradiction

/-- Every step is one of the moves. -/
theorem move_of_step {env : XrEnv} {c c' : Conduct} {e : SessionEvent}
    (h : c.step env e = some c') : Move env c e c' := by
  unfold step at h
  split at h
  case h_1 f =>
    obtain ⟨hresting, h⟩ := Option.ite_none_right_eq_some.mp h
    exact Option.some.inj h ▸ .received f hresting
  case h_2 => exact move_of_emit h
  case h_3 => exact move_of_call h
  case h_4 response ok =>
    split at h <;> try contradiction
    rename_i nonce f hstage hheard
    obtain ⟨⟨htype, rfl, hok⟩, hnext⟩ := Option.ite_none_right_eq_some.mp h
    cases ok with
    | false => exact Option.some.inj hnext ▸ .refused _ nonce hstage
    | true => exact Option.some.inj hnext ▸ .authenticated f nonce hstage hheard htype hok.symm
  case h_5 requested token =>
    split at h <;> try contradiction
    rename_i f hstage hheard
    obtain ⟨hconfig, h⟩ := Option.ite_none_right_eq_some.mp h
    split at h <;> rename_i htoken
    · exact Option.some.inj h ▸ htoken ▸ .configRefused requested hstage
    · exact Option.some.inj h ▸ .configStarted f requested token hstage hheard hconfig htoken
  case h_6 seq payload accepted =>
    split at h <;> try contradiction
    rename_i f hstage hidle hheard
    obtain ⟨⟨htype, rfl, rfl, hvalid⟩, hnext⟩ := Option.ite_none_right_eq_some.mp h
    cases accepted with
    | false => exact Option.some.inj hnext ▸ .submitRefused _ _ hstage
    | true => exact Option.some.inj hnext ▸ .submitted f hstage hidle hheard htype hvalid
  case h_7 =>
    split at h <;> try contradiction
    rename_i hstage _
    exact Option.some.inj h ▸ .abandoned hstage
  case h_8 =>
    obtain ⟨⟨hstage, hpinged⟩, h⟩ := Option.ite_none_right_eq_some.mp h
    exact Option.some.inj h ▸ .ponged hstage hpinged
  case h_9 reason =>
    split at h
    · contradiction
    · rename_i hstage
      obtain ⟨hreason, h⟩ := Option.ite_none_right_eq_some.mp h
      exact Option.some.inj h ▸ .closed reason (by simp [hstage]) fun _ _ => hreason
    · rename_i hopen hdue
      exact Option.some.inj h ▸ .closed reason hopen fun f hf => absurd hf (hdue f)

end Conduct

/-- The automaton at the end of a history, if it is one. -/
def replay (env : XrEnv) (log : List SessionEvent) : Option Conduct :=
  log.foldlM (Conduct.step env) Conduct.initial

theorem replay_append (env : XrEnv) (log events : List SessionEvent) :
    replay env (log ++ events) =
      (replay env log).bind fun c => events.foldlM (Conduct.step env) c := by
  simp [replay, List.foldlM_append, Option.bind_eq_bind]

theorem replay_append_singleton (env : XrEnv) (log : List SessionEvent) (e : SessionEvent) :
    replay env (log ++ [e]) = (replay env log).bind fun c => c.step env e := by
  simp [replay_append]

/-- What holds at first and is kept by every event the automaton allows holds of
every history it accepts. -/
theorem replay_induction {env : XrEnv} {P : List SessionEvent → Conduct → Prop}
    (hnil : P [] Conduct.initial)
    (hmove : ∀ log c e c', replay env log = some c → P log c → c.Move env e c' →
      P (log ++ [e]) c')
    {log : List SessionEvent} {c : Conduct} (h : replay env log = some c) : P log c := by
  induction log using List.reverseRecOn generalizing c with
  | nil =>
      simp only [replay, List.foldlM_nil, Option.pure_def, Option.some.injEq] at h
      exact h ▸ hnil
  | append_singleton log e ih =>
      rw [replay_append_singleton, Option.bind_eq_some_iff] at h
      obtain ⟨c₀, hlog, he⟩ := h
      exact hmove log c₀ e c hlog (ih hlog) (Conduct.move_of_step he)

/-- Every beginning of a history is one. -/
theorem replay_prefix {env : XrEnv} {log events : List SessionEvent} {c : Conduct}
    (h : replay env (log ++ events) = some c) : ∃ c₀, replay env log = some c₀ := by
  rw [replay_append, Option.bind_eq_some_iff] at h
  obtain ⟨c₀, hlog, -⟩ := h
  exact ⟨c₀, hlog⟩

/-! ## Sessions keep to the automaton -/

/-- The stage of a session between two operations. -/
def stageOf (s : XrSession) : Stage :=
  match s.phase with
  | .waitHello => .start
  | .waitAuth => .challenged s.nonce
  | .waitConfigure => .admitted
  | .configuring => .configuring s.requestedCfg s.configOpToken
  | .ready => .ready
  | .closed => .closed

/-- The automaton knows the session. -/
structure Agrees (c : Conduct) (s : XrSession) : Prop where
  stage : c.stage = stageOf s
  flight : c.flight = if s.txInFlight then some s.txSeq else none
  ready : s.txInFlight = true → s.phase = .ready
  pinged : s.phase ≠ .closed → c.pinged = s.awaitingPong
  quiet : s.phase ≠ .ready → s.phase ≠ .closed → s.awaitingPong = false

/-- Outside of operation nothing is in flight. -/
theorem Agrees.idle {c : Conduct} {s : XrSession} (h : Agrees c s) (hphase : s.phase ≠ .ready) :
    s.txInFlight = false := by
  simpa using mt h.ready hphase

/-- Between two operations an open session rests. -/
theorem Agrees.resting {c : Conduct} {s : XrSession} (h : Agrees c s)
    (hopen : s.phase ≠ .closed) : Conduct.resting c.stage = true := by
  rw [h.stage, stageOf]
  split <;> simp_all [Conduct.resting]

/-- A resting session may close for any reason. -/
theorem Conduct.step_closed (env : XrEnv) {c : Conduct} (h : Conduct.resting c.stage = true)
    (reason : CloseReason) :
    c.step env (.closed reason) = some { c with stage := .closed, flight := none } := by
  cases hstage : c.stage <;> simp_all [Conduct.step, Conduct.resting]

theorem Agrees.of_closed {c : Conduct} {s : XrSession} (hstage : c.stage = .closed)
    (hflight : c.flight = none) (hphase : s.phase = .closed) (hidle : s.txInFlight = false) :
    Agrees c s where
  stage := by rw [hstage, stageOf, hphase]
  flight := by simp [hflight, hidle]
  ready := by simp [hidle]
  pinged h := absurd hphase h
  quiet _ h := absurd hphase h

/-- A session whose history the automaton accepts, and whose output is the frames of
its history. -/
structure Conducted (env : XrEnv) (s : XrSession) : Prop where
  conduct : ∃ c, replay env s.log = some c ∧ Agrees c s
  written : s.output = (emittedFrames s.log).flatMap frameBytes

namespace XrSession

section Outcomes

variable {β : Type} {R : RadioBackend β} {env : XrEnv} {now : Nat} {f : Frame}
  {s s' : XrSession} {b b' : β}

/-- An operation adds some events to the history, and the frames among them to the
output. -/
theorem conducted_next {c : Conduct} (hs : Conducted env s) (hreplay : replay env s.log = some c)
    (events : List SessionEvent) (c' : Conduct) (hlog : s'.log = s.log ++ events)
    (hrun : events.foldlM (Conduct.step env) c = some c') (hagrees : Agrees c' s')
    (hqueued : Queued s.outbox (emittedFrames events) s'.outbox)
    (hdrained : s'.drained = s.drained) : Conducted env s' := by
  refine ⟨⟨c', ?_, hagrees⟩, ?_⟩
  · rw [hlog, replay_append, hreplay]
    exact hrun
  · have hwritten := hs.written
    unfold output at hwritten ⊢
    rw [hdrained, hqueued.data, ← List.append_assoc, hwritten, hlog, emittedFrames_append,
      List.flatMap_append]

/-- A frame keeps an open session to the automaton. -/
theorem FrameOutcome.conducted (h : FrameOutcome R env now f s b (s', b'))
    (hopen : s.phase ≠ .closed) (hs : Conducted env s) : Conducted env s' := by
  obtain ⟨c, hreplay, ha⟩ := hs.conduct
  have hresting := ha.resting hopen
  cases h with
  | rejected reason hexpects =>
      refine conducted_next hs hreplay [.received f, .closed reason]
        ⟨.closed, some f, c.pinged, none⟩ (by simp [shut, record]) ?_
        (.of_closed rfl rfl rfl rfl) (.nil _) rfl
      cases hstage : c.stage <;> simp_all [Conduct.step, Conduct.resting]
  | helloFailed outbox frames nonce reason hphase hframes hqueued hreason =>
      have hstage : c.stage = .start := by rw [ha.stage, stageOf, hphase]
      refine conducted_next hs hreplay (.received f :: (frames.map .emitted ++ [.closed reason]))
        ⟨.closed, some f, c.pinged, none⟩ (by simp [shut, record, queue]) ?_
        (.of_closed rfl rfl rfl rfl) ?_ rfl
      · rcases hframes with rfl | rfl <;>
          simp [Conduct.step, Conduct.resting, Conduct.emit, hstage]
      · rcases hframes with rfl | rfl <;> exact hqueued
  | challenged outbox nonce hphase htype hauth hnonce hqueued =>
      have hstage : c.stage = .start := by rw [ha.stage, stageOf, hphase]
      have hflight : s.txInFlight = false := ha.idle (by simp [hphase])
      refine conducted_next hs hreplay
        [.received f, .emitted ⟨.helloAck, 0, [kVersion]⟩,
          .emitted ⟨.authChallenge, 0, nonce.bytes⟩]
        { c with heard := none, stage := .challenged nonce.bytes }
        (by simp [arm, record, queue]) ?_ ?_ hqueued rfl
      · simp [Conduct.step, Conduct.resting, Conduct.emit, hstage, hauth, nonce.length_eq]
      · exact ⟨rfl, ha.flight, by simp [arm, queue, record, hflight],
          fun _ => ha.pinged hopen, fun _ _ => ha.quiet (by simp [hphase]) hopen⟩
  | helloOpen outbox hphase htype hauth hqueued =>
      have hstage : c.stage = .start := by rw [ha.stage, stageOf, hphase]
      have hflight : s.txInFlight = false := ha.idle (by simp [hphase])
      refine conducted_next hs hreplay
        [.received f, .emitted ⟨.helloAck, 0, [kVersion]⟩, .emitted ⟨.authResult, 0, [authOk]⟩]
        { c with heard := some f, stage := .admitted }
        (by simp [arm, record, queue]) ?_ ?_ hqueued rfl
      · simp [Conduct.step, Conduct.resting, Conduct.emit, hstage, hauth]
      · exact ⟨rfl, ha.flight, by simp [arm, queue, record, hflight],
          fun _ => ha.pinged hopen, fun _ _ => ha.quiet (by simp [hphase]) hopen⟩
  | authClosed outbox frames ok reason hphase htype hok hframes hqueued hreason =>
      have hstage : c.stage = .challenged s.nonce := by rw [ha.stage, stageOf, hphase]
      refine conducted_next hs hreplay
        (.received f :: .verified f.payload ok :: (frames.map .emitted ++ [.closed reason]))
        ⟨.closed, some f, c.pinged, none⟩ (by simp [shut, record, queue]) ?_
        (.of_closed rfl rfl rfl rfl) ?_ rfl
      · rcases hframes with rfl | ⟨hfail, rfl⟩
        · cases ok <;> simp [Conduct.step, Conduct.resting, hstage, htype, ← hok]
        · subst hfail
          simp [Conduct.step, Conduct.resting, Conduct.emit, hstage, htype, ← hok]
      · rcases hframes with rfl | ⟨-, rfl⟩ <;> exact hqueued
  | authenticated outbox hphase htype hok hqueued =>
      have hstage : c.stage = .challenged s.nonce := by rw [ha.stage, stageOf, hphase]
      have hflight : s.txInFlight = false := ha.idle (by simp [hphase])
      refine conducted_next hs hreplay
        [.received f, .verified f.payload true, .emitted ⟨.authResult, 0, [authOk]⟩]
        { c with heard := some f, stage := .admitted }
        (by simp [arm, record, queue]) ?_ ?_ hqueued rfl
      · simp [Conduct.step, Conduct.resting, Conduct.emit, hstage, htype, hok]
      · exact ⟨rfl, ha.flight, by simp [arm, queue, record, hflight],
          fun _ => ha.pinged hopen, fun _ _ => ha.quiet (by simp [hphase]) hopen⟩
  | configInvalid outbox frames reason hphase hframes hqueued hreason =>
      have hstage : c.stage = .admitted := by rw [ha.stage, stageOf, hphase]
      refine conducted_next hs hreplay (.received f :: (frames.map .emitted ++ [.closed reason]))
        ⟨.closed, some f, c.pinged, none⟩ (by simp [shut, record, queue]) ?_
        (.of_closed rfl rfl rfl rfl) ?_ rfl
      · rcases hframes with rfl | rfl <;>
          simp [Conduct.step, Conduct.resting, Conduct.emit, hstage]
      · rcases hframes with rfl | rfl <;> exact hqueued
  | configRefused outbox frames reason requested _ hphase hconfig hbackend hframes hqueued =>
      have hstage : c.stage = .admitted := by rw [ha.stage, stageOf, hphase]
      refine conducted_next hs hreplay
        (.received f :: .configureCalled requested 0 :: (frames.map .emitted ++ [.closed reason]))
        ⟨.closed, some f, c.pinged, none⟩ (by simp [shut, record, queue]) ?_
        (.of_closed rfl rfl rfl rfl) ?_ rfl
      · rcases hframes with rfl | rfl <;>
          simp [Conduct.step, Conduct.resting, Conduct.emit, hstage, hconfig]
      · rcases hframes with rfl | rfl <;> exact hqueued
  | configStarted requested token _ hphase hconfig hvalid hbackend htoken =>
      have hstage : c.stage = .admitted := by rw [ha.stage, stageOf, hphase]
      have hflight : s.txInFlight = false := ha.idle (by simp [hphase])
      refine conducted_next hs hreplay [.received f, .configureCalled requested token]
        { c with heard := some f, stage := .configuring requested token }
        (by simp [arm, record]) ?_ ?_ (.nil _) rfl
      · simp [Conduct.step, Conduct.resting, hstage, hconfig, htoken]
      · exact ⟨rfl, ha.flight, by simp [arm, record, hflight],
          fun _ => ha.pinged hopen, fun _ _ => ha.quiet (by simp [hphase]) hopen⟩
  | ponged hphase htype hawaiting =>
      have hstage : c.stage = .ready := by rw [ha.stage, stageOf, hphase]
      have hpinged : c.pinged = true := (ha.pinged hopen).trans hawaiting
      refine conducted_next hs hreplay [.received f, .pongAccepted]
        { c with heard := some f, pinged := false }
        (by simp [acceptPong, record]) ?_ ?_ (.nil _) rfl
      · simp [Conduct.step, Conduct.resting, hstage, hpinged]
      · exact ⟨ha.stage, ha.flight, ha.ready, fun _ => rfl, fun _ _ => rfl⟩
  | submitRefused _ hphase htype hvalid hidle hbackend =>
      have hstage : c.stage = .ready := by rw [ha.stage, stageOf, hphase]
      have hflight : c.flight = none := by simp [ha.flight, hidle]
      refine conducted_next hs hreplay
        [.received f, .submitCalled f.seq f.payload false, .closed .backendFailure]
        ⟨.closed, some f, c.pinged, none⟩ (by simp [shut, record]) ?_
        (.of_closed rfl rfl rfl rfl) (.nil _) rfl
      simp [Conduct.step, Conduct.resting, hstage, hflight, htype, hvalid]
  | submitted _ hphase htype hvalid hidle hbackend =>
      have hstage : c.stage = .ready := by rw [ha.stage, stageOf, hphase]
      have hflight : c.flight = none := by simp [ha.flight, hidle]
      refine conducted_next hs hreplay [.received f, .submitCalled f.seq f.payload true]
        { c with heard := some f, flight := some f.seq }
        (by simp [record]) ?_ ?_ (.nil _) rfl
      · simp [Conduct.step, Conduct.resting, hstage, hflight, htype, hvalid]
      · exact ⟨ha.stage, rfl, fun _ => hphase, ha.pinged, ha.quiet⟩

/-- A tick keeps a session to the automaton. -/
theorem TickOutcome.conducted (h : TickOutcome R env now s b (s', b')) (hs : Conducted env s) :
    Conducted env s' := by
  obtain ⟨c, hreplay, ha⟩ := hs.conduct
  cases h with
  | quiet => exact hs
  | expired reason hopen =>
      refine conducted_next hs hreplay [.closed reason] ⟨.closed, c.heard, c.pinged, none⟩ rfl ?_
        (.of_closed rfl rfl rfl rfl) (.nil _) rfl
      simp [Conduct.step_closed env (ha.resting hopen)]
  | abandoned hphase hflight =>
      have hstage : c.stage = .ready := by rw [ha.stage, stageOf, hphase]
      have hpending : c.flight = some s.txSeq := by simp [ha.flight, hflight]
      refine conducted_next hs hreplay [.abandonCalled, .closed .txTimeoutUncertain]
        ⟨.closed, c.heard, c.pinged, none⟩ (by simp [shut, record]) ?_
        (.of_closed rfl rfl rfl rfl) (.nil _) rfl
      simp [Conduct.step, hstage, hpending]
  | pinged outbox hphase hidle hqueued =>
      have hstage : c.stage = .ready := by rw [ha.stage, stageOf, hphase]
      have hpinged : c.pinged = false := (ha.pinged (by simp [hphase])).trans hidle
      refine conducted_next hs hreplay [.emitted ⟨.ping, 0, []⟩] { c with pinged := true }
        (by simp [queue]) ?_ ?_ hqueued rfl
      · simp [Conduct.step, Conduct.emit, hstage, hpinged]
      · exact ⟨ha.stage, ha.flight, ha.ready, fun _ => rfl, fun hready _ => absurd hphase hready⟩

/-- A callback keeps a session to the automaton. -/
theorem CallOutcome.conducted {call : SinkCall} (h : CallOutcome env now s call s')
    (hs : Conducted env s) : Conducted env s' := by
  obtain ⟨c, hreplay, ha⟩ := hs.conduct
  cases h with
  | ignored call hignores =>
      refine conducted_next hs hreplay [.callback call] c rfl ?_
        ⟨ha.stage, ha.flight, ha.ready, ha.pinged, ha.quiet⟩ (.nil _) rfl
      have hstage := ha.stage
      have hflight := ha.flight
      unfold stageOf at hstage
      cases call <;> cases hphase : s.phase <;>
        simp_all [Conduct.step, Conduct.call, ignores]
  | failed hopen =>
      refine conducted_next hs hreplay [.callback .onBackendFailure, .closed .backendFailure]
        ⟨.closed, c.heard, c.pinged, none⟩ (by simp [shut, record]) ?_
        (.of_closed rfl rfl rfl rfl) (.nil _) rfl
      have hresting := ha.resting hopen
      cases hstage : c.stage <;> simp_all [Conduct.step, Conduct.call, Conduct.resting]
  | forwarded rx outbox hphase hrx hqueued =>
      have hstage : c.stage = .ready := by rw [ha.stage, stageOf, hphase]
      refine conducted_next hs hreplay [.callback (.onRx rx), .emitted (rxFrame rx)]
        { c with stage := .ready } (by simp [record, queue]) ?_
        ⟨hstage.symm.trans ha.stage, ha.flight, ha.ready, ha.pinged, ha.quiet⟩ hqueued rfl
      simp [Conduct.step, Conduct.call, Conduct.emit, hstage, hrx]
  | rxOverflow rx hphase hrx =>
      have hstage : c.stage = .ready := by rw [ha.stage, stageOf, hphase]
      refine conducted_next hs hreplay [.callback (.onRx rx), .closed .outputOverflow]
        ⟨.closed, c.heard, c.pinged, none⟩ (by simp [shut, record]) ?_
        (.of_closed rfl rfl rfl rfl) (.nil _) rfl
      simp [Conduct.step, Conduct.call, hstage, hrx]
  | completed outcome outbox hphase hflight hqueued =>
      have hstage : c.stage = .ready := by rw [ha.stage, stageOf, hphase]
      have hpending : c.flight = some s.txSeq := by simp [ha.flight, hflight]
      refine conducted_next hs hreplay
        [.callback (.onTxComplete outcome), .emitted (txResultFrame s.txSeq outcome)]
        { c with stage := .ready, flight := none } (by simp [record, queue]) ?_
        ⟨hstage.symm.trans ha.stage, rfl, by simp, ha.pinged, ha.quiet⟩ hqueued rfl
      simp [Conduct.step, Conduct.call, Conduct.emit, hstage, hpending]
  | completeOverflow outcome hphase hflight =>
      have hstage : c.stage = .ready := by rw [ha.stage, stageOf, hphase]
      have hpending : c.flight = some s.txSeq := by simp [ha.flight, hflight]
      refine conducted_next hs hreplay
        [.callback (.onTxComplete outcome), .closed .outputOverflow]
        ⟨.closed, c.heard, c.pinged, none⟩ (by simp [shut, record]) ?_
        (.of_closed rfl rfl rfl rfl) (.nil _) rfl
      simp [Conduct.step, Conduct.call, hstage, hpending]
  | configured token res outbox hphase htoken happlied heffective hqueued =>
      have hopen : s.phase ≠ .closed := by simp [hphase]
      have hstage : c.stage = .configuring s.requestedCfg s.configOpToken := by
        rw [ha.stage, stageOf, hphase]
      have hquiet := (ha.pinged hopen).trans (ha.quiet (by simp [hphase]) hopen)
      refine conducted_next hs hreplay
        [.callback (.onConfigureComplete token res), .emitted (configOkFrame res.effective)]
        { c with stage := .ready } (by simp [enterReady, record, queue]) ?_
        ⟨rfl, ha.flight, fun _ => rfl, fun _ => hquiet, fun _ _ => rfl⟩ hqueued rfl
      simp [Conduct.step, Conduct.call, Conduct.emit, hstage, htoken, happlied, heffective]
  | configOverflow token res hphase htoken =>
      have hstage : c.stage = .configuring s.requestedCfg s.configOpToken := by
        rw [ha.stage, stageOf, hphase]
      refine conducted_next hs hreplay
        [.callback (.onConfigureComplete token res), .closed .outputOverflow]
        ⟨.closed, c.heard, c.pinged, none⟩ (by simp [shut, record]) ?_
        (.of_closed rfl rfl rfl rfl) (.nil _) rfl
      by_cases hres : res.applied = true ∧ res.effective = s.requestedCfg <;>
        simp [Conduct.step, Conduct.call, hstage, htoken, hres]
  | configFailed token res outbox frames reason hphase htoken hframes hqueued hreason hres =>
      have hstage : c.stage = .configuring s.requestedCfg s.configOpToken := by
        rw [ha.stage, stageOf, hphase]
      refine conducted_next hs hreplay
        (.callback (.onConfigureComplete token res) :: (frames.map .emitted ++ [.closed reason]))
        ⟨.closed, c.heard, c.pinged, none⟩ (by simp [shut, record, queue]) ?_
        (.of_closed rfl rfl rfl rfl) ?_ rfl
      · rcases hframes with rfl | rfl <;>
          simp [Conduct.step, Conduct.call, Conduct.emit, hstage, htoken, hres]
      · rcases hframes with rfl | rfl <;> exact hqueued

end Outcomes

/-- A new session has no history yet. -/
theorem conducted_opened {β : Type} (R : RadioBackend β) (env : XrEnv) (now id : Nat)
    (entropy : Option Nonce) (b : β) :
    Conducted env ((XrSession.new env id entropy).openSession R env now b).1 where
  conduct := ⟨Conduct.initial, rfl, rfl, rfl, by simp [openSession, arm], fun _ => rfl,
    fun _ _ => rfl⟩
  written := rfl

/-- What the socket takes moves from the queue behind what it has taken. -/
theorem output_sendSome (n : Nat) (s : XrSession) : (s.sendSome n).output = s.output := by
  have hqueue : s.outbox.data.take n ++ s.outbox.data.drop (s.outbox.data.take n).length =
      s.outbox.data := by
    rw [List.length_take, List.take_eq_take_min, List.take_append_drop]
  simp only [output, sendSome, outConsume, accepted, BoundedBuffer.data_consume,
    List.append_assoc, hqueue]

theorem conducted_sendSome {env : XrEnv} {s : XrSession} (n : Nat) (h : Conducted env s) :
    Conducted env (s.sendSome n) where
  conduct := by
    obtain ⟨c, hreplay, ha⟩ := h.conduct
    exact ⟨c, hreplay, ha.stage, ha.flight, ha.ready, ha.pinged, ha.quiet⟩
  written := by
    rw [output_sendSome]
    exact h.written

end XrSession

/-- Sessions keep to the automaton. -/
theorem conducted_invariant {β : Type} (R : RadioBackend β) (env : XrEnv) :
    SessionInvariant R env (fun _ => True) (Conducted env) where
  opened id entropy b _ := XrSession.conducted_opened R env _ id entropy b
  parser _ h :=
    ⟨h.conduct.imp fun _ hc => ⟨hc.1, hc.2.stage, hc.2.flight, hc.2.ready, hc.2.pinged,
      hc.2.quiet⟩, h.written⟩
  frame _ h hopen hout := hout.conducted hopen h
  parserError h hopen := by
    obtain ⟨c, hreplay, ha⟩ := h.conduct
    refine XrSession.conducted_next h hreplay [.closed .parserError]
      ⟨.closed, c.heard, c.pinged, none⟩ rfl ?_ (.of_closed rfl rfl rfl rfl) (.nil _) rfl
    simp [Conduct.step_closed env (ha.resting hopen)]
  tick _ h hout := hout.conducted h
  call _ h hout := hout.conducted h
  consume n h := XrSession.conducted_sendSome n h

/-- The session of any run keeps to the automaton. -/
theorem run_conducted {β : Type} (R : RadioBackend β) (env : XrEnv)
    (o : XrConnection.Opening β) (ops : List (XrConnection.Op β)) :
    Conducted env (XrConnection.run R env o ops).1.session :=
  (conducted_invariant R env).run o ops trivial fun _ _ => trivial

end LorahamBridge
