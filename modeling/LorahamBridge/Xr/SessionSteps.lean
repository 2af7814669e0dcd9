import LorahamBridge.Xr.Session

/-!
# What the session can do

Inversion of the session's entry points.  A frame handled in an open session, a
backend callback and a clock tick each have a short list of outcomes; the lists
are given as inductive relations with the guards under which the code takes them,
and every property of the session is proved against them.

A handshake step may stop halfway because the output queue is full.  The outcomes
therefore say which frames were queued before the session closed.

Main results:

- Theorem `handleFrame_cases`: the outcomes of one inbound frame.
- Theorem `onCall_cases`: the outcomes of one backend callback.
- Theorem `tick_cases`: the outcomes of one tick.
- Theorem `feed_rule`: the invariant rule of the receive loop.
-/

namespace LorahamBridge
namespace XrSession

open Foundation Extradio

/-! ## Closing and queueing -/

/-- The state in which an open session is left by `close`. -/
def shut (reason : CloseReason) (s : XrSession) : XrSession :=
  { s with
    closeReason := reason
    phase := .closed
    deadlineActive := false
    txInFlight := false
    log := s.log ++ [.closed reason] }

/-- Closing an open session. -/
theorem close_of_open {s : XrSession} (reason : CloseReason) (h : s.phase ≠ .closed) :
    s.close reason = s.shut reason := by
  rw [close, if_neg h]
  rfl

/-- A session is closed once. -/
theorem close_of_closed {s : XrSession} (reason : CloseReason) (h : s.phase = .closed) :
    s.close reason = s := by
  rw [close, if_pos h]

/-- The session after some frames were queued. -/
def queue (outbox : BoundedBuffer) (frames : List Frame) (s : XrSession) : XrSession :=
  { s with outbox := outbox, log := s.log ++ frames.map SessionEvent.emitted }

/-- One queue extends another by exactly these frames. -/
structure Queued (before : BoundedBuffer) (frames : List Frame) (after : BoundedBuffer) :
    Prop where
  data : after.data = before.data ++ frames.flatMap frameBytes
  fits : ∀ f ∈ frames, f.payload.length ≤ kMaxPayload

theorem Queued.nil (q : BoundedBuffer) : Queued q [] q :=
  ⟨by simp, by simp⟩

/-- Queue some frames, then more. -/
theorem Queued.append {q q' q'' : BoundedBuffer} {frames more : List Frame}
    (h : Queued q frames q') (h' : Queued q' more q'') : Queued q (frames ++ more) q'' := by
  refine ⟨by simp [h'.data, h.data], ?_⟩
  intro f hf
  rcases List.mem_append.mp hf with hf | hf
  · exact h.fits f hf
  · exact h'.fits f hf

theorem queue_nil (s : XrSession) : s.queue s.outbox [] = s := by
  simp [queue]

/-- The same for a session. -/
theorem queue_queue (s : XrSession) (q q' : BoundedBuffer) (frames more : List Frame) :
    (s.queue q frames).queue q' more = s.queue q' (frames ++ more) := by
  simp [queue]

/-- The reasons that blame the client for breaking the protocol. -/
def blamesClient : CloseReason → Bool
  | .malformedFrame | .parserError | .badState => true
  | _ => false

/-- An emitted frame is queued whole, or the session closes without it. -/
theorem emit_cases (env : XrEnv) (type : MsgType) (seq : UInt16) (payload : Bytes)
    {s : XrSession} (h : s.phase ≠ .closed) :
    (∃ outbox, Queued s.outbox [⟨type, seq, payload⟩] outbox ∧
        s.emit env type seq payload = (true, s.queue outbox [⟨type, seq, payload⟩])) ∨
      (∃ reason, s.emit env type seq payload = (false, s.shut reason) ∧
        (reason = .outputOverflow ∨ reason = .internalError ∧ kMaxPayload < payload.length)) := by
  unfold emit
  by_cases hlen : payload.length ≤ kMaxPayload
  · rw [encode_kMaxFrame hlen]
    simp only
    split <;> rename_i happend
    · rw [close_of_open _ h]
      exact Or.inr ⟨.outputOverflow, rfl, Or.inl rfl⟩
    · refine Or.inl ⟨_, ⟨?_, ?_⟩, rfl⟩
      · simpa using (BoundedBuffer.data_append happend).1
      · simpa using hlen
  · rw [encode, if_pos (by omega), close_of_open _ h]
    exact Or.inr ⟨.internalError, rfl, Or.inr ⟨rfl, by omega⟩⟩

/-- An overflow while a frame is queued is no fault of the client. -/
theorem blamesClient_of_emit {reason : CloseReason} {payload : Bytes}
    (h : reason = .outputOverflow ∨ reason = .internalError ∧ kMaxPayload < payload.length) :
    blamesClient reason = false := by
  rcases h with rfl | ⟨rfl, -⟩ <;> rfl

theorem shut_eq_queue_nil (reason : CloseReason) (s : XrSession) :
    s.shut reason = (s.queue s.outbox []).shut reason := by
  rw [queue_nil]

/-- A final frame is queued or dropped, and the session is closed either way. -/
theorem emitAndClose_cases (env : XrEnv) (type : MsgType) (payload : Bytes)
    (reason : CloseReason) (hreason : blamesClient reason = false) {s : XrSession}
    (h : s.phase ≠ .closed) :
    ∃ outbox frames reason', Queued s.outbox frames outbox ∧
      (frames = [] ∨ frames = [⟨type, 0, payload⟩]) ∧ blamesClient reason' = false ∧
      s.emitAndClose env type payload reason = (s.queue outbox frames).shut reason' := by
  unfold emitAndClose
  rcases emit_cases env type 0 payload h with ⟨outbox, hq, heq⟩ | ⟨why, heq, hwhy⟩
  · refine ⟨outbox, _, reason, hq, Or.inr rfl, hreason, ?_⟩
    rw [heq]
    exact close_of_open reason h
  · refine ⟨s.outbox, [], why, .nil s.outbox, Or.inl rfl, blamesClient_of_emit hwhy, ?_⟩
    rw [heq, ← shut_eq_queue_nil]
    exact close_of_closed reason rfl

/-! ## Inbound frames -/

section Frames

variable {β : Type} (R : RadioBackend β) (env : XrEnv) (now : Nat)

/-- The frames that are legal in the session's present state. -/
def expects (s : XrSession) (f : Frame) : Bool :=
  validate f == .none &&
    match s.phase, f.type with
    | .waitHello, .hello => true
    | .waitAuth, .authResponse => true
    | .waitConfigure, .configure => true
    | .ready, .pong => s.awaitingPong
    | .ready, .txRequest => !s.txInFlight
    | _, _ => false

/-- Every way an open session can handle a frame. -/
inductive FrameOutcome (f : Frame) (s : XrSession) (b : β) : XrSession × β → Prop
  | rejected (reason : CloseReason) (hexpects : s.expects f = false) :
      FrameOutcome f s b ((s.record (.received f)).shut reason, b)
  | helloFailed (outbox : BoundedBuffer) (frames : List Frame) (nonce : Bytes)
      (reason : CloseReason) (hphase : s.phase = .waitHello)
      (hframes : frames = [] ∨ frames = [⟨.helloAck, 0, [kVersion]⟩])
      (hqueued : Queued s.outbox frames outbox) (hreason : blamesClient reason = false) :
      FrameOutcome f s b
        (shut reason { (s.record (.received f)).queue outbox frames with nonce := nonce }, b)
  | challenged (outbox : BoundedBuffer) (nonce : Nonce) (hphase : s.phase = .waitHello)
      (htype : f.type = .hello) (hauth : env.auth.passwordConfigured = true) (hnonce : s.entropy = some nonce)
      (hqueued : Queued s.outbox
        [⟨.helloAck, 0, [kVersion]⟩, ⟨.authChallenge, 0, nonce.bytes⟩] outbox) :
      FrameOutcome f s b
        (arm now env.timeouts.authMs .authTimeout
          { (s.record (.received f)).queue outbox
              [⟨.helloAck, 0, [kVersion]⟩, ⟨.authChallenge, 0, nonce.bytes⟩] with
            nonce := nonce.bytes
            phase := .waitAuth }, b)
  | helloOpen (outbox : BoundedBuffer) (hphase : s.phase = .waitHello)
      (htype : f.type = .hello) (hauth : env.auth.passwordConfigured = false)
      (hqueued : Queued s.outbox
        [⟨.helloAck, 0, [kVersion]⟩, ⟨.authResult, 0, [authOk]⟩] outbox) :
      FrameOutcome f s b
        (arm now env.timeouts.configMs .configTimeout
          { (s.record (.received f)).queue outbox
              [⟨.helloAck, 0, [kVersion]⟩, ⟨.authResult, 0, [authOk]⟩] with
            phase := .waitConfigure }, b)
  | authClosed (outbox : BoundedBuffer) (frames : List Frame) (ok : Bool)
      (reason : CloseReason) (hphase : s.phase = .waitAuth) (htype : f.type = .authResponse)
      (hok : ok = verifyAuthResponse env.hmac env.auth s.nonce f.payload)
      (hframes : frames = [] ∨ ok = false ∧ frames = [⟨.authResult, 0, [authFail]⟩])
      (hqueued : Queued s.outbox frames outbox) (hreason : blamesClient reason = false) :
      FrameOutcome f s b
        ((((s.record (.received f)).record (.verified f.payload ok)).queue outbox frames).shut
          reason, b)
  | authenticated (outbox : BoundedBuffer) (hphase : s.phase = .waitAuth)
      (htype : f.type = .authResponse)
      (hok : verifyAuthResponse env.hmac env.auth s.nonce f.payload = true)
      (hqueued : Queued s.outbox [⟨.authResult, 0, [authOk]⟩] outbox) :
      FrameOutcome f s b
        (arm now env.timeouts.configMs .configTimeout
          { ((s.record (.received f)).record (.verified f.payload true)).queue outbox
              [⟨.authResult, 0, [authOk]⟩] with
            phase := .waitConfigure }, b)
  | configInvalid (outbox : BoundedBuffer) (frames : List Frame) (reason : CloseReason)
      (hphase : s.phase = .waitConfigure)
      (hframes : frames = [] ∨ frames = [⟨.configResult, 0, [cfgInvalid]⟩])
      (hqueued : Queued s.outbox frames outbox) (hreason : blamesClient reason = false) :
      FrameOutcome f s b (((s.record (.received f)).queue outbox frames).shut reason, b)
  | configRefused (outbox : BoundedBuffer) (frames : List Frame) (reason : CloseReason)
      (requested : RadioConfig) (b' : β) (hphase : s.phase = .waitConfigure)
      (hconfig : decodeConfig f = some requested)
      (hbackend : R.beginConfigure requested b = (0, b'))
      (hframes : frames = [] ∨ frames = [⟨.configResult, 0, [cfgUnsupported]⟩])
      (hqueued : Queued s.outbox frames outbox) (hreason : blamesClient reason = false) :
      FrameOutcome f s b
        ((((s.record (.received f)).record (.configureCalled requested 0)).queue
          outbox frames).shut reason, b')
  | configStarted (requested : RadioConfig) (token : UInt32) (b' : β)
      (hphase : s.phase = .waitConfigure) (hconfig : decodeConfig f = some requested)
      (hvalid : radioConfigValid requested = true)
      (hbackend : R.beginConfigure requested b = (token, b')) (htoken : token ≠ 0) :
      FrameOutcome f s b
        (arm now env.timeouts.configMs .configTimeout
          { (s.record (.received f)).record (.configureCalled requested token) with
            configOpToken := token
            requestedCfg := requested
            phase := .configuring }, b')
  | ponged (hphase : s.phase = .ready) (htype : f.type = .pong)
      (hawaiting : s.awaitingPong = true) :
      FrameOutcome f s b ((s.record (.received f)).acceptPong env now, b)
  | submitRefused (b' : β) (hphase : s.phase = .ready) (htype : f.type = .txRequest)
      (hvalid : validate f = .none) (hidle : s.txInFlight = false)
      (hbackend : R.submitTx f.payload b = (false, b')) :
      FrameOutcome f s b
        (shut .backendFailure
          (record (.submitCalled f.seq f.payload false)
            { s.record (.received f) with txSeq := f.seq }), b')
  | submitted (b' : β) (hphase : s.phase = .ready) (htype : f.type = .txRequest)
      (hvalid : validate f = .none) (hidle : s.txInFlight = false)
      (hbackend : R.submitTx f.payload b = (true, b')) :
      FrameOutcome f s b
        ({ record (.submitCalled f.seq f.payload true)
            { s.record (.received f) with txSeq := f.seq } with
          txInFlight := true
          txDeadlineAt := addMs now env.timeouts.txMs }, b')

/-- Every way a tick can end. -/
inductive TickOutcome (s : XrSession) (b : β) : XrSession × β → Prop
  | quiet (hdeadline : s.phase = .closed ∨ ¬(s.deadlineActive = true ∧ s.deadlineAt ≤ now)) :
      TickOutcome s b (s, b)
  | expired (reason : CloseReason) (hopen : s.phase ≠ .closed)
      (hreason : reason = s.deadlineReason ∧ s.deadlineActive = true ∧ s.deadlineAt ≤ now ∨
        reason = .pongTimeout ∧ s.awaitingPong = true ∨ reason = .outputOverflow) :
      TickOutcome s b (s.shut reason, b)
  | abandoned (hphase : s.phase = .ready) (hflight : s.txInFlight = true)
      (hdeadline : s.txDeadlineAt ≤ now) :
      TickOutcome s b
        ((s.record .abandonCalled).shut .txTimeoutUncertain, R.abandonPendingTx b)
  | pinged (outbox : BoundedBuffer) (hphase : s.phase = .ready)
      (hidle : s.awaitingPong = false)
      (hqueued : Queued s.outbox [⟨.ping, 0, []⟩] outbox) :
      TickOutcome s b
        ({ s.queue outbox [⟨.ping, 0, []⟩] with
          awaitingPong := true
          pingSentAt := now
          pongDeadlineAt := addMs now env.timeouts.pongTimeoutMs }, b)

variable {R env now}

theorem FrameOutcome.id {f : Frame} {s s' : XrSession} {b b' : β}
    (h : FrameOutcome R env now f s b (s', b')) : s'.id = s.id := by
  cases h <;> rfl

theorem TickOutcome.id {s s' : XrSession} {b b' : β}
    (h : TickOutcome R env now s b (s', b')) : s'.id = s.id := by
  cases h <;> rfl

/-- `HELLO` in its own phase. -/
theorem handleHello_cases {f : Frame} {s : XrSession} (b : β) (hphase : s.phase = .waitHello)
    (htype : f.type = .hello) :
    FrameOutcome R env now f s b (handleHello env now (s.record (.received f)), b) := by
  have hopen : s.phase ≠ .closed := by simp [hphase]
  unfold handleHello
  rcases emit_cases env .helloAck 0 [kVersion] (s := s.record (.received f)) hopen with
    ⟨q, hq, heq⟩ | ⟨why, heq, hwhy⟩
  · rw [heq]
    simp only
    split <;> rename_i hauth
    · split <;> rename_i hnonce
      · rw [close_of_open (s := (s.record (.received f)).queue q _) _ hopen]
        exact .helloFailed q _ s.nonce .authError hphase (Or.inr rfl) hq rfl
      · rename_i nonce
        rcases emit_cases env .authChallenge 0 nonce.bytes
          (s := { (s.record (.received f)).queue q [⟨.helloAck, 0, [kVersion]⟩] with
            nonce := nonce.bytes }) hopen with ⟨q', hq', heq'⟩ | ⟨why, heq', hwhy⟩
        · have hmerge : queue q' [⟨.authChallenge, 0, nonce.bytes⟩]
              { (s.record (.received f)).queue q [⟨.helloAck, 0, [kVersion]⟩] with
                nonce := nonce.bytes } =
              { (s.record (.received f)).queue q'
                  [⟨.helloAck, 0, [kVersion]⟩, ⟨.authChallenge, 0, nonce.bytes⟩] with
                nonce := nonce.bytes } := by simp [queue]
          rw [heq', hmerge]
          exact .challenged q' nonce hphase htype hauth hnonce (hq.append hq')
        · rw [heq']
          exact .helloFailed q _ nonce.bytes why hphase (Or.inr rfl) hq (blamesClient_of_emit hwhy)
    · rcases emit_cases env .authResult 0 [authOk]
        (s := (s.record (.received f)).queue q [⟨.helloAck, 0, [kVersion]⟩]) hopen with
        ⟨q', hq', heq'⟩ | ⟨why, heq', hwhy⟩
      · rw [heq', queue_queue]
        exact .helloOpen q' hphase htype (by simpa using hauth) (hq.append hq')
      · rw [heq']
        exact .helloFailed q _ s.nonce why hphase (Or.inr rfl) hq (blamesClient_of_emit hwhy)
  · rw [heq, shut_eq_queue_nil]
    exact .helloFailed s.outbox [] s.nonce why hphase (Or.inl rfl) (.nil _)
      (blamesClient_of_emit hwhy)

/-- An `AUTH_RESPONSE` in its own phase. -/
theorem handleAuthResponse_cases {f : Frame} {s : XrSession} (b : β)
    (hphase : s.phase = .waitAuth) (htype : f.type = .authResponse) :
    FrameOutcome R env now f s b
      (handleAuthResponse env now f (s.record (.received f)), b) := by
  have hopen : s.phase ≠ .closed := by simp [hphase]
  unfold handleAuthResponse
  simp only
  generalize hok : verifyAuthResponse env.hmac env.auth (s.record (.received f)).nonce
    f.payload = ok
  cases ok with
  | true =>
      simp only [if_true]
      rcases emit_cases env .authResult 0 [authOk]
        (s := (s.record (.received f)).record (.verified f.payload true)) hopen with
        ⟨q, hq, heq⟩ | ⟨why, heq, hwhy⟩
      · rw [heq]
        exact .authenticated q hphase htype hok hq
      · rw [heq, shut_eq_queue_nil]
        exact .authClosed s.outbox [] true why hphase htype hok.symm (Or.inl rfl) (.nil _)
          (blamesClient_of_emit hwhy)
  | false =>
      simp only [Bool.false_eq_true, if_false]
      obtain ⟨q, frames, why, hq, hframes, hwhy, heq⟩ :=
        emitAndClose_cases env .authResult [authFail] .authFailed rfl
          (s := (s.record (.received f)).record (.verified f.payload false)) hopen
      rw [heq]
      exact .authClosed q frames false why hphase htype hok.symm
        (hframes.imp_right fun h => ⟨rfl, h⟩) hq hwhy

/-- A `CONFIGURE` in its own phase. -/
theorem handleConfigure_cases {f : Frame} {s : XrSession} (b : β)
    (hphase : s.phase = .waitConfigure) :
    FrameOutcome R env now f s b
      (handleConfigure R env now f (s.record (.received f)) b) := by
  have hopen : s.phase ≠ .closed := by simp [hphase]
  unfold handleConfigure
  split <;> rename_i hdecode
  · obtain ⟨q, frames, why, hq, hframes, hwhy, heq⟩ :=
      emitAndClose_cases env .configResult [cfgInvalid] .configFailed rfl
        (s := s.record (.received f)) hopen
    rw [heq]
    exact .configInvalid q frames why hphase hframes hq hwhy
  · rename_i requested
    simp only [Option.filter_eq_some_iff] at hdecode
    rcases hbackend : R.beginConfigure requested b with ⟨token, b'⟩
    simp only
    split <;> rename_i htoken
    · subst htoken
      obtain ⟨q, frames, why, hq, hframes, hwhy, heq⟩ :=
        emitAndClose_cases env .configResult [cfgUnsupported] .configFailed rfl
          (s := (s.record (.received f)).record (.configureCalled requested 0)) hopen
      rw [heq]
      exact .configRefused q frames why requested b' hphase hdecode.1 hbackend hframes hq hwhy
    · exact .configStarted requested token b' hphase hdecode.1 hdecode.2 hbackend htoken

/-- A frame in `Ready`. -/
theorem handleReadyFrame_cases {f : Frame} {s : XrSession} (b : β) (hphase : s.phase = .ready)
    (hvalid : validate f = .none) :
    FrameOutcome R env now f s b
      (handleReadyFrame R env now f (s.record (.received f)) b) := by
  have hopen : s.phase ≠ .closed := by simp [hphase]
  have hreject : s.expects f = false →
      FrameOutcome R env now f s b ((s.record (.received f)).close .badState, b) := by
    intro hexpects
    rw [close_of_open (s := s.record (.received f)) _ hopen]
    exact .rejected .badState hexpects
  unfold handleReadyFrame
  split <;> rename_i htype
  · split <;> rename_i hawaiting
    · exact .ponged hphase htype hawaiting
    · have hawaiting : s.awaitingPong = false := by simpa [record] using hawaiting
      exact hreject (by simp [expects, hphase, htype, hawaiting])
  · split <;> rename_i hflight
    · have hflight : s.txInFlight = true := hflight
      exact hreject (by simp [expects, hphase, htype, hflight])
    · have hidle : s.txInFlight = false := by simpa [record] using hflight
      unfold submitRequest
      rcases hbackend : R.submitTx f.payload b with ⟨accepted, b'⟩
      cases accepted with
      | true => exact .submitted b' hphase htype hvalid hidle hbackend
      | false =>
          simp only
          rw [close_of_open (s := record (.submitCalled f.seq f.payload false)
            { s.record (.received f) with txSeq := f.seq }) _ hopen]
          exact .submitRefused b' hphase htype hvalid hidle hbackend
  · refine hreject ?_
    unfold expects
    rw [hphase]
    split <;> simp_all

variable (R env now)

/-- The outcomes of one frame in an open session. -/
theorem handleFrame_cases (f : Frame) {s : XrSession} (b : β) (hopen : s.phase ≠ .closed) :
    FrameOutcome R env now f s b (handleFrame R env now f s b) := by
  have hreject : ∀ reason, s.expects f = false →
      FrameOutcome R env now f s b ((s.record (.received f)).close reason, b) := by
    intro reason hexpects
    rw [close_of_open (s := s.record (.received f)) reason hopen]
    exact .rejected reason hexpects
  unfold handleFrame
  simp only
  split <;> rename_i hvalid
  · exact hreject _ (by simp [expects, hvalid])
  · simp only [ne_eq, not_not] at hvalid
    split <;> rename_i hclient
    · refine hreject _ ?_
      cases htype : f.type <;> simp_all [expects, isClientMessage]
    · split <;> rename_i herror
      · exact hreject _ (by simp [expects, herror])
      · split <;> rename_i hphase
        · split <;> rename_i htype
          · refine hreject _ ?_
            have hphase : s.phase = .waitHello := hphase
            cases hf : f.type <;> simp_all [expects]
          · exact handleHello_cases b hphase (not_not.mp htype)
        · split <;> rename_i htype
          · refine hreject _ ?_
            have hphase : s.phase = .waitAuth := hphase
            cases hf : f.type <;> simp_all [expects]
          · exact handleAuthResponse_cases b hphase (not_not.mp htype)
        · split <;> rename_i htype
          · refine hreject _ ?_
            have hphase : s.phase = .waitConfigure := hphase
            cases hf : f.type <;> simp_all [expects]
          · exact handleConfigure_cases b hphase
        · have hphase : s.phase = .configuring := hphase
          exact hreject _ (by simp [expects, hphase])
        · exact handleReadyFrame_cases b hphase hvalid
        · exact absurd hphase hopen

/-- The outcomes of one tick. -/
theorem tick_cases (s : XrSession) (b : β) :
    TickOutcome R env now s b (tick R env now s b) := by
  unfold tick
  split <;> rename_i hclosed
  · exact .quiet (Or.inl hclosed)
  · split <;> rename_i hdeadline
    · rw [close_of_open _ hclosed]
      exact .expired _ hclosed (Or.inl ⟨rfl, hdeadline.1, hdeadline.2⟩)
    · split <;> rename_i hready
      · exact .quiet (Or.inr hdeadline)
      · have hphase : s.phase = .ready := not_not.mp hready
        split <;> rename_i htx
        · rw [close_of_open (s := s.record .abandonCalled) _ hclosed]
          exact .abandoned hphase htx.1 htx.2
        · split <;> rename_i hpong
          · split
            · rw [close_of_open _ hclosed]
              exact .expired _ hclosed (Or.inr (Or.inl ⟨rfl, hpong⟩))
            · exact .quiet (Or.inr hdeadline)
          · split
            · rcases emit_cases env .ping 0 [] hclosed with ⟨q, hq, heq⟩ | ⟨why, heq, hwhy⟩
              · rw [heq]
                exact .pinged q hphase (by simpa using hpong) hq
              · rw [heq]
                exact .expired why hclosed (Or.inr (Or.inr (by simpa using hwhy)))
            · exact .quiet (Or.inr hdeadline)

variable {R env now}

/-- Invariant rule of the receive loop: what every handled frame keeps, and what
does not depend on the buffered bytes, holds after a whole read. -/
theorem feed_rule (P : XrSession → β → Prop)
    (hparser : ∀ s b buf, P s b → P (s.withParser buf) b)
    (hframe : ∀ f s b, P s b → s.phase ≠ .closed →
      P (handleFrame R env now f s b).1 (handleFrame R env now f s b).2)
    (hclose : ∀ s b, P s b → s.phase ≠ .closed → P (s.shut .parserError) b)
    (data : Bytes) (s : XrSession) (b : β) (h : P s b) :
    P (feed R env now data s b).1 (feed R env now data s b).2 := by
  unfold feed
  split <;> rename_i hopen
  · exact h
  · obtain ⟨exit, buf, unread, ⟨s', b'⟩, heq, hP, hexit⟩ := xrFormat.drive_rule
      (fun f rest (p : XrSession × β) => handleFrame R env now f (p.1.withParser rest) p.2)
      (fun p => p.1.phase == .closed) (fun _ _ p => P p.1 p.2)
      (fun _ _ p f rest hp hrun _ => hframe f _ _ (hparser _ _ rest hp)
        (by simpa [withParser] using hrun))
      (fun _ _ _ _ hp _ _ => hp)
      s.parser data (s, b) h (by simpa using hopen)
    simp only
    rw [heq]
    cases exit with
    | halted => exact hP
    | malformed e =>
        have hrun : s'.phase ≠ .closed := by simpa using hexit.2
        simp only
        rw [close_of_open (s := s'.withParser buf) _ hrun]
        exact hclose _ _ (hparser _ _ buf hP) hrun
    | stuck => exact hexit.elim
    | drained => exact hparser _ _ buf hP

end Frames

/-! ## Backend callbacks -/

/-- The delivery of a received packet. -/
def rxFrame (rx : RxEvent) : Frame :=
  ⟨.rxPacket, 0, rxPayload rx⟩

/-- The result codes of the XR protocol. -/
def resultCode : TxOutcome → UInt8
  | .success => 0x00
  | .channelBusy => 0x01
  | .timeout => 0x02
  | .radioError => 0x03

/-- The session writes the code of the outcome it is told. -/
theorem txOutcomeToWire_eq (outcome : TxOutcome) :
    txOutcomeToWire outcome = resultCode outcome := by
  cases outcome <;> rfl

/-- The result of the request with number `seq`. -/
def txResultFrame (seq : UInt16) (outcome : TxOutcome) : Frame :=
  ⟨.txResult, seq, [resultCode outcome]⟩

/-- The acceptance of a configuration, with its echo. -/
def configOkFrame (cfg : RadioConfig) : Frame :=
  ⟨.configResult, 0, cfgOk :: packConfig cfg⟩

/-- The callbacks that have no effect in the session's present state. -/
def ignores (s : XrSession) : SinkCall → Bool
  | .onRx rx => s.phase != .ready || !rxPayloadAcceptable rx.data.length
  | .onTxComplete _ => !s.txInFlight
  | .onBackendFailure => s.phase == .closed
  | .onConfigureComplete token _ => s.phase != .configuring || token != s.configOpToken

/-- Every way a callback can end. -/
inductive CallOutcome (env : XrEnv) (now : Nat) (s : XrSession) : SinkCall → XrSession → Prop
  | ignored (call : SinkCall) (hignores : s.ignores call = true) :
      CallOutcome env now s call (s.record (.callback call))
  | failed (hopen : s.phase ≠ .closed) :
      CallOutcome env now s .onBackendFailure
        ((s.record (.callback .onBackendFailure)).shut .backendFailure)
  | forwarded (rx : RxEvent) (outbox : BoundedBuffer) (hphase : s.phase = .ready)
      (hrx : rxPayloadAcceptable rx.data.length = true)
      (hqueued : Queued s.outbox [rxFrame rx] outbox) :
      CallOutcome env now s (.onRx rx)
        ((s.record (.callback (.onRx rx))).queue outbox [rxFrame rx])
  | rxOverflow (rx : RxEvent) (hphase : s.phase = .ready)
      (hrx : rxPayloadAcceptable rx.data.length = true) :
      CallOutcome env now s (.onRx rx)
        ((s.record (.callback (.onRx rx))).shut .outputOverflow)
  | completed (outcome : TxOutcome) (outbox : BoundedBuffer) (hphase : s.phase = .ready)
      (hflight : s.txInFlight = true)
      (hqueued : Queued s.outbox [txResultFrame s.txSeq outcome] outbox) :
      CallOutcome env now s (.onTxComplete outcome)
        { (s.record (.callback (.onTxComplete outcome))).queue outbox
            [txResultFrame s.txSeq outcome] with
          txInFlight := false }
  | completeOverflow (outcome : TxOutcome) (hphase : s.phase = .ready)
      (hflight : s.txInFlight = true) :
      CallOutcome env now s (.onTxComplete outcome)
        ((s.record (.callback (.onTxComplete outcome))).shut .outputOverflow)
  | configured (token : UInt32) (res : ConfigureResult) (outbox : BoundedBuffer)
      (hphase : s.phase = .configuring) (htoken : token = s.configOpToken)
      (happlied : res.applied = true) (heffective : res.effective = s.requestedCfg)
      (hqueued : Queued s.outbox [configOkFrame res.effective] outbox) :
      CallOutcome env now s (.onConfigureComplete token res)
        (enterReady env now
          { (s.record (.callback (.onConfigureComplete token res))).queue outbox
              [configOkFrame res.effective] with
            appliedCfg := res.effective })
  | configOverflow (token : UInt32) (res : ConfigureResult) (hphase : s.phase = .configuring)
      (htoken : token = s.configOpToken) :
      CallOutcome env now s (.onConfigureComplete token res)
        (shut .outputOverflow
          { s.record (.callback (.onConfigureComplete token res)) with
            appliedCfg := res.effective })
  | configFailed (token : UInt32) (res : ConfigureResult) (outbox : BoundedBuffer)
      (frames : List Frame) (reason : CloseReason) (hphase : s.phase = .configuring)
      (htoken : token = s.configOpToken)
      (hframes : frames = [] ∨ frames = [⟨.configResult, 0, [cfgUnsupported]⟩])
      (hqueued : Queued s.outbox frames outbox) (hreason : blamesClient reason = false)
      (hres : ¬(res.applied = true ∧ res.effective = s.requestedCfg)) :
      CallOutcome env now s (.onConfigureComplete token res)
        (((s.record (.callback (.onConfigureComplete token res))).queue outbox frames).shut
          reason)

theorem CallOutcome.id {env : XrEnv} {now : Nat} {s s' : XrSession} {call : SinkCall}
    (h : CallOutcome env now s call s') : s'.id = s.id := by
  cases h <;> rfl

theorem rxPayload_length (rx : RxEvent) : (rxPayload rx).length = 6 + rx.data.length := by
  simp [rxPayload]
  omega

/-- The outcomes of one backend callback.  Only a `Ready` session has a
transmission in flight. -/
theorem onCall_cases (env : XrEnv) (now : Nat) (call : SinkCall) {s : XrSession}
    (hflight : s.txInFlight = true → s.phase = .ready) :
    CallOutcome env now s call (s.onCall env now call) := by
  cases call with
  | onRx rx =>
      unfold onCall onRx
      simp only
      split <;> rename_i hphase
      · exact .ignored _ (by simpa [ignores, record] using Or.inl hphase)
      · split <;> rename_i hrx
        · exact .ignored _ (by simpa [ignores] using Or.inr hrx)
        · have hphase : s.phase = .ready := not_not.mp hphase
          have hrx : rxPayloadAcceptable rx.data.length = true := by simpa using hrx
          have hlen : (rxPayload rx).length ≤ kMaxPayload := by
            have hbound := (rxPayloadAcceptable_iff _).mp hrx
            simp only [kMaxLoraPayload] at hbound
            rw [rxPayload_length, kMaxPayload]
            omega
          rcases emit_cases env .rxPacket 0 (rxPayload rx)
            (s := s.record (.callback (.onRx rx))) (by simp [record, hphase]) with
            ⟨q, hq, heq⟩ | ⟨why, heq, rfl | ⟨-, hlong⟩⟩
          · rw [heq]
            exact .forwarded rx q hphase hrx hq
          · rw [heq]
            exact .rxOverflow rx hphase hrx
          · omega
  | onTxComplete outcome =>
      unfold onCall onTxComplete
      simp only
      split <;> rename_i htx
      · have hphase := hflight htx
        unfold mapAndSendTxResult
        rw [txOutcomeToWire_eq]
        rcases emit_cases env .txResult s.txSeq [resultCode outcome]
          (s := { s.record (.callback (.onTxComplete outcome)) with txInFlight := false })
          (by simp [record, hphase]) with ⟨q, hq, heq⟩ | ⟨why, heq, rfl | ⟨-, hlong⟩⟩
        · change CallOutcome env now s _ (emit env .txResult s.txSeq _ _).2
          rw [heq]
          exact .completed outcome q hphase htx hq
        · change CallOutcome env now s _ (emit env .txResult s.txSeq _ _).2
          rw [heq]
          exact .completeOverflow outcome hphase htx
        · simp [kMaxPayload] at hlong
      · exact .ignored _ (by simpa [ignores, record] using htx)
  | onBackendFailure =>
      unfold onCall onBackendFailure
      simp only
      by_cases hopen : s.phase = .closed
      · rw [close_of_closed (s := s.record (.callback .onBackendFailure)) _ hopen]
        exact .ignored _ (by simp [ignores, hopen])
      · rw [close_of_open (s := s.record (.callback .onBackendFailure)) _ hopen]
        exact .failed hopen
  | onConfigureComplete token res =>
      unfold onCall onConfigureComplete
      simp only
      split <;> rename_i hphase
      · exact .ignored _ (by simpa [ignores, record] using Or.inl hphase)
      · have hphase : s.phase = .configuring := not_not.mp hphase
        have hopen : s.phase ≠ .closed := by simp [hphase]
        split <;> rename_i htoken
        · exact .ignored _ (by simpa [ignores, record] using Or.inr htoken)
        · have htoken : token = s.configOpToken := not_not.mp htoken
          split <;> rename_i hres
          · obtain ⟨q, frames, why, hq, hframes, hwhy, heq⟩ :=
              emitAndClose_cases env .configResult [cfgUnsupported] .configFailed rfl
                (s := s.record (.callback (.onConfigureComplete token res))) hopen
            rw [heq]
            refine .configFailed token res q frames why hphase htoken hframes hq hwhy ?_
            rintro ⟨happlied, heffective⟩
            simp [record, happlied, (configEqual_iff _ _).mpr heffective] at hres
          · simp only [Bool.or_eq_true, Bool.not_eq_true', not_or, Bool.not_eq_false] at hres
            have heffective := (configEqual_iff _ _).mp hres.2
            rcases emit_cases env .configResult 0 (cfgOk :: packConfig res.effective)
              (s := { s.record (.callback (.onConfigureComplete token res)) with
                appliedCfg := res.effective }) hopen with
              ⟨q, hq, heq⟩ | ⟨why, heq, rfl | ⟨-, hlong⟩⟩
            · rw [heq]
              exact .configured token res q hphase htoken hres.1 heffective hq
            · rw [heq]
              exact .configOverflow token res hphase htoken
            · simp [kMaxPayload, kConfigPayloadSize] at hlong

end XrSession
end LorahamBridge
