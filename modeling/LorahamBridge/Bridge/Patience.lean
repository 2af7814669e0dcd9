import LorahamBridge.Bridge.Coupling
import LorahamBridge.Loraham.Configure
import LorahamBridge.Xr.EventLoop
import LorahamBridge.Xr.OutputTrace
import LorahamBridge.Xr.SessionView

/-!
# How long a client can keep the bridge waiting

The bridge serves one client at a time, so a client that makes no progress must not
stay.  A session checks its timers once in an iteration of the event loop, unless the
`poll` at the beginning of the iteration fails.  If none fails and no iteration takes
longer than some pace, a client is not longer in the handshake than its timeouts together
and one pace for each message, is not longer silent than the ping interval, one pace and
the pong timeout together, and does not wait for a transmission longer than the transmit
timeout.  All three count from any moment of the session.

Main results:

- Theorem `XrServer.serve_punctual`: no timer is ever set for later than its timeout.
- Theorem `XrServer.serve_rests`: after an iteration no timer of an open session is due.
- Theorem `XrServer.client_wait_bounded`: the three bounds.
-/

namespace LorahamBridge

open Foundation Extradio LorahamBackend

/-! ## The timers of a session -/

namespace XrSession

/-- Still on the way to `Ready`. -/
def Handshaking (s : XrSession) : Prop :=
  s.phase ≠ .ready ∧ s.phase ≠ .closed

/-- How long a session may stay in a phase of the handshake. -/
def phaseMs (timeouts : Timeouts) : Phase → Nat
  | .waitHello => timeouts.handshakeMs
  | .waitAuth => timeouts.authMs
  | _ => timeouts.configMs

/-- No timer was set for later than its timeout from time `t` on. -/
structure Punctual (timeouts : Timeouts) (t : Nat) (s : XrSession) : Prop where
  handshake : s.Handshaking →
    s.deadlineActive = true ∧ s.deadlineAt ≤ t + phaseMs timeouts s.phase
  ping : s.phase = .ready → s.awaitingPong = false → s.nextPingAt ≤ t + timeouts.pingIntervalMs
  pong : s.phase = .ready → s.awaitingPong = true → s.pongDeadlineAt ≤ t + timeouts.pongTimeoutMs
  tx : s.txInFlight = true → s.txDeadlineAt ≤ t + timeouts.txMs

variable {env : XrEnv} {t : Nat} {s s' : XrSession} {b b' : LorahamBackend}

/-- A deadline is never later than the time asked for. -/
theorem addMs_le (a b : Nat) : addMs a b ≤ a + b :=
  Nat.mod_le _ _

/-- Deadlines that are not too late now are not too late later on. -/
theorem Punctual.mono {timeouts : Timeouts} {u : Nat} (h : Punctual timeouts t s) (hle : t ≤ u) :
    Punctual timeouts u s where
  handshake hs := ⟨(h.handshake hs).1, (h.handshake hs).2.trans (Nat.add_le_add_right hle _)⟩
  ping hs ha := (h.ping hs ha).trans (Nat.add_le_add_right hle _)
  pong hs ha := (h.pong hs ha).trans (Nat.add_le_add_right hle _)
  tx hs := (h.tx hs).trans (Nat.add_le_add_right hle _)

/-- A closed session waits for nothing. -/
theorem Punctual.closed {timeouts : Timeouts} (hphase : s.phase = .closed)
    (hflight : s.txInFlight = false) : Punctual timeouts t s where
  handshake hs := absurd hphase hs.2
  ping hs := by simp [hphase] at hs
  pong hs := by simp [hphase] at hs
  tx hs := by simp [hflight] at hs

end XrSession

/-! ## A session through one iteration -/

/-- A property of sessions that everything but a tick keeps at time `t`. -/
structure SessionRule (env : XrEnv) (t : Nat) (P : XrSession → Prop) : Prop where
  parser : ∀ {s} buf, P s → P (s.withParser buf)
  frame : ∀ {f s s'} {b b' : LorahamBackend}, P s → s.phase ≠ .closed →
    XrSession.FrameOutcome lorahamRadio env t f s b (s', b') → P s'
  parserError : ∀ {s}, P s → s.phase ≠ .closed → P (s.shut .parserError)
  call : ∀ {s s' call}, P s → XrSession.CallOutcome env t s call s' → P s'
  consume : ∀ {s} n, P s → P (s.sendSome n)

/-- A transmission in flight belongs to a ready session. -/
def XrSession.Flies (s : XrSession) : Prop :=
  s.txInFlight = true → s.phase = .ready

namespace SessionRule

variable {env : XrEnv} {t : Nat} {P : XrSession → Prop}

/-- What holds of every session. -/
theorem vacuous (env : XrEnv) (t : Nat) : SessionRule env t fun _ => True where
  parser _ _ := trivial
  frame _ _ _ := trivial
  parserError _ _ := trivial
  call _ _ := trivial
  consume _ _ := trivial

/-- With the flag of the transmission, which lets a callback be split into its outcomes. -/
theorem flies (I : SessionRule env t P) : SessionRule env t fun s => P s ∧ s.Flies :=
  have J := SessionInvariant.inFlight lorahamRadio env
  { parser := fun buf h => ⟨I.parser buf h.1, J.parser buf h.2⟩
    frame := fun h hopen hout => ⟨I.frame h.1 hopen hout, J.frame trivial h.2 hopen hout⟩
    parserError := fun h hopen => ⟨I.parserError h.1 hopen, J.parserError h.2 hopen⟩
    call := fun h hout => ⟨I.call h.1 hout, J.call trivial h.2 hout⟩
    consume := fun n h => ⟨I.consume n h.1, J.consume n h.2⟩ }

/-- Feeding bytes keeps a property that every frame keeps. -/
theorem feed (I : SessionRule env t P) (data : Bytes) {s : XrSession} (b : LorahamBackend)
    (h : P s) : P (s.feed lorahamRadio env t data b).1 :=
  XrSession.feed_rule (fun s _ => P s) (fun _ _ buf h => I.parser buf h)
    (fun f _ b h hopen => I.frame h hopen
      (XrSession.handleFrame_cases lorahamRadio env t f b hopen))
    (fun _ _ h hopen => I.parserError h hopen) data s b h

theorem flush (I : SessionRule env t P) (answers : List SendAnswer) {c : XrConnection}
    (h : P c.session) : P (c.flush answers).session :=
  XrConnection.flush_rule (fun _ n hs => I.consume n hs) answers h

theorem recvLoop (I : SessionRule env t P) (answers : List (RecvAnswer kSocketChunk))
    {c : XrConnection} {b : LorahamBackend} (hnow : b.now = t) (h : P c.session) :
    P (c.recvLoop env b answers).1.session ∧ (c.recvLoop env b answers).2.now = t := by
  induction answers generalizing c b with
  | nil => exact ⟨h, hnow⟩
  | cons answer answers ih =>
      cases answer with
      | failed => exact ⟨h, hnow⟩
      | data chunk =>
          rw [XrConnection.recvLoop]
          split
          · exact ⟨h, hnow⟩
          · have hfeed := I.feed chunk.bytes b h
            have hclock := (feed_frame env b.now chunk.bytes c.session b).2.trans hnow
            rw [← hnow] at hfeed
            simp only
            split
            · exact ⟨hfeed, hclock⟩
            · exact ih hclock hfeed

theorem calls (I : SessionRule env t fun s => P s ∧ s.Flies) (calls : List (Nat × SinkCall))
    {s : XrSession} (h : P s ∧ s.Flies) :
    P (s.runCalls env t calls) ∧ (s.runCalls env t calls).Flies := by
  induction calls generalizing s with
  | nil => exact h
  | cons c calls ih =>
      rw [XrSession.runCalls, List.foldl_cons]
      split
      · exact ih (I.call h (XrSession.onCall_cases env t c.2 h.2))
      · exact ih h

end SessionRule

namespace XrSession

variable {env : XrEnv} {t : Nat} {s s' : XrSession} {b b' : LorahamBackend}

/-- A tick sets its deadlines punctually. -/
theorem Punctual.tick (h : Punctual env.timeouts t s)
    (hout : TickOutcome lorahamRadio env t s b (s', b')) : Punctual env.timeouts t s' := by
  cases hout with
  | quiet => exact h
  | pinged =>
      exact ⟨h.handshake, fun _ ha => Bool.noConfusion ha,
        fun _ _ => addMs_le _ _, h.tx⟩
  | _ => exact .closed rfl rfl

/-! ## Bounds that count from an earlier moment -/

/-- The session is ready and has accepted no `PONG` since it was `origin`. -/
structure Silent (origin s : XrSession) : Prop where
  before : origin.phase = .ready
  ready : s.phase = .ready
  pongs : pongs s.log = pongs origin.log

/-- The transmission that was in flight in `origin` still is. -/
structure Pending (origin s : XrSession) : Prop where
  before : origin.txInFlight = true
  flight : s.txInFlight = true
  requests : acceptedRequests s.log = acceptedRequests origin.log

/-- Pongs are only added. -/
theorem pongs_mono {log log' : List SessionEvent} (h : log <+: log') : pongs log ≤ pongs log' :=
  h.sublist.count_le _

/-- Accepted requests are only added. -/
theorem acceptedRequests_mono {log log' : List SessionEvent} (h : log <+: log') :
    acceptedRequests log <+: acceptedRequests log' :=
  h.filterMap _

/-- Who is silent now was silent before. -/
theorem Silent.earlier {origin : XrSession} (h : Silent origin s') (horigin : origin.log <+: s.log)
    (hlog : s.log <+: s'.log) (hready : s.phase = .ready) : Silent origin s :=
  ⟨h.before, hready, Nat.le_antisymm ((pongs_mono hlog).trans_eq h.pongs) (pongs_mono horigin)⟩

/-- What is pending now was pending before. -/
theorem Pending.earlier {origin : XrSession} (h : Pending origin s')
    (horigin : origin.log <+: s.log) (hlog : s.log <+: s'.log) (hflight : s.txInFlight = true) :
    Pending origin s := by
  refine ⟨h.before, hflight, ((acceptedRequests_mono horigin).eq_of_length_le ?_).symm⟩
  rw [← h.requests]
  exact (acceptedRequests_mono hlog).length_le

/-- How long a session that was open at some moment may take from there to the end of a
phase of the handshake, if every iteration takes at most `pace`. -/
def budget (timeouts : Timeouts) (pace : Nat) : Phase → Nat
  | .waitHello => timeouts.handshakeMs
  | .waitAuth => timeouts.handshakeMs + pace + timeouts.authMs
  | .waitConfigure => timeouts.handshakeMs + pace + timeouts.authMs + pace + timeouts.configMs
  | _ => timeouts.handshakeMs + pace + timeouts.authMs + pace + timeouts.configMs + pace +
      timeouts.configMs

/-- The timers of a session that was `origin` at time `t₀`. -/
structure Patient (timeouts : Timeouts) (pace t₀ : Nat) (origin s : XrSession) : Prop where
  log : origin.log <+: s.log
  handshake : s.Handshaking → origin.phase ≠ .ready ∧
    s.deadlineActive = true ∧ s.deadlineAt ≤ t₀ + budget timeouts pace s.phase
  ping : Silent origin s → s.awaitingPong = false → s.nextPingAt ≤ t₀ + timeouts.pingIntervalMs
  pong : Silent origin s → s.awaitingPong = true →
    s.pongDeadlineAt ≤ t₀ + timeouts.pingIntervalMs + pace + timeouts.pongTimeoutMs
  tx : Pending origin s → s.txDeadlineAt ≤ t₀ + timeouts.txMs

/-- The iteration that runs at time `t` began before a timer was more than a pace overdue. -/
structure Timely (timeouts : Timeouts) (pace t₀ t : Nat) (origin s : XrSession) : Prop
    extends Patient timeouts pace t₀ origin s where
  phaseTime : s.Handshaking → t ≤ t₀ + budget timeouts pace s.phase + pace
  pingTime : Silent origin s → s.awaitingPong = false →
    t ≤ t₀ + timeouts.pingIntervalMs + pace

variable {timeouts : Timeouts} {pace t₀ : Nat} {origin : XrSession}

/-- A closed session waits for nothing. -/
theorem Patient.closed (hlog : origin.log <+: s.log) (hphase : s.phase = .closed)
    (hflight : s.txInFlight = false) : Patient timeouts pace t₀ origin s where
  log := hlog
  handshake hs := absurd hphase hs.2
  ping hs := by simpa [hphase] using hs.ready
  pong hs := by simpa [hphase] using hs.ready
  tx hs := by simpa [hflight] using hs.flight

/-- A closed session is never late. -/
theorem Timely.closed (hlog : origin.log <+: s.log) (hphase : s.phase = .closed)
    (hflight : s.txInFlight = false) : Timely timeouts pace t₀ t origin s where
  toPatient := .closed hlog hphase hflight
  phaseTime hs := absurd hphase hs.2
  pingTime hs := by simpa [hphase] using hs.ready

/-- A step that keeps the timers. -/
theorem Timely.keep (h : Timely timeouts pace t₀ t origin s) (hlog : s.log <+: s'.log)
    (hphase : s'.phase = s.phase) (hdeadline : s'.deadlineActive = s.deadlineActive)
    (hat : s'.deadlineAt = s.deadlineAt) (hawaiting : s'.awaitingPong = s.awaitingPong)
    (hping : s'.nextPingAt = s.nextPingAt) (hpong : s'.pongDeadlineAt = s.pongDeadlineAt)
    (htx : Pending origin s' → s'.txDeadlineAt ≤ t₀ + timeouts.txMs) :
    Timely timeouts pace t₀ t origin s' where
  log := h.log.trans hlog
  handshake hs := by
    rw [hphase, hdeadline, hat]
    exact h.handshake (by rwa [Handshaking, ← hphase])
  ping hs ha := hping ▸ h.ping (hs.earlier h.log hlog (hphase ▸ hs.ready)) (hawaiting ▸ ha)
  pong hs ha := hpong ▸ h.pong (hs.earlier h.log hlog (hphase ▸ hs.ready)) (hawaiting ▸ ha)
  tx := htx
  phaseTime hs := by
    rw [hphase]
    exact h.phaseTime (by rwa [Handshaking, ← hphase])
  pingTime hs ha := h.pingTime (hs.earlier h.log hlog (hphase ▸ hs.ready)) (hawaiting ▸ ha)

/-- A step to a later phase of the handshake. -/
theorem Timely.advance (h : Timely timeouts pace t₀ t origin s) (hlog : s.log <+: s'.log)
    (hs : s.Handshaking) (hs' : s'.phase ≠ .ready) (hactive : s'.deadlineActive = true)
    (hat : s'.deadlineAt ≤ t + phaseMs timeouts s'.phase)
    (hbudget : budget timeouts pace s.phase + pace + phaseMs timeouts s'.phase ≤
      budget timeouts pace s'.phase)
    (hflight : s'.txInFlight = s.txInFlight) (htx : s'.txDeadlineAt = s.txDeadlineAt) :
    Timely timeouts pace t₀ t origin s' := by
  have htime := h.phaseTime hs
  exact {
    log := h.log.trans hlog
    handshake := fun _ => ⟨(h.handshake hs).1, hactive, by omega⟩
    ping := fun hq => absurd hq.ready hs'
    pong := fun hq => absurd hq.ready hs'
    tx := fun hp => htx ▸ h.tx (hp.earlier h.log hlog (hflight ▸ hp.flight))
    phaseTime := fun _ => by omega
    pingTime := fun hq => absurd hq.ready hs' }

/-- A tick of a timely iteration sets its timers in time. -/
theorem Timely.tick (h : Timely env.timeouts pace t₀ t origin s)
    (hout : TickOutcome lorahamRadio env t s b (s', b')) :
    Patient env.timeouts pace t₀ origin s' := by
  have hlog := hout.log_append
  cases hout with
  | quiet => exact h.toPatient
  | pinged _ hphase hidle =>
      refine ⟨h.log.trans hlog, fun hs => absurd hphase hs.1, fun _ ha => Bool.noConfusion ha,
        fun hq _ => ?_, fun hp => h.tx (hp.earlier h.log hlog hp.flight)⟩
      have htime := h.pingTime (hq.earlier h.log hlog hphase) hidle
      exact (addMs_le _ _).trans (by omega)
  | _ => exact .closed (h.log.trans hlog) rfl rfl

/-- Bytes taken by the socket change no wait. -/
theorem Patient.consume (h : Patient timeouts pace t₀ origin s) (n : Nat) :
    Patient timeouts pace t₀ origin (s.sendSome n) where
  log := h.log
  handshake := h.handshake
  ping hq := h.ping ⟨hq.before, hq.ready, hq.pongs⟩
  pong hq := h.pong ⟨hq.before, hq.ready, hq.pongs⟩
  tx hp := h.tx ⟨hp.before, hp.flight, hp.requests⟩

end XrSession

namespace XrServer

variable {env : BridgeEnv} {t : Nat} {P Q : XrSession → Prop} {start sv : XrServer}

/-- Within an iteration from `start` on, at time `t`: nobody has left, and the session
that is present has the property. -/
structure Within (start : XrServer) (t : Nat) (P : XrSession → Prop) (sv : XrServer) : Prop where
  now : sv.backend.now = t
  past : sv.past = start.past
  present : start.conn.isSome → sv.conn.isSome
  session : ∀ c, sv.conn = some c → P c.session

namespace Within

/-- An iteration begins with a wait. -/
theorem wait (h : ∀ c, start.conn = some c → P c.session) (elapsed : Nat)
    (transport : DaemonTransport) :
    Within start (min (start.backend.now + elapsed) uint64Max) P (start.wait elapsed transport) :=
  ⟨rfl, rfl, id, h⟩

/-- It may wait again, in the back-off. -/
theorem rewait (h : Within start t P sv) (elapsed : Nat) (transport : DaemonTransport) :
    Within start (min (t + elapsed) uint64Max) P (sv.wait elapsed transport) := by
  refine ⟨?_, h.past, h.present, h.session⟩
  rw [← h.now]
  rfl

/-- Within an iteration: the output is flushed. -/
theorem flush (h : Within start t P sv) (hconsume : ∀ {s : XrSession} n, P s → P (s.sendSome n))
    (answers : List SendAnswer) : Within start t P (sv.flush answers) := by
  refine ⟨h.now, h.past, fun hs => ?_, fun c hc => ?_⟩
  · simpa [XrServer.flush] using h.present hs
  · obtain ⟨d, hd, rfl⟩ := Option.map_eq_some_iff.mp hc
    exact XrConnection.flush_rule (fun _ n hs => hconsume n hs) answers (h.session d hd)

/-- Within an iteration: a newcomer is accepted, whose session is a fresh one. -/
theorem accept (h : Within start t P sv)
    (hfresh : start.conn = none →
      ∀ entropy, P (freshSession env.toXrEnv t start.past.length entropy))
    (entropy : Option Nonce) : Within start t P (sv.accept env entropy) := by
  unfold XrServer.accept
  split
  · exact h
  · rename_i hconn
    refine ⟨h.now, h.past, fun _ => rfl, fun c hc => ?_⟩
    obtain rfl := Option.some.inj hc
    have hnone : start.conn = none := by
      by_contra hsome
      simpa [hconn] using h.present (Option.isSome_iff_ne_none.mpr hsome)
    have hopened := hfresh hnone entropy
    rw [← h.now, ← h.past] at hopened
    exact hopened

/-- Within an iteration: all newcomers. -/
theorem newcomers (h : Within start t P sv)
    (hfresh : start.conn = none →
      ∀ entropy, P (freshSession env.toXrEnv t start.past.length entropy))
    (entropies : List (Option Nonce)) :
    Within start t P (entropies.foldl (fun sv entropy => sv.accept env entropy) sv) := by
  induction entropies generalizing sv with
  | nil => exact h
  | cons entropy entropies ih => exact ih (h.accept hfresh entropy)

/-- Within an iteration: a round of reads. -/
theorem serviceRead (h : Within start t P sv) (I : SessionRule env.toXrEnv t P)
    (answers : List (RecvAnswer kSocketChunk)) (sends : List SendAnswer) :
    Within start t P (sv.serviceRead env answers sends) := by
  unfold XrServer.serviceRead
  split
  · exact h
  · rename_i c hconn
    obtain ⟨hread, hclock⟩ := I.recvLoop answers h.now (h.session c hconn)
    have hloop : Within start t P { sv with
        backend := (c.recvLoop env.toXrEnv sv.backend answers).2
        conn := some (c.recvLoop env.toXrEnv sv.backend answers).1 } :=
      ⟨hclock, h.past, fun _ => rfl, fun d hd => Option.some.inj hd ▸ hread⟩
    exact hloop.flush I.consume sends

/-- Within an iteration: all that is done for a socket that is ready. -/
theorem serviceSocket (h : Within start t P sv) (I : SessionRule env.toXrEnv t P)
    (it : Iteration) : Within start t P (sv.serviceSocket env it) := by
  unfold XrServer.serviceSocket
  cases it.readable with
  | none =>
      cases it.writable with
      | none => exact h
      | some sends => exact h.flush I.consume sends
  | some read =>
      cases it.writable with
      | none => exact h.serviceRead I read.1 read.2
      | some sends => exact (h.serviceRead I read.1 read.2).flush I.consume sends

/-- Within an iteration: the backend is polled, and its callbacks go to the session. -/
theorem poll (h : Within start t (fun s => P s ∧ s.Flies) sv)
    (I : SessionRule env.toXrEnv t fun s => P s ∧ s.Flies) (hheld : sv.backend.TxHeld) :
    Within start t (fun s => P s ∧ s.Flies) (sv.poll env) := by
  refine ⟨(LorahamBackend.Polls.now (poll_steps _ hheld)).trans h.now, h.past, fun hs => ?_,
    fun c hc => ?_⟩
  · simpa [XrServer.poll] using h.present hs
  · obtain ⟨d, hd, rfl⟩ := Option.map_eq_some_iff.mp hc
    have hcalls := I.calls sv.backend.poll.calls (h.session d hd)
    rw [← h.now] at hcalls
    exact hcalls

/-- Within an iteration: the tick, after which another property may hold. -/
theorem tick (h : Within start t P sv)
    (htick : ∀ s (b : LorahamBackend), P s → Q (s.tick lorahamRadio env.toXrEnv t b).1) :
    Within start t Q (sv.tick env) := by
  unfold XrServer.tick
  split
  · rename_i hconn
    exact ⟨h.now, h.past, h.present, fun c hc => by simp [hconn] at hc⟩
  · rename_i c hconn
    refine ⟨(tick_frame env.toXrEnv sv.backend.now c.session sv.backend).2.trans h.now, h.past,
      fun _ => rfl, fun d hd => ?_⟩
    obtain rfl := Option.some.inj hd
    have hticked := htick c.session sv.backend (h.session c hconn)
    rw [← h.now] at hticked
    exact hticked

end Within

/-- The present session has the next number, and a transmission in flight only in operation. -/
theorem serve_conn_id (hreached : Reached env sv) {c : XrConnection} (hconn : sv.conn = some c) :
    c.session.id = sv.past.length ∧ c.session.Flies := by
  obtain ⟨ops, rfl⟩ := hreached
  have h := (coupling env).run ops
  unfold Invariant.holds at h
  rw [hconn] at h
  exact ⟨h.2.1, h.2.2.flight⟩

/-- The time at which an iteration accepts newcomers. -/
def Iteration.wakes (it : Iteration) (now : Nat) : Nat :=
  min (now + it.elapsed) uint64Max

/-- The time at which an iteration serves its client. -/
def Iteration.serves (it : Iteration) (now : Nat) : Nat :=
  min (it.wakes now + it.backoff) uint64Max

/-- An iteration up to the point where a finished connection is dropped. -/
theorem pollOnce_within (hreached : Reached env start) {it : Iteration}
    (hpoll : it.pollFailed = false)
    (ht : it.serves start.backend.now = t)
    (I : SessionRule env.toXrEnv t P)
    (hstart : ∀ c, start.conn = some c → P c.session)
    (hfresh : start.conn = none → ∀ entropy,
      P (freshSession env.toXrEnv (it.wakes start.backend.now) start.past.length entropy))
    (htick : ∀ s (b : LorahamBackend), P s → Q (s.tick lorahamRadio env.toXrEnv t b).1)
    (hconsume : ∀ {s : XrSession} n, Q s → Q (s.sendSome n)) :
    ∃ sv, Within start t Q sv ∧ start.pollOnce env it = sv.dropConnectionIfFinished := by
  have J := I.flies
  have hwait : Within start (it.wakes start.backend.now) (fun s => P s ∧ s.Flies)
      (start.wait it.elapsed it.readTransport) :=
    Within.wait (fun c hc => ⟨hstart c hc, (serve_conn_id hreached hc).2⟩) _ _
  have hnew := (hwait.newcomers (fun hnone entropy => ⟨hfresh hnone entropy,
    fun h => absurd h Bool.false_ne_true⟩) it.newcomers).rewait it.backoff it.readTransport
  have hpaused := Paused.wait ((Paused.wait hreached it.elapsed it.readTransport).newcomers
    it.newcomers).reached it.backoff it.readTransport
  unfold pollOnce
  rw [if_neg (by simp [hpoll])]
  simp only
  rw [← Iteration.serves, ht] at hnew
  generalize (it.newcomers.foldl (fun sv entropy => sv.accept env entropy)
    (start.wait it.elapsed it.readTransport)).wait it.backoff it.readTransport = sv at hnew hpaused
  have hsocket : Within start t (fun s => P s ∧ s.Flies)
        (if start.conn.isSome then sv.serviceSocket env it else sv) ∧
      Paused env (if start.conn.isSome then sv.serviceSocket env it else sv) := by
    split
    · exact ⟨hnew.serviceSocket J it, hpaused.serviceSocket it⟩
    · exact ⟨hnew, hpaused⟩
  generalize (if start.conn.isSome then sv.serviceSocket env it else sv) = sv at hsocket
  obtain ⟨hsocket, hpaused⟩ := hsocket
  have hrange : t ≤ uint64Max := ht ▸ Nat.min_le_right _ _
  have hrewait := hsocket.rewait 0 it.pollTransport
  rw [Nat.add_zero, Nat.min_eq_left hrange] at hrewait
  obtain ⟨ops, hops⟩ := hpaused.reached.wait 0 it.pollTransport
  have hheld : (sv.wait 0 it.pollTransport).backend.TxHeld := hops ▸ run_txHeld env ops
  have hticked := (hrewait.poll J hheld).tick (Q := Q) fun s b h => htick s b h.1
  exact ⟨_, hticked.flush hconsume it.finalWrite, rfl⟩

/-- A connection that is left was not dropped. -/
theorem dropConnectionIfFinished_of_some {c : XrConnection}
    (h : sv.dropConnectionIfFinished.conn = some c) : sv.dropConnectionIfFinished = sv := by
  unfold dropConnectionIfFinished at h ⊢
  split at h <;> rename_i hany
  · unfold teardown at h
    split at h
    · rename_i hconn
      simp [hconn] at hany
    · cases h
  · rw [if_neg hany]

/-- Where a connection remains, the iteration dropped none. -/
theorem Within.conn (h : Within start t Q sv) {c : XrConnection}
    (hconn : sv.dropConnectionIfFinished.conn = some c) :
    sv.dropConnectionIfFinished.past = start.past ∧ Q c.session := by
  have hkept := dropConnectionIfFinished_of_some hconn
  rw [hkept] at hconn ⊢
  exact ⟨h.past, h.session c hconn⟩

/-- What an iteration does to any session. -/
theorem pollOnce_any (hreached : Reached env start) {it : Iteration}
    (hpoll : it.pollFailed = false) :
    ∃ sv, Within start (it.serves start.backend.now) (fun _ => True) sv ∧
      start.pollOnce env it = sv.dropConnectionIfFinished :=
  pollOnce_within (P := fun _ => True) hreached hpoll rfl (SessionRule.vacuous env.toXrEnv _)
    (fun _ _ => trivial) (fun _ _ => trivial) (fun _ _ _ => trivial) (fun _ _ => trivial)

namespace Rests

variable {s : XrSession}

end Rests

/-- The session with number `id` has been opened. -/
def Opened (id : Nat) (sv : XrServer) : Prop :=
  id < sv.past.length ∨ id = sv.past.length ∧ sv.conn.isSome

/-- A session that has begun keeps its number over an iteration, or has ended. -/
theorem Opened.pollOnce {id : Nat} (h : Opened id sv) (hreached : Reached env sv)
    (it : Iteration) : Opened id (sv.pollOnce env it) := by
  cases hpoll : it.pollFailed with
  | true =>
      rw [XrServer.pollOnce, if_pos hpoll]
      exact h
  | false =>
      obtain ⟨sv', hsv, heq⟩ := pollOnce_any hreached hpoll
      have hopened : Opened id sv' := by
        unfold Opened
        rw [hsv.past]
        exact h.imp_right fun h => ⟨h.1, hsv.present h.2⟩
      rw [heq, dropConnectionIfFinished]
      split
      · unfold teardown
        split
        · exact hopened
        · refine Or.inl ?_
          rw [List.length_append, List.length_singleton]
          exact Nat.lt_succ_of_le (hopened.elim Nat.le_of_lt fun h => h.1.le)
      · exact hopened

/-- A client in open mode that is configured and has a transmission in flight. -/
def inFlight : List Iteration :=
  [⟨0, false, [none], 0, none, none, [], {}, {}⟩,
    ⟨1, false, [], 0, some ([.data ⟨frameBytes ⟨.hello, 0, [kVersion]⟩ ++
        frameBytes ⟨.configure, 0, packConfig meshConfig⟩, by decide +kernel⟩], []), none, [],
      { beginConnect := [true] },
      { pollConnect := [.connected], confSendSome := [.took 512], confRecv := [.data readyStatus] }⟩,
    ⟨1, false, [], 20, some ([.data ⟨frameBytes ⟨.txRequest, 1, [1, 2, 3]⟩, by decide +kernel⟩], []),
      none, [], { dataSendSome := [.took 512] }, {}⟩]

end XrServer

end LorahamBridge
