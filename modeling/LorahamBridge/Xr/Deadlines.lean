import LorahamBridge.Loraham.Configure
import LorahamBridge.Xr.SessionRun

/-!
# Deadlines

The session and the backend each tell the event loop when they next have to act,
and act on their own account of the same timers.  The two accounts agree: nothing
happens before the announced time, at that time something does, and afterwards the
next announced time lies ahead.  The loop therefore waits neither too long nor for
nothing.

Clock values are far enough below the end of their range, so that no sum wraps.

Main results:

- Theorem `tick_eq_self_iff`: a tick does something exactly when the deadline is due.
- Theorem `nextDeadlineMs_tick`: afterwards no deadline is due.
- Theorem `nextDeadlineMs_poll`: the same for a poll of the backend.
- Theorem `deadlines_exact`: the timers of the bridge.
-/

namespace LorahamBridge

open Foundation Extradio LorahamBackend

namespace Timeouts

/-- No timeout is zero. -/
structure Positive (t : Timeouts) : Prop where
  handshakeMs : 1 ≤ t.handshakeMs
  authMs : 1 ≤ t.authMs
  configMs : 1 ≤ t.configMs
  txMs : 1 ≤ t.txMs
  pingIntervalMs : 1 ≤ t.pingIntervalMs
  pongTimeoutMs : 1 ≤ t.pongTimeoutMs

/-- No deadline set now reaches the end of the clock's range. -/
structure Fits (t : Timeouts) (now : Nat) : Prop where
  handshakeMs : now + t.handshakeMs < uint64Max
  authMs : now + t.authMs < uint64Max
  configMs : now + t.configMs < uint64Max
  txMs : now + t.txMs < uint64Max
  pingIntervalMs : now + t.pingIntervalMs < uint64Max
  pongTimeoutMs : now + t.pongTimeoutMs < uint64Max

/-- The present is within the clock's range. -/
theorem Fits.lt {t : Timeouts} {now : Nat} (h : t.Fits now) : now < uint64Max :=
  Nat.lt_of_le_of_lt (Nat.le_add_right _ _) h.handshakeMs

/-- What fits later fits earlier. -/
theorem Fits.mono {timeouts : Timeouts} {t u : Nat} (h : timeouts.Fits u) (hle : t ≤ u) :
    timeouts.Fits t := by
  obtain ⟨hhandshake, hauth, hconfig, htx, hping, hpong⟩ := h
  exact ⟨by omega, by omega, by omega, by omega, by omega, by omega⟩

end Timeouts

theorem addMs_of_lt {a b : Nat} (h : a + b < uint64Max) : addMs a b = a + b :=
  Nat.mod_eq_of_lt (by simp only [uint64Max] at h; omega)

/-! ## The session -/

namespace XrSession

variable {β : Type} {R : RadioBackend β} {env : XrEnv} {t : Nat} {s : XrSession} {b : β}

/-- The timers of an open session that are due. -/
def Due (t : Nat) (s : XrSession) : Prop :=
  s.deadlineActive = true ∧ s.deadlineAt ≤ t ∨
    s.phase = .ready ∧
      (s.txInFlight = true ∧ s.txDeadlineAt ≤ t ∨
        s.awaitingPong = true ∧ s.pongDeadlineAt ≤ t ∨
        s.awaitingPong = false ∧ s.nextPingAt ≤ t)

/-- `next_deadline_ms` announces exactly the timers of an open session. -/
theorem nextDeadlineMs_le_iff (hopen : s.phase ≠ .closed) (ht : t < uint64Max) :
    s.nextDeadlineMs ≤ t ↔ Due t s := by
  unfold nextDeadlineMs Due
  rw [if_neg hopen]
  cases s.deadlineActive <;> cases s.txInFlight <;> cases s.awaitingPong <;>
    by_cases hready : s.phase = .ready <;> simp [hready] <;> omega

/-- With nothing due the deadline is ahead. -/
theorem lt_nextDeadlineMs (h : ¬Due t s) (ht : t < uint64Max) : t < s.nextDeadlineMs := by
  by_cases hopen : s.phase = .closed
  · rwa [nextDeadlineMs, if_pos hopen]
  · exact Nat.not_le.mp (mt (nextDeadlineMs_le_iff hopen ht).mp h)

/-- A tick does nothing if no timer is due. -/
theorem tick_of_not_due (h : ¬Due t s) : s.tick R env t b = (s, b) := by
  simp only [Due, not_or, not_and] at h
  obtain ⟨hdeadline, hready⟩ := h
  unfold tick
  split
  · rfl
  · rw [if_neg fun hd => hdeadline hd.1 hd.2]
    split <;> rename_i hphase
    · rfl
    · obtain ⟨htx, hpong, hping⟩ := hready (not_not.mp hphase)
      rw [if_neg fun hd => htx hd.1 hd.2]
      split <;> rename_i hawaiting
      · rw [if_neg (hpong hawaiting)]
      · rw [if_neg (hping (by simpa using hawaiting))]

/-- After a tick the session is closed or none of its timers is due. -/
theorem tick_not_due (hpos : env.timeouts.Positive) (ht : env.timeouts.Fits t) :
    (s.tick R env t b).1.phase = .closed ∨ ¬Due t (s.tick R env t b).1 := by
  by_cases hopen : s.phase = .closed
  · rw [tick, if_pos hopen]
    exact Or.inl hopen
  by_cases hdue : Due t s
  · unfold tick
    rw [if_neg hopen]
    split <;> rename_i hdeadline
    · rw [close_of_open _ hopen]
      exact Or.inl rfl
    · rcases hdue with hdue | ⟨hready, hdue⟩
      · exact absurd hdue hdeadline
      · rw [if_neg (not_not.mpr hready)]
        split <;> rename_i htx
        · rw [close_of_open (s := s.record .abandonCalled) _ hopen]
          exact Or.inl rfl
        · split <;> rename_i hawaiting
          · have hpong : s.pongDeadlineAt ≤ t := by
              rcases hdue with hdue | hdue | hdue
              · exact absurd hdue htx
              · exact hdue.2
              · simp [hawaiting] at hdue
            rw [if_pos hpong, close_of_open _ hopen]
            exact Or.inl rfl
          · have hping : s.nextPingAt ≤ t := by
              rcases hdue with hdue | hdue | hdue
              · exact absurd hdue htx
              · exact absurd hdue.1 hawaiting
              · exact hdue.2
            rw [if_pos hping]
            rcases emit_cases env .ping 0 [] hopen with ⟨q, -, heq⟩ | ⟨why, heq, -⟩
            · -- the new deadline lies ahead, and the others were checked before
              rw [heq]
              have hpong := addMs_of_lt ht.pongTimeoutMs
              have hlater := hpos.pongTimeoutMs
              refine Or.inr ?_
              simp only [Due, queue, hpong]
              rintro (hd | ⟨-, hd | hd | hd⟩)
              · exact hdeadline hd
              · exact htx hd
              · omega
              · simp at hd
            · rw [heq]
              exact Or.inl rfl
  · rw [tick_of_not_due hdue]
    exact Or.inr hdue

/-- A tick does something exactly when the announced deadline is due. -/
theorem tick_eq_self_iff (hpos : env.timeouts.Positive) (ht : env.timeouts.Fits t) :
    s.tick R env t b = (s, b) ↔ t < s.nextDeadlineMs := by
  by_cases hopen : s.phase = .closed
  · simp [tick, nextDeadlineMs, hopen, ht.lt]
  · constructor
    · intro heq
      have hafter := tick_not_due (s := s) (b := b) (R := R) hpos ht
      rw [heq] at hafter
      exact lt_nextDeadlineMs (hafter.resolve_left hopen) ht.lt
    · intro hlt
      exact tick_of_not_due (mt (nextDeadlineMs_le_iff hopen ht.lt).mpr (Nat.not_le.mpr hlt))

/-- After a tick no deadline is due. -/
theorem nextDeadlineMs_tick (hpos : env.timeouts.Positive) (ht : env.timeouts.Fits t) :
    (s.tick R env t b).1.phase = .closed ∨ t < (s.tick R env t b).1.nextDeadlineMs :=
  (tick_not_due hpos ht).imp_right fun h => lt_nextDeadlineMs h ht.lt

/-- An open session waits for something. -/
def Timed (s : XrSession) : Prop :=
  s.phase ≠ .closed →
    if s.phase = .ready then
      if s.awaitingPong = true then s.pongDeadlineAt < uint64Max else s.nextPingAt < uint64Max
    else s.deadlineActive = true ∧ s.deadlineAt < uint64Max

/-- An open session has a deadline. -/
theorem Timed.nextDeadlineMs_lt (h : Timed s) (hopen : s.phase ≠ .closed) :
    s.nextDeadlineMs < uint64Max := by
  have h := h hopen
  unfold nextDeadlineMs
  rw [if_neg hopen]
  split at h <;> rename_i hready
  · rw [if_pos hready]
    split at h <;> rename_i hawaiting
    · rw [if_pos hawaiting]
      exact Nat.lt_of_le_of_lt (Nat.min_le_right _ _) h
    · rw [if_neg hawaiting]
      exact Nat.lt_of_le_of_lt (Nat.min_le_right _ _) h
  · rw [if_neg hready, if_pos h.1]
    exact Nat.lt_of_le_of_lt (Nat.min_le_right _ _) h.2

theorem timed_of_closed (h : s.phase = .closed) : Timed s :=
  fun hopen => absurd h hopen

/-- An armed deadline lies within the clock's range. -/
theorem timed_arm {timeoutMs : Nat} (reason : CloseReason) (h : t + timeoutMs < uint64Max)
    (hready : s.phase ≠ .ready) : Timed (s.arm t timeoutMs reason) := by
  intro _
  rw [if_neg (show (s.arm t timeoutMs reason).phase ≠ .ready from hready)]
  refine ⟨rfl, ?_⟩
  simpa only [arm, addMs_of_lt h] using h

/-- Every open session waits for something. -/
theorem timed_invariant (R : RadioBackend β) (env : XrEnv) :
    SessionInvariant R env env.timeouts.Fits Timed where
  opened _ _ _ hnow := timed_arm _ hnow.handshakeMs (by simp)
  parser _ h := h
  frame hnow h hopen hout := by
    cases hout with
    | challenged => exact timed_arm _ hnow.authMs (by simp)
    | helloOpen | authenticated | configStarted => exact timed_arm _ hnow.configMs (by simp)
    | ponged hphase =>
        intro _
        simpa [acceptPong, record, hphase, addMs_of_lt hnow.pingIntervalMs]
          using hnow.pingIntervalMs
    | submitted => exact h
    | _ => exact timed_of_closed rfl
  parserError _ _ := timed_of_closed rfl
  tick hnow h hout := by
    cases hout with
    | quiet => exact h
    | pinged outbox hphase =>
        intro _
        simpa [queue, hphase, addMs_of_lt hnow.pongTimeoutMs] using hnow.pongTimeoutMs
    | _ => exact timed_of_closed rfl
  call hnow h hout := by
    cases hout with
    | ignored => exact h
    | forwarded => exact h
    | completed => exact h
    | configured =>
        intro _
        simpa [enterReady, addMs_of_lt hnow.pingIntervalMs] using hnow.pingIntervalMs
    | _ => exact timed_of_closed rfl
  consume _ h := h

end XrSession

/-! ## The backend -/

namespace LorahamBackend

/-- No deadline is due. -/
def Waits (b : LorahamBackend) : Prop :=
  b.now < b.nextDeadlineMs

/-- The states without a deadline. -/
def untimed (state : BackendState) : Bool :=
  state != .connecting && state != .configuring && state != .draining

theorem nextDeadlineMs_of_untimed {b : LorahamBackend} (h : untimed b.state = true) :
    b.nextDeadlineMs = uint64Max := by
  simp only [untimed, Bool.and_eq_true, bne_iff_ne, ne_eq] at h
  rw [nextDeadlineMs, if_neg (by tauto), if_neg h.2]

theorem waits_of_untimed {b : LorahamBackend} (h : untimed b.state = true)
    (hnow : b.now < uint64Max) : b.Waits := by
  rwa [Waits, nextDeadlineMs_of_untimed h]

theorem waits_handleDisconnect {b : LorahamBackend} (hnow : b.now < uint64Max) :
    b.handleDisconnect.Waits := by
  refine waits_of_untimed ?_ ?_
  · rcases handleDisconnect_state b with h | h <;> rw [h] <;> rfl
  · rcases handleDisconnect_cases b with ⟨-, h⟩ | ⟨-, h⟩ | ⟨-, -, h⟩ <;> rw [h] <;> exact hnow

/-- After a quiet step no deadline is due if none was. -/
theorem QuietStep.waits {x y : Snapshot} (h : QuietStep x y) (hnow : x.1.now < uint64Max)
    (hx : x.1.Waits) : y.1.Waits := by
  cases h with
  | connected b hstate =>
      simpa [Waits, nextDeadlineMs, hstate] using hx
  | dataWriteLast | dataFenced | dataCleared | drainLost | drainExpired =>
      exact waits_of_untimed rfl hnow
  | _ => exact hx

theorem CallStep.waits {call : SinkCall} {x y : Snapshot} (h : CallStep call x y)
    (hnow : x.1.now < uint64Max) (hx : x.1.Waits) : y.1.Waits := by
  cases h with
  | configSucceed | completed => exact waits_of_untimed rfl hnow
  | configFail b c hc =>
      refine waits_of_untimed rfl ?_
      rcases hc with rfl | ⟨chunk, line, rfl⟩ <;> exact hnow
  | lost b c _ hc =>
      refine waits_handleDisconnect ?_
      rcases hc with rfl | ⟨chunk, line, rfl⟩ <;> exact hnow
  | received => exact hx

theorem PollStep.now {x y : Snapshot} (h : PollStep x y) : y.1.now = x.1.now := by
  cases h with
  | quiet h => cases h <;> rfl
  | call h =>
      cases h with
      | configFail b c hc => rcases hc with rfl | ⟨chunk, line, rfl⟩ <;> rfl
      | lost b c _ hc =>
          rcases handleDisconnect_cases c with ⟨-, h⟩ | ⟨-, h⟩ | ⟨-, -, h⟩ <;> rw [h] <;>
            rcases hc with rfl | ⟨chunk, line, rfl⟩ <;> rfl
      | _ => rfl

/-- The same for the steps of a poll, which take no time. -/
theorem Polls.waits {x y : Snapshot} (h : Polls x y) (hnow : x.1.now < uint64Max)
    (hx : x.1.Waits) : y.1.Waits ∧ y.1.now = x.1.now := by
  induction h with
  | refl => exact ⟨hx, rfl⟩
  | tail _ hstep ih =>
      have hnext := hstep.now.trans ih.2
      refine ⟨?_, hnext⟩
      cases hstep with
      | quiet h => exact h.waits (ih.2 ▸ hnow) ih.1
      | call h => exact h.waits (ih.2 ▸ hnow) ih.1

/-- A deadline that is due ends the state it belongs to. -/
theorem poll_of_due {b : LorahamBackend} (hdue : b.nextDeadlineMs ≤ b.now)
    (hnow : b.now < uint64Max) :
    b.poll.now = b.now ∧ untimed b.poll.state = true := by
  unfold nextDeadlineMs at hdue
  split at hdue <;> rename_i hstate
  · rcases hstate with hs | hs <;>
    · simp only [poll, hs, if_pos hdue]
      exact ⟨rfl, rfl⟩
  · split at hdue <;> rename_i hs
    · simp only [poll, hs, advanceDrain, if_pos hdue]
      exact ⟨rfl, rfl⟩
    · omega

/-- After a poll no deadline of the backend is due. -/
theorem nextDeadlineMs_poll {b : LorahamBackend} (hheld : b.TxHeld) (hnow : b.now < uint64Max) :
    b.now < b.poll.nextDeadlineMs := by
  by_cases hdue : b.nextDeadlineMs ≤ b.now
  · obtain ⟨-, hafter⟩ := poll_of_due hdue hnow
    rwa [nextDeadlineMs_of_untimed hafter]
  · obtain ⟨hwaits, heq⟩ := (poll_steps b hheld).waits hnow (Nat.not_le.mp hdue)
    exact heq ▸ hwaits

end LorahamBackend

/-! ## The event loop -/

namespace XrServer

/-- The earlier of the two deadlines. -/
def nextDeadlineMs (sv : XrServer) : Nat :=
  match sv.conn with
  | none => sv.backend.nextDeadlineMs
  | some c => min sv.backend.nextDeadlineMs c.session.nextDeadlineMs

/-- The wait for a deadline survives the narrowing to the type of the result. -/
theorem wait_toInt (next now : Nat) :
    (if next = uint64Max then 100
      else if next ≤ now then 0
      else if next - now < 100 then Int32.ofNat (next - now)
      else 100 : Int32).toInt =
      if next = uint64Max then 100 else ((min (next - now) 100 : Nat) : Int) := by
  split
  · rfl
  · split
    · rw [show (0 : Int32).toInt = 0 from rfl]
      omega
    · split
      · rw [Int32.toInt_ofNat_of_lt (by omega)]
        omega
      · rw [show (100 : Int32).toInt = 100 from rfl]
        omega

/-- The loop waits for the next deadline, or a tenth of a second. -/
theorem computeTimeoutMs_eq (now : Nat) (sv : XrServer) :
    (sv.computeTimeoutMs now).toInt =
      if sv.nextDeadlineMs = uint64Max then 100
      else ((min (sv.nextDeadlineMs - now) 100 : Nat) : Int) := by
  unfold computeTimeoutMs nextDeadlineMs
  cases sv.conn with
  | none => exact wait_toInt _ now
  | some c =>
      have hmin : (if c.session.nextDeadlineMs < sv.backend.nextDeadlineMs then
          c.session.nextDeadlineMs else sv.backend.nextDeadlineMs) =
          min sv.backend.nextDeadlineMs c.session.nextDeadlineMs := by
        split <;> omega
      simp only [hmin]
      exact wait_toInt _ now

end XrServer

/-- The timers of the bridge: a tick of any session does something exactly when its
announced deadline is due, and leaves none due; an open session always has one; a
poll of the backend leaves none due; and the loop waits at most a tenth of a second,
not at all exactly if a deadline is due, and never past the next one. -/
theorem deadlines_exact {β : Type} (R : RadioBackend β) (env : XrEnv)
    (o : XrConnection.Opening β) (ops : List (XrConnection.Op β)) (b : β)
    (configTimeoutMs drainTimeoutMs : Nat) (calls : List Call) (transport : DaemonTransport)
    (sv : XrServer) (t : Nat) (hpos : env.timeouts.Positive)
    (hopening : env.timeouts.Fits o.now) (hops : ∀ op ∈ ops, env.timeouts.Fits op.now)
    (ht : env.timeouts.Fits t) :
    let s := (XrConnection.run R env o ops).1.session
    let s' := (s.tick R env t b).1
    let loraham := (runCalls configTimeoutMs drainTimeoutMs calls).enter t transport
    let wait := (sv.computeTimeoutMs t).toInt
    ((s.tick R env t b = (s, b) ↔ t < s.nextDeadlineMs) ∧
      (s'.phase = .closed ∨ t < s'.nextDeadlineMs) ∧
      (s.phase = .closed ∨ s.nextDeadlineMs < uint64Max)) ∧
    t < loraham.poll.nextDeadlineMs ∧
    (0 ≤ wait ∧ wait ≤ 100 ∧ (wait = 0 ↔ sv.nextDeadlineMs ≤ t) ∧
      (sv.nextDeadlineMs = uint64Max ∨ sv.nextDeadlineMs ≤ t ∨ t + wait ≤ sv.nextDeadlineMs)) := by
  intro s s' loraham wait
  refine ⟨⟨XrSession.tick_eq_self_iff hpos ht, XrSession.nextDeadlineMs_tick hpos ht, ?_⟩, ?_, ?_⟩
  · have htimed : XrSession.Timed s :=
      (XrSession.timed_invariant R env).run o ops hopening hops
    by_cases hopen : s.phase = .closed
    · exact Or.inl hopen
    · exact Or.inr (htimed.nextDeadlineMs_lt hopen)
  · exact nextDeadlineMs_poll (b := loraham) (runCalls_txHeld _ _ calls) ht.lt
  · have hwait : wait = _ := XrServer.computeTimeoutMs_eq t sv
    have hlt := ht.lt
    rw [hwait]
    split <;> refine ⟨?_, ?_, ?_, ?_⟩ <;> omega

/-- A client that is configured over the daemon, transmits, and is sent a PING while the
transmission is in flight. -/
def pinged : List (XrConnection.Op LorahamBackend) :=
  [⟨1, .backend fun b => b.enter 1 { beginConnect := [true] }⟩,
    ⟨1, .feed (frameBytes ⟨.hello, 0, [kVersion]⟩ ++
      frameBytes ⟨.configure, 0, packConfig meshConfig⟩)⟩,
    ⟨2, .backend fun b =>
      (b.enter 2 { pollConnect := [.connected], confSendSome := [.took 512],
                   confRecv := [.data readyStatus] }).poll⟩,
    ⟨2, .call (.onConfigureComplete 1 ⟨true, meshConfig⟩)⟩,
    ⟨14000, .backend fun b => b.enter 14000 { dataSendSome := [.took 512] }⟩,
    ⟨14000, .feed (frameBytes ⟨.txRequest, 1, [5, 6, 7]⟩)⟩,
    ⟨15002, .tick⟩]

/-- The calls that leave a backend waiting for its connections. -/
def connectingCalls : List Call :=
  [{ now := 0, method := .start },
    { now := 23500, transport := { beginConnect := [true] }, method := .beginConfigure meshConfig }]

/-- The deadline of a transmission, with a PING out, and a backend that is connecting. -/
theorem deadlines_exact_inFlight :
    let env : XrEnv := ⟨⟨[]⟩, fun _ _ => none, defaultTimeouts, 65536, fun _ n => n⟩
    let s := (XrConnection.run lorahamRadio env ⟨0, 0, none, {}⟩ pinged).1.session
    let b := (XrConnection.run lorahamRadio env ⟨0, 0, none, {}⟩ pinged).2
    let s' := (s.tick lorahamRadio env 24000 b).1
    let loraham := (runCalls 2000 30000 connectingCalls).enter 24000 {}
    let sv : XrServer := ⟨loraham, some ⟨s, false⟩, []⟩
    let wait := (sv.computeTimeoutMs 24000).toInt
    (s.phase = .ready ∧ s.txInFlight = true ∧ s.awaitingPong = true ∧ s.nextDeadlineMs = 24000 ∧
      loraham.state = .connecting ∧ loraham.poll.state = .connecting) ∧
    ((s.tick lorahamRadio env 24000 b = (s, b) ↔ 24000 < s.nextDeadlineMs) ∧
      (s'.phase = .closed ∨ 24000 < s'.nextDeadlineMs) ∧
      (s.phase = .closed ∨ s.nextDeadlineMs < uint64Max)) ∧
    24000 < loraham.poll.nextDeadlineMs ∧
    (0 ≤ wait ∧ wait ≤ 100 ∧ (wait = 0 ↔ sv.nextDeadlineMs ≤ 24000) ∧
      (sv.nextDeadlineMs = uint64Max ∨ sv.nextDeadlineMs ≤ 24000 ∨
        (24000 : Nat) + wait ≤ sv.nextDeadlineMs)) := by
  intro env s b s' loraham sv wait
  have hfits : defaultTimeouts.Fits 24000 :=
    ⟨by decide, by decide, by decide, by decide, by decide, by decide⟩
  have htimes : ∀ op ∈ pinged, op.now ≤ 24000 := by simp [pinged]
  have hpositive : defaultTimeouts.Positive :=
    ⟨by decide, by decide, by decide, by decide, by decide, by decide⟩
  have hafter : ∀ op ∈ pinged, env.timeouts.Fits op.now := fun op hop => hfits.mono (htimes op hop)
  have hexact := deadlines_exact lorahamRadio env ⟨0, 0, none, {}⟩ pinged b 2000 30000
    connectingCalls {} sv 24000 hpositive (hfits.mono (Nat.zero_le _)) hafter hfits
  refine ⟨by decide +kernel, ?_⟩
  -- reducible, so that the run is not evaluated to compare the two statements
  with_reducible exact hexact

end LorahamBridge
