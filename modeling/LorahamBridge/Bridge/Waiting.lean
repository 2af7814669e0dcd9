import LorahamBridge.Bridge.Coupling
import LorahamBridge.Xr.EventLoop

/-!
# What the bridge waits for

Whenever a client occupies the bridge, or the backend is in the middle of something,
a deadline should bound the wait.  The responsibility is divided: the backend times
its configurations and its recoveries, the open session everything else.  A session
that has closed but still has output for a client that does not read has no deadline
any more, and unless the backend has one of its own nothing bounds the wait.

Main results:

- Theorem `timers_ne_nil`: outside this case some timer is running.
- Theorem `waiting_deadline_iff`: when a waiting bridge has a deadline.
- Theorem `unread_output_strands`: a run into the case without one.
-/

namespace LorahamBridge

open Foundation Extradio LorahamBackend

/-! ## Running timers -/

/-- The timers of an open session. -/
def XrSession.timers (s : XrSession) : List Nat :=
  if s.phase = .closed then []
  else
    (if s.deadlineActive then [s.deadlineAt] else []) ++
      if s.phase = .ready then
        (if s.txInFlight then [s.txDeadlineAt] else []) ++
          [if s.awaitingPong then s.pongDeadlineAt else s.nextPingAt]
      else []

/-- The timer of a configuration or a recovery. -/
def LorahamBackend.timers (b : LorahamBackend) : List Nat :=
  if b.state = .connecting ∨ b.state = .configuring then [b.configDeadlineAt]
  else if b.state = .draining then [b.drainDeadlineAt]
  else []

/-- A session has a deadline exactly if one of its timers is set. -/
theorem XrSession.nextDeadlineMs_lt_iff (s : XrSession) :
    s.nextDeadlineMs < uint64Max ↔ ∃ t ∈ s.timers, t < uint64Max := by
  unfold nextDeadlineMs timers
  by_cases hclosed : s.phase = .closed
  · simp [hclosed]
  · by_cases hready : s.phase = .ready
    · cases s.deadlineActive <;> cases s.txInFlight <;> cases s.awaitingPong <;>
        simp [hready] <;> omega
    · cases s.deadlineActive <;> simp [hclosed, hready]

theorem LorahamBackend.nextDeadlineMs_lt_iff (b : LorahamBackend) :
    b.nextDeadlineMs < uint64Max ↔ ∃ t ∈ b.timers, t < uint64Max := by
  unfold nextDeadlineMs timers
  split
  · simp
  · split <;> simp

/-- The states of the backend without a timer. -/
theorem LorahamBackend.timers_eq_nil_iff (b : LorahamBackend) :
    b.timers = [] ↔ untimed b.state = true := by
  unfold timers
  cases b.state <;> simp [untimed]

namespace XrServer

/-- The timers of the bridge. -/
def timers (sv : XrServer) : List Nat :=
  match sv.conn with
  | none => sv.backend.timers
  | some c => sv.backend.timers ++ c.session.timers

/-- The server has a deadline exactly if one of its timers is set. -/
theorem nextDeadlineMs_lt_iff (sv : XrServer) :
    sv.nextDeadlineMs < uint64Max ↔ ∃ t ∈ sv.timers, t < uint64Max := by
  unfold nextDeadlineMs timers
  cases sv.conn with
  | none => exact sv.backend.nextDeadlineMs_lt_iff
  | some c =>
      simp only [min_lt_iff, sv.backend.nextDeadlineMs_lt_iff, c.session.nextDeadlineMs_lt_iff,
        List.mem_append, or_and_right, exists_or]

/-! ## Waiting states -/

/-- A client is connected, or the backend is in the middle of something. -/
def Waiting (sv : XrServer) : Prop :=
  sv.conn.isSome = true ∨ sv.backend.state = .connecting ∨ sv.backend.state = .configuring ∨
    sv.backend.state = .txWriting ∨ sv.backend.state = .txPending ∨ sv.backend.state = .draining

/-- The session is closed, its connection is kept, and the backend has no deadline of
its own. -/
def Stranded (sv : XrServer) : Prop :=
  ∃ c, sv.conn = some c ∧ c.session.phase = .closed ∧ untimed sv.backend.state = true

/-- Timers are running, but all are set to the very end of the clock's range. -/
def Exhausted (sv : XrServer) : Prop :=
  sv.timers ≠ [] ∧ ∀ t ∈ sv.timers, uint64Max ≤ t

/-- A server with a timer waits for it. -/
theorem waiting_of_timers {sv : XrServer} (h : sv.timers ≠ []) : Waiting sv := by
  unfold timers at h
  cases hconn : sv.conn with
  | none =>
      rw [hconn] at h
      have hstate := mt sv.backend.timers_eq_nil_iff.mpr h
      simp only [untimed, Bool.and_eq_true, bne_iff_ne, ne_eq] at hstate
      unfold Waiting
      tauto
  | some c => exact Or.inl (by rw [hconn]; rfl)

/-- A stranded server is waiting: a client is still connected to it. -/
theorem Stranded.waiting {sv : XrServer} (h : Stranded sv) : Waiting sv := by
  obtain ⟨c, hconn, -⟩ := h
  exact Or.inl (by rw [hconn]; rfl)

/-- A stranded server has no timer. -/
theorem Stranded.timers_eq_nil {sv : XrServer} (h : Stranded sv) : sv.timers = [] := by
  obtain ⟨c, hconn, hclosed, huntimed⟩ := h
  have hbackend := sv.backend.timers_eq_nil_iff.mpr huntimed
  simp [timers, hconn, hbackend, XrSession.timers, hclosed]

end XrServer

/-- In front of `Ready` an open session has a deadline for its phase. -/
def XrSession.Armed (s : XrSession) : Prop :=
  s.phase ≠ .closed → s.phase ≠ .ready → s.deadlineActive = true

/-- The deadline of the handshake is set in every session. -/
theorem XrSession.armed_invariant (env : XrEnv) :
    SessionInvariant lorahamRadio env (fun _ => True) Armed where
  opened _ _ _ _ := fun _ _ => rfl
  parser _ h := h
  frame _ h hopen hout := by
    cases hout with
    | challenged | helloOpen | authenticated | configStarted => exact fun _ _ => rfl
    | ponged hphase => exact fun _ hready => (hready hphase).elim
    | submitted => exact h
    | _ => exact fun hclosed => (hclosed rfl).elim
  parserError _ _ := fun hclosed => (hclosed rfl).elim
  tick _ h hout := by
    cases hout with
    | quiet => exact h
    | pinged _ hphase => exact fun _ hready => (hready hphase).elim
    | _ => exact fun hclosed => (hclosed rfl).elim
  call _ h hout := by
    cases hout with
    | ignored | forwarded | completed => exact h
    | configured => exact fun _ hready => (hready rfl).elim
    | _ => exact fun hclosed => (hclosed rfl).elim
  consume _ h := h

/-- An open session has a timer. -/
theorem XrSession.Armed.timers_ne_nil {s : XrSession} (h : Armed s) (hopen : s.phase ≠ .closed) :
    s.timers ≠ [] := by
  unfold timers
  by_cases hready : s.phase = .ready
  · simp [hready]
  · simp [hopen, hready, h hopen hready]

namespace XrServer

variable {env : BridgeEnv}

/-- A waiting bridge has a running timer unless it is stranded. -/
theorem timers_ne_nil {sv : XrServer} (hreached : Reached env sv) (hwaiting : Waiting sv)
    (hstranded : ¬Stranded sv) : sv.timers ≠ [] := by
  obtain ⟨ops, rfl⟩ := hreached
  have hcoupled := (coupling env).run ops
  unfold Invariant.holds at hcoupled
  unfold timers
  cases hconn : (run env ops).conn with
  | none =>
      rw [hconn] at hcoupled
      -- Without a client the backend is parked, and only a recovery is worth waiting for.
      have hdraining : (run env ops).backend.state = .draining := by
        rcases hcoupled.2.parked with hs | hs | hs
        · simp [Waiting, hconn, hs] at hwaiting
        · exact hs
        · simp [Waiting, hconn, hs] at hwaiting
      simp [LorahamBackend.timers, hdraining]
  | some c =>
      have harmed := (XrSession.armed_invariant env.toXrEnv).run_server ops hconn
      by_cases hclosed : c.session.phase = .closed
      · have htimed : ¬ untimed (run env ops).backend.state = true := fun huntimed =>
          hstranded ⟨c, hconn, hclosed, huntimed⟩
        have hne := mt (run env ops).backend.timers_eq_nil_iff.mp htimed
        simp [hne]
      · simp [harmed.timers_ne_nil hclosed]

/-- Between two iterations of the event loop a waiting bridge has a deadline exactly
unless it is stranded or its timers have come to the end of the clock's range; and a
closed session keeps its connection only for output the client has not taken. -/
theorem waiting_deadline_iff (env : BridgeEnv) (its : List Iteration) :
    ((Waiting (serve env its) → (serve env its).nextDeadlineMs < uint64Max) ↔
      ¬Stranded (serve env its) ∧ ¬Exhausted (serve env its)) ∧
    ∀ c, (serve env its).conn = some c → c.session.phase = .closed →
      c.socketError = false ∧ c.session.outbox.size ≠ 0 := by
  have hreached : Reached env (serve env its) := serve_eq_run its
  refine ⟨?_, ?_⟩
  · rw [nextDeadlineMs_lt_iff]
    constructor
    · intro h
      refine ⟨fun hstranded => ?_, fun hexhausted => ?_⟩
      · obtain ⟨t, ht, -⟩ := h hstranded.waiting
        rw [hstranded.timers_eq_nil] at ht
        cases ht
      · obtain ⟨t, ht, hlt⟩ := h (waiting_of_timers hexhausted.1)
        exact absurd hlt (Nat.not_lt.mpr (hexhausted.2 t ht))
    · rintro ⟨hstranded, hexhausted⟩ hwaiting
      by_contra hnone
      refine hexhausted ⟨timers_ne_nil hreached hwaiting hstranded, fun t ht => ?_⟩
      exact Nat.not_lt.mp fun hlt => hnone ⟨t, ht, hlt⟩
  · intro c hconn hclosed
    have hfinished := serve_not_finished its hconn
    simpa [XrConnection.finished, hclosed] using hfinished

/-! ## Output nobody reads -/

/-- The iteration of a loop that waits in vain. -/
def Iteration.idle (elapsed : Nat) : Iteration :=
  ⟨elapsed, false, [], 0, none, none, [], {}, {}⟩

/-- Output that is not read keeps the connection of a closed session while the
backend is disconnected. -/
structure Unread (sv : XrServer) (c : XrConnection) : Prop where
  conn : sv.conn = some c
  closed : c.session.phase = .closed
  unfinished : c.finished = false
  disconnected : sv.backend.state = .disconnected

/-- An idle iteration leaves a closed session with its output where it is. -/
theorem Unread.idle {sv : XrServer} {c : XrConnection} (h : Unread sv c) (elapsed : Nat) :
    Unread (sv.pollOnce env (.idle elapsed)) c := by
  obtain ⟨hconn, hclosed, hunfinished, hstate⟩ := h
  have hiteration : sv.pollOnce env (.idle elapsed) =
      ((sv.wait elapsed {}).wait 0 {}).wait 0 {} := by
    simp [pollOnce, Iteration.idle, serviceSocket, poll, tick, flush, wait, hconn, hstate,
      LorahamBackend.poll, XrSession.runCalls, XrSession.tick, hclosed, XrConnection.flush,
      dropConnectionIfFinished, hunfinished]
  rw [hiteration]
  exact ⟨hconn, hclosed, hunfinished, hstate⟩

/-- It stays so for as long as the peer neither reads nor closes. -/
theorem Unread.idles {its : List Iteration} {c : XrConnection} (h : Unread (serve env its) c)
    (elapsed n : Nat) : Unread (serve env (its ++ List.replicate n (.idle elapsed))) c := by
  induction n with
  | zero => rwa [List.replicate_zero, List.append_nil]
  | succ n ih =>
      rw [List.replicate_succ', ← List.append_assoc, serve_append]
      exact ih.idle elapsed

/-- A server with a closed session whose output nobody reads is stranded. -/
theorem Unread.stranded {sv : XrServer} {c : XrConnection} (h : Unread sv c) : Stranded sv :=
  ⟨c, h.conn, h.closed, by rw [h.disconnected]; rfl⟩

/-- In open mode a client sends `HELLO` twice and does not read: its session is closed,
and the bridge waits for it without a deadline, however long. -/
theorem unread_output_strands :
    let env : BridgeEnv :=
      ⟨⟨⟨[]⟩, fun _ _ => none, defaultTimeouts, 65536, fun _ n => n⟩, 30000, 30000⟩
    let hello := Extradio.frameBytes ⟨.hello, 0, [kVersion]⟩
    let its : List Iteration :=
      [⟨0, false, [none], 0, none, none, [], {}, {}⟩,
        ⟨1, false, [], 0, some ([.data ⟨hello ++ hello, by decide⟩], []), none, [], {}, {}⟩]
    (Waiting (serve env its) ∧ ¬(serve env its).nextDeadlineMs < uint64Max) ∧
      ∀ n, Stranded (serve env (its ++ List.replicate n (.idle 100))) := by
  intro env hello its
  have hconn : ((serve env its).conn.any fun c =>
      c.session.phase == .closed && !c.finished) = true := by decide +kernel
  have hstate : (serve env its).backend.state = .disconnected := by decide +kernel
  obtain ⟨c, hc, hkept⟩ := (Option.any_eq_true _ _).mp hconn
  rw [Bool.and_eq_true, beq_iff_eq, Bool.not_eq_true'] at hkept
  have hunread : Unread (serve env its) c := ⟨hc, hkept.1, hkept.2, hstate⟩
  refine ⟨⟨hunread.stranded.waiting, ?_⟩, fun n => (hunread.idles 100 n).stranded⟩
  simp [nextDeadlineMs_lt_iff, hunread.stranded.timers_eq_nil]

end XrServer

end LorahamBridge
