import LorahamBridge.Xr.EventLoop
import LorahamBridge.Xr.SessionRun

/-!
# The server over any backend

The source writes its server against the interface of a backend, and the program chooses
the backend when it starts.  `Server` has the server with the LoRaHAM backend in it; here
is the same server with any backend.  What happens to the backend from outside, between two
operations of the server, is given as a list of events `ε` with their effect `world`.

Main results:

- Theorem `ServedRule.holds_act`: what every step of a session and of the backend keeps, the
  operations of the server keep.
- Theorem `ServedInvariant.run`: if the outside keeps it too, every run does.
- Theorem `XrServer.run_eq_served`: the server of `Server` is this one over the LoRaHAM
  backend.
-/

namespace LorahamBridge

open Foundation Extradio

/-- The operations of a backend that the session and the server call.  A poll answers with
the callbacks it makes, each with the number of the session it is made to. -/
structure ServedBackend (β : Type) extends RadioBackend β where
  setSink : Option Nat → β → β
  stop : β → β
  poll : β → List (Nat × SinkCall) × β

/-- A server over any backend: the clock, the backend, the client's connection and the sessions
that have ended. -/
structure Served (β : Type) where
  now : Nat
  backend : β
  conn : Option XrConnection
  past : List XrSession

namespace Served

variable {β ε : Type} (B : ServedBackend β) (env : XrEnv)

/-! ## Operations -/

/-- Accept a client if none is connected; its session becomes the sink of the backend. -/
def accept (entropy : Option Nonce) (sv : Served β) : Served β :=
  match sv.conn with
  | some _ => sv
  | none =>
      let id := sv.past.length
      let r := (XrSession.new env id entropy).openSession B.toRadioBackend env sv.now
        (B.setSink (some id) sv.backend)
      { sv with backend := r.2, conn := some ⟨r.1, false⟩ }

/-- Bytes from the client. -/
def feed (data : Bytes) (sv : Served β) : Served β :=
  match sv.conn with
  | none => sv
  | some c =>
      let r := c.session.feed B.toRadioBackend env sv.now data sv.backend
      { sv with backend := r.2, conn := some { c with session := r.1 } }

/-- The socket of the client fails. -/
def socketFailed (sv : Served β) : Served β :=
  { sv with conn := sv.conn.map fun c => { c with socketError := true } }

/-- Poll the backend; its callbacks go to the session. -/
def poll (sv : Served β) : Served β :=
  let r := B.poll sv.backend
  { sv with
    backend := r.2
    conn := sv.conn.map fun c => { c with session := c.session.runCalls env sv.now r.1 } }

/-- Let the session check its timers. -/
def tick (sv : Served β) : Served β :=
  match sv.conn with
  | none => sv
  | some c =>
      let r := c.session.tick B.toRadioBackend env sv.now sv.backend
      { sv with backend := r.2, conn := some { c with session := r.1 } }

/-- Write what is queued for the client. -/
def flush (answers : List SendAnswer) (sv : Served β) : Served β :=
  { sv with conn := sv.conn.map fun c => c.flush answers }

/-- End the connection: the backend gives up its transmission, loses its sink and stops. -/
def teardown (sv : Served β) : Served β :=
  match sv.conn with
  | none => sv
  | some c =>
      { sv with
        backend := B.stop (B.setSink none (B.abandonPendingTx sv.backend))
        conn := none
        past := sv.past ++ [c.session] }

/-- End the connection if it is finished. -/
def dropConnectionIfFinished (sv : Served β) : Served β :=
  if sv.conn.any XrConnection.finished then sv.teardown B else sv

/-- One action of the server. -/
def act (action : XrServer.Action) (sv : Served β) : Served β :=
  match action with
  | .accept entropy => sv.accept B env entropy
  | .feed data => sv.feed B env data
  | .socketFailed => sv.socketFailed
  | .poll => sv.poll B env
  | .tick => sv.tick B env
  | .flush answers => sv.flush answers
  | .dropConnectionIfFinished => sv.dropConnectionIfFinished B
  | .teardown => sv.teardown B

/-- One operation: the time since the previous one, what happened to the backend
meanwhile, and what the server does. -/
structure Op (ε : Type) where
  elapsed : Nat
  meanwhile : ε
  action : XrServer.Action

/-- Time passes, the world acts on the backend, and the server acts. -/
def step (world : ε → β → β) (sv : Served β) (op : Op ε) : Served β :=
  act B env op.action
    { sv with
      now := min (sv.now + op.elapsed) uint64Max
      backend := world op.meanwhile sv.backend }

/-- The server after a run of operations, over a backend that begins as `first`. -/
def run (world : ε → β → β) (first : β) (ops : List (Op ε)) : Served β :=
  ops.foldl (step B env world) ⟨0, first, none, []⟩

theorem run_append_singleton (world : ε → β → β) (first : β) (ops : List (Op ε)) (op : Op ε) :
    run B env world first (ops ++ [op]) = step B env world (run B env world first ops) op := by
  simp [run]

/-- Every session of a run, the present one last. -/
def sessions (sv : Served β) : List XrSession :=
  sv.past ++ (sv.conn.map XrConnection.session).toList

end Served

/-! ## Invariants -/

/-- A property of a backend and the sessions it serves that the server keeps. -/
structure ServedRule {β : Type} (B : ServedBackend β) (env : XrEnv) where
  idle : List XrSession → β → Prop
  active : List XrSession → XrSession → β → Prop
  idle_poll : ∀ {past b}, idle past b → idle past (B.poll b).2
  active_poll : ∀ {past s b} now, active past s b →
    active past (s.runCalls env now (B.poll b).1) (B.poll b).2
  accept : ∀ {past b} now entropy, idle past b →
    active past
      ((XrSession.new env past.length entropy).openSession B.toRadioBackend env now b).1
      (B.start (B.setSink (some past.length) b))
  parser : ∀ {past s b} buf, active past s b → active past (s.withParser buf) b
  parserError : ∀ {past s b}, active past s b → s.phase ≠ .closed →
    active past (s.shut .parserError) b
  frame : ∀ {past s b now f s' b'}, active past s b → s.phase ≠ .closed →
    XrSession.FrameOutcome B.toRadioBackend env now f s b (s', b') → active past s' b'
  tick : ∀ {past s b now s' b'}, active past s b →
    XrSession.TickOutcome B.toRadioBackend env now s b (s', b') → active past s' b'
  consume : ∀ {past s b} n, active past s b → active past (s.sendSome n) b
  teardown : ∀ {past s b}, active past s b →
    idle (past ++ [s]) (B.stop (B.setSink none (B.abandonPendingTx b)))

/-- A property that the outside keeps as well, and that holds in the beginning. -/
structure ServedInvariant {β ε : Type} (B : ServedBackend β) (env : XrEnv) (world : ε → β → β)
    (first : β) extends ServedRule B env where
  initial : idle [] first
  idle_world : ∀ {past b} e, idle past b → idle past (world e b)
  active_world : ∀ {past s b} e, active past s b → active past s (world e b)

namespace ServedRule

variable {β : Type} {B : ServedBackend β} {env : XrEnv} (I : ServedRule B env)

/-- The invariant in a state of the server. -/
def holds (sv : Served β) : Prop :=
  match sv.conn with
  | none => I.idle sv.past sv.backend
  | some c => I.active sv.past c.session sv.backend

/-- A teardown keeps the invariant. -/
theorem holds_teardown {sv : Served β} (h : I.holds sv) : I.holds (sv.teardown B) := by
  unfold holds at h
  unfold Served.teardown
  cases hconn : sv.conn with
  | none => simpa [holds, hconn] using h
  | some c =>
      rw [hconn] at h
      exact I.teardown h

/-- Every action keeps the invariant. -/
theorem holds_act (action : XrServer.Action) {sv : Served β} (h : I.holds sv) :
    I.holds (sv.act B env action) := by
  cases action with
  | accept entropy =>
      unfold holds at h
      simp only [Served.act, Served.accept]
      cases hconn : sv.conn with
      | none =>
          rw [hconn] at h
          exact I.accept sv.now entropy h
      | some c => simpa [holds, hconn] using h
  | feed data =>
      unfold holds at h
      simp only [Served.act, Served.feed]
      cases hconn : sv.conn with
      | none => simpa [holds, hconn] using h
      | some c =>
          rw [hconn] at h
          exact XrSession.feed_rule (I.active sv.past) (fun _ _ buf hs => I.parser buf hs)
            (fun f _ b hs hopen => I.frame hs hopen (XrSession.handleFrame_cases _ _ _ f b hopen))
            (fun _ _ hs hopen => I.parserError hs hopen) data c.session sv.backend h
  | socketFailed =>
      simp only [Served.act, Served.socketFailed]
      unfold holds at h ⊢
      cases hconn : sv.conn with
      | none => simpa [hconn] using h
      | some c => simpa [hconn] using h
  | poll =>
      simp only [Served.act, Served.poll]
      unfold holds at h ⊢
      cases hconn : sv.conn with
      | none =>
          rw [hconn] at h
          exact I.idle_poll h
      | some c =>
          rw [hconn] at h
          exact I.active_poll sv.now h
  | tick =>
      unfold holds at h
      simp only [Served.act, Served.tick]
      cases hconn : sv.conn with
      | none => simpa [holds, hconn] using h
      | some c =>
          rw [hconn] at h
          exact I.tick h (XrSession.tick_cases B.toRadioBackend env sv.now c.session sv.backend)
  | flush answers =>
      simp only [Served.act, Served.flush]
      unfold holds at h ⊢
      cases hconn : sv.conn with
      | none => simpa [hconn] using h
      | some c =>
          rw [hconn] at h
          exact XrConnection.flush_rule (P := fun s => I.active sv.past s sv.backend)
            (fun _ n hs => I.consume n hs) answers h
  | dropConnectionIfFinished =>
      simp only [Served.act, Served.dropConnectionIfFinished]
      split
      · exact I.holds_teardown h
      · exact h
  | teardown => exact I.holds_teardown h

end ServedRule

namespace ServedInvariant

variable {β ε : Type} {B : ServedBackend β} {env : XrEnv} {world : ε → β → β} {first : β}
  (I : ServedInvariant B env world first)

/-- An invariant holds in every state a run reaches. -/
theorem run (ops : List (Served.Op ε)) : I.holds (Served.run B env world first ops) := by
  induction ops using List.reverseRecOn with
  | nil => exact I.initial
  | append_singleton ops op ih =>
      rw [Served.run_append_singleton]
      apply I.holds_act
      unfold ServedRule.holds at ih ⊢
      cases hconn : (Served.run B env world first ops).conn with
      | none =>
          rw [hconn] at ih
          exact I.idle_world op.meanwhile ih
      | some c =>
          rw [hconn] at ih
          exact I.active_world op.meanwhile ih

end ServedInvariant

/-! ## The LoRaHAM backend -/

/-- The LoRaHAM backend behind the interface the server is written against. -/
def lorahamServed : ServedBackend LorahamBackend where
  toRadioBackend := lorahamRadio
  setSink := LorahamBackend.setSink
  stop := LorahamBackend.stop
  poll b := (b.poll.calls, { b.poll with calls := [] })

/-- To the LoRaHAM backend its clock and its transport are the outside. -/
def lorahamWorld (e : Nat × DaemonTransport) (b : LorahamBackend) : LorahamBackend :=
  { b with
    transport := e.2
    now := min (b.now + e.1) uint64Max
    calls := [] }

namespace XrServer

/-- The server over the LoRaHAM backend, seen as a server over any backend. -/
def toServed (sv : XrServer) : Served LorahamBackend :=
  ⟨sv.backend.now, sv.backend, sv.conn, sv.past⟩

/-- An operation of that server. -/
def Op.toServed (op : Op) : Served.Op (Nat × DaemonTransport) :=
  ⟨op.elapsed, (op.elapsed, op.transport), op.action⟩

variable (env : BridgeEnv)

theorem toServed_teardown (sv : XrServer) :
    sv.teardown.toServed = sv.toServed.teardown lorahamServed := by
  unfold teardown Served.teardown
  cases hconn : sv.conn with
  | none => simp [toServed, hconn]
  | some c =>
      have hnow : (sv.backend.abandonPendingTx.setSink none).stop.now = sv.backend.now := by
        unfold LorahamBackend.stop
        split <;> exact (abandonPendingTx_frame sv.backend).2
      simp only [toServed, hconn, hnow]
      rfl

/-- The server does the same with the backend inside and with any backend. -/
theorem toServed_act (action : Action) (sv : XrServer) (hheld : sv.backend.TxHeld) :
    (sv.act env action).toServed = sv.toServed.act lorahamServed env.toXrEnv action := by
  cases action with
  | accept entropy =>
      simp only [act, accept, Served.act, Served.accept]
      cases hconn : sv.conn with
      | none =>
          simp only [toServed, hconn]
          rfl
      | some c => simp [toServed, hconn]
  | feed data =>
      simp only [act, feed, Served.act, Served.feed]
      cases hconn : sv.conn with
      | none => simp [toServed, hconn]
      | some c =>
          have hnow := (feed_frame env.toXrEnv sv.backend.now data c.session sv.backend).2
          simp only [toServed, hconn, hnow]
          rfl
  | socketFailed => rfl
  | poll =>
      have hnow : sv.backend.poll.now = sv.backend.now :=
        LorahamBackend.Polls.now (LorahamBackend.poll_steps sv.backend hheld)
      simp only [act, poll, Served.act, Served.poll, toServed, lorahamServed, hnow]
  | tick =>
      simp only [act, tick, Served.act, Served.tick]
      cases hconn : sv.conn with
      | none => simp [toServed, hconn]
      | some c =>
          have hnow := (tick_frame env.toXrEnv sv.backend.now c.session sv.backend).2
          simp only [toServed, hconn, hnow]
          rfl
  | flush answers => rfl
  | dropConnectionIfFinished =>
      simp only [act, dropConnectionIfFinished, Served.act, Served.dropConnectionIfFinished]
      rw [show sv.toServed.conn = sv.conn from rfl]
      split
      · exact toServed_teardown sv
      · rfl
  | teardown => exact toServed_teardown sv

/-- Every run of the server with the LoRaHAM backend is one of the server over any
backend. -/
theorem run_eq_served (ops : List Op) :
    (run env ops).toServed =
      Served.run lorahamServed env.toXrEnv lorahamWorld (initial env).backend
        (ops.map Op.toServed) := by
  induction ops using List.reverseRecOn with
  | nil => rfl
  | append_singleton ops op ih =>
      rw [List.map_append, List.map_singleton, Served.run_append_singleton, ← ih, run_append]
      exact toServed_act env op.action ((run env ops).wait op.elapsed op.transport)
        (run_txHeld env ops)

end XrServer

end LorahamBridge
