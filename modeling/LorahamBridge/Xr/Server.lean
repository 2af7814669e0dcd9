import LorahamBridge.Loraham.BackendSteps
import LorahamBridge.Xr.SessionSteps

/-!
# The XR server

The server owns one backend and at most one client connection; a newcomer is
refused while a connection is active.  This file embeds `xr_connection` and
`xr_server`, except for the socket set-up.

`step` runs one operation of the event loop: the clock advances, the transport
gets a fresh script of answers, and one thing happens.  A run is a list of such
operations in any order.  `pollOnce` is the loop body itself, with its fixed
order, and `pollOnce_eq_run` shows that it is such a run.

Backend callbacks do not call back into the backend, so a poll runs to its end
first and the session sees its callbacks, in order, right after it.
-/

namespace LorahamBridge

open Foundation Extradio LorahamBackend

/-! ## Connection and server state -/

/-- Size of the read buffer of a client socket. -/
def kSocketChunk : Nat := 1024

/-- A client's connection: its session, and whether its socket has failed. -/
structure XrConnection where
  session : XrSession
  socketError : Bool
deriving DecidableEq

/-- The history variable `past` keeps the sessions of the connections torn down so
far; a new session is numbered by its length. -/
structure XrServer where
  backend : LorahamBackend
  conn : Option XrConnection
  past : List XrSession
deriving DecidableEq

/-- Everything the bridge is started with. -/
structure BridgeEnv extends XrEnv where
  configTimeoutMs : Nat
  drainTimeoutMs : Nat

/-- The callbacks of one poll, run on the session they were made to. -/
def XrSession.runCalls (env : XrEnv) (now : Nat) (calls : List (Nat × SinkCall))
    (s : XrSession) : XrSession :=
  calls.foldl (fun s c => if c.1 = s.id then s.onCall env now c.2 else s) s

namespace XrConnection

/-- Write the output queue to the socket as far as it is accepted. -/
def flush (c : XrConnection) : List SendAnswer → XrConnection
  | [] => c
  | answer :: answers =>
      if c.session.outbox.size = 0 then c
      else
        match answer with
        | .failed => { c with socketError := true }
        | .took n =>
            if n = 0 then c
            else flush { c with session := c.session.sendSome n } answers

/-- What every single `send` keeps holds after a flush. -/
theorem flush_rule {P : XrSession → Prop} (hsend : ∀ s n, P s → P (s.sendSome n))
    (answers : List SendAnswer) {c : XrConnection} (h : P c.session) :
    P (c.flush answers).session := by
  induction answers generalizing c with
  | nil => exact h
  | cons answer answers ih =>
      unfold flush
      split
      · exact h
      · cases answer with
        | failed => exact h
        | took n =>
            simp only
            split
            · exact h
            · exact ih (hsend _ n h)

/-- Read the socket as far as it delivers; a short read ends the loop. -/
def recvLoop (env : XrEnv) (c : XrConnection) (b : LorahamBackend) :
    List (RecvAnswer kSocketChunk) → XrConnection × LorahamBackend
  | [] => (c, b)
  | .failed :: _ => ({ c with socketError := true }, b)
  | .data chunk :: answers =>
      if chunk.bytes = [] then (c, b)
      else
        match c.session.feed lorahamRadio env b.now chunk.bytes b with
        | (s, b) =>
            if s.phase = .closed ∨ chunk.bytes.length < kSocketChunk then
              ({ c with session := s }, b)
            else recvLoop env { c with session := s } b answers

/-- A finished connection is dropped: its socket failed, or its session closed
and everything queued has been sent. -/
def finished (c : XrConnection) : Bool :=
  c.socketError || (c.session.phase == .closed && c.session.outbox.size == 0)

end XrConnection

namespace XrServer

variable (env : BridgeEnv)

/-- The server before its first client. -/
def initial : XrServer where
  backend :=
    { configTimeoutMs := env.configTimeoutMs
      drainTimeoutMs := env.drainTimeoutMs }
  conn := none
  past := []

/-- Time passes, up to the end of the clock's range, and the transport gets its
answers for the next operation. -/
def wait (elapsed : Nat) (transport : DaemonTransport) (sv : XrServer) : XrServer :=
  { sv with
    backend := { sv.backend with
      transport := transport
      now := min (sv.backend.now + elapsed) uint64Max
      calls := [] } }

/-! ## Operations -/

/-- A client connects.  Only one is served at a time. -/
def accept (entropy : Option Nonce) (sv : XrServer) : XrServer :=
  match sv.conn with
  | some _ => sv
  | none =>
      let id := sv.past.length
      let r := (XrSession.new env.toXrEnv id entropy).openSession lorahamRadio env.toXrEnv
        sv.backend.now (sv.backend.setSink (some id))
      { sv with backend := r.2, conn := some ⟨r.1, false⟩ }

/-- Inbound bytes from the client. -/
def feed (data : Bytes) (sv : XrServer) : XrServer :=
  match sv.conn with
  | none => sv
  | some c =>
      let r := c.session.feed lorahamRadio env.toXrEnv sv.backend.now data sv.backend
      { sv with backend := r.2, conn := some { c with session := r.1 } }

/-- The socket failed or the peer closed it. -/
def socketFailed (sv : XrServer) : XrServer :=
  { sv with conn := sv.conn.map fun c => { c with socketError := true } }

/-- Poll the backend and run its callbacks. -/
def poll (sv : XrServer) : XrServer :=
  let b := sv.backend.poll
  { sv with
    backend := { b with calls := [] }
    conn := sv.conn.map fun c =>
      { c with session := c.session.runCalls env.toXrEnv sv.backend.now b.calls } }

/-- Let the session check its timers. -/
def tick (sv : XrServer) : XrServer :=
  match sv.conn with
  | none => sv
  | some c =>
      let r := c.session.tick lorahamRadio env.toXrEnv sv.backend.now sv.backend
      { sv with backend := r.2, conn := some { c with session := r.1 } }

/-- Write what is queued for the client. -/
def flush (answers : List SendAnswer) (sv : XrServer) : XrServer :=
  { sv with conn := sv.conn.map fun c => c.flush answers }

/-- Destroy the connection: its transmission is handed to recovery first, then
the sink is detached and the backend stopped. -/
def teardown (sv : XrServer) : XrServer :=
  match sv.conn with
  | none => sv
  | some c =>
      { backend := (sv.backend.abandonPendingTx.setSink none).stop
        conn := none
        past := sv.past ++ [c.session] }

/-- End the connection if it is finished. -/
def dropConnectionIfFinished (sv : XrServer) : XrServer :=
  if sv.conn.any XrConnection.finished then sv.teardown else sv

/-- What the server does. -/
inductive Action where
  | accept (entropy : Option Nonce)
  | feed (data : Bytes)
  | socketFailed
  | poll
  | tick
  | flush (answers : List SendAnswer)
  | dropConnectionIfFinished
  | teardown

/-- One operation: the time since the previous one, the transport's answers, and
what happens. -/
structure Op where
  elapsed : Nat
  transport : DaemonTransport
  action : Action

/-- One action of the server. -/
def act (action : Action) (sv : XrServer) : XrServer :=
  match action with
  | .accept entropy => sv.accept env entropy
  | .feed data => sv.feed env data
  | .socketFailed => sv.socketFailed
  | .poll => sv.poll env
  | .tick => sv.tick env
  | .flush answers => sv.flush answers
  | .dropConnectionIfFinished => sv.dropConnectionIfFinished
  | .teardown => sv.teardown

/-- Time passes, and the server acts. -/
def step (sv : XrServer) (op : Op) : XrServer :=
  (sv.wait op.elapsed op.transport).act env op.action

/-- The server after a run of operations. -/
def run (ops : List Op) : XrServer :=
  ops.foldl (step env) (initial env)

/-! ## The event loop -/

/-- How long the loop may wait for its sockets. -/
def computeTimeoutMs (now : Nat) (sv : XrServer) : Int32 :=
  let next := sv.backend.nextDeadlineMs
  let next := match sv.conn with
    | none => next
    | some c => if c.session.nextDeadlineMs < next then c.session.nextDeadlineMs else next
  if next = uint64Max then 100
  else if next ≤ now then 0
  else if next - now < 100 then Int32.ofNat (next - now)
  else 100

/-- What one iteration of the loop meets: the time spent waiting, newcomers, the time
`try_accept` backs off when the system is short of descriptors or memory, the state of
the client socket, and the answers to every call it makes. -/
structure Iteration where
  elapsed : Nat
  pollFailed : Bool
  newcomers : List (Option Nonce)
  backoff : Nat
  readable : Option (List (RecvAnswer kSocketChunk) × List SendAnswer)
  writable : Option (List SendAnswer)
  finalWrite : List SendAnswer
  readTransport : DaemonTransport
  pollTransport : DaemonTransport

/-- Read all there is, feed it to the session, and write what is queued. -/
def serviceRead (answers : List (RecvAnswer kSocketChunk)) (sends : List SendAnswer)
    (sv : XrServer) : XrServer :=
  match sv.conn with
  | none => sv
  | some c =>
      let r := c.recvLoop env.toXrEnv sv.backend answers
      flush sends { sv with backend := r.2, conn := some r.1 }

/-- The socket events of the connection that was polled. -/
def serviceSocket (it : Iteration) (sv : XrServer) : XrServer :=
  let sv := match it.readable with
    | none => sv
    | some (answers, sends) => sv.serviceRead env answers sends
  match it.writable with
  | none => sv
  | some sends => sv.flush sends

/-- One iteration of the event loop.  A `poll` that fails for another reason than a signal
ends it at once; the time it took has passed all the same. -/
def pollOnce (it : Iteration) (sv : XrServer) : XrServer :=
  if it.pollFailed then sv.wait it.elapsed it.readTransport
  else
    let polled := sv.conn.isSome
    let sv := it.newcomers.foldl (fun sv entropy => sv.accept env entropy)
      (sv.wait it.elapsed it.readTransport)
    let sv := sv.wait it.backoff it.readTransport
    let sv := if polled then sv.serviceSocket env it else sv
    let sv := (sv.wait 0 it.pollTransport).poll env
    (((sv.tick env).flush it.finalWrite).dropConnectionIfFinished)

/-- The server after some iterations of the event loop. -/
def serve (its : List Iteration) : XrServer :=
  its.foldl (fun sv it => sv.pollOnce env it) (initial env)

end XrServer

end LorahamBridge
