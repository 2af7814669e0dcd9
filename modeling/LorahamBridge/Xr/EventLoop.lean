import LorahamBridge.Xr.Deadlines
import LorahamBridge.Xr.ServerSteps

/-!
# The event loop as a run of operations

An iteration of the event loop makes its calls in a fixed order.  Each of them is one
operation of the server, so everything proved about runs of operations holds between
two iterations.  An iteration also ends by dropping a finished connection, which an
arbitrary run does not.

Main results:

- Theorem `pollOnce_eq_run`: an iteration continues a run of operations.
- Theorem `serve_eq_run`: so do any number of iterations.
- Theorem `serve_not_finished`: no finished connection is left between iterations.
-/

namespace LorahamBridge

open Foundation Extradio LorahamBackend

/-! ## What operations leave alone -/

/-- The callbacks that wait for a session are not touched by a request to configure. -/
theorem beginConfigure_calls (requested : RadioConfig) (b : LorahamBackend) :
    (b.beginConfigure requested).2.calls = b.calls := by
  have h := beginConfigure_cases requested b
  generalize b.beginConfigure requested = r at h
  cases h <;> rfl

theorem submitTx_calls (data : Bytes) (b : LorahamBackend) :
    (b.submitTx data).2.calls = b.calls := by
  have h := submitTx_cases data b
  generalize b.submitTx data = r at h
  cases h <;> rfl

/-- Handling a frame makes no callback. -/
theorem handleFrame_calls {env : XrEnv} {now : Nat} (f : Frame) {s : XrSession}
    (b : LorahamBackend) (hopen : s.phase ≠ .closed) :
    (s.handleFrame lorahamRadio env now f b).2.calls = b.calls := by
  have h := XrSession.handleFrame_cases lorahamRadio env now f b hopen
  generalize s.handleFrame lorahamRadio env now f b = r at h
  cases h with
  | configRefused _ _ _ requested b' _ _ hbackend | configStarted requested _ b' _ _ _ hbackend =>
      have hcalls := beginConfigure_calls requested b
      change b.beginConfigure requested = _ at hbackend
      rwa [hbackend] at hcalls
  | submitRefused b' _ _ _ _ hbackend | submitted b' _ _ _ _ hbackend =>
      have hcalls := submitTx_calls f.payload b
      change b.submitTx f.payload = _ at hbackend
      rwa [hbackend] at hcalls
  | _ => rfl

/-- Feeding bytes to a session makes no callback wait and takes no time. -/
theorem feed_frame (env : XrEnv) (now : Nat) (data : Bytes) (s : XrSession) (b : LorahamBackend) :
    (s.feed lorahamRadio env now data b).2.calls = b.calls ∧
      (s.feed lorahamRadio env now data b).2.now = b.now :=
  XrSession.feed_rule (R := lorahamRadio)
    (fun _ (b' : LorahamBackend) => b'.calls = b.calls ∧ b'.now = b.now)
    (fun _ _ _ h => h)
    (fun f _ b' h hopen => ⟨(handleFrame_calls f b' hopen).trans h.1,
      (handleFrame_now f b' hopen).trans h.2⟩)
    (fun _ _ h _ => h) data s b ⟨rfl, rfl⟩

/-- Abandoning a transmission makes no callback wait and takes no time. -/
theorem abandonPendingTx_frame (b : LorahamBackend) :
    b.abandonPendingTx.calls = b.calls ∧ b.abandonPendingTx.now = b.now := by
  unfold abandonPendingTx
  split <;> exact ⟨rfl, rfl⟩

theorem tick_frame (env : XrEnv) (now : Nat) (s : XrSession) (b : LorahamBackend) :
    (s.tick lorahamRadio env now b).2.calls = b.calls ∧
      (s.tick lorahamRadio env now b).2.now = b.now := by
  have h := XrSession.tick_cases lorahamRadio env now s b
  generalize s.tick lorahamRadio env now b = r at h
  cases h with
  | abandoned => exact abandonPendingTx_frame b
  | _ => exact ⟨rfl, rfl⟩

/-- A poll takes no time. -/
theorem LorahamBackend.Polls.now {x y : Snapshot} (h : Polls x y) : y.1.now = x.1.now := by
  induction h with
  | refl => rfl
  | tail _ hstep ih => exact hstep.now.trans ih

namespace XrServer

variable {env : BridgeEnv} {sv : XrServer}

/-! ## Reached states -/

/-- Some run of operations ends in this state. -/
def Reached (env : BridgeEnv) (sv : XrServer) : Prop :=
  ∃ ops, run env ops = sv

/-- No callback is pending, and the clock is in its range. -/
structure Rested (sv : XrServer) : Prop where
  calls : sv.backend.calls = []
  now : sv.backend.now ≤ uint64Max

/-- After a wait no callback is pending. -/
theorem rested_wait (elapsed : Nat) (transport : DaemonTransport) (sv : XrServer) :
    Rested (sv.wait elapsed transport) :=
  ⟨rfl, Nat.min_le_right _ _⟩

/-- Waiting no time for the answers at hand changes nothing. -/
theorem wait_self (h : Rested sv) : sv.wait 0 sv.backend.transport = sv := by
  have hnow : min (sv.backend.now + 0) uint64Max = sv.backend.now := Nat.min_eq_left h.now
  have hcalls : [] = sv.backend.calls := h.calls.symm
  unfold wait
  rw [hnow, hcalls]

/-- Reachable servers step to reachable servers. -/
theorem Reached.step (h : Reached env sv) (op : Op) : Reached env (step env sv op) := by
  obtain ⟨ops, rfl⟩ := h
  exact ⟨ops ++ [op], by rw [run_append]; rfl⟩

/-- Waiting is a step of its own: time passes and nothing is done. -/
theorem Reached.wait (h : Reached env sv) (elapsed : Nat) (transport : DaemonTransport) :
    Reached env (sv.wait elapsed transport) := by
  have hstep := h.step ⟨elapsed, transport, .flush []⟩
  have hflush : (sv.wait elapsed transport).flush [] = sv.wait elapsed transport := by
    have hid : (fun c : XrConnection => c.flush []) = id := rfl
    rw [flush, hid, Option.map_id]
    rfl
  exact hflush ▸ hstep

/-- From a server without pending callbacks every action is a step. -/
theorem Reached.act (h : Reached env sv) (hrested : Rested sv) (action : Action) :
    Reached env (sv.act env action) := by
  have hstep := h.step ⟨0, sv.backend.transport, action⟩
  rwa [XrServer.step, wait_self hrested] at hstep

/-- A reached state without pending callbacks, between two calls of an iteration. -/
structure Paused (env : BridgeEnv) (sv : XrServer) : Prop where
  reached : Reached env sv
  rested : Rested sv

namespace Paused

/-- Waiting starts a pause. -/
theorem wait (h : Reached env sv) (elapsed : Nat) (transport : DaemonTransport) :
    Paused env (sv.wait elapsed transport) :=
  ⟨h.wait elapsed transport, rested_wait _ _ _⟩

theorem accept (h : Paused env sv) (entropy : Option Nonce) : Paused env (sv.accept env entropy) := by
  refine ⟨h.reached.act h.rested (.accept entropy), ?_⟩
  unfold XrServer.accept
  split
  · exact h.rested
  · exact ⟨h.rested.calls, h.rested.now⟩

theorem feed (h : Paused env sv) (data : Bytes) : Paused env (sv.feed env data) := by
  refine ⟨h.reached.act h.rested (.feed data), ?_⟩
  unfold XrServer.feed
  split
  · exact h.rested
  · rename_i c hconn
    obtain ⟨hcalls, hnow⟩ := feed_frame env.toXrEnv sv.backend.now data c.session sv.backend
    exact ⟨hcalls.trans h.rested.calls, hnow.trans_le h.rested.now⟩

theorem socketFailed (h : Paused env sv) : Paused env sv.socketFailed :=
  ⟨h.reached.act h.rested .socketFailed, h.rested.calls, h.rested.now⟩

theorem flush (h : Paused env sv) (answers : List SendAnswer) : Paused env (sv.flush answers) :=
  ⟨h.reached.act h.rested (.flush answers), h.rested.calls, h.rested.now⟩

theorem tick (h : Paused env sv) : Paused env (sv.tick env) := by
  refine ⟨h.reached.act h.rested .tick, ?_⟩
  unfold XrServer.tick
  split
  · exact h.rested
  · rename_i c hconn
    obtain ⟨hcalls, hnow⟩ := tick_frame env.toXrEnv sv.backend.now c.session sv.backend
    exact ⟨hcalls.trans h.rested.calls, hnow.trans_le h.rested.now⟩

/-- A poll ends the pause with the callbacks delivered, so another may follow. -/
theorem poll (h : Paused env sv) : Paused env (sv.poll env) := by
  refine ⟨h.reached.act h.rested .poll, rfl, ?_⟩
  obtain ⟨ops, rfl⟩ := h.reached
  exact (LorahamBackend.Polls.now (poll_steps _ (run_txHeld env ops))).trans_le h.rested.now

/-- The receive loop feeds one read after the other. -/
theorem recvLoop (answers : List (RecvAnswer kSocketChunk)) {c : XrConnection} (h : Paused env sv)
    (hconn : sv.conn = some c) :
    Paused env { sv with
      backend := (c.recvLoop env.toXrEnv sv.backend answers).2
      conn := some (c.recvLoop env.toXrEnv sv.backend answers).1 } := by
  have hself : { sv with conn := some c } = sv := by rw [← hconn]
  induction answers generalizing sv c with
  | nil => rwa [XrConnection.recvLoop, hself]
  | cons answer answers ih =>
      cases answer with
      | failed =>
          have hfail := h.socketFailed
          rwa [XrServer.socketFailed, hconn] at hfail
      | data chunk =>
          rw [XrConnection.recvLoop]
          split
          · rwa [hself]
          · have hfeed := h.feed chunk.bytes
            rw [XrServer.feed, hconn] at hfeed
            simp only at hfeed ⊢
            split
            · exact hfeed
            · exact ih hfeed rfl rfl

/-- A round of reads keeps the pause: it is a sequence of feeds and flushes. -/
theorem serviceRead (h : Paused env sv) (answers : List (RecvAnswer kSocketChunk))
    (sends : List SendAnswer) : Paused env (sv.serviceRead env answers sends) := by
  unfold XrServer.serviceRead
  split
  · exact h
  · rename_i c hconn
    exact (h.recvLoop answers hconn).flush sends

theorem serviceSocket (h : Paused env sv) (it : Iteration) :
    Paused env (sv.serviceSocket env it) := by
  unfold XrServer.serviceSocket
  cases it.readable with
  | none =>
      cases it.writable with
      | none => exact h
      | some sends => exact h.flush sends
  | some read =>
      cases it.writable with
      | none => exact h.serviceRead read.1 read.2
      | some sends => exact (h.serviceRead read.1 read.2).flush sends

theorem newcomers (h : Paused env sv) (entropies : List (Option Nonce)) :
    Paused env (entropies.foldl (fun sv entropy => sv.accept env entropy) sv) := by
  induction entropies generalizing sv with
  | nil => exact h
  | cons entropy entropies ih => exact ih (h.accept entropy)

end Paused

/-- An iteration of the event loop continues a run of operations. -/
theorem pollOnce_eq_run (h : Reached env sv) (it : Iteration) : Reached env (sv.pollOnce env it) := by
  unfold pollOnce
  split
  · exact h.wait it.elapsed it.readTransport
  · have hnew := (Paused.wait h it.elapsed it.readTransport).newcomers it.newcomers
    have haccepted := Paused.wait hnew.reached it.backoff it.readTransport
    simp only
    generalize (it.newcomers.foldl (fun sv entropy => sv.accept env entropy)
      (sv.wait it.elapsed it.readTransport)).wait it.backoff it.readTransport = next at haccepted
    have hsocket : Paused env (if sv.conn.isSome then next.serviceSocket env it else next) := by
      split
      · exact haccepted.serviceSocket it
      · exact haccepted
    have hlast := (((Paused.wait hsocket.reached 0 it.pollTransport).poll).tick).flush it.finalWrite
    exact hlast.reached.act hlast.rested .dropConnectionIfFinished

/-- A run of the loop goes on iteration by iteration. -/
theorem serve_append (its : List Iteration) (it : Iteration) :
    serve env (its ++ [it]) = (serve env its).pollOnce env it := by
  rw [serve, List.foldl_append]
  rfl

/-- Between iterations the server is in a state that a run of operations reaches. -/
theorem serve_eq_run (its : List Iteration) : Reached env (serve env its) := by
  induction its using List.reverseRecOn with
  | nil => exact ⟨[], rfl⟩
  | append_singleton its it ih =>
      rw [serve_append]
      exact pollOnce_eq_run ih it

theorem dropConnectionIfFinished_not_finished (sv : XrServer) {c : XrConnection}
    (h : sv.dropConnectionIfFinished.conn = some c) : c.finished = false := by
  unfold dropConnectionIfFinished at h
  split at h <;> rename_i hany
  · unfold teardown at h
    split at h
    · rename_i hconn
      simp [hconn] at hany
    · cases h
  · rw [h] at hany
    simpa using hany

/-- No finished connection is left between iterations. -/
theorem serve_not_finished (its : List Iteration) {c : XrConnection}
    (h : (serve env its).conn = some c) : c.finished = false := by
  induction its using List.reverseRecOn with
  | nil => cases h
  | append_singleton its it ih =>
      rw [serve_append, pollOnce] at h
      split at h
      · exact ih h
      · exact dropConnectionIfFinished_not_finished _ h

end XrServer

end LorahamBridge
