import LorahamBridge.Loraham.BackendSound
import LorahamBridge.Xr.Server

/-!
# Invariants of the running bridge

A property of the whole bridge is an invariant over its runs.  It is established
from single steps: the steps of the backend and of the session, each listed once
in their own modules.  This file turns invariance under those steps into validity
in every state a run can reach.

Main results:

- Theorem `run_backend`: what every backend step keeps, every run keeps.
- Theorem `Invariant.run`: the same for a joint property of the active session and
  the backend.
-/

namespace LorahamBridge

open Foundation Extradio LorahamBackend Relation

/-! ## The backend under the operations of the server -/

namespace XrServer

variable {env : BridgeEnv}

/-- What holds initially and after every operation holds in every reachable state. -/
theorem run_induction {P : XrServer → Prop} (hinitial : P (initial env))
    (hstep : ∀ sv op, P sv → P (step env sv op)) (ops : List Op) : P (run env ops) := by
  unfold run
  generalize initial env = sv at hinitial
  induction ops generalizing sv with
  | nil => exact hinitial
  | cons op ops ih => exact ih (step env sv op) (hstep sv op hinitial)

end XrServer

/-- Handling a frame acts on the backend by backend steps. -/
theorem XrSession.FrameOutcome.micros {env : XrEnv} {now : Nat} {f : Frame} {s s' : XrSession}
    {b b' : LorahamBackend}
    (h : XrSession.FrameOutcome lorahamRadio env now f s b (s', b')) :
    Micros (b, none) (b', none) := by
  cases h with
  | configRefused _ _ _ requested _ _ _ hbackend | configStarted requested _ _ _ _ _ hbackend =>
      have hmicro := beginConfigure_micro requested b
      change b.beginConfigure requested = _ at hbackend
      rwa [hbackend] at hmicro
  | submitRefused _ _ _ _ _ hbackend | submitted _ _ _ _ _ hbackend =>
      have hmicro := submitTx_micro f.payload b
      change b.submitTx f.payload = _ at hbackend
      rwa [hbackend] at hmicro
  | _ => exact .refl

/-- A tick acts on the backend by backend steps. -/
theorem XrSession.TickOutcome.micros {env : XrEnv} {now : Nat} {s s' : XrSession}
    {b b' : LorahamBackend} (h : XrSession.TickOutcome lorahamRadio env now s b (s', b')) :
    Micros (b, none) (b', none) := by
  cases h with
  | abandoned => exact abandonPendingTx_micro b
  | _ => exact .refl

theorem beginConfigure_now (requested : RadioConfig) (b : LorahamBackend) :
    (b.beginConfigure requested).2.now = b.now := by
  have h := beginConfigure_cases requested b
  generalize b.beginConfigure requested = r at h
  cases h <;> rfl

theorem submitTx_now (data : Bytes) (b : LorahamBackend) :
    (b.submitTx data).2.now = b.now := by
  have h := submitTx_cases data b
  generalize b.submitTx data = r at h
  cases h <;> rfl

/-- Handling a frame takes no time. -/
theorem handleFrame_now {env : XrEnv} {now : Nat} (f : Frame) {s : XrSession}
    (b : LorahamBackend) (hopen : s.phase ≠ .closed) :
    (s.handleFrame lorahamRadio env now f b).2.now = b.now := by
  have h := XrSession.handleFrame_cases lorahamRadio env now f b hopen
  generalize s.handleFrame lorahamRadio env now f b = r at h
  cases h with
  | configRefused _ _ _ requested b' _ _ hbackend | configStarted requested _ b' _ _ _ hbackend =>
      have hnow := beginConfigure_now requested b
      change b.beginConfigure requested = _ at hbackend
      rwa [hbackend] at hnow
  | submitRefused b' _ _ _ _ hbackend | submitted b' _ _ _ _ hbackend =>
      have hnow := submitTx_now f.payload b
      change b.submitTx f.payload = _ at hbackend
      rwa [hbackend] at hnow
  | _ => rfl

/-- What a session asks of the backend while it is fed, as steps. -/
theorem feed_micros (env : XrEnv) (now : Nat) (data : Bytes) (s : XrSession)
    (b : LorahamBackend) :
    Micros (b, none) ((s.feed lorahamRadio env now data b).2, none) :=
  XrSession.feed_rule (fun _ b' => Micros (b, none) (b', none))
    (fun _ _ _ h => h)
    (fun f _ b' h hopen =>
      h.trans (XrSession.handleFrame_cases lorahamRadio env now f b' hopen).micros)
    (fun _ _ h _ => h) data s b .refl

namespace XrServer

variable (env : BridgeEnv)

/-- The end of a connection, as steps of the backend. -/
theorem teardown_micros (sv : XrServer) :
    Micros (sv.backend, none) (sv.teardown.backend, none) := by
  unfold teardown
  split
  · exact .refl
  · exact teardown_micro sv.backend

/-- Every operation acts on the backend by backend steps. -/
theorem act_micros (action : Action) (sv : XrServer) (hheld : sv.backend.TxHeld) :
    Micros (sv.backend, none) ((sv.act env action).backend, none) := by
  cases action with
  | accept entropy =>
      simp only [act, accept]
      split
      · exact .refl
      · exact .single (.attach sv.backend (some sv.past.length) true)
  | feed data =>
      simp only [act, feed]
      split
      · exact .refl
      · exact feed_micros _ _ _ _ _
  | socketFailed | flush => exact .refl
  | poll =>
      have hpoll := (poll_steps sv.backend hheld).micros
      exact hpoll.tail (.environment _ _ _ [])
  | tick =>
      simp only [act, tick]
      split
      · exact .refl
      · exact (XrSession.tick_cases lorahamRadio _ _ _ _).micros
  | dropConnectionIfFinished =>
      simp only [act, dropConnectionIfFinished]
      split
      · exact teardown_micros sv
      · exact .refl
  | teardown => exact teardown_micros sv

/-- Every step of the server, as steps of the backend. -/
theorem step_micros (sv : XrServer) (op : Op) (hheld : sv.backend.TxHeld) :
    Micros (sv.backend, none) ((step env sv op).backend, none) :=
  .head (.environment sv.backend op.transport (min (sv.backend.now + op.elapsed) uint64Max) _)
    (act_micros env op.action (sv.wait op.elapsed op.transport) hheld)

end XrServer

/-- A run that goes on. -/
theorem XrServer.run_append (env : BridgeEnv) (ops more : List XrServer.Op) :
    XrServer.run env (ops ++ more) = more.foldl (XrServer.step env) (XrServer.run env ops) :=
  List.foldl_append

/-- In every run the offset is within the held frame. -/
theorem run_txHeld (env : BridgeEnv) (ops : List XrServer.Op) :
    (XrServer.run env ops).backend.TxHeld := by
  refine XrServer.run_induction (P := fun sv => sv.backend.TxHeld)
    (fun hstate => by cases hstate) ?_ ops
  intro sv op hheld
  exact (XrServer.step_micros env sv op hheld).keep (I := fun x => x.1.TxHeld)
    (fun _ _ h hx => h.txHeld hx) hheld

/-- What every backend step keeps holds after any further operations. -/
theorem run_backend_more (env : BridgeEnv) {I : Snapshot → Prop}
    (hstep : ∀ x y, Micro x y → I x → I y) (ops more : List XrServer.Op)
    (h : I ((XrServer.run env ops).backend, none)) :
    I ((XrServer.run env (ops ++ more)).backend, none) := by
  induction more using List.reverseRecOn with
  | nil => simpa using h
  | append_singleton more op ih =>
      rw [← List.append_assoc, XrServer.run_append]
      exact (XrServer.step_micros env _ op (run_txHeld env _)).keep hstep ih

/-- What the initial backend has and every backend step keeps holds in every
reachable state. -/
theorem run_backend (env : BridgeEnv) {I : Snapshot → Prop}
    (hinitial : I ((XrServer.initial env).backend, none))
    (hstep : ∀ x y, Micro x y → I x → I y) (ops : List XrServer.Op) :
    I ((XrServer.run env ops).backend, none) :=
  run_backend_more env hstep [] ops hinitial

/-- Every reachable backend is sound. -/
theorem run_sound (env : BridgeEnv) (ops : List XrServer.Op) :
    Sound ((XrServer.run env ops).backend, none) :=
  run_backend env (sound_of_new rfl rfl) (fun _ _ h hx => h.sound hx) ops

/-! ## Joint invariants of a session and the backend -/

/-- The newly opened session of the next client. -/
def freshSession (env : XrEnv) (now id : Nat) (entropy : Option Nonce) : XrSession :=
  ((XrSession.new env id entropy).openSession lorahamRadio env now {}).1

/-- A property of the bridge that every step keeps.  `idle` speaks about the
sessions of the past and the backend while no client is connected, `active` also
about the session of the present client. -/
structure Invariant (env : BridgeEnv) where
  idle : List XrSession → LorahamBackend → Option Bytes → Prop
  active : List XrSession → XrSession → LorahamBackend → Option Bytes → Prop
  initial : idle [] (XrServer.initial env).backend none
  idle_sink : ∀ {past b unread}, idle past b unread → b.sink = none
  active_sink : ∀ {past s b unread}, active past s b unread → b.sink = some s.id
  active_flight : ∀ {past s b unread}, active past s b unread →
    s.txInFlight = true → s.phase = .ready
  idle_environment : ∀ {past b} transport now, idle past b none →
    idle past { b with transport := transport, now := now, calls := [] } none
  active_environment : ∀ {past s b} transport now, active past s b none →
    active past s { b with transport := transport, now := now, calls := [] } none
  idle_poll : ∀ {past b unread b' unread'}, idle past b unread →
    PollStep (b, unread) (b', unread') → idle past b' unread'
  quiet_poll : ∀ {past s b unread b' unread'}, active past s b unread →
    QuietStep (b, unread) (b', unread') → active past s b' unread'
  call_poll : ∀ {past s b unread b' unread' call s'}, active past s b unread →
    CallStep call (b, unread) (b', unread') →
    XrSession.CallOutcome env.toXrEnv b.now s call s' → active past s' b' unread'
  accept : ∀ {past b} entropy, idle past b none →
    active past (freshSession env.toXrEnv b.now past.length entropy)
      { b with sink := some past.length, started := true } none
  parser : ∀ {past s b} buf, active past s b none → active past (s.withParser buf) b none
  parserError : ∀ {past s b}, active past s b none → s.phase ≠ .closed →
    active past (s.shut .parserError) b none
  frame : ∀ {past s b f s' b'}, active past s b none → s.phase ≠ .closed →
    XrSession.FrameOutcome lorahamRadio env.toXrEnv b.now f s b (s', b') →
    active past s' b' none
  tick : ∀ {past s b s' b'}, active past s b none →
    XrSession.TickOutcome lorahamRadio env.toXrEnv b.now s b (s', b') → active past s' b' none
  consume : ∀ {past s b} n, active past s b none → active past (s.sendSome n) b none
  teardown : ∀ {past s b}, active past s b none →
    idle (past ++ [s]) (b.abandonPendingTx.setSink none).stop none

/-- A quiet step calls nobody and takes no time. -/
theorem LorahamBackend.QuietStep.calls {x y : Snapshot} (h : QuietStep x y) :
    y.1.calls = x.1.calls ∧ y.1.now = x.1.now := by
  cases h <;> exact ⟨rfl, rfl⟩

/-- With the sink attached, a notification shows in the pending callbacks. -/
theorem LorahamBackend.notify_calls {b : LorahamBackend} {id : Nat} (h : b.sink = some id)
    (call : SinkCall) : (b.notify call).calls = b.calls ++ [(id, call)] := by
  simp [notify, h]

theorem LorahamBackend.ConfTaken.frame {b c : LorahamBackend} (h : ConfTaken b c) :
    c.calls = b.calls ∧ c.now = b.now ∧ c.sink = b.sink ∧ c.state = b.state ∧
      c.configToken = b.configToken := by
  rcases h with rfl | ⟨chunk, line, rfl⟩ <;> exact ⟨rfl, rfl, rfl, rfl, rfl⟩

/-- A call step makes its callback to the attached sink. -/
theorem LorahamBackend.CallStep.calls {call : SinkCall} {x y : Snapshot} {id : Nat}
    (h : CallStep call x y) (hsink : x.1.sink = some id) :
    y.1.calls = x.1.calls ++ [(id, call)] ∧ y.1.now = x.1.now := by
  cases h with
  | configSucceed | received | completed => exact ⟨notify_calls hsink _, rfl⟩
  | configFail b c hc =>
      obtain ⟨hcalls, hnow, hsinkc, -, htoken⟩ := hc.frame
      refine ⟨?_, hnow⟩
      rw [← hcalls, ← htoken]
      exact notify_calls (hsinkc.trans hsink) _
  | lost b c unread hc hstate =>
      obtain ⟨hcalls, hnow, hsinkc, hs, -⟩ := hc.frame
      have hsinkc := hsinkc.trans hsink
      rcases handleDisconnect_cases c with ⟨hdrain, -⟩ | ⟨-, heq⟩ | ⟨-, -, heq⟩
      · rw [hs] at hdrain
        simp [hdrain, rxOk] at hstate
      all_goals
        rw [heq, ← hcalls]
        exact ⟨notify_calls hsinkc _, hnow⟩

theorem XrSession.runCalls_append_singleton {env : XrEnv} {now id : Nat}
    {calls : List (Nat × SinkCall)} {call : SinkCall} {s : XrSession}
    (hid : id = (s.runCalls env now calls).id) :
    s.runCalls env now (calls ++ [(id, call)]) = (s.runCalls env now calls).onCall env now call := by
  rw [runCalls, List.foldl_append]
  exact if_pos hid

namespace Invariant

variable {env : BridgeEnv} (I : Invariant env)

/-- The invariant in a state of the server. -/
def holds (sv : XrServer) : Prop :=
  match sv.conn with
  | none => I.idle sv.past sv.backend none
  | some c => I.active sv.past c.session sv.backend none

/-- The polls of a server without a client keep the invariant. -/
theorem idle_polls {past : List XrSession} {x y : Snapshot} (hsteps : Polls x y)
    (h : I.idle past x.1 x.2) : I.idle past y.1 y.2 := by
  induction hsteps with
  | refl => exact h
  | tail _ hstep ih => exact I.idle_poll ih hstep

/-- Along a poll the session runs each callback as it is made. -/
theorem active_polls {past : List XrSession} {s : XrSession} {x y : Snapshot}
    (hsteps : Polls x y) (h : I.active past s x.1 x.2) :
    ∃ calls, y.1.calls = x.1.calls ++ calls ∧ y.1.now = x.1.now ∧
      I.active past (s.runCalls env.toXrEnv x.1.now calls) y.1 y.2 := by
  induction hsteps with
  | refl => exact ⟨[], by simp, rfl, h⟩
  | @tail y z _ hstep ih =>
      obtain ⟨calls, hcalls, hnow, hactive⟩ := ih
      cases hstep with
      | quiet h =>
          obtain ⟨hcalls', hnow'⟩ := h.calls
          exact ⟨calls, hcalls'.trans hcalls, hnow'.trans hnow, I.quiet_poll hactive h⟩
      | @call call _ _ h =>
          have hsink := I.active_sink hactive
          obtain ⟨hcalls', hnow'⟩ := h.calls hsink
          refine ⟨calls ++ [(_, call)], by rw [hcalls', hcalls, List.append_assoc],
            hnow'.trans hnow, ?_⟩
          have houtcome := XrSession.onCall_cases env.toXrEnv y.1.now call
            (I.active_flight hactive)
          have hnext := I.call_poll hactive h houtcome
          rw [hnow] at hnext
          rwa [XrSession.runCalls_append_singleton rfl]

/-- A poll with its callbacks keeps the invariant. -/
theorem holds_poll {sv : XrServer} (hcalls : sv.backend.calls = [])
    (hheld : sv.backend.TxHeld) (h : I.holds sv) : I.holds (sv.poll env) := by
  have hsteps := poll_steps sv.backend hheld
  unfold holds at h ⊢
  unfold XrServer.poll
  cases hconn : sv.conn with
  | none =>
      rw [hconn] at h
      exact I.idle_environment _ _ (I.idle_polls hsteps h)
  | some c =>
      rw [hconn] at h
      obtain ⟨calls, heq, -, hactive⟩ := I.active_polls hsteps h
      rw [hcalls, List.nil_append] at heq
      obtain rfl : sv.backend.poll.calls = calls := heq
      exact I.active_environment _ _ hactive

theorem holds_flush {past : List XrSession} {c : XrConnection} {b : LorahamBackend}
    (answers : List SendAnswer) (h : I.active past c.session b none) :
    I.active past (c.flush answers).session b none :=
  XrConnection.flush_rule (P := fun s => I.active past s b none) (fun _ n hs => I.consume n hs)
    answers h

/-- The end of a connection keeps the invariant. -/
theorem holds_teardown {sv : XrServer} (h : I.holds sv) : I.holds sv.teardown := by
  unfold holds at h
  unfold XrServer.teardown
  cases hconn : sv.conn with
  | none => simpa [holds, hconn] using h
  | some c =>
      rw [hconn] at h
      exact I.teardown h

/-- Feeding bytes keeps the invariant. -/
theorem active_feed {past : List XrSession} {s : XrSession} {b : LorahamBackend}
    (data : Bytes) (h : I.active past s b none) :
    I.active past (s.feed lorahamRadio env.toXrEnv b.now data b).1
      (s.feed lorahamRadio env.toXrEnv b.now data b).2 none := by
  have hfeed := XrSession.feed_rule (R := lorahamRadio)
    (fun s' b' => I.active past s' b' none ∧ b'.now = b.now)
    (fun _ _ buf h => ⟨I.parser buf h.1, h.2⟩)
    (by
      rintro f s' b' ⟨hactive, hnow⟩ hopen
      have hcases := XrSession.handleFrame_cases lorahamRadio env.toXrEnv b.now f b' hopen
      refine ⟨I.frame hactive hopen (by rw [hnow]; exact hcases), ?_⟩
      rw [handleFrame_now f b' hopen, hnow])
    (fun _ _ h hopen => ⟨I.parserError h.1 hopen, h.2⟩) data s b ⟨h, rfl⟩
  exact hfeed.1

/-- Every action keeps the invariant. -/
theorem holds_act (action : XrServer.Action) {sv : XrServer} (hcalls : sv.backend.calls = [])
    (hheld : sv.backend.TxHeld) (h : I.holds sv) : I.holds (sv.act env action) := by
  cases action with
  | accept entropy =>
      unfold holds at h
      simp only [XrServer.act, XrServer.accept]
      cases hconn : sv.conn with
      | none =>
          rw [hconn] at h
          exact I.accept entropy h
      | some c => simpa [holds, hconn] using h
  | feed data =>
      unfold holds at h
      simp only [XrServer.act, XrServer.feed]
      cases hconn : sv.conn with
      | none => simpa [holds, hconn] using h
      | some c =>
          rw [hconn] at h
          exact I.active_feed data h
  | socketFailed =>
      simp only [XrServer.act, XrServer.socketFailed]
      unfold holds at h ⊢
      cases hconn : sv.conn with
      | none => simpa [hconn] using h
      | some c => simpa [hconn] using h
  | poll => exact I.holds_poll hcalls hheld h
  | tick =>
      unfold holds at h
      simp only [XrServer.act, XrServer.tick]
      cases hconn : sv.conn with
      | none => simpa [holds, hconn] using h
      | some c =>
          rw [hconn] at h
          exact I.tick h (XrSession.tick_cases lorahamRadio env.toXrEnv _ _ _)
  | flush answers =>
      simp only [XrServer.act, XrServer.flush]
      unfold holds at h ⊢
      cases hconn : sv.conn with
      | none => simpa [hconn] using h
      | some c =>
          rw [hconn] at h
          exact I.holds_flush answers h
  | dropConnectionIfFinished =>
      simp only [XrServer.act, XrServer.dropConnectionIfFinished]
      split
      · exact I.holds_teardown h
      · exact h
  | teardown => exact I.holds_teardown h

/-- An invariant holds in every state a run reaches. -/
theorem run (ops : List XrServer.Op) : I.holds (XrServer.run env ops) := by
  induction ops using List.reverseRecOn with
  | nil => exact I.initial
  | append_singleton ops op ih =>
      have hheld := run_txHeld env ops
      rw [XrServer.run_append]
      generalize XrServer.run env ops = sv at hheld ih
      refine I.holds_act op.action rfl hheld ?_
      unfold holds at ih ⊢
      unfold XrServer.wait
      cases hconn : sv.conn with
      | none =>
          rw [hconn] at ih
          exact I.idle_environment _ _ ih
      | some c =>
          rw [hconn] at ih
          exact I.active_environment _ _ ih

end Invariant

/-! ## Building on an invariant -/

/-- A further property whose steps may rely on an invariant already proved. -/
structure Extension {env : BridgeEnv} (C : Invariant env) where
  idle : List XrSession → LorahamBackend → Option Bytes → Prop
  active : List XrSession → XrSession → LorahamBackend → Option Bytes → Prop
  initial : idle [] (XrServer.initial env).backend none
  idle_environment : ∀ {past b} transport now, idle past b none →
    idle past { b with transport := transport, now := now, calls := [] } none
  active_environment : ∀ {past s b} transport now, active past s b none →
    active past s { b with transport := transport, now := now, calls := [] } none
  idle_poll : ∀ {past b unread b' unread'}, C.idle past b unread → idle past b unread →
    PollStep (b, unread) (b', unread') → idle past b' unread'
  quiet_poll : ∀ {past s b unread b' unread'}, C.active past s b unread →
    active past s b unread → QuietStep (b, unread) (b', unread') → active past s b' unread'
  call_poll : ∀ {past s b unread b' unread' call s'}, C.active past s b unread →
    active past s b unread → CallStep call (b, unread) (b', unread') →
    XrSession.CallOutcome env.toXrEnv b.now s call s' → active past s' b' unread'
  accept : ∀ {past b} entropy, C.idle past b none → idle past b none →
    active past (freshSession env.toXrEnv b.now past.length entropy)
      { b with sink := some past.length, started := true } none
  parser : ∀ {past s b} buf, active past s b none → active past (s.withParser buf) b none
  parserError : ∀ {past s b}, C.active past s b none → active past s b none →
    s.phase ≠ .closed → active past (s.shut .parserError) b none
  frame : ∀ {past s b f s' b'}, C.active past s b none → active past s b none →
    s.phase ≠ .closed →
    XrSession.FrameOutcome lorahamRadio env.toXrEnv b.now f s b (s', b') →
    active past s' b' none
  tick : ∀ {past s b s' b'}, C.active past s b none → active past s b none →
    XrSession.TickOutcome lorahamRadio env.toXrEnv b.now s b (s', b') → active past s' b' none
  consume : ∀ {past s b} n, active past s b none → active past (s.sendSome n) b none
  teardown : ∀ {past s b}, C.active past s b none → active past s b none →
    idle (past ++ [s]) (b.abandonPendingTx.setSink none).stop none

namespace Extension

variable {env : BridgeEnv} {C : Invariant env}

/-- The old and the new property together. -/
def toInvariant (E : Extension C) : Invariant env where
  idle past b unread := C.idle past b unread ∧ E.idle past b unread
  active past s b unread := C.active past s b unread ∧ E.active past s b unread
  initial := ⟨C.initial, E.initial⟩
  idle_sink h := C.idle_sink h.1
  active_sink h := C.active_sink h.1
  active_flight h := C.active_flight h.1
  idle_environment t now h := ⟨C.idle_environment t now h.1, E.idle_environment t now h.2⟩
  active_environment t now h := ⟨C.active_environment t now h.1, E.active_environment t now h.2⟩
  idle_poll h hstep := ⟨C.idle_poll h.1 hstep, E.idle_poll h.1 h.2 hstep⟩
  quiet_poll h hstep := ⟨C.quiet_poll h.1 hstep, E.quiet_poll h.1 h.2 hstep⟩
  call_poll h hstep hout := ⟨C.call_poll h.1 hstep hout, E.call_poll h.1 h.2 hstep hout⟩
  accept entropy h := ⟨C.accept entropy h.1, E.accept entropy h.1 h.2⟩
  parser buf h := ⟨C.parser buf h.1, E.parser buf h.2⟩
  parserError h hopen := ⟨C.parserError h.1 hopen, E.parserError h.1 h.2 hopen⟩
  frame h hopen hout := ⟨C.frame h.1 hopen hout, E.frame h.1 h.2 hopen hout⟩
  tick h hout := ⟨C.tick h.1 hout, E.tick h.1 h.2 hout⟩
  consume n h := ⟨C.consume n h.1, E.consume n h.2⟩
  teardown h := ⟨C.teardown h.1, E.teardown h.1 h.2⟩

/-- Soundness of the backend, next to any invariant. -/
def sound (C : Invariant env) : Extension C where
  idle _ b unread := Sound (b, unread)
  active _ _ b unread := Sound (b, unread)
  initial := sound_of_new rfl rfl
  idle_environment t now h := (Micro.environment _ t now []).sound h
  active_environment t now h := (Micro.environment _ t now []).sound h
  idle_poll _ h hstep := (Micro.poll hstep).sound h
  quiet_poll _ h hstep := (Micro.poll (.quiet hstep)).sound h
  call_poll _ h hstep _ := (Micro.poll (.call hstep)).sound h
  accept _ _ h := (Micro.attach _ _ _).sound h
  parser _ h := h
  parserError _ h _ := h
  frame _ h _ hout := hout.micros.keep (fun _ _ hm hx => hm.sound hx) h
  tick _ h hout := hout.micros.keep (fun _ _ hm hx => hm.sound hx) h
  consume _ h := h
  teardown _ h := (teardown_micro _).keep (fun _ _ hm hx => hm.sound hx) h

end Extension

end LorahamBridge
