import LorahamBridge.Loraham.BackendSteps

/-!
# Runs of the backend by itself

The backend behind its interface: the methods of `RadioBackend` in any order, at
any times, whatever the transport answers.  The server keeps to an order of its own
and is one of the callers described here.

Main results:

- Theorem `runCalls_rule`: what every backend step keeps holds after every run.
-/

namespace LorahamBridge
namespace LorahamBackend

open Foundation Extradio Loraham

/-- The methods of `RadioBackend`. -/
inductive Method where
  | setSink (sink : Option Nat)
  | start
  | beginConfigure (requested : RadioConfig)
  | submitTx (data : Bytes)
  | abandonPendingTx
  | poll
  | stop
deriving DecidableEq

/-- A method call: the clock, the answers the transport will give, the method. -/
structure Call where
  now : Nat
  transport : DaemonTransport := {}
  method : Method
deriving DecidableEq

/-- A call of one of the backend's methods. -/
def perform (m : Method) (b : LorahamBackend) : LorahamBackend :=
  match m with
  | .setSink sink => b.setSink sink
  | .start => b.start
  | .beginConfigure requested => (b.beginConfigure requested).2
  | .submitTx data => (b.submitTx data).2
  | .abandonPendingTx => b.abandonPendingTx
  | .poll => b.poll
  | .stop => b.stop

/-- The clock and the transport as a call finds them. -/
def enter (now : Nat) (transport : DaemonTransport) (b : LorahamBackend) : LorahamBackend :=
  { b with transport := transport, now := now, calls := [] }

/-- A call at its time, with the answers the transport will give. -/
def call (b : LorahamBackend) (c : Call) : LorahamBackend :=
  (b.enter c.now c.transport).perform c.method

/-- A backend as it is constructed. -/
def new (configTimeoutMs drainTimeoutMs : Nat) : LorahamBackend :=
  { configTimeoutMs := configTimeoutMs, drainTimeoutMs := drainTimeoutMs }

/-- The backend after some method calls. -/
def runCalls (configTimeoutMs drainTimeoutMs : Nat) (calls : List Call) : LorahamBackend :=
  calls.foldl call (new configTimeoutMs drainTimeoutMs)

theorem runCalls_append_singleton (configTimeoutMs drainTimeoutMs : Nat) (calls : List Call)
    (c : Call) :
    runCalls configTimeoutMs drainTimeoutMs (calls ++ [c]) =
      (runCalls configTimeoutMs drainTimeoutMs calls).call c := by
  simp [runCalls]

/-- `stop` outside recovery. -/
theorem stop_of_link {b : LorahamBackend} (h : ¬(b.state = .draining ∨ b.state = .faulted)) :
    b.stop = { b.resetLinkUnconfigured with started := false } := by
  rw [stop, if_neg h]

variable {P : Snapshot → Prop}

/-- A method call keeps what every step keeps; `stop` may also drop a link whose
packet the daemon still owns. -/
theorem perform_rule (hmicro : ∀ x y, Micro x y → P x → P y)
    (hstop : ∀ b : LorahamBackend, b.state = .txPending → P (b, none) →
      P (b.resetLinkUnconfigured, none))
    (m : Method) {b : LorahamBackend} (hheld : b.TxHeld) (h : P (b, none)) :
    P (b.perform m, none) := by
  cases m with
  | setSink sink => exact hmicro _ _ (.attach b sink b.started) h
  | start => exact hmicro _ _ (.attach b b.sink true) h
  | beginConfigure requested => exact (beginConfigure_micro requested b).keep hmicro h
  | submitTx data => exact (submitTx_micro data b).keep hmicro h
  | abandonPendingTx => exact (abandonPendingTx_micro b).keep hmicro h
  | poll => exact (poll_steps b hheld).micros.keep hmicro h
  | stop =>
      by_cases hrecovery : b.state = .draining ∨ b.state = .faulted
      · simp only [perform, stop, if_pos hrecovery]
        exact hmicro _ _ (.attach b b.sink false) h
      · simp only [perform, stop_of_link hrecovery]
        refine hmicro _ _ (.attach b.resetLinkUnconfigured b.sink false) ?_
        by_cases hpending : b.state = .txPending
        · exact hstop b hpending h
        · exact hmicro _ _ (.reset b ⟨hpending, by tauto, by tauto⟩) h

/-- Time and answers do not touch the held frame. -/
theorem enter_txHeld {b : LorahamBackend} (now : Nat) (transport : DaemonTransport)
    (h : b.TxHeld) : (b.enter now transport).TxHeld :=
  h

/-- The unsent rest of a frame is kept in every state that writes. -/
theorem runCalls_txHeld (configTimeoutMs drainTimeoutMs : Nat) (calls : List Call) :
    (runCalls configTimeoutMs drainTimeoutMs calls).TxHeld := by
  induction calls using List.reverseRecOn with
  | nil => exact fun hstate => by cases hstate
  | append_singleton calls c ih =>
      rw [runCalls_append_singleton]
      exact perform_rule (P := fun x => x.1.TxHeld) (fun _ _ h hx => h.txHeld hx)
        (fun _ _ _ hstate => by cases hstate) c.method (enter_txHeld _ _ ih) ih

/-- What a new backend has and every step keeps holds after every run. -/
theorem runCalls_rule (configTimeoutMs drainTimeoutMs : Nat)
    (hnew : P (new configTimeoutMs drainTimeoutMs, none))
    (hmicro : ∀ x y, Micro x y → P x → P y)
    (hstop : ∀ b : LorahamBackend, b.state = .txPending → P (b, none) →
      P (b.resetLinkUnconfigured, none)) (calls : List Call) :
    P (runCalls configTimeoutMs drainTimeoutMs calls, none) := by
  induction calls using List.reverseRecOn with
  | nil => exact hnew
  | append_singleton calls c ih =>
      rw [runCalls_append_singleton]
      exact perform_rule hmicro hstop c.method
        (enter_txHeld _ _ (runCalls_txHeld configTimeoutMs drainTimeoutMs calls))
        (hmicro _ _ (.environment _ c.transport c.now []) ih)

end LorahamBackend
end LorahamBridge
