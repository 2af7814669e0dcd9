import LorahamBridge.Loraham.BackendSound
import LorahamBridge.Xr.ServerSteps

/-!
# The daemon's ownership of a packet is never lost

A packet frame becomes the daemon's with its last byte.  From then on the backend
must wait for a terminal frame of the same connection, whoever closes the session,
whichever deadline expires and however the link fails: a backend that forgets the
packet would let the next client transmit on top of it.

Main results:

- Theorem `tx_ownership_never_lost`: the account in every reachable state, and that
  a faulted backend stays silent for good.
-/

namespace LorahamBridge

open Foundation Extradio Loraham LorahamBackend

/-- The states in which a frame may be unanswered. -/
theorem state_of_owned {b : LorahamBackend} (h : b.custody = .owned ∨ b.custody = .faulted) :
    b.state = .txPending ∨ b.state = .draining ∨ b.state = .faulted := by
  unfold custody at h
  split at h <;> simp_all

/-- A faulted backend stays faulted, and nothing crosses its transport any more. -/
theorem LorahamBackend.Micro.faulted {x y : Snapshot} (h : Micro x y)
    (hx : x.1.state = .faulted) : y.1.state = .faulted ∧ y.1.trace = x.1.trace := by
  cases h with
  | environment | attach => exact ⟨hx, rfl⟩
  | openLink b _ _ _ hstate | connectRefused b _ hstate =>
      rcases hstate with hs | hs <;> simp [hs] at hx
  | holdTx b _ hstate | abandon b hstate => simp [hstate] at hx
  | reset b hstate => exact absurd hx hstate.2.2
  | poll h =>
      cases h with
      | quiet h =>
          cases h with
          | answers | discard => exact ⟨hx, rfl⟩
          | connected b hstate | confWrite b _ hstate | confWritten b hstate
          | configQuiet b _ _ hstate | dataWrite b _ hstate | dataWriteLast b _ hstate
          | dataHeard b _ _ _ _ hstate | dataFenced b _ _ _ _ hstate
          | dataCleared b _ _ _ _ hstate | drainLost b _ hstate | drainExpired b hstate
          | confDiscard b _ hstate => simp [hstate] at hx
          | confQuiet b _ _ hstate | dataRead b _ hstate | dataPush b _ _ hstate
          | dataDrained b hstate | dataIgnored b _ _ _ hstate =>
              change b.state = _ at hx
              simp [hx, onLink, rxOk] at hstate
      | call h =>
          cases h with
          | configSucceed b _ _ hstate | completed b _ _ _ _ hstate => simp [hstate] at hx
          | configFail b _ _ hstate => rcases hstate with hs | hs <;> simp [hs] at hx
          | lost b _ _ _ hstate | received b _ _ _ _ hstate =>
              change b.state = _ at hx
              simp [hx, rxOk] at hstate

/-- Ownership of a packet is never lost.  While a complete frame is unanswered the
backend is in `TxPending`, `Draining` or `Faulted` and writes nothing more; in
`TxPending` and `Draining` there is exactly one such frame; and a faulted backend
stays faulted, refuses every request and touches its transport no more. -/
theorem tx_ownership_never_lost (env : BridgeEnv) (ops : List XrServer.Op) :
    let b := (XrServer.run env ops).backend
    (∀ pre w post, Unresolved b.trace pre w post →
      (b.state = .txPending ∨ b.state = .draining ∨ b.state = .faulted) ∧
      CompletesOne pre w ∧ ∀ e ∈ post, e.isDataSent = false) ∧
    (b.state = .txPending ∨ b.state = .draining →
      ∃! p : List Event × Bytes × List Event, Unresolved b.trace p.1 p.2.1 p.2.2) ∧
    (b.state = .faulted → ∀ more,
      let b' := (XrServer.run env (ops ++ more)).backend
      b'.state = .faulted ∧ b'.trace = b.trace ∧
      (∀ requested, b'.beginConfigure requested = (0, b')) ∧
      ∀ data, b'.submitTx data = (false, b')) := by
  have haccount := (run_sound env ops).accounted
  refine ⟨?_, ?_, ?_⟩
  · intro pre w post hu
    refine ⟨?_, haccount.whole pre w post hu.split hu.completes,
      fun e he => (haccount.last pre w post hu e he).1⟩
    apply state_of_owned
    by_contra hnot
    rw [not_or] at hnot
    exact haccount.settled hnot.1 hnot.2 pre w post hu
  · intro hstate
    have howned : (XrServer.run env ops).backend.custody = .owned := by
      unfold custody
      rcases hstate with hs | hs <;> rw [hs]
    obtain ⟨pre, w, post, hu⟩ := haccount.one howned
    refine ⟨(pre, w, post), hu, ?_⟩
    rintro ⟨pre', w', post'⟩ hu'
    obtain ⟨rfl, rfl, rfl⟩ := haccount.unique hu hu'
    rfl
  · intro hfaulted more
    have hkeep := run_backend_more env
      (I := fun x => x.1.state = .faulted ∧
        x.1.trace = (XrServer.run env ops).backend.trace)
      (fun x y h hx => ⟨(h.faulted hx.1).1, (h.faulted hx.1).2.trans hx.2⟩)
      ops more ⟨hfaulted, rfl⟩
    have hstate : (XrServer.run env (ops ++ more)).backend.state = .faulted := hkeep.1
    refine ⟨hstate, hkeep.2, ?_, ?_⟩
    · intro requested
      simp [beginConfigure, hstate]
    · intro data
      simp [submitTx, hstate]

end LorahamBridge
