import LorahamBridge.Loraham.ConfStream
import LorahamBridge.Loraham.Daemon

/-!
# Everything known about a backend

The facts about the packets, the frames and the CONF exchange of a connection in
one place, each kept by every step of the backend.

Main results:

- Theorem `Micro.sound`: every step keeps all of them.
-/

namespace LorahamBridge

open Foundation Loraham

namespace LorahamBackend

/-- What holds of a backend in every state it can reach. -/
structure Sound (x : Snapshot) : Prop where
  streams : Streams x.1.custody (link x.1.trace)
  earlier : EarlierStreams x.1.trace
  accounted : Accounted x.1.custody x.1.trace
  parsed : Parsed x
  dispatches : Dispatches (link x.1.trace)
  confed : x.1.Confed
  tally : ∀ answered, Obedient answered x.1.trace →
    Tally (answered (earlierLinks x.1.trace).length) x.1.custody (link x.1.trace)

/-- A backend before its first connection. -/
theorem sound_of_new {b : LorahamBackend} (hstate : b.state = .disconnected)
    (htrace : b.trace = []) : Sound (b, none) := by
  have hcustody : b.custody = .closed := by simp [custody, hstate]
  constructor
  · rw [hcustody, htrace]
    exact ⟨by simp [Link.Sized, link, Link.none], Or.inl rfl⟩
  · intro l hl
    simp [htrace, earlierLinks, linkHistory] at hl
  · rw [hcustody, htrace]
    exact accounted_nil
  · exact parsed_of_closed (Or.inl hstate)
  · simp [htrace, Dispatches, link, Link.none]
  · exact confed_of_closed (Or.inl hstate)
  · intro answered _
    rw [hcustody, htrace]
    exact ⟨Nat.zero_le _, by simp [link, Link.none, outcomes]⟩

/-- Every step keeps everything known about the backend. -/
theorem Micro.sound {x y : Snapshot} (h : Micro x y) (hx : Sound x) : Sound y := by
  obtain ⟨events, htrace, hstep⟩ := h.moves
  have hdispatches := h.dispatches hx.parsed hx.dispatches
  constructor
  · rw [htrace]
    exact hstep.streams hx.streams
  · rw [htrace]
    exact hstep.earlierStreams hx.streams hx.earlier
  · rw [htrace]
    exact hstep.accounted hx.streams hx.accounted
  · exact h.parsed hx.parsed
  · exact hdispatches
  · exact h.confed hx.confed
  · intro answered hobedient
    rw [htrace] at hdispatches hobedient ⊢
    exact hstep.tally hx.streams hdispatches hobedient
      (hx.tally answered (hobedient.mono (List.prefix_append _ _)))

end LorahamBackend

end LorahamBridge
