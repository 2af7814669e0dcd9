import LorahamBridge.Loraham.TxStream
import LorahamBridge.Loraham.RxStream
import Mathlib.Data.Finset.Card

/-!
# An honest daemon

The bridge has no correlation id: it takes the next terminal frame of a connection
for the answer to the packet it is waiting for.  That is right for a daemon that
sends terminal frames only in answer to packets it has received whole, one for
each at most.  Under this assumption the answers come in the order of the packets,
because the backend writes no packet before the previous one is answered.

Main results:

- Definition `Obedient`: the assumption, as seen at the bridge's end of the socket.
- Theorem `CustodyStep.tally`: the count of packets and answers on a connection.
-/

namespace LorahamBridge

open Foundation Loraham

/-- The outcomes reported by terminal frames, in order. -/
def outcomes (frames : List Loraham.Frame) : List TxOutcome :=
  frames.filterMap LorahamBackend.answer?

/-- They are what the terminal frames say. -/
theorem outcomes_eq_map (frames : List Loraham.Frame) :
    outcomes frames =
      (frames.filter LorahamBackend.isTerminal).map LorahamBackend.outcomeOf := by
  induction frames with
  | nil => rfl
  | cons f frames ih =>
      rw [outcomes, List.filterMap_cons, List.filter_cons, LorahamBackend.answer?]
      split <;> rename_i h <;> split at h <;> simp_all [outcomes]

/-- The terminal frame behind an outcome. -/
theorem terminal_of_outcome {frames : List Loraham.Frame} {n : Nat} {outcome : TxOutcome}
    (h : (outcomes frames)[n]? = some outcome) :
    ∃ g, (frames.filter LorahamBackend.isTerminal)[n]? = some g ∧
      LorahamBackend.outcomeOf g = outcome := by
  rw [outcomes_eq_map, List.getElem?_map] at h
  exact Option.map_eq_some_iff.mp h

/-- The number of terminal frames received on a connection. -/
def Link.answersReceived (l : Link) : Nat :=
  (outcomes (daemonFormat.parse l.received).1).length

/-- Every terminal frame received on a connection answers a packet that was written
whole before, and no two answer the same one: `answered k j` is the packet that
answer `j` of connection `k` is about. -/
structure Obedient (answered : Nat → Nat → Nat) (trace : List Event) : Prop where
  causal : ∀ pre, pre <+: trace → ∀ j < (link pre).answersReceived,
    answered (earlierLinks pre).length j < (txPackets (link pre).sent).length
  single : ∀ pre, pre <+: trace → ∀ i < (link pre).answersReceived,
    ∀ j < (link pre).answersReceived,
    answered (earlierLinks pre).length i = answered (earlierLinks pre).length j → i = j

/-- A daemon that obeys has obeyed before. -/
theorem Obedient.mono {answered : Nat → Nat → Nat} {trace more : List Event}
    (h : Obedient answered more) (hle : trace <+: more) : Obedient answered trace :=
  ⟨fun pre hpre => h.causal pre (hpre.trans hle),
    fun pre hpre => h.single pre (hpre.trans hle)⟩

/-- There are no more answers than packets. -/
theorem Obedient.answersReceived_le {answered : Nat → Nat → Nat} {trace : List Event}
    (h : Obedient answered trace) :
    (link trace).answersReceived ≤ (txPackets (link trace).sent).length := by
  have hcard := Finset.card_le_card_of_injOn (s := Finset.range (link trace).answersReceived)
    (t := Finset.range (txPackets (link trace).sent).length)
    (answered (earlierLinks trace).length)
    (fun j hj => by simpa using h.causal trace List.prefix_rfl j (by simpa using hj))
    (fun i hi j hj => h.single trace List.prefix_rfl i (by simpa using hi) j (by simpa using hj))
  simpa using hcard

/-- Packets and answers of a connection, by custody. -/
structure Tally (answered : Nat → Nat) (c : Custody) (l : Link) : Prop where
  count : match c with
    | .free => (outcomes l.frames).length = l.submitted.length
    | .writing _ _ | .owned => (outcomes l.frames).length + 1 = l.submitted.length
    | .closed | .faulted => (outcomes l.frames).length ≤ l.submitted.length
  named : ∀ j < (outcomes l.frames).length, answered j = j

/-- Inert events report no outcome. -/
theorem outcomes_inert {trace events : List Event} (h : ∀ e ∈ events, e.inert = true) :
    outcomes (link (trace ++ events)).frames = outcomes (link trace).frames := by
  induction events using List.reverseRecOn with
  | nil => simp
  | append_singleton events e ih =>
      have he := h e (by simp)
      rw [← ih fun e he => h e (by simp [he]), ← List.append_assoc, link_append_singleton]
      generalize link (trace ++ events) = l
      cases e with
      | opened => simp [Event.inert] at he
      | dispatched f =>
          have hnone : LorahamBackend.answer? f = none := by simpa [Event.inert] using he
          simp [Link.step, outcomes, hnone]
      | _ => rfl

/-- An answer that is dispatched adds its outcome. -/
theorem outcomes_dispatched {trace : List Event} {f : Loraham.Frame} {outcome : TxOutcome}
    (h : LorahamBackend.answer? f = some outcome) :
    outcomes (link (trace ++ [.dispatched f])).frames =
      outcomes (link trace).frames ++ [outcome] := by
  rw [link_append_singleton]
  simp [Link.step, outcomes, h]

/-- Dispatched answers were received. -/
theorem outcomes_le_received {l : Link} (h : LorahamBackend.Dispatches l) :
    (outcomes l.frames).length ≤ l.answersReceived :=
  (h.filterMap LorahamBackend.answer?).length_le

section Step

variable {answered : Nat → Nat → Nat} {c c' : Custody} {trace events : List Event}

/-- The tally depends on the answers and the packets only. -/
theorem Tally.same {answered : Nat → Nat} {l l' : Link} (h : Tally answered c l)
    (hframes : outcomes l'.frames = outcomes l.frames)
    (hsubmitted : l'.submitted = l.submitted) : Tally answered c l' := by
  refine ⟨?_, by rw [hframes]; exact h.named⟩
  rw [hframes, hsubmitted]
  exact h.count

theorem Tally.inert {answered : Nat → Nat} (h : Tally answered c (link trace))
    (hinert : ∀ e ∈ events, e.inert = true) : Tally answered c (link (trace ++ events)) :=
  h.same (outcomes_inert hinert) (link_inert _ hinert).2.1

/-- No terminal frame comes unasked. -/
theorem Tally.unsolicited {f : Loraham.Frame} (h : Tally (answered (earlierLinks trace).length) c
    (link trace)) (hc : c = .free ∨ ∃ frame off, c = .writing frame off)
    (hstream : Streams c (link trace))
    (hdispatches : LorahamBackend.Dispatches (link (trace ++ [.dispatched f])))
    (hobedient : Obedient answered (trace ++ [.dispatched f])) :
    LorahamBackend.answer? f = none := by
  cases hanswer : LorahamBackend.answer? f with
  | none => rfl
  | some outcome =>
      have hbound := (outcomes_le_received hdispatches).trans hobedient.answersReceived_le
      rw [outcomes_dispatched hanswer, link_append_singleton] at hbound
      simp only [List.length_append, List.length_singleton, Link.step] at hbound
      rcases hc with rfl | ⟨frame, off, rfl⟩
      · have hwhole : (link trace).Whole := hstream.2
        have hcount := h.count
        rw [hwhole.txPackets hstream.1] at hbound
        simp only at hcount
        omega
      · obtain ⟨hsized, done, p, -, hcut⟩ := hstream
        have hcount := h.count
        rw [hcut.txPackets hsized] at hbound
        simp only [hcut.submitted, List.length_append, List.length_singleton] at hcount
        omega

/-- The answer to an owned packet is about that packet. -/
theorem Tally.resolve {f : Loraham.Frame} {outcome : TxOutcome}
    (h : Tally (answered (earlierLinks trace).length) .owned (link trace))
    (hstream : Streams .owned (link trace))
    (hanswer : LorahamBackend.answer? f = some outcome)
    (hinert : ∀ e ∈ events, e.inert = true)
    (hdispatches : LorahamBackend.Dispatches (link (trace ++ .dispatched f :: events)))
    (hobedient : Obedient answered (trace ++ .dispatched f :: events)) :
    Tally (answered (earlierLinks trace).length) .free
      (link (trace ++ .dispatched f :: events)) := by
  have hearlier : earlierLinks (trace ++ .dispatched f :: events) = earlierLinks trace := by
    rw [List.append_cons, earlierLinks_append fun e he => Event.isOpened_of_inert (hinert e he),
      earlierLinks_append (by simp [Event.isOpened])]
  have houtcomes : outcomes (link (trace ++ .dispatched f :: events)).frames =
      outcomes (link trace).frames ++ [outcome] := by
    rw [List.append_cons, outcomes_inert hinert, outcomes_dispatched hanswer]
  obtain ⟨hsent, hsubmitted, -⟩ := link_inert (trace ++ [.dispatched f]) hinert
  rw [← List.append_cons, link_append_singleton] at hsent hsubmitted
  have hcount : (outcomes (link trace).frames).length + 1 = (link trace).submitted.length :=
    h.count
  have hreceived := outcomes_le_received hdispatches
  have hcausal := hobedient.causal _ List.prefix_rfl
  have hsingle := hobedient.single _ List.prefix_rfl
  rw [houtcomes, List.length_append, List.length_singleton] at hreceived
  rw [hearlier] at hcausal hsingle
  refine ⟨?_, ?_⟩
  · simp only [houtcomes, List.length_append, List.length_singleton, hcount, hsubmitted]
    rfl
  · rw [houtcomes, List.length_append, List.length_singleton]
    intro j hj
    by_cases hold : j < (outcomes (link trace).frames).length
    · exact h.named j hold
    · obtain rfl : j = (outcomes (link trace).frames).length := by omega
      have hlt := hcausal _ hreceived
      rw [hsent] at hlt
      change _ < (txPackets (link trace).sent).length at hlt
      rw [hstream.2.1.txPackets hstream.1, ← hcount] at hlt
      -- An earlier packet has its answer already.
      by_contra hne
      have hearly : answered (earlierLinks trace).length (outcomes (link trace).frames).length <
          (outcomes (link trace).frames).length := by omega
      have hsame := hsingle _ hreceived _ (by omega) (h.named _ hearly).symm
      omega

/-- A step of the custody machine keeps the tally. -/
theorem CustodyStep.tally (hstep : CustodyStep c events c') (hstream : Streams c (link trace))
    (hdispatches : LorahamBackend.Dispatches (link (trace ++ events)))
    (hobedient : Obedient answered (trace ++ events))
    (h : Tally (answered (earlierLinks trace).length) c (link trace)) :
    Tally (answered (earlierLinks (trace ++ events)).length) c' (link (trace ++ events)) := by
  cases hstep with
  | stay _ _ hinert =>
      rw [earlierLinks_append fun e he => Event.isOpened_of_inert (hinert e he)]
      exact h.inert hinert
  | unsolicited _ f hc =>
      have hnone := h.unsolicited hc hstream hdispatches hobedient
      rw [earlierLinks_append (by simp [Event.isOpened])]
      exact h.inert (by simp [Event.inert, hnone])
  | opened _ owner band =>
      rw [link_append_singleton]
      exact ⟨rfl, by simp [Link.step, Link.none, outcomes]⟩
  | submit payload =>
      rw [earlierLinks_append (by simp [Event.isOpened]), link_append_singleton]
      refine ⟨?_, h.named⟩
      have hcount : (outcomes (link trace).frames).length = (link trace).submitted.length :=
        h.count
      simp [Link.step, hcount]
  | write | finish =>
      rw [earlierLinks_append (by simp [Event.isOpened]), link_append_singleton]
      exact ⟨h.count, h.named⟩
  | drop _ _ hinert _ hc hfaulted =>
      rw [earlierLinks_append fun e he => Event.isOpened_of_inert (hinert e he)]
      refine Tally.inert ⟨?_, h.named⟩ hinert
      have hcount := h.count
      cases c with
      | closed => exact hcount
      | free => exact le_of_eq hcount
      | writing => simp only at hcount ⊢; omega
      | owned => simp at hc
      | faulted => simp at hfaulted
  | resolve f rest _ hanswer hinert hc =>
      obtain ⟨outcome, houtcome⟩ := Option.isSome_iff_exists.mp hanswer
      have hnext := h.resolve hstream houtcome hinert hdispatches hobedient
      rw [List.append_cons, earlierLinks_append fun e he => Event.isOpened_of_inert (hinert e he),
        earlierLinks_append (by simp [Event.isOpened]), ← List.append_cons]
      rcases hc with rfl | rfl
      · exact hnext
      · exact ⟨le_of_eq hnext.count, hnext.named⟩
  | fault _ hinert =>
      rw [earlierLinks_append fun e he => Event.isOpened_of_inert (hinert e he)]
      refine Tally.inert ⟨?_, h.named⟩ hinert
      have hcount : (outcomes (link trace).frames).length + 1 = (link trace).submitted.length :=
        h.count
      simp only
      omega

end Step

end LorahamBridge
