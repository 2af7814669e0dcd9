import LorahamBridge.Bridge.BondRefinement

/-!
# The transmit path

From the `TX_REQUEST` frames of a client to the bytes on the DATA socket of the
connection its session opened: nothing is lost, repeated, reordered or spliced,
whatever sizes the writes have and wherever they are interrupted.

Main results:

- Theorem `tx_path_transparent`: the bytes of every DATA connection of a run.
-/

namespace LorahamBridge

open Foundation Extradio Loraham LorahamBackend

/-- The packets submitted are the requests; a session that closes may leave its last
request behind. -/
def Bond.TxTied (β : Bond) : Prop :=
  β.link.submitted = β.view.requests ∨
    (β.mode = .closed ∧ ∃ p, β.view.requests = β.link.submitted ++ [p])

/-- A packet that has just been asked for. -/
theorem requests_receive (v : SessionView) (f : Extradio.Frame) :
    (v.receive f).requests = v.requests ∨ ∃ p, (v.receive f).requests = v.requests ++ [p] := by
  rw [SessionView.receive_eq]
  by_cases h : f.type = .txRequest
  · exact Or.inr ⟨f.payload, by simp [h]⟩
  · exact Or.inl (by simp [h])

/-- Every step of a bond keeps the packets handed over tied to the requests accepted. -/
theorem BondStep.txTied {honest : Prop} {β β' : Bond} (hstep : BondStep honest β β')
    (h : β.TxTied) : β'.TxTied := by
  -- Only a closed session can be one request ahead, so an open one has the equation.
  have heq : β.mode ≠ .closed → β.link.submitted = β.view.requests := fun hopen =>
    h.resolve_right fun hahead => hopen hahead.1
  cases hstep with
  | carry m v hgrows =>
      unfold Bond.TxTied at h ⊢
      simpa only [hgrows.submitted] using h
  | grant cfg v hgrows | ignore cfg flight v f hgrows =>
      exact Or.inl (hgrows.submitted.trans (heq (by simp)))
  | forward cfg flight v f rx hgrows | result cfg seq v f outcome hgrows =>
      exact Or.inl (hgrows.submitted.trans (heq (by simp)))
  | submit cfg v seq payload hgrows =>
      refine Or.inl (hgrows.submitted.trans ?_)
      simpa [Link.step] using heq (by simp)
  | refuse cfg v payload hgrows =>
      have hrequests := heq (by simp)
      rcases hgrows with hgrows | hgrows
      · exact Or.inr ⟨rfl, payload, by rw [hgrows.submitted, hrequests]⟩
      · refine Or.inl (hgrows.submitted.trans ?_)
        simpa [Link.step] using hrequests
  | close m v hgrows =>
      rcases h with h | ⟨-, p, hp⟩
      · exact Or.inl (hgrows.submitted.trans h)
      · exact Or.inr ⟨rfl, p, by rw [hgrows.submitted]; exact hp⟩
  | reject m v l f hopen =>
      have hrequests : l.submitted = v.requests := heq hopen
      rcases requests_receive v f with hsame | ⟨p, hp⟩
      · exact Or.inl (hrequests.trans hsame.symm)
      · exact Or.inr ⟨rfl, p, by rw [hp, hrequests]⟩

/-- In every reachable bond they are tied. -/
theorem Bond.Reachable.txTied {honest : Prop} {β : Bond} (h : β.Reachable honest) : β.TxTied :=
  h.induction (fun _ h => Or.inl (h.submitted.trans h.requests.symm))
    fun _ _ hstep hβ => hstep.txTied hβ

/-- The frame of a packet on the DATA socket: its type, its length in two bytes with the
lower one first, and the packet. -/
def txFrame (packet : Bytes) : Bytes :=
  [0x02, (packet.length % 256).toUInt8, (packet.length / 256).toUInt8] ++ packet

/-- The encoder makes these frames. -/
theorem framedBytes_txPacket (packet : Bytes) : framedBytes .txPacket packet = txFrame packet := by
  have hlow : packet.length.toUInt16.toUInt8 = (packet.length % 256).toUInt8 := by
    apply UInt8.toNat.inj
    simp
  have hhigh : (packet.length.toUInt16 >>> 8).toUInt8 = (packet.length / 256).toUInt8 := by
    apply UInt8.toNat.inj
    simp [Nat.shiftRight_eq_div_pow]
    omega
  simp [framedBytes, FramedType.toByte, putLE16, txFrame, hlow, hhigh]

/-- The bytes of a connection: whole frames, and a strict prefix of the last one. -/
structure Link.Carries (l : Link) (done : List Bytes) (cut : Bytes) : Prop where
  sent : l.sent = done.flatMap txFrame ++ cut
  submitted : (cut = [] ∧ l.submitted = done) ∨
    ∃ p, l.submitted = done ++ [p] ∧ cut <+: txFrame p ∧ cut ≠ txFrame p

/-- The frames of several packets. -/
theorem packetBytes_eq (packets : List Bytes) : packetBytes packets = packets.flatMap txFrame := by
  rw [packetBytes, funext framedBytes_txPacket]

/-- A connection with whole packets only. -/
theorem Link.Whole.carries {l : Link} (h : l.Whole) : l.Carries l.submitted [] := by
  refine ⟨?_, Or.inl ⟨rfl, rfl⟩⟩
  rw [List.append_nil, ← packetBytes_eq]
  exact h

/-- A connection that stops within a packet. -/
theorem Link.Cut.carries {l : Link} {done : List Bytes} {p : Bytes} {off : Nat}
    (h : l.Cut done p off) : l.Carries done ((txFrame p).take off) := by
  refine ⟨?_, Or.inr ⟨p, h.submitted, List.take_prefix _ _, ?_⟩⟩
  · rw [← packetBytes_eq, ← framedBytes_txPacket]
    exact h.sent
  · have := h.short
    rw [← framedBytes_txPacket, Ne, List.take_eq_self_iff]
    omega

/-- A connection that is not being written was left with a strict prefix only by
closing it. -/
theorem Streams.carries {c : Custody} {l : Link} (h : Streams c l) :
    ∃ done cut, l.Carries done cut ∧
      (cut ≠ [] → l.closed = true ∨ ∃ frame off, c = .writing frame off) := by
  have hwhole : l.Whole → ∃ done cut, l.Carries done cut ∧
      (cut ≠ [] → l.closed = true ∨ ∃ frame off, c = .writing frame off) := fun hw =>
    ⟨_, _, hw.carries, fun hcut => absurd rfl hcut⟩
  cases c with
  | closed =>
      rcases h.2 with hw | ⟨done, p, off, hcut, hclosed⟩
      · exact hwhole hw
      · exact ⟨_, _, hcut.carries, fun _ => Or.inl hclosed⟩
  | free => exact hwhole h.2
  | writing frame off =>
      obtain ⟨done, p, -, hcut⟩ := h.2
      exact ⟨_, _, hcut.carries, fun _ => Or.inr ⟨frame, off, rfl⟩⟩
  | owned | faulted => exact hwhole h.2.1

theorem state_of_writing {b : LorahamBackend} {frame : Bytes} {off : Nat}
    (h : b.custody = .writing frame off) : b.state = .txWriting := by
  unfold custody at h
  split at h <;> simp_all

/-- Every DATA connection carries the frames of the packets its session's client asked
for, in order, each once, and at most a strict prefix of one more; a nonempty strict
prefix means that the backend is still writing it or has closed the connection; and
between two writes of which the first completes a frame, a terminal frame has been
dispatched. -/
theorem tx_path_transparent (env : BridgeEnv) (ops : List XrServer.Op) :
    let sv := XrServer.run env ops
    let trace := sv.backend.trace
    (∀ l ∈ links trace,
      (∃ done cut, l.Carries done cut ∧
        (cut ≠ [] → l.closed = true ∨ (l = link trace ∧ sv.backend.state = .txWriting))) ∧
      (l.Unopened ∨ ∃ s ∈ sv.sessions, l.owner = some s.id ∧
        (l.submitted = (view s.log).requests ∨
          ∃ p, (view s.log).requests = l.submitted ++ [p]))) ∧
    (∀ c, sv.conn = some c → c.session.phase = .ready →
      (link trace).owner = some c.session.id ∧
      (link trace).submitted = (view c.session.log).requests) ∧
    ∀ pre w mid w' post, trace = pre ++ .dataSent w :: (mid ++ .dataSent w' :: post) →
      (∀ e ∈ mid, e.isOpened = false) → Completes pre w →
      CompletesOne pre w ∧ ∃ f, .dispatched f ∈ mid ∧ (answer? f).isSome := by
  have hsound := run_sound env ops
  refine ⟨?_, ?_, ?_⟩
  · intro l hl
    refine ⟨?_, ?_⟩
    · rcases mem_links.mp hl with hl' | rfl
      · obtain ⟨done, cut, hcarries, hcut⟩ := (hsound.earlier l hl').carries
        refine ⟨done, cut, hcarries, fun hne => ?_⟩
        rcases hcut hne with hclosed | ⟨frame, off, hc⟩
        · exact Or.inl hclosed
        · cases hc
      · obtain ⟨done, cut, hcarries, hcut⟩ := hsound.streams.carries
        refine ⟨done, cut, hcarries, fun hne => (hcut hne).imp_right ?_⟩
        rintro ⟨frame, off, hc⟩
        exact ⟨rfl, state_of_writing hc⟩
    · have hhonest : Honest False (XrServer.run env ops).backend.trace := False.elim
      refine (run_link_bond env ops hhonest hl).imp_right ?_
      rintro ⟨s, hs, howner, m, hbond⟩
      exact ⟨s, hs, howner, hbond.txTied.imp_right And.right⟩
  · intro c hconn hphase
    have hown := run_own env ops hconn (Or.inr hphase)
    refine ⟨hown.owner, (hown.bond False False.elim).txTied.resolve_right ?_⟩
    rintro ⟨hclosed, -⟩
    simp [bond, modeOf_ready hphase rfl] at hclosed
  · intro pre w mid w' post hsplit hmid hdone
    refine ⟨hsound.accounted.whole pre w _ hsplit hdone, ?_⟩
    by_contra hnone
    push Not at hnone
    refine hsound.accounted.before (pre ++ .dataSent w :: mid) w' post (by simp [hsplit])
      pre w mid ⟨rfl, hdone, ?_⟩
    intro front f rest hfront _
    simpa using hnone f (by simp [hfront])

end LorahamBridge
