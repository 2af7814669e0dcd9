import LorahamBridge.Loraham.Custody

/-!
# The bytes of a DATA connection

The custody machine decides what a DATA connection has carried: whole packet
frames in the order of submission and at most one incomplete frame behind them.
From the same machine follows who answers for a packet: a complete frame that no
terminal frame has answered keeps the backend from writing anything else.

Main results:

- Theorem `CustodyStep.streams`: the shape of the bytes sent on the connection.
- Theorem `CustodyStep.accounted`: unanswered frames and the custody they imply.
-/

namespace LorahamBridge

open Foundation Loraham

/-! ## The shape of the stream -/

/-- The frames of some packets, one after the other. -/
def packetBytes (packets : List Bytes) : Bytes :=
  packets.flatMap (framedBytes .txPacket)

@[simp]
theorem packetBytes_append (packets more : List Bytes) :
    packetBytes (packets ++ more) = packetBytes packets ++ packetBytes more :=
  List.flatMap_append

@[simp]
theorem packetBytes_singleton (p : Bytes) : packetBytes [p] = framedBytes .txPacket p := by
  simp [packetBytes]

namespace Link

/-- Only packets a daemon accepts were submitted. -/
def Sized (l : Link) : Prop :=
  ∀ p ∈ l.submitted, 0 < p.length ∧ p.length ≤ kMaxRfPayload

/-- Every submitted packet was written whole. -/
def Whole (l : Link) : Prop :=
  l.sent = packetBytes l.submitted

/-- Every packet but the last was written whole, and of the last a strict prefix. -/
structure Cut (l : Link) (done : List Bytes) (p : Bytes) (off : Nat) : Prop where
  submitted : l.submitted = done ++ [p]
  short : off < (framedBytes .txPacket p).length
  sent : l.sent = packetBytes done ++ (framedBytes .txPacket p).take off

/-- Whole frames are parsed as the packets handed over, with nothing left. -/
theorem Whole.parse {l : Link} (h : l.Whole) (hsized : l.Sized) :
    txFormat.parse l.sent = (l.submitted, .pending []) := by
  have hpop : ∀ p ∈ l.submitted, ∀ more,
      txFormat.pop (framedBytes .txPacket p ++ more) = .gotFrame p more :=
    fun p hp more => pop_txPacket (hsized p hp).2 more
  rw [h, packetBytes]
  simpa using txFormat.parse_flatMap_append hpop []

/-- The daemon reads just the packets handed over. -/
theorem Whole.txPackets {l : Link} (h : l.Whole) (hsized : l.Sized) :
    txPackets l.sent = l.submitted := by
  rw [Loraham.txPackets, h.parse hsized]

/-- Of a frame that is cut the daemon reads nothing. -/
theorem Cut.txPackets {l : Link} {done : List Bytes} {p : Bytes} {off : Nat}
    (h : l.Cut done p off) (hsized : l.Sized) : txPackets l.sent = done := by
  have hsize : ∀ q ∈ done ++ [p], q.length ≤ kMaxRfPayload := by
    intro q hq
    exact (hsized q (by rwa [h.submitted])).2
  rw [h.sent]
  refine parse_txPackets (fun q hq => hsize q (by simp [hq])) (hsize p (by simp))
    (List.take_append_drop off _) ?_
  have := h.short
  simp only [ne_eq, List.drop_eq_nil_iff]
  omega

end Link

/-- What custody means for the bytes of the connection. -/
def Streams (c : Custody) (l : Link) : Prop :=
  l.Sized ∧
    match c with
    | .closed => l.Whole ∨ ∃ done p off, l.Cut done p off ∧ l.closed = true
    | .free => l.Whole
    | .writing frame off => ∃ done p, frame = framedBytes .txPacket p ∧ l.Cut done p off
    | .owned | .faulted => l.Whole ∧ l.submitted ≠ []

/-- Inert events do not touch the DATA stream. -/
theorem link_inert (trace : List Event) {events : List Event} (h : ∀ e ∈ events, e.inert = true) :
    (link (trace ++ events)).sent = (link trace).sent ∧
      (link (trace ++ events)).submitted = (link trace).submitted ∧
      ((link trace).closed = true ∨ .closed ∈ events →
        (link (trace ++ events)).closed = true) := by
  induction events using List.reverseRecOn with
  | nil => simp
  | append_singleton events e ih =>
      obtain ⟨hsent, hsubmitted, hclosed⟩ := ih fun e he => h e (by simp [he])
      have he := h e (by simp)
      rw [← List.append_assoc, link_append_singleton, ← hsent, ← hsubmitted]
      generalize link (trace ++ events) = l at hclosed ⊢
      cases e with
      | opened | submitted | dataSent => simp [Event.inert] at he
      | closed => simp [Link.step]
      | _ => simpa [Link.step] using hclosed

/-- Whether a frame is cut depends on packets and bytes only. -/
theorem Link.Cut.congr {l l' : Link} {done : List Bytes} {p : Bytes} {off : Nat}
    (h : l.Cut done p off) (hsent : l'.sent = l.sent) (hsubmitted : l'.submitted = l.submitted) :
    l'.Cut done p off :=
  ⟨hsubmitted.trans h.submitted, h.short, hsent.trans h.sent⟩

/-- The stream a connection may have been left with. -/
theorem Streams.left {c : Custody} {l : Link} (h : Streams c l) :
    l.Whole ∨ ∃ done p off, l.Cut done p off := by
  cases c with
  | closed => exact h.2.imp_right fun ⟨done, p, off, hcut, _⟩ => ⟨done, p, off, hcut⟩
  | free => exact Or.inl h.2
  | writing frame off =>
      obtain ⟨done, p, -, hcut⟩ := h.2
      exact Or.inr ⟨done, p, off, hcut⟩
  | owned | faulted => exact Or.inl h.2.1

/-- The shape depends on what was submitted and sent. -/
theorem Streams.congr {c : Custody} {l l' : Link} (h : Streams c l) (hsent : l'.sent = l.sent)
    (hsubmitted : l'.submitted = l.submitted) (hclosed : l.closed = true → l'.closed = true) :
    Streams c l' := by
  have hwhole : l.Whole → l'.Whole := by
    intro hw
    rw [Link.Whole, hsent, hsubmitted]
    exact hw
  refine ⟨by rw [Link.Sized, hsubmitted]; exact h.1, ?_⟩
  cases c with
  | closed =>
      refine h.2.imp hwhole ?_
      rintro ⟨done, p, off, hcut, hc⟩
      exact ⟨done, p, off, hcut.congr hsent hsubmitted, hclosed hc⟩
  | free => exact hwhole h.2
  | writing frame off =>
      obtain ⟨done, p, hframe, hcut⟩ := h.2
      exact ⟨done, p, hframe, hcut.congr hsent hsubmitted⟩
  | owned | faulted => exact ⟨hwhole h.2.1, by rw [hsubmitted]; exact h.2.2⟩

theorem Streams.inert {c : Custody} {trace events : List Event} (h : Streams c (link trace))
    (hinert : ∀ e ∈ events, e.inert = true) : Streams c (link (trace ++ events)) := by
  obtain ⟨hsent, hsubmitted, hclosed⟩ := link_inert trace hinert
  exact h.congr hsent hsubmitted fun hc => hclosed (Or.inl hc)

theorem Streams.dispatched {c : Custody} {trace : List Event} (f : Loraham.Frame)
    (h : Streams c (link trace)) : Streams c (link (trace ++ [.dispatched f])) := by
  rw [link_append_singleton]
  exact h.congr rfl rfl id

/-- A step of the machine keeps the shape of the stream. -/
theorem CustodyStep.streams {c c' : Custody} {events trace : List Event}
    (hstep : CustodyStep c events c') (h : Streams c (link trace)) :
    Streams c' (link (trace ++ events)) := by
  cases hstep with
  | stay _ _ hinert => exact h.inert hinert
  | unsolicited _ f => exact h.dispatched f
  | opened _ owner band =>
      rw [link_append_singleton]
      exact ⟨by simp [Link.Sized, Link.step, Link.none], rfl⟩
  | submit payload hpos hlen =>
      rw [link_append_singleton]
      have hwhole : (link trace).sent = packetBytes (link trace).submitted := h.2
      refine ⟨?_, (link trace).submitted, payload, rfl, rfl, ?_, ?_⟩
      · intro p hp
        rcases List.mem_append.mp hp with hp | hp
        · exact h.1 p hp
        · rw [List.mem_singleton.mp hp]
          exact ⟨hpos, hlen⟩
      · simp only [framedBytes_length]
        omega
      · simpa [Link.step] using hwhole
  | write frame off n hleft =>
      rw [link_append_singleton]
      obtain ⟨hsized, done, p, rfl, hcut⟩ := h
      refine ⟨hsized, done, p, rfl, hcut.submitted, hleft, ?_⟩
      simp only [Link.step, hcut.sent, List.append_assoc, List.take_add]
  | finish frame off hleft =>
      rw [link_append_singleton]
      obtain ⟨hsized, done, p, rfl, hcut⟩ := h
      refine ⟨hsized, ?_, by simp [Link.step, hcut.submitted]⟩
      simp [Link.Whole, Link.step, hcut.sent, hcut.submitted]
  | drop _ _ hinert hclosed =>
      obtain ⟨hsized, -⟩ := h.inert hinert
      refine ⟨hsized, (h.inert hinert).left.imp_right ?_⟩
      rintro ⟨done, p, off, hcut⟩
      exact ⟨done, p, off, hcut, (link_inert trace hinert).2.2 (Or.inr hclosed)⟩
  | resolve f rest _ hanswer hinert hc =>
      rw [List.append_cons]
      have hnext := (h.dispatched f).inert hinert
      rcases hc with rfl | rfl
      · exact ⟨hnext.1, hnext.2.1⟩
      · exact ⟨hnext.1, Or.inl hnext.2.1⟩
  | fault _ hinert => exact h.inert hinert

theorem Event.isOpened_of_inert {e : Event} (h : e.inert = true) : e.isOpened = false := by
  cases e with
  | opened => simp [Event.inert] at h
  | _ => rfl

/-- The connections that later ones replaced were left in the same shape. -/
def EarlierStreams (trace : List Event) : Prop :=
  ∀ l ∈ earlierLinks trace, Streams .closed l

/-- The streams of earlier connections stay as they ended. -/
theorem CustodyStep.earlierStreams {c c' : Custody} {events trace : List Event}
    (hstep : CustodyStep c events c') (h : Streams c (link trace))
    (hearlier : EarlierStreams trace) : EarlierStreams (trace ++ events) := by
  unfold EarlierStreams
  cases hstep with
  | stay _ _ hinert | drop _ _ hinert | fault _ hinert =>
      rw [earlierLinks_append fun e he => Event.isOpened_of_inert (hinert e he)]
      exact hearlier
  | unsolicited | submit | write | finish =>
      rw [earlierLinks_append (by simp [Event.isOpened])]
      exact hearlier
  | resolve f rest _ _ hinert =>
      rw [List.append_cons, earlierLinks_append fun e he => Event.isOpened_of_inert (hinert e he),
        earlierLinks_append (by simp [Event.isOpened])]
      exact hearlier
  | opened _ owner band hc =>
      rw [earlierLinks_opened, links_eq]
      intro l hl
      rcases List.mem_append.mp hl with hl | hl
      · exact hearlier l hl
      · rw [List.mem_singleton.mp hl]
        rcases hc with rfl | rfl
        · exact h
        · exact ⟨h.1, Or.inl h.2⟩

/-! ## Unanswered frames -/

/-- A write that completes a packet frame. -/
def Completes (pre : List Event) (w : Bytes) : Prop :=
  (txPackets (link pre).sent).length < (txPackets ((link pre).sent ++ w)).length

/-- A write that completes exactly one packet frame, with its last byte. -/
def CompletesOne (pre : List Event) (w : Bytes) : Prop :=
  (txFormat.parse ((link pre).sent ++ w)).2 = .pending [] ∧
    (txPackets ((link pre).sent ++ w)).length = (txPackets (link pre).sent).length + 1

/-- A write that completed a packet frame, with no terminal frame dispatched from
the same connection since. -/
structure Unresolved (trace pre : List Event) (w : Bytes) (post : List Event) : Prop where
  split : trace = pre ++ .dataSent w :: post
  completes : Completes pre w
  unanswered : ∀ mid f rest, post = mid ++ .dispatched f :: rest →
    (∀ e ∈ mid, e.isOpened = false) → LorahamBackend.answer? f = none

/-- An event of a history is its last one or stands in front of it. -/
theorem split_snoc {α : Type} {trace pre post : List α} {e x : α}
    (h : trace ++ [e] = pre ++ x :: post) :
    (pre = trace ∧ x = e ∧ post = []) ∨ ∃ front, post = front ++ [e] ∧ trace = pre ++ x :: front := by
  rcases List.eq_nil_or_concat post with rfl | ⟨front, last, rfl⟩
  · obtain ⟨h1, h2⟩ := List.append_inj' h rfl
    exact Or.inl ⟨h1.symm, by simpa using h2.symm, rfl⟩
  · rw [List.concat_eq_append, ← List.cons_append, ← List.append_assoc] at h
    obtain ⟨h1, h2⟩ := List.append_inj' h rfl
    simp only [List.cons.injEq, and_true] at h2
    exact Or.inr ⟨front, by simp [h2], h1⟩

/-- A packet stays unresolved over inert events. -/
theorem Unresolved.snoc {trace pre post : List Event} {w : Bytes} {e : Event}
    (h : Unresolved trace pre w post) (hinert : e.inert = true) :
    Unresolved (trace ++ [e]) pre w (post ++ [e]) := by
  refine ⟨by rw [h.split]; simp, h.completes, ?_⟩
  intro mid f rest hsplit hmid
  rcases split_snoc hsplit with ⟨-, hf, -⟩ | ⟨front, -, hpost⟩
  · rw [← hf] at hinert
    simpa [Event.inert] using hinert
  · exact h.unanswered mid f front hpost hmid

/-- An unresolved packet was completed by the last event or was unresolved before it. -/
theorem Unresolved.of_snoc {trace pre post : List Event} {w : Bytes} {e : Event}
    (h : Unresolved (trace ++ [e]) pre w post) :
    (pre = trace ∧ e = .dataSent w ∧ post = []) ∨
      ∃ front, post = front ++ [e] ∧ Unresolved trace pre w front := by
  rcases split_snoc h.split with ⟨hpre, he, hpost⟩ | ⟨front, hpost, htrace⟩
  · exact Or.inl ⟨hpre, he.symm, hpost⟩
  · refine Or.inr ⟨front, hpost, htrace, h.completes, ?_⟩
    intro mid f rest hsplit hmid
    exact h.unanswered mid f (rest ++ [e]) (by rw [hpost, hsplit]; simp) hmid

/-- The events that write on the DATA socket. -/
def Event.isDataSent : Event → Bool
  | .dataSent _ => true
  | _ => false

/-- What custody means for the frames no terminal frame has answered. -/
structure Accounted (c : Custody) (trace : List Event) : Prop where
  /-- Without custody of the daemon, every complete frame has been answered. -/
  settled : c ≠ .owned → c ≠ .faulted → ∀ pre w post, ¬ Unresolved trace pre w post
  /-- No write reaches beyond the frame it completes. -/
  whole : ∀ pre w post, trace = pre ++ .dataSent w :: post → Completes pre w →
    CompletesOne pre w
  /-- Nothing was written behind an unanswered frame. -/
  last : ∀ pre w post, Unresolved trace pre w post →
    ∀ e ∈ post, e.isDataSent = false ∧ e.isOpened = false
  /-- An owned packet is an unanswered frame. -/
  one : c = .owned → ∃ pre w post, Unresolved trace pre w post
  /-- A write happens only when every earlier frame has been answered. -/
  before : ∀ pre w post, trace = pre ++ .dataSent w :: post →
    ∀ pre' w' post', ¬ Unresolved pre pre' w' post'

theorem accounted_nil : Accounted .closed [] where
  settled _ _ pre w post h := by simpa using h.split
  whole pre w post h := by simp at h
  last pre w post h := by simpa using h.split
  one h := by simp at h
  before pre w post h := by simp at h

namespace Accounted

variable {c c' : Custody} {trace : List Event}

/-- Custody may change between events: to `closed` if there was none, to `faulted`
if the daemon had it. -/
theorem weaken (h : Accounted c trace) (howned : c' ≠ .owned)
    (hfaulted : c = .owned ∨ c = .faulted → c' = .faulted) : Accounted c' trace where
  settled _ hc' :=
    h.settled (fun hc => hc' (hfaulted (Or.inl hc))) (fun hc => hc' (hfaulted (Or.inr hc)))
  whole := h.whole
  last := h.last
  one hc' := absurd hc' howned
  before := h.before

/-- An inert event keeps the account. -/
theorem snoc (h : Accounted c trace) {e : Event} (hinert : e.inert = true) :
    Accounted c (trace ++ [e]) := by
  have hdata : e.isDataSent = false := by
    cases e with
    | dataSent => simp [Event.inert] at hinert
    | _ => rfl
  have hold : ∀ pre w post, Unresolved (trace ++ [e]) pre w post →
      ∃ front, post = front ++ [e] ∧ Unresolved trace pre w front := by
    intro pre w post hu
    rcases hu.of_snoc with ⟨-, rfl, -⟩ | hfront
    · simp [Event.inert] at hinert
    · exact hfront
  refine ⟨?_, ?_, ?_, ?_, ?_⟩
  · intro howned hfaulted pre w post hu
    obtain ⟨front, -, hfront⟩ := hold pre w post hu
    exact h.settled howned hfaulted pre w front hfront
  · intro pre w post hsplit
    rcases split_snoc hsplit with ⟨-, rfl, -⟩ | ⟨front, -, htrace⟩
    · simp [Event.inert] at hinert
    · exact h.whole pre w front htrace
  · intro pre w post hu
    obtain ⟨front, rfl, hfront⟩ := hold pre w post hu
    intro e' he'
    rcases List.mem_append.mp he' with he' | he'
    · exact h.last pre w front hfront e' he'
    · rw [List.mem_singleton.mp he']
      exact ⟨hdata, Event.isOpened_of_inert hinert⟩
  · intro howned
    obtain ⟨pre, w, post, hu⟩ := h.one howned
    exact ⟨pre, w, post ++ [e], hu.snoc hinert⟩
  · intro pre w post hsplit
    rcases split_snoc hsplit with ⟨-, rfl, -⟩ | ⟨front, -, htrace⟩
    · simp [Event.inert] at hinert
    · exact h.before pre w front htrace

theorem inert (h : Accounted c trace) {events : List Event}
    (hinert : ∀ e ∈ events, e.inert = true) : Accounted c (trace ++ events) := by
  induction events using List.reverseRecOn with
  | nil => simpa using h
  | append_singleton events e ih =>
      rw [← List.append_assoc]
      exact (ih fun e he => hinert e (by simp [he])).snoc (hinert e (by simp))

/-- An event that completes nothing leaves everything answered. -/
theorem settled_snoc (h : Accounted c trace) (howned : c ≠ .owned) (hfaulted : c ≠ .faulted)
    (hc' : c' ≠ .owned) {e : Event}
    (hcompletes : ∀ w, e = .dataSent w →
      (txPackets ((link trace).sent ++ w)).length ≤ (txPackets (link trace).sent).length) :
    Accounted c' (trace ++ [e]) := by
  have hnone : ∀ pre w post, ¬ Unresolved (trace ++ [e]) pre w post := by
    intro pre w post hu
    rcases hu.of_snoc with ⟨rfl, he, -⟩ | ⟨front, -, hfront⟩
    · exact absurd hu.completes (Nat.not_lt.mpr (hcompletes w he))
    · exact h.settled howned hfaulted pre w front hfront
  refine ⟨fun _ _ => hnone, ?_, fun pre w post hu => absurd hu (hnone pre w post),
    fun hc => absurd hc hc', ?_⟩
  · intro pre w post hsplit hdone
    rcases split_snoc hsplit with ⟨rfl, he, -⟩ | ⟨front, -, htrace⟩
    · exact absurd hdone (Nat.not_lt.mpr (hcompletes w he.symm))
    · exact h.whole pre w front htrace hdone
  intro pre w post hsplit
  rcases split_snoc hsplit with ⟨rfl, -, -⟩ | ⟨front, -, htrace⟩
  · exact h.settled howned hfaulted
  · exact h.before pre w front htrace

end Accounted

/-- A step of the machine keeps the account. -/
theorem CustodyStep.accounted {c c' : Custody} {events trace : List Event}
    (hstep : CustodyStep c events c') (hstream : Streams c (link trace))
    (h : Accounted c trace) : Accounted c' (trace ++ events) := by
  cases hstep with
  | stay _ _ hinert => exact h.inert hinert
  | unsolicited _ f hc =>
      rcases hc with rfl | ⟨frame, off, rfl⟩ <;>
        exact h.settled_snoc (by simp) (by simp) (by simp) (by simp)
  | opened _ owner band hc =>
      rcases hc with rfl | rfl <;> exact h.settled_snoc (by simp) (by simp) (by simp) (by simp)
  | submit payload => exact h.settled_snoc (by simp) (by simp) (by simp) (by simp)
  | write frame off n hleft =>
      have hnext := (CustodyStep.write frame off n hleft).streams hstream
      obtain ⟨hsized, done, p, rfl, hcut⟩ := hstream
      obtain ⟨hsized', done', p', -, hcut'⟩ := hnext
      refine h.settled_snoc (by simp) (by simp) (by simp) ?_
      rintro w ⟨⟩
      rw [link_append_singleton] at hcut' hsized'
      have hsame : done' = done := by
        have := hcut'.submitted
        rw [Link.step, hcut.submitted] at this
        exact (List.append_inj' this rfl).1.symm
      have hafter := hcut'.txPackets hsized'
      rw [hsame] at hafter
      rw [hcut.txPackets hsized]
      exact le_of_eq (congrArg List.length hafter)
  | finish frame off hleft =>
      have hnext := (CustodyStep.finish frame off hleft).streams hstream
      obtain ⟨hsized, done, p, rfl, hcut⟩ := hstream
      obtain ⟨hsized', hwhole', -⟩ := hnext
      rw [link_append_singleton] at hwhole' hsized'
      have hparse := hwhole'.parse hsized'
      simp only [Link.step, hcut.submitted] at hparse
      have hbefore := hcut.txPackets hsized
      have hsettled := h.settled (by simp) (by simp)
      have hnew : ∀ pre w post,
          Unresolved (trace ++ [.dataSent ((framedBytes .txPacket p).drop off)]) pre w post →
          pre = trace ∧ w = (framedBytes .txPacket p).drop off ∧ post = [] := by
        intro pre w post hu
        rcases hu.of_snoc with ⟨rfl, he, rfl⟩ | ⟨front, -, hfront⟩
        · exact ⟨rfl, by simpa using he.symm, rfl⟩
        · exact absurd hfront (hsettled pre w front)
      have hone : CompletesOne trace ((framedBytes .txPacket p).drop off) := by
        simp [CompletesOne, txPackets, hparse, ← hbefore]
      refine ⟨by simp, ?_, ?_, ?_, ?_⟩
      · intro pre w post hsplit hdone
        rcases split_snoc hsplit with ⟨rfl, he, -⟩ | ⟨front, -, htrace⟩
        · obtain rfl : w = (framedBytes .txPacket p).drop off := by simpa using he
          exact hone
        · exact h.whole pre w front htrace hdone
      · intro pre w post hu
        obtain ⟨-, -, rfl⟩ := hnew pre w post hu
        simp
      · intro _
        refine ⟨trace, _, [], rfl, ?_, by simp⟩
        rw [Completes, hone.2]
        omega
      · intro pre w post hsplit
        rcases split_snoc hsplit with ⟨rfl, -, -⟩ | ⟨front, -, htrace⟩
        · exact hsettled
        · exact h.before pre w front htrace
  | drop _ _ hinert _ hc hfaulted =>
      exact (h.inert hinert).weaken (by simp) (by simp [hc, hfaulted])
  | resolve f rest _ hanswer hinert hc =>
      rw [List.append_cons]
      have hresolved : Accounted .closed (trace ++ [.dispatched f]) := by
        have hnone : ∀ pre w post, ¬ Unresolved (trace ++ [.dispatched f]) pre w post := by
          intro pre w post hu
          rcases hu.of_snoc with ⟨-, he, -⟩ | ⟨front, hpost, hfront⟩
          · simp at he
          · have hquiet := h.last pre w front hfront
            have hnot := hu.unanswered front f [] hpost fun e he => (hquiet e he).2
            simp [hnot] at hanswer
        refine ⟨fun _ _ => hnone, ?_, fun pre w post hu => absurd hu (hnone pre w post),
          by simp, ?_⟩
        all_goals
          intro pre w post hsplit
          rcases split_snoc hsplit with ⟨-, he, -⟩ | ⟨front, -, htrace⟩
          · simp at he
        · exact h.whole pre w front htrace
        · exact h.before pre w front htrace
      have hrest := hresolved.inert hinert
      rcases hc with rfl | rfl
      · exact hrest.weaken (by simp) (by simp)
      · exact hrest
  | fault _ hinert => exact (h.inert hinert).weaken (by simp) (by simp)

/-- An unanswered frame is the only one. -/
theorem Accounted.unique {c : Custody} {trace pre pre' post post' : List Event} {w w' : Bytes}
    (h : Accounted c trace) (hu : Unresolved trace pre w post)
    (hu' : Unresolved trace pre' w' post') : pre = pre' ∧ w = w' ∧ post = post' := by
  have hquiet := h.last pre w post hu
  have hquiet' := h.last pre' w' post' hu'
  have heq := hu.split.symm.trans hu'.split
  rcases List.append_eq_append_iff.mp heq with ⟨mid, hpre, hrest⟩ | ⟨mid, hpre, hrest⟩
  · cases mid with
    | nil => simp_all
    | cons e mid =>
        simp only [List.cons_append, List.cons.injEq] at hrest
        have := (hquiet (.dataSent w') (by rw [hrest.2]; simp)).1
        simp [Event.isDataSent] at this
  · cases mid with
    | nil => simp_all
    | cons e mid =>
        simp only [List.cons_append, List.cons.injEq] at hrest
        have := (hquiet' (.dataSent w) (by rw [hrest.2]; simp)).1
        simp [Event.isDataSent] at this

end LorahamBridge
