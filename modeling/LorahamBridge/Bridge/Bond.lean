import LorahamBridge.Loraham.BackendSound
import LorahamBridge.Xr.SessionView

/-!
# A session and the connection it opened

A session and the daemon connection it opened, taken together as one machine with
three modes: configuring, ready, and closed.  Its steps are the only ways in which
what the client sees and what the connection carries can move, so each property
that relates the two is an induction over them.

Main results:

- Definition `BondStep`: the steps.
- Theorems `QuietStep.goes` and `CallStep.goes`: how the steps of a poll move the
  current connection.
-/

namespace LorahamBridge

open Foundation Extradio Loraham LorahamBackend Relation

/-! ## Growth of a connection -/

/-- One view of a connection continues another without a new packet. -/
structure Link.Grows (l l' : Link) : Prop where
  owner : l'.owner = l.owner
  band : l'.band = l.band
  /-- Once the replies grant the configuration, no more commands are sent. -/
  confSent : (∃ rest, scanConf true l.confReceived = (.status true, rest)) →
    l'.confSent = l.confSent
  confReceived : l.confReceived <+: l'.confReceived
  submitted : l'.submitted = l.submitted
  frames : l.frames <+: l'.frames

namespace Link.Grows

/-- A connection continues itself. -/
theorem refl (l : Link) : l.Grows l :=
  ⟨rfl, rfl, fun _ => rfl, List.prefix_rfl, rfl, List.prefix_rfl⟩

theorem trans {l l' l'' : Link} (h : l.Grows l') (h' : l'.Grows l'') : l.Grows l'' where
  owner := h'.owner.trans h.owner
  band := h'.band.trans h.band
  confSent := by
    rintro ⟨rest, hrest⟩
    obtain ⟨more, hmore⟩ := h.confReceived
    rw [h'.confSent ⟨rest ++ more, by rw [← hmore]; exact scanConf_append_status hrest more⟩,
      h.confSent ⟨rest, hrest⟩]
  confReceived := h.confReceived.trans h'.confReceived
  submitted := h'.submitted.trans h.submitted
  frames := h.frames.trans h'.frames

/-- Every event but an opening, a submission and a command lets the view grow. -/
theorem step (l : Link) (e : Event) (hopened : e.isOpened = false)
    (hsubmitted : ∀ p, e ≠ .submitted p) (hconf : ∀ w, e ≠ .confSent w) :
    l.Grows (l.step e) := by
  cases e with
  | opened => simp [Event.isOpened] at hopened
  | submitted p => exact absurd rfl (hsubmitted p)
  | confSent w => exact absurd rfl (hconf w)
  | confReceived w =>
      exact ⟨rfl, rfl, fun _ => rfl, List.prefix_append _ _, rfl, List.prefix_rfl⟩
  | dispatched f =>
      exact ⟨rfl, rfl, fun _ => rfl, List.prefix_rfl, rfl, List.prefix_append _ _⟩
  | _ => exact ⟨rfl, rfl, fun _ => rfl, List.prefix_rfl, rfl, List.prefix_rfl⟩

end Link.Grows

/-- The view of a backend that has not opened any connection. -/
def Link.Unopened (l : Link) : Prop :=
  l.owner = Option.none ∧ l.band = Option.none ∧ l.submitted = []

/-- A connection that was never opened stays so. -/
theorem Link.Unopened.grows {l l' : Link} (h : l.Unopened) (hgrows : l.Grows l') :
    l'.Unopened :=
  ⟨hgrows.owner.trans h.1, hgrows.band.trans h.2.1, hgrows.submitted.trans h.2.2⟩

/-- The evidence for a configuration survives growth. -/
theorem LorahamBackend.Configured.grows {l l' : Link} {cfg : RadioConfig}
    (h : Configured l cfg) (hgrows : l.Grows l') : Configured l' cfg :=
  h.grow (hgrows.confSent h.status) hgrows.band hgrows.confReceived

/-! ## The machine -/

/-- How far a session has come on its connection: it waits for the radio, it is in operation
with or without a transmission in flight, or it is closed. -/
inductive BondMode where
  | configuring (cfg : RadioConfig)
  | ready (cfg : RadioConfig) (flight : Option UInt16)
  | closed

/-- A session's view next to its connection. -/
structure Bond where
  mode : BondMode
  view : SessionView
  link : Link

/-- A connection that has just been opened for a configuration. -/
structure Bond.Opened (β : Bond) : Prop where
  mode : ∃ cfg, β.mode = .configuring cfg ∧ β.view.configures = [packConfig cfg]
  requests : β.view.requests = []
  blank : β.view.Blank
  submitted : β.link.submitted = []
  frames : β.link.frames = []

/-- The steps of a session and its connection.  With an `honest` daemon no terminal
frame comes unasked. -/
inductive BondStep (honest : Prop) : Bond → Bond → Prop
  | carry (m : BondMode) (v : SessionView) {l l' : Link} (hgrows : l.Grows l')
      (hframes : l'.frames = l.frames) : BondStep honest ⟨m, v, l⟩ ⟨m, v, l'⟩
  | grant (cfg : RadioConfig) (v : SessionView) {l l' : Link} (hgrows : l.Grows l')
      (hframes : l'.frames = l.frames) (hconfigured : Configured l' cfg) :
      BondStep honest ⟨.configuring cfg, v, l⟩
        ⟨.ready cfg none, v.send (XrSession.configOkFrame cfg), l'⟩
  | ignore (cfg : RadioConfig) (flight : Option UInt16) (v : SessionView) {l l' : Link}
      (f : Loraham.Frame) (hgrows : l.Grows l') (hframes : l'.frames = l.frames ++ [f])
      (hrx : ∀ rx, decodeRx f = some rx → rxPayloadAcceptable rx.data.length = false)
      (hanswer : honest → answer? f = none) :
      BondStep honest ⟨.ready cfg flight, v, l⟩ ⟨.ready cfg flight, v, l'⟩
  | forward (cfg : RadioConfig) (flight : Option UInt16) (v : SessionView) {l l' : Link}
      (f : Loraham.Frame) (rx : RxEvent) (hgrows : l.Grows l')
      (hframes : l'.frames = l.frames ++ [f]) (hrx : decodeRx f = some rx)
      (haccept : rxPayloadAcceptable rx.data.length = true) :
      BondStep honest ⟨.ready cfg flight, v, l⟩
        ⟨.ready cfg flight, v.send (XrSession.rxFrame rx), l'⟩
  | result (cfg : RadioConfig) (seq : UInt16) (v : SessionView) {l l' : Link}
      (f : Loraham.Frame) (outcome : TxOutcome) (hgrows : l.Grows l')
      (hframes : l'.frames = l.frames ++ [f]) (hanswer : answer? f = some outcome) :
      BondStep honest ⟨.ready cfg (some seq), v, l⟩
        ⟨.ready cfg none, v.send (XrSession.txResultFrame seq outcome), l'⟩
  | submit (cfg : RadioConfig) (v : SessionView) {l l' : Link} (seq : UInt16) (payload : Bytes)
      (hgrows : (l.step (.submitted payload)).Grows l') (hframes : l'.frames = l.frames) :
      BondStep honest ⟨.ready cfg none, v, l⟩
        ⟨.ready cfg (some seq),
          { v with
            requests := v.requests ++ [payload]
            accepted := v.accepted ++ [(seq, payload)] }, l'⟩
  | refuse (cfg : RadioConfig) (v : SessionView) {l l' : Link} (payload : Bytes)
      (hgrows : l.Grows l' ∨ (l.step (.submitted payload)).Grows l') :
      BondStep honest ⟨.ready cfg none, v, l⟩
        ⟨.closed, { v with requests := v.requests ++ [payload] }, l'⟩
  | close (m : BondMode) (v : SessionView) {l l' : Link} (hgrows : l.Grows l') :
      BondStep honest ⟨m, v, l⟩ ⟨.closed, v, l'⟩
  | reject (m : BondMode) (v : SessionView) (l : Link) (f : Extradio.Frame)
      (hopen : m ≠ .closed) : BondStep honest ⟨m, v, l⟩ ⟨.closed, v.receive f, l⟩

/-- The bonds that can come about. -/
def Bond.Reachable (honest : Prop) (β : Bond) : Prop :=
  ∃ β₀ : Bond, β₀.Opened ∧ ReflTransGen (BondStep honest) β₀ β

/-- A new bond is reachable. -/
theorem Bond.Opened.reachable {β : Bond} (h : β.Opened) (honest : Prop) : β.Reachable honest :=
  ⟨β, h, .refl⟩

/-- A bond one step further is reachable. -/
theorem Bond.Reachable.step {honest : Prop} {β β' : Bond} (h : β.Reachable honest)
    (hstep : BondStep honest β β') : β'.Reachable honest := by
  obtain ⟨β₀, hopened, hsteps⟩ := h
  exact ⟨β₀, hopened, hsteps.tail hstep⟩

/-- What an opened connection has and every step keeps, every bond has. -/
theorem Bond.Reachable.induction {honest : Prop} {P : Bond → Prop}
    (hopened : ∀ β, β.Opened → P β) (hstep : ∀ β β', BondStep honest β β' → P β → P β')
    {β : Bond} (h : β.Reachable honest) : P β := by
  obtain ⟨β₀, hβ₀, hsteps⟩ := h
  induction hsteps with
  | refl => exact hopened _ hβ₀
  | tail _ hlast ih => exact hstep _ _ hlast ih

/-! ## How the backend's steps move the current connection -/

namespace LorahamBackend

/-- The current connection goes on. -/
structure Goes (b b' : LorahamBackend) : Prop where
  trace : b.trace <+: b'.trace
  earlier : earlierLinks b'.trace = earlierLinks b.trace
  grows : (link b.trace).Grows (link b'.trace)

/-- The connection goes on if nothing happens. -/
theorem Goes.refl (b : LorahamBackend) : Goes b b :=
  ⟨List.prefix_rfl, rfl, .refl _⟩

/-- It goes on step after step. -/
theorem Goes.trans {b b' b'' : LorahamBackend} (h : Goes b b') (h' : Goes b' b'') : Goes b b'' :=
  ⟨h.trace.trans h'.trace, h'.earlier.trans h.earlier, h.grows.trans h'.grows⟩

/-- Events that leave packets and commands alone. -/
def Event.plain : Event → Bool
  | .opened _ _ | .submitted _ | .confSent _ => false
  | _ => true

/-- It goes on over events that leave packets and commands alone. -/
theorem Goes.of_append {b b' : LorahamBackend} (events : List Event)
    (htrace : b'.trace = b.trace ++ events) (hplain : ∀ e ∈ events, Event.plain e = true) :
    Goes b b' := by
  have hnot : ∀ e ∈ events, e.isOpened = false := by
    intro e he
    have := hplain e he
    cases e with
    | opened => simp [Event.plain] at this
    | _ => rfl
  refine ⟨by rw [htrace]; exact List.prefix_append _ _,
    by rw [htrace, earlierLinks_append hnot], ?_⟩
  rw [htrace]
  generalize b.trace = trace
  clear htrace
  induction events using List.reverseRecOn with
  | nil => simpa using Link.Grows.refl (link trace)
  | append_singleton events e ih =>
      have hih := ih (fun e he => hplain e (by simp [he])) (fun e he => hnot e (by simp [he]))
      rw [← List.append_assoc, link_append_singleton]
      have he := hplain e (by simp)
      refine hih.trans (.step _ e (hnot e (by simp)) ?_ ?_)
      · rintro p rfl
        simp [Event.plain] at he
      · rintro w rfl
        simp [Event.plain] at he

theorem goes_notify (call : SinkCall) (b : LorahamBackend) : Goes b (b.notify call) := by
  refine .of_append _ rfl ?_
  intro e he
  simp only [List.mem_map] at he
  obtain ⟨id, -, rfl⟩ := he
  rfl

theorem goes_reset (b : LorahamBackend) : Goes b b.resetLinkUnconfigured :=
  .of_append [.closed] rfl (by simp [Event.plain])

theorem goes_enterFault (b : LorahamBackend) : Goes b b.enterFault := by
  have hlog : Goes b (b.logTxOutcome .unconfirmed) := by
    refine .of_append _ rfl ?_
    intro e he
    split at he
    · simp at he
    · simp only [List.mem_singleton] at he
      subst he
      rfl
  exact hlog.trans (.of_append [.closed] rfl (by simp [Event.plain]))

theorem goes_handleDisconnect (b : LorahamBackend) : Goes b b.handleDisconnect := by
  unfold handleDisconnect
  split
  · exact goes_enterFault b
  · exact (goes_enterFault b).trans (goes_notify _ _)
  · exact (goes_reset b).trans (goes_notify _ _)

theorem ConfTaken.goes {b c : LorahamBackend} (h : ConfTaken b c) : Goes b c := by
  rcases h with rfl | ⟨chunk, line, rfl⟩
  · exact .refl _
  · exact .of_append _ rfl (by simp [Event.plain])

/-- The line for an answer leaves packets and commands alone. -/
theorem plain_confirmation (f : Loraham.Frame) (b : LorahamBackend) :
    ∀ e ∈ confirmation f b, Event.plain e = true := by
  unfold confirmation
  split <;> simp [Event.plain]

theorem goes_wrote (b : LorahamBackend) (transport : DaemonTransport) (off : Nat)
    (writes : List Bytes) : Goes b (b.wrote transport off writes) := by
  refine .of_append _ rfl ?_
  intro e he
  simp only [List.mem_map] at he
  obtain ⟨w, -, rfl⟩ := he
  rfl

/-- What follows the submission of a packet. -/
theorem Goes.of_holdTx {b c : LorahamBackend} {data : Bytes} (h : Goes (b.holdTx data) c) :
    b.trace <+: c.trace ∧ earlierLinks c.trace = earlierLinks b.trace ∧
      ((link b.trace).step (.submitted data)).Grows (link c.trace) := by
  have hlink : link (b.holdTx data).trace = (link b.trace).step (.submitted data) := by
    simp [holdTx]
  refine ⟨(List.prefix_append _ _).trans h.trace, ?_, hlink ▸ h.grows⟩
  rw [h.earlier]
  exact earlierLinks_append (by simp [Event.isOpened])

/-- Commands are sent only as long as the replies decide nothing. -/
theorem Requested.goes {b : LorahamBackend} (h : b.Requested) (n : Nat)
    (hleft : b.confOutOff < b.confOut.length) : Goes b (b.sendConf n) := by
  refine ⟨List.prefix_append _ _, earlierLinks_append (by simp [Event.isOpened]), ?_⟩
  have hquiet : ¬ ∃ rest, scanConf true (link b.trace).confReceived = (.status true, rest) := by
    rintro ⟨rest, hrest⟩
    cases hawait : b.awaitingStatus with
    | true =>
        have := (h.await hawait).1
        omega
    | false =>
        rw [(h.before hawait).1, scanConf_of_incomplete rfl] at hrest
        simp at hrest
  have hlink : link (b.sendConf n).trace =
      (link b.trace).step (.confSent ((b.confOut.drop b.confOutOff).take n)) := by
    simp [sendConf_eq]
  rw [hlink]
  exact ⟨rfl, rfl, fun hstatus => absurd hstatus hquiet, List.prefix_rfl, rfl, List.prefix_rfl⟩

/-- The connection goes on over every quiet step. -/
theorem QuietStep.goes {x y : Snapshot} (h : QuietStep x y) (hconfed : x.1.Confed) :
    Goes x.1 y.1 := by
  cases h with
  | answers | connected | confWritten | dataPush | dataDrained | discard =>
      exact .of_append [] (by simp [withParser]) (by simp)
  | confWrite b n hstate hleft =>
      exact ((confed_iff_requested (Or.inr hstate)).mp hconfed).goes n hleft
  | configQuiet | confQuiet | dataWrite | dataWriteLast | dataRead | dataIgnored | dataHeard
  | confDiscard => exact .of_append _ rfl (by simp [Event.plain])
  | dataFenced b unread f rest =>
      exact .of_append _ rfl (by simpa [Event.plain] using plain_confirmation f b)
  | dataCleared b unread f rest =>
      have hdispatched : Goes b
          { b with trace := b.trace ++ (.dispatched f :: confirmation f b) } :=
        .of_append _ rfl (by simpa [Event.plain] using plain_confirmation f b)
      exact hdispatched.trans (goes_reset _)
  | drainLost b | drainExpired b => exact goes_enterFault b

/-- The connection goes on over every step that calls the session. -/
theorem CallStep.goes {call : SinkCall} {x y : Snapshot} (h : CallStep call x y) :
    Goes x.1 y.1 := by
  cases h with
  | configSucceed b chunk rest =>
      have htaken : Goes b (b.takeConf chunk rest) := ConfTaken.goes (Or.inr ⟨chunk, rest, rfl⟩)
      have hready : Goes (b.takeConf chunk rest) (b.takeConf chunk rest).configSucceed :=
        Goes.trans (.of_append [] (by simp) (by simp)) (goes_notify _ _)
      exact htaken.trans hready
  | configFail b c hc => exact hc.goes.trans ((goes_reset c).trans (goes_notify _ _))
  | lost b c unread hc => exact hc.goes.trans (goes_handleDisconnect c)
  | received b unread f rest rx =>
      have hheard : Goes b
          { b with parser := rest, trace := b.trace ++ [.dispatched f, .loggedRx rx] } :=
        .of_append _ rfl (by simp [Event.plain])
      exact hheard.trans (goes_notify _ _)
  | completed b unread f rest outcome =>
      have hheard : Goes b
          { b with
            state := .ready
            parser := rest
            txOut := []
            txOutOff := 0
            trace := b.trace ++ (.dispatched f :: confirmation f b) } :=
        .of_append _ rfl (by simpa [Event.plain] using plain_confirmation f b)
      exact hheard.trans (goes_notify _ _)

/-- A quiet step on a link in use hears nothing, or a frame without consequence. -/
theorem QuietStep.frames {x y : Snapshot} (h : QuietStep x y)
    (hdrain : x.1.state ≠ .draining) (hepoch : x.1.state = .txPending →
      x.1.pendingEpoch = x.1.txEpoch) :
    (link y.1.trace).frames = (link x.1.trace).frames ∨
      ∃ f, y.1.trace = x.1.trace ++ [.dispatched f] ∧ onLink x.1.state = true ∧
        decodeRx f = none ∧ (answer? f = none ∨ x.1.state ≠ .txPending) := by
  cases h with
  | answers | connected | confWritten | dataPush | dataDrained | discard => exact Or.inl rfl
  | confWrite | configQuiet | confQuiet | dataWrite | dataWriteLast | dataRead =>
      exact Or.inl (by simp [sendConf_eq, sendData_eq, Link.step])
  | dataIgnored b unread f rest hlink hpop hrx hanswer =>
      exact Or.inr ⟨f, rfl, hlink, hrx, hanswer.imp_right And.left⟩
  | dataHeard b _ _ _ _ hstate | dataCleared b _ _ _ _ hstate | drainLost b _ hstate
  | drainExpired b hstate | confDiscard b _ hstate => exact absurd hstate hdrain
  | dataFenced b unread f rest outcome hstate hpop hanswer hne =>
      exact absurd (hepoch hstate) hne

/-- A received packet is a frame of the connection. -/
theorem CallStep.onRx_frames {rx : RxEvent} {x y : Snapshot} (h : CallStep (.onRx rx) x y) :
    rxOk x.1.state = true ∧
      ∃ f, (link y.1.trace).frames = (link x.1.trace).frames ++ [f] ∧ decodeRx f = some rx := by
  cases h with
  | received b unread f rest _ hstate hpop hrx =>
      exact ⟨hstate, f, by simp [link_append, Link.step], hrx⟩

/-- A completed transmission is a terminal frame of the connection. -/
theorem CallStep.onTxComplete_frames {outcome : TxOutcome} {x y : Snapshot}
    (h : CallStep (.onTxComplete outcome) x y) :
    x.1.state = .txPending ∧
      ∃ f, (link y.1.trace).frames = (link x.1.trace).frames ++ [f] ∧
        answer? f = some outcome := by
  cases h with
  | completed b unread f rest _ hstate hpop hanswer =>
      exact ⟨hstate, f, by simp [Link.step], hanswer⟩

/-- The end of a configuration, and what a success leaves behind. -/
theorem CallStep.onConfigureComplete_state {token : UInt32} {res : ConfigureResult}
    {x y : Snapshot} (h : CallStep (.onConfigureComplete token res) x y) :
    (x.1.state = .connecting ∨ x.1.state = .configuring) ∧ token = x.1.configToken ∧
      (res.applied = true → y.1.state = .ready ∧ y.1.pendingCfg = x.1.pendingCfg ∧
        (link y.1.trace).frames = (link x.1.trace).frames) := by
  cases h with
  | configSucceed b chunk rest hstate =>
      exact ⟨Or.inr hstate, rfl, fun _ => ⟨rfl, rfl, by simp [Link.step]⟩⟩
  | configFail b c hc hstate =>
      exact ⟨hstate, rfl, fun happlied => by simp [ConfigureResult.failed] at happlied⟩

end LorahamBackend

end LorahamBridge
