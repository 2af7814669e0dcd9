import LorahamBridge.Bridge.BondRefinement

/-!
# What a session is offered

A frame that the backend takes off a connection may be meant for the session that
owns it, and then a callback hands it over.  Whatever the frames and callbacks in
question are, a session is offered all of them in their order, unless it has given
the connection up.

Main results:

- Definition `Offering`: the frames and the callbacks in question.
- Theorem `run_heard`: the session of every reachable state was offered all of them.
-/

namespace LorahamBridge

open Foundation Extradio LorahamBackend

/-! ## Offers -/

/-- What is read from frames, and what callbacks carry.  Only a callback may take
something off a connection in use, as long as the daemon does as `assumed`. -/
structure Offering (α : Type) where
  pick : SinkCall → Option α
  take : Loraham.Frame → Option α
  assumed : List Event → Prop
  mono : ∀ {trace more}, trace <+: more → assumed more → assumed trace
  quiet : ∀ {s b unread b' unread'}, Coupled s b → Sound (b, unread) → b.state ≠ .draining →
    QuietStep (b, unread) (b', unread') → assumed b'.trace →
    (link b'.trace).frames.filterMap take = (link b.trace).frames.filterMap take
  call : ∀ {call x y}, CallStep call x y →
    (link y.1.trace).frames.filterMap take =
      (link x.1.trace).frames.filterMap take ++ (pick call).toList

/-- What the callbacks of a history carry, in order. -/
def offered {α : Type} (pick : SinkCall → Option α) (log : List SessionEvent) : List α :=
  log.filterMap fun
    | .callback call => pick call
    | _ => none

/-- A quiet step does not begin to drain. -/
theorem LorahamBackend.QuietStep.not_draining {x y : Snapshot} (h : QuietStep x y)
    (hdrain : x.1.state ≠ .draining) : y.1.state ≠ .draining := by
  cases h with
  | connected | dataWriteLast | dataFenced => simp
  | dataHeard _ _ _ _ _ hstate | dataCleared _ _ _ _ _ hstate | drainLost _ _ hstate
  | drainExpired _ hstate | confDiscard _ _ hstate => exact absurd hstate hdrain
  | _ => exact hdrain

/-- While it drains the backend calls nobody. -/
theorem LorahamBackend.CallStep.not_draining {call : SinkCall} {x y : Snapshot}
    (h : CallStep call x y) : y.1.state ≠ .draining := by
  cases h with
  | lost b c => rcases handleDisconnect_state c with hs | hs <;> simp [hs]
  | received b unread f rest rx hstate =>
      intro hdrain
      simp [show b.state = _ from hdrain, rxOk] at hstate
  | _ => rintro ⟨⟩

/-! ## Session steps -/

section Outcomes

variable {α : Type} {pick : SinkCall → Option α} {env : XrEnv} {now : Nat} {f : Frame}
  {s s' : XrSession} {b b' : LorahamBackend}

theorem offered_append (log events : List SessionEvent) :
    offered pick (log ++ events) = offered pick log ++ offered pick events :=
  List.filterMap_append

/-- Emitted frames offer nothing. -/
theorem offered_emitted (frames : List Frame) :
    offered pick (frames.map SessionEvent.emitted) = [] := by
  simp [offered, List.filterMap_map]

/-- A callback makes its own offer. -/
theorem offered_callback (call : SinkCall) :
    offered pick [.callback call] = (pick call).toList := by
  cases h : pick call <;> simp [offered, h]

/-- A client frame is no offer. -/
theorem XrSession.FrameOutcome.offered (pick : SinkCall → Option α)
    (h : XrSession.FrameOutcome lorahamRadio env now f s b (s', b')) :
    offered pick s'.log = offered pick s.log ∧
      (.abandonCalled ∈ s'.log ↔ .abandonCalled ∈ s.log) := by
  cases h <;>
    simp only [shut, arm, queue, record, acceptPong, offered_append, offered_emitted] <;>
    simp [LorahamBridge.offered]

/-- A callback adds its offer to the history, whatever the session does with it. -/
theorem XrSession.CallOutcome.offered (pick : SinkCall → Option α) {call : SinkCall}
    (h : XrSession.CallOutcome env now s call s') :
    offered pick s'.log = offered pick s.log ++ (pick call).toList ∧
      (.abandonCalled ∈ s'.log ↔ .abandonCalled ∈ s.log) := by
  cases h <;>
    simp only [shut, enterReady, queue, record, offered_append, offered_emitted,
      offered_callback] <;>
    simp [LorahamBridge.offered]

/-- The backend has opened a new connection. -/
def Reopened (b b' : LorahamBackend) : Prop :=
  (link b'.trace).owner = b.sink ∧ (link b'.trace).frames = [] ∧ b'.state ≠ .draining

/-- The backend has its connection, and has taken no frame off it. -/
def SameFrames (b b' : LorahamBackend) : Prop :=
  (link b'.trace).owner = (link b.trace).owner ∧ (link b'.trace).frames = (link b.trace).frames ∧
    (b'.state = .draining → b.state = .draining)

theorem SameFrames.refl (b : LorahamBackend) : SameFrames b b :=
  ⟨rfl, rfl, fun h => h⟩

/-- A request to configure opens a new connection or leaves the present one alone. -/
theorem LorahamBackend.BeganConfigure.reopened {requested : RadioConfig}
    {r : UInt32 × LorahamBackend} (h : BeganConfigure requested b r) :
    Reopened b r.2 ∨ SameFrames b r.2 := by
  cases h with
  | refused => exact Or.inr (.refl b)
  | unreachable => exact Or.inr ⟨by simp [Link.step], by simp [Link.step], fun h => h⟩
  | opened =>
      exact Or.inl ⟨by simp [openLink, Link.step], by simp [openLink, Link.step, Link.none],
        by rintro ⟨⟩⟩

/-- A request to transmit takes no frame off the connection. -/
theorem LorahamBackend.SubmittedTx.sameFrames {data : Bytes} {r : Bool × LorahamBackend}
    (h : SubmittedTx data b r) : SameFrames b r.2 := by
  cases h with
  | refused => exact .refl b
  | failed => exact ⟨by simp [holdTx, Link.step], by simp [holdTx, Link.step], by rintro ⟨⟩⟩
  | accepted _ _ _ state _ _ _ hnext =>
      refine ⟨by simp [holdTx, Link.step], by simp [holdTx, Link.step], ?_⟩
      rcases hnext with rfl | rfl <;> simp

/-- A client frame opens a connection, or takes no frame off the current one. -/
theorem XrSession.FrameOutcome.reopened
    (h : XrSession.FrameOutcome lorahamRadio env now f s b (s', b')) :
    (s.phase = .waitConfigure ∧ Reopened b b') ∨ SameFrames b b' := by
  cases h with
  | configRefused _ _ _ requested _ hphase _ hbackend
  | configStarted requested _ _ hphase _ _ hbackend =>
      have hlink := (beginConfigure_cases requested b).reopened
      change b.beginConfigure requested = _ at hbackend
      rw [hbackend] at hlink
      exact hlink.imp_left fun h => ⟨hphase, h⟩
  | submitRefused _ _ _ _ _ hbackend | submitted _ _ _ _ _ hbackend =>
      have hlink := (submitTx_cases f.payload b).sameFrames
      change b.submitTx f.payload = _ at hbackend
      rw [hbackend] at hlink
      exact Or.inr hlink
  | _ => exact Or.inr (.refl b)

/-- Handling a frame only adds to the backend's history. -/
theorem XrSession.FrameOutcome.trace_append
    (h : XrSession.FrameOutcome lorahamRadio env now f s b (s', b')) : b.trace <+: b'.trace :=
  h.micros.keep (I := fun x => b.trace <+: x.1.trace)
    (fun _ _ hstep hle => hle.trans hstep.trace_append) List.prefix_rfl

end Outcomes

/-! ## Every offer is made -/

/-- Everything on its connection has been offered to the session, unless it gave the
connection up. -/
structure Heard {α : Type} (O : Offering α) (s : XrSession) (b : LorahamBackend) : Prop where
  own : O.assumed b.trace → (link b.trace).owner = some s.id → .abandonCalled ∉ s.log →
    offered O.pick s.log = (link b.trace).frames.filterMap O.take
  drain : (link b.trace).owner = some s.id → b.state = .draining → .abandonCalled ∈ s.log
  foreign : (link b.trace).owner ≠ some s.id → offered O.pick s.log = []

/-- What offers nothing and takes no frame off the connection keeps the account. -/
theorem Heard.same {α : Type} {O : Offering α} {s s' : XrSession} {b b' : LorahamBackend}
    (h : Heard O s b) (hid : s'.id = s.id)
    (hoffered : offered O.pick s'.log = offered O.pick s.log ∧
      (.abandonCalled ∈ s'.log ↔ .abandonCalled ∈ s.log))
    (htrace : b.trace <+: b'.trace) (hlink : SameFrames b b') : Heard O s' b' where
  own := by
    rw [hid, hlink.1, hlink.2.1, hoffered.1, hoffered.2]
    exact fun hassumed => h.own (O.mono htrace hassumed)
  drain := by
    rw [hid, hlink.1, hoffered.2]
    exact fun howner hstate => h.drain howner (hlink.2.2 hstate)
  foreign := by
    rw [hid, hlink.1, hoffered.1]
    exact h.foreign

/-- Numbers of past sessions are below the next one. -/
theorem Numbered.id_lt {past : List XrSession} (h : Numbered past) {t : XrSession} (ht : t ∈ past) :
    t.id < past.length := by
  have hmem := List.mem_map_of_mem (f := XrSession.id) ht
  rwa [h.eq, List.mem_range] at hmem

/-- A new session does not own the connection it finds. -/
theorem owner_ne_of_attributed {past : List XrSession} {b : LorahamBackend}
    (hnumbered : Numbered past)
    (h : ∀ honest, Honest honest b.trace → ∀ l ∈ links b.trace, Attributed honest past l) :
    (link b.trace).owner ≠ some past.length := by
  rcases h False False.elim _ (mem_links.mpr (Or.inr rfl)) with hl | ⟨t, ht, howner, -⟩
  · simp [hl.1]
  · have hlt := hnumbered.id_lt ht
    rw [howner, Ne, Option.some.injEq]
    omega

/-- Every session is offered what comes in on its own connection. -/
def heard {α : Type} (O : Offering α) (env : BridgeEnv) : Extension (bonds env).toInvariant where
  idle _ _ _ := True
  active _ s b _ := Heard O s b
  initial := trivial
  idle_environment _ _ _ := trivial
  active_environment _ _ h := ⟨h.own, h.drain, h.foreign⟩
  idle_poll _ _ _ := trivial
  quiet_poll := by
    intro past s b unread b' unread' hC h hstep
    have hgoes : Goes b b' := hstep.goes hC.1.2.confed
    have howner := hgoes.grows.owner
    by_cases hdrain : b.state = .draining
    · have hgiven : (link b'.trace).owner = some s.id → .abandonCalled ∈ s.log :=
        fun hown => h.drain (howner ▸ hown) hdrain
      exact ⟨fun _ hown hnot => absurd (hgiven hown) hnot, fun hown _ => hgiven hown,
        fun hne => h.foreign (howner ▸ hne)⟩
    · refine ⟨fun hassumed => ?_, fun _ hstate => absurd hstate (hstep.not_draining hdrain),
        fun hne => h.foreign (howner ▸ hne)⟩
      rw [howner, O.quiet hC.1.1.2.2 hC.1.2 hdrain hstep hassumed]
      exact h.own (O.mono hgoes.trace hassumed)
  call_poll := by
    intro past s b unread b' unread' call s' hC h hstep hout
    rcases hC.2.session with hf | ho
    · exact absurd hf.parked hstep.not_parked
    obtain ⟨hoffered, habandoned⟩ := hout.offered O.pick
    have hgoes : Goes b b' := hstep.goes
    have howner : (link b'.trace).owner = some s'.id := by
      rw [hout.id, ← ho.owner]
      exact hgoes.grows.owner
    refine ⟨fun hassumed _ hgiven => ?_, fun _ hstate => absurd hstate hstep.not_draining,
      fun hne => absurd howner hne⟩
    have hbefore := h.own (O.mono hgoes.trace hassumed) ho.owner (mt habandoned.mpr hgiven)
    rw [hoffered, hbefore, O.call hstep]
  accept _ hC _ := by
    have howner := owner_ne_of_attributed hC.1.1.1 hC.2.links
    exact ⟨fun _ h => absurd h howner, fun h => absurd h howner, fun _ => rfl⟩
  parser _ h := ⟨h.own, h.drain, h.foreign⟩
  parserError _ h _ := h.same rfl (by simp [XrSession.shut, offered]) List.prefix_rfl (.refl _)
  frame := by
    intro past s b f s' b' hC h hopen hout
    have hoffered := hout.offered O.pick
    rcases hout.reopened with ⟨hphase, howner, hframes, hnot⟩ | hlink
    · have hforeign : offered O.pick s.log = [] := by
        rcases hC.2.session with hf | ho
        · exact h.foreign (hC.1.1.2.1 ▸ owner_ne_of_attributed hC.1.1.1 hf.links)
        · rcases ho.phase with hs | hs | hs <;> simp [hs] at hphase
      have hown : (link b'.trace).owner = some s'.id := by
        rw [howner, hout.id]
        exact hC.1.1.2.2.sink
      refine ⟨fun _ _ _ => ?_, fun _ hstate => absurd hstate hnot, fun hne => absurd hown hne⟩
      rw [hoffered.1, hforeign, hframes]
      rfl
    · exact h.same hout.id hoffered hout.trace_append hlink
  tick := by
    intro past s b s' b' hC h hout
    cases hout with
    | quiet => exact h
    | expired =>
        exact h.same rfl (by simp [XrSession.shut, offered]) List.prefix_rfl (.refl _)
    | pinged =>
        exact h.same rfl (by simp [XrSession.queue, offered]) List.prefix_rfl (.refl _)
    | abandoned =>
        have howner := (goes_abandonPendingTx b).grows.owner
        have hgiven : SessionEvent.abandonCalled ∈
            ((s.record .abandonCalled).shut .txTimeoutUncertain).log := by
          simp [XrSession.shut, XrSession.record]
        refine ⟨fun _ _ hnot => absurd hgiven hnot, fun _ _ => hgiven, fun hne => ?_⟩
        have hforeign := h.foreign fun hown => hne (howner.trans hown)
        simpa [XrSession.shut, XrSession.record, offered_append, offered] using hforeign
  consume _ h := ⟨h.own, h.drain, h.foreign⟩
  teardown _ _ := trivial

/-- The account of offers in every run. -/
theorem run_heard {α : Type} (O : Offering α) (env : BridgeEnv) (ops : List XrServer.Op)
    {c : XrConnection} (hconn : (XrServer.run env ops).conn = some c) :
    Heard O c.session (XrServer.run env ops).backend := by
  have h := (heard O env).toInvariant.run ops
  unfold Invariant.holds at h
  rw [hconn] at h
  exact h.2

end LorahamBridge
