import LorahamBridge.Bridge.Bond
import LorahamBridge.Bridge.Coupling

/-!
# The bridge refines the bond machine

Every daemon connection belongs to the session that opened it, and the two move
together as the bond machine says, while the session is open, after it has closed,
and after its client is gone.

Main results:

- Definition `bonds`: the invariant, with every step it survives.
- Theorems `run_own`, `run_link_bond` and `run_session_bond`: the bonds in every
  reachable state.
-/

namespace LorahamBridge

open Foundation Extradio LorahamBackend XrSession

/-! ## The invariant -/

/-- The mode a session is in. -/
def modeOf (s : XrSession) : BondMode :=
  match s.phase with
  | .configuring => .configuring s.requestedCfg
  | .ready => .ready s.appliedCfg (if s.txInFlight then some s.txSeq else none)
  | _ => .closed

/-- A session with the current connection. -/
def bond (s : XrSession) (b : LorahamBackend) : Bond :=
  ⟨modeOf s, view s.log, link b.trace⟩

/-- The mode of a session that waits for the radio. -/
theorem modeOf_configuring {s : XrSession} (h : s.phase = .configuring) :
    modeOf s = .configuring s.requestedCfg := by
  rw [modeOf, h]

/-- The mode of a session in operation. -/
theorem modeOf_ready {s : XrSession} {flight : Option UInt16} (h : s.phase = .ready)
    (hflight : (if s.txInFlight then some s.txSeq else none) = flight) :
    modeOf s = .ready s.appliedCfg flight := by
  rw [modeOf, h, ← hflight]

/-- The mode of a closed session. -/
theorem modeOf_closed {s : XrSession} (h : s.phase = .closed) : modeOf s = .closed := by
  rw [modeOf, h]

/-- If the daemon is honest, it has been so far. -/
def Honest (honest : Prop) (trace : List Event) : Prop :=
  honest → ∃ answered, Obedient answered trace

/-- The daemon has been honest before if it is honest now. -/
theorem Honest.mono {honest : Prop} {trace more : List Event} (h : Honest honest more)
    (hle : trace <+: more) : Honest honest trace :=
  fun hp => (h hp).imp fun _ hobedient => hobedient.mono hle

/-- A connection belongs to a session of the past. -/
def Attributed (honest : Prop) (past : List XrSession) (l : Link) : Prop :=
  l.Unopened ∨
    ∃ s ∈ past, l.owner = some s.id ∧ Bond.Reachable honest ⟨.closed, view s.log, l⟩

/-- A connection that goes on keeps its session. -/
theorem Attributed.grows {honest : Prop} {past : List XrSession} {l l' : Link}
    (h : Attributed honest past l) (hgrows : l.Grows l') : Attributed honest past l' := by
  refine h.imp (fun hl => hl.grows hgrows) ?_
  rintro ⟨s, hs, howner, hbond⟩
  exact ⟨s, hs, hgrows.owner.trans howner, hbond.step (.close .closed _ hgrows)⟩

/-- Sessions of the past stay in the past. -/
theorem Attributed.append {honest : Prop} {past : List XrSession} {l : Link}
    (h : Attributed honest past l) (s : XrSession) : Attributed honest (past ++ [s]) l :=
  h.imp_right fun ⟨t, ht, hrest⟩ => ⟨t, by simp [ht], hrest⟩

/-- A session that has something to show for a radio link has opened one. -/
def Linked (s : XrSession) (trace : List Event) : Prop :=
  (view s.log).Blank ∨ ∃ l ∈ links trace, l.owner = some s.id

/-- A session that owns no connection. -/
structure Foreign (past : List XrSession) (s : XrSession) (b : LorahamBackend) : Prop where
  parked : Parked b.state
  phase : ((s.phase = .waitHello ∨ s.phase = .waitAuth ∨ s.phase = .waitConfigure) ∧
    view s.log = .empty) ∨ (s.phase = .closed ∧ (view s.log).Blank)
  links : ∀ honest, Honest honest b.trace → ∀ l ∈ links b.trace, Attributed honest past l

/-- A session that owns the current connection. -/
structure Own (past : List XrSession) (s : XrSession) (b : LorahamBackend) : Prop where
  owner : (link b.trace).owner = some s.id
  phase : s.phase = .configuring ∨ s.phase = .ready ∨ s.phase = .closed
  earlier : ∀ honest, Honest honest b.trace → ∀ l ∈ earlierLinks b.trace,
    Attributed honest past l
  bond : ∀ honest, Honest honest b.trace → (bond s b).Reachable honest

section Moves

variable {past : List XrSession} {s s' : XrSession} {b b' : LorahamBackend}

/-- A connection is an earlier one or the present one. -/
theorem mem_links {trace : List Event} {l : Link} :
    l ∈ links trace ↔ l ∈ earlierLinks trace ∨ l = link trace := by
  simp [links_eq]

/-- The session keeps the connection it is linked to while it goes on. -/
theorem Linked.goes (h : Linked s b.trace) (hgoes : Goes b b') : Linked s b'.trace := by
  refine h.imp_right ?_
  rintro ⟨l, hl, howner⟩
  rcases mem_links.mp hl with hl | rfl
  · exact ⟨l, mem_links.mpr (Or.inl (by rwa [hgoes.earlier])), howner⟩
  · exact ⟨link b'.trace, mem_links.mpr (Or.inr rfl), by rw [hgoes.grows.owner, howner]⟩

/-- The connections of the past go on without their sessions. -/
theorem attributed_goes (hgoes : Goes b b')
    (h : ∀ honest, Honest honest b.trace → ∀ l ∈ links b.trace, Attributed honest past l) :
    ∀ honest, Honest honest b'.trace → ∀ l ∈ links b'.trace, Attributed honest past l := by
  intro honest hhonest l hl
  have hold := h honest (hhonest.mono hgoes.trace)
  rcases mem_links.mp hl with hl | rfl
  · exact hold l (mem_links.mpr (Or.inl (by rwa [← hgoes.earlier])))
  · exact (hold _ (mem_links.mpr (Or.inr rfl))).grows hgoes.grows

/-- A session without a connection owns none while the one of an earlier session goes on. -/
theorem Foreign.goes (h : Foreign past s b) (hgoes : Goes b b') (hparked : Parked b'.state) :
    Foreign past s b' :=
  ⟨hparked, h.phase, attributed_goes hgoes h.links⟩

/-- A session that owns no connection closes. -/
theorem Foreign.close (h : Foreign past s b) (hphase : s'.phase = .closed)
    (hblank : (view s.log).Blank → (view s'.log).Blank) : Foreign past s' b := by
  refine ⟨h.parked, Or.inr ⟨hphase, hblank ?_⟩, h.links⟩
  rcases h.phase with ⟨-, hview⟩ | ⟨-, hblank⟩
  · rw [hview]
    exact ⟨rfl, rfl, rfl, rfl⟩
  · exact hblank

/-- The general step of a session with its own connection. -/
theorem Own.next {m m' : BondMode} {v : SessionView} (h : Own past s b)
    (htrace : b.trace <+: b'.trace) (hearlier : earlierLinks b'.trace = earlierLinks b.trace)
    (howner : (link b'.trace).owner = (link b.trace).owner) (hid : s'.id = s.id)
    (hphase : s'.phase = .configuring ∨ s'.phase = .ready ∨ s'.phase = .closed)
    (hmode : modeOf s = m) (hmode' : modeOf s' = m') (hview : view s'.log = v)
    (hstep : ∀ honest, Honest honest b'.trace →
      BondStep honest ⟨m, view s.log, link b.trace⟩ ⟨m', v, link b'.trace⟩) :
    Own past s' b' where
  owner := by rw [howner, h.owner, hid]
  phase := hphase
  earlier honest hhonest := by
    rw [hearlier]
    exact h.earlier honest (hhonest.mono htrace)
  bond honest hhonest := by
    have hbond := h.bond honest (hhonest.mono htrace)
    rw [LorahamBridge.bond, hmode] at hbond
    rw [LorahamBridge.bond, hmode', hview]
    exact hbond.step (hstep honest hhonest)

/-- A step that keeps mode and view while the connection grows. -/
theorem Own.carry (h : Own past s b) (hgoes : Goes b b')
    (hframes : (link b'.trace).frames = (link b.trace).frames) : Own past s b' :=
  h.next hgoes.trace hgoes.earlier hgoes.grows.owner rfl h.phase rfl rfl rfl
    fun _ _ => .carry _ _ hgoes.grows hframes

/-- A step of the session alone that keeps mode and view. -/
theorem Own.same (h : Own past s b) (hid : s'.id = s.id) (hphase : s'.phase = s.phase)
    (hmode : modeOf s' = modeOf s) (hview : view s'.log = view s.log) : Own past s' b :=
  h.next List.prefix_rfl rfl rfl hid (by rw [hphase]; exact h.phase) rfl hmode hview
    fun _ _ => .carry _ _ (.refl _) rfl

/-- The session closes, or is closed already, while the connection grows. -/
theorem Own.close (h : Own past s b) (hgoes : Goes b b') (hid : s'.id = s.id)
    (hphase : s'.phase = .closed) (hview : view s'.log = view s.log) : Own past s' b' :=
  h.next hgoes.trace hgoes.earlier hgoes.grows.owner hid (Or.inr (Or.inr hphase)) rfl
    (modeOf_closed hphase) hview fun _ _ => .close _ _ hgoes.grows

end Moves

/-! ## Poll steps -/

section Poll

variable {past : List XrSession} {s s' : XrSession} {b b' : LorahamBackend}
  {unread unread' : Option Bytes}

/-- The states behind an open session with its own connection. -/
theorem Coupled.rxOk_of_ready (h : Coupled s b) (hphase : s.phase = .ready) :
    rxOk b.state = true := by
  cases hflight : s.txInFlight with
  | false => simp [h.idle hphase hflight, rxOk]
  | true => rcases h.busy hphase hflight with hs | hs <;> simp [hs, rxOk]

/-- While a session waits for the radio nothing can be transmitted. -/
theorem Coupled.not_onLink_of_configuring (h : Coupled s b) (hphase : s.phase = .configuring) :
    onLink b.state = false := by
  rcases (h.configuring hphase).1 with hs | hs <;> simp [hs, onLink, rxOk]

/-- An unasked terminal frame contradicts an honest daemon. -/
theorem answer?_of_honest {honest : Prop} {f : Loraham.Frame} (hsound : Sound (b, unread))
    (hsound' : Sound (b', unread')) (htrace : b'.trace = b.trace ++ [.dispatched f])
    (hstate : b.state = .ready ∨ b.state = .txWriting) (hhonest : Honest honest b'.trace) :
    honest → answer? f = none := by
  intro hp
  obtain ⟨answered, hobedient⟩ := hhonest hp
  have htally := hsound.tally answered (hobedient.mono (by rw [htrace]; exact List.prefix_append _ _))
  have hdispatches := hsound'.dispatches
  simp only [htrace] at hobedient hdispatches
  refine htally.unsolicited ?_ hsound.streams hdispatches hobedient
  rcases hstate with hs | hs
  · exact Or.inl (by simp [custody, hs])
  · exact Or.inr ⟨b.txOut, b.txOutOff, by simp [custody, hs]⟩

/-- A session's own connection stays in refinement over every quiet step. -/
theorem Own.quiet (h : Own past s b) (hc : Coupled s b) (hsound : Sound (b, unread))
    (hstep : QuietStep (b, unread) (b', unread')) : Own past s b' := by
  have hgoes : Goes b b' := hstep.goes hsound.confed
  have hsound' : Sound (b', unread') := (Micro.poll (.quiet hstep)).sound hsound
  rcases h.phase with hphase | hphase | hphase
  · have hlink := hc.not_onLink_of_configuring hphase
    rcases hstep.frames (fun hs => by simp [show b.state = _ from hs, onLink] at hlink)
      (fun hs => by simp [show b.state = _ from hs, onLink, rxOk] at hlink) with
      hframes | ⟨f, -, honLink, -⟩
    · exact h.carry hgoes hframes
    · simp [hlink] at honLink
  · have hrx := hc.rxOk_of_ready hphase
    rcases hstep.frames (fun hs => by simp [show b.state = _ from hs, rxOk] at hrx)
      (fun hs => hc.epoch (Or.inr hs)) with hframes | ⟨f, htrace, -, hnorx, hanswer⟩
    · exact h.carry hgoes hframes
    · have htrace : b'.trace = b.trace ++ [.dispatched f] := htrace
      have hframes : (link b'.trace).frames = (link b.trace).frames ++ [f] := by
        rw [htrace, link_append_singleton]
        rfl
      refine h.next hgoes.trace hgoes.earlier hgoes.grows.owner rfl h.phase
        (modeOf_ready hphase rfl) (modeOf_ready hphase rfl) rfl ?_
      intro honest hhonest
      refine .ignore _ _ _ f hgoes.grows hframes (by simp [hnorx]) ?_
      rcases hanswer with hanswer | hpending
      · exact fun _ => hanswer
      · refine answer?_of_honest hsound hsound' htrace ?_ hhonest
        have hpending : b.state ≠ .txPending := hpending
        cases hs : b.state <;> simp_all [rxOk]
  · exact h.close hgoes rfl hphase rfl

/-- An open session with its own connection ignores only unacceptable packets. -/
theorem Own.unacceptable_of_ignores {call : SinkCall} (h : Own past s b) (hc : Coupled s b)
    (hopen : s.phase ≠ .closed) (hstep : CallStep call (b, unread) (b', unread'))
    (hignores : s.ignores call = true) :
    s.phase = .ready ∧ ∃ rx, call = .onRx rx ∧ rxPayloadAcceptable rx.data.length = false := by
  cases call with
  | onRx rx =>
      have hstate := hstep.onRx_frames.1
      have hphase : s.phase = .ready := by
        rcases h.phase with hphase | hphase | hphase
        · have hlink := hc.not_onLink_of_configuring hphase
          simp [onLink_of_rxOk hstate] at hlink
        · exact hphase
        · exact absurd hphase hopen
      exact ⟨hphase, rx, rfl, by simpa [ignores, hphase] using hignores⟩
  | onTxComplete outcome =>
      rcases hc.in_flight_or_closed (Or.inr hstep.onTxComplete_frames.1) with ⟨-, hflight⟩ | hclosed
      · simp [ignores, hflight] at hignores
      · exact absurd hclosed hopen
  | onBackendFailure => exact absurd (by simpa [ignores] using hignores) hopen
  | onConfigureComplete token res =>
      obtain ⟨hstate, htoken, -⟩ := hstep.onConfigureComplete_state
      rcases hc.configuring_or_closed hstate with hphase | hclosed
      · have := (hc.configuring hphase).2.1
        simp only at htoken
        simp [ignores, hphase, htoken, this] at hignores
      · exact absurd hclosed hopen

/-- A step that calls the session, with what the session makes of it, keeps its own connection
in refinement. -/
theorem Own.call {call : SinkCall} {env : XrEnv} {now : Nat} (h : Own past s b)
    (hc : Coupled s b) (hsound : Sound (b, unread))
    (hstep : CallStep call (b, unread) (b', unread'))
    (hout : CallOutcome env now s call s') : Own past s' b' := by
  have hgoes : Goes b b' := hstep.goes
  have hsound' : Sound (b', unread') := (Micro.poll (.call hstep)).sound hsound
  cases hout with
  | ignored _ hignores =>
      by_cases hclosed : s.phase = .closed
      · exact h.close hgoes rfl hclosed (by simp [SessionView.step])
      · obtain ⟨hphase, rx, rfl, hreject⟩ :=
          h.unacceptable_of_ignores hc hclosed hstep hignores
        obtain ⟨-, f, hframes, hrx⟩ := hstep.onRx_frames
        refine h.next hgoes.trace hgoes.earlier hgoes.grows.owner rfl (Or.inr (Or.inl hphase))
          (modeOf_ready hphase rfl) (modeOf_ready hphase rfl) (view_record _ _) fun _ _ => ?_
        refine .ignore _ _ _ f hgoes.grows hframes ?_ fun _ => answer?_of_decodeRx hrx
        intro rx' hrx'
        obtain rfl : rx = rx' := Option.some.inj (hrx.symm.trans hrx')
        exact hreject
  | failed | rxOverflow | completeOverflow | configOverflow =>
      exact h.close hgoes rfl rfl (by simp [SessionView.step])
  | configFailed _ _ _ frames _ _ _ hframes =>
      refine h.close hgoes rfl rfl ?_
      rcases hframes with rfl | rfl <;>
        simp [SessionView.step, SessionView.send, isGrant, cfgUnsupported, cfgOk]
  | forwarded rx _ hphase haccept =>
      obtain ⟨-, f, hframes, hrx⟩ := hstep.onRx_frames
      exact h.next hgoes.trace hgoes.earlier hgoes.grows.owner rfl (Or.inr (Or.inl hphase))
        (modeOf_ready hphase rfl) (modeOf_ready hphase rfl) (by simp [SessionView.step])
        fun _ _ => .forward _ _ _ f rx hgoes.grows hframes hrx haccept
  | completed outcome _ hphase hflight =>
      obtain ⟨-, f, hframes, hanswer⟩ := hstep.onTxComplete_frames
      exact h.next hgoes.trace hgoes.earlier hgoes.grows.owner rfl (Or.inr (Or.inl hphase))
        (modeOf_ready hphase (if_pos hflight)) (modeOf_ready hphase rfl)
        (by simp [SessionView.step])
        fun _ _ => .result _ _ _ f outcome hgoes.grows hframes hanswer
  | configured token res _ hphase htoken happlied heffective =>
      obtain ⟨-, -, hstate⟩ := hstep.onConfigureComplete_state
      obtain ⟨hready, hcfg, hframes⟩ := hstate happlied
      have hidle := hc.not_flight_of_not_ready (by simp [hphase])
      have hconfigured : Configured (link b'.trace) s.requestedCfg := by
        have hlink : onLink b'.state = true := by
          simp [show b'.state = .ready from hready, onLink, rxOk]
        have := (confed_iff_configured hlink).mp hsound'.confed
        rwa [show b'.pendingCfg = b.pendingCfg from hcfg, ← (hc.configuring hphase).2.2] at this
      rw [← heffective] at hconfigured
      refine h.next (v := (view s.log).send (configOkFrame res.effective)) hgoes.trace
        hgoes.earlier hgoes.grows.owner rfl (Or.inr (Or.inl rfl)) (modeOf_configuring hphase)
        (modeOf_ready rfl (if_neg ?_)) ?_ fun _ _ => ?_
      · change ¬ s.txInFlight = true
        simp [hidle]
      · simp [enterReady, SessionView.step]
      · rw [← heffective]
        exact .grant _ _ hgoes.grows hframes hconfigured

end Poll

/-! ## The session's own steps -/

section Session

variable {past : List XrSession} {s s' : XrSession} {b b' : LorahamBackend} {env : XrEnv}
  {now : Nat} {f : Frame}

/-- Receiving frames grants nothing and transmits nothing. -/
theorem SessionView.Blank.receive {v : SessionView} (h : v.Blank) (f : Frame) :
    (v.receive f).Blank := by
  unfold SessionView.receive
  split <;> exact h

/-- A new connection of the session. -/
theorem Foreign.opened (h : Foreign past s b) (hc : Coupled s b) {requested : RadioConfig}
    {band : Loraham.Band} {setCmd : Bytes} {transport : DaemonTransport} (hid : s'.id = s.id)
    (hphase : s'.phase = .configuring ∨ s'.phase = .closed)
    (hcfg : s'.phase = .configuring → s'.requestedCfg = requested)
    (hview : view s'.log = { SessionView.empty with configures := [packConfig requested] }) :
    Own past s' (openLink requested band setCmd { b with transport := transport }) := by
  have hlink : link (openLink requested band setCmd { b with transport := transport }).trace =
      { Link.none with owner := b.sink, band := some band } := by
    simp [openLink, Link.step]
  refine ⟨by rw [hlink]; exact hid ▸ hc.sink, by tauto, ?_, ?_⟩
  · intro honest hhonest
    simp only [openLink, earlierLinks_opened]
    exact h.links honest (hhonest.mono (List.prefix_append _ _))
  · intro honest _
    have hopened : Bond.Opened ⟨.configuring requested, view s'.log,
        { Link.none with owner := b.sink, band := some band }⟩ := by
      rw [hview]
      exact ⟨⟨requested, rfl, rfl⟩, rfl, ⟨rfl, rfl, rfl, rfl⟩, rfl, rfl⟩
    rw [LorahamBridge.bond, hlink]
    rcases hphase with hphase | hphase
    · rw [modeOf_configuring hphase, hcfg hphase]
      exact hopened.reachable honest
    · rw [modeOf_closed hphase]
      exact (hopened.reachable honest).step (.close _ _ (.refl _))

/-- The view behind a received `CONFIGURE`. -/
theorem receive_configure {requested : RadioConfig} (h : decodeConfig f = some requested) :
    SessionView.empty.receive f =
      { SessionView.empty with configures := [packConfig requested] } := by
  unfold decodeConfig at h
  split at h <;> rename_i htype
  · simp at h
  · simp only [not_or, not_not] at htype
    simp [SessionView.receive, htype.1, SessionView.empty, packConfig_of_unpackConfig htype.2 h]

/-- A frame of a session without a connection opens one of its own, or none. -/
theorem Foreign.frame (h : Foreign past s b) (hc : Coupled s b) (hopen : s.phase ≠ .closed)
    (hout : FrameOutcome lorahamRadio env now f s b (s', b')) :
    (Foreign past s' b' ∧ Goes b b') ∨
      (Own past s' b' ∧ ∃ owner band, b'.trace = b.trace ++ [.opened owner band]) := by
  have hview : view s.log = .empty := by
    rcases h.phase with ⟨-, hview⟩ | ⟨hclosed, -⟩
    · exact hview
    · exact absurd hclosed hopen
  cases hout with
  | rejected =>
      exact Or.inl ⟨h.close rfl fun hb => by simpa [SessionView.step] using hb.receive f, .refl b⟩
  | helloFailed _ frames _ _ _ hframes =>
      refine Or.inl ⟨h.close rfl fun hb => ?_, .refl b⟩
      rcases hframes with rfl | rfl <;>
        simpa [SessionView.step, SessionView.send] using hb.receive f
  | challenged _ nonce hphase htype =>
      refine Or.inl ⟨⟨h.parked, Or.inl ⟨by simp [arm], ?_⟩, h.links⟩, .refl b⟩
      simp [arm, SessionView.step, SessionView.send, hview,
        receive_of_type (f := f) _ (by simp [htype]) (by simp [htype])]
  | helloOpen _ hphase htype =>
      refine Or.inl ⟨⟨h.parked, Or.inl ⟨by simp [arm], ?_⟩, h.links⟩, .refl b⟩
      simp [arm, SessionView.step, SessionView.send, hview,
        receive_of_type (f := f) _ (by simp [htype]) (by simp [htype])]
  | authClosed _ frames _ _ _ htype _ hframes =>
      refine Or.inl ⟨h.close rfl fun hb => ?_, .refl b⟩
      rcases hframes with rfl | ⟨-, rfl⟩ <;>
        simpa [SessionView.step, SessionView.send] using hb.receive f
  | authenticated _ hphase htype =>
      refine Or.inl ⟨⟨h.parked, Or.inl ⟨by simp [arm], ?_⟩, h.links⟩, .refl b⟩
      simp [arm, SessionView.step, SessionView.send, hview,
        receive_of_type (f := f) _ (by simp [htype]) (by simp [htype])]
  | configInvalid _ frames _ _ hframes =>
      refine Or.inl ⟨h.close rfl fun hb => ?_, .refl b⟩
      rcases hframes with rfl | rfl <;>
        simpa [SessionView.step, SessionView.send, isGrant, cfgInvalid, cfgOk] using hb.receive f
  | configRefused outbox frames reason requested _ hphase hconfig hbackend hframes =>
      have hcases := beginConfigure_cases requested b
      change b.beginConfigure requested = _ at hbackend
      rw [hbackend] at hcases
      generalize hzero : (0 : UInt32) = token at hcases
      have hblank : (view s.log).Blank → (view (shut reason (queue outbox frames
          ((s.record (.received f)).record (.configureCalled requested 0)))).log).Blank := by
        intro hb
        rcases hframes with rfl | rfl <;>
          simpa [SessionView.step, SessionView.send, isGrant, cfgUnsupported, cfgOk] using hb.receive f
      cases hcases with
      | refused => exact Or.inl ⟨h.close rfl hblank, .refl b⟩
      | unreachable band transport =>
          have hgoes : Goes b (LorahamBackend.record (.connectRefused band)
              { b with transport := transport }) := .of_append _ rfl (by simp [Event.plain])
          exact Or.inl ⟨(h.goes hgoes h.parked).close rfl hblank, hgoes⟩
      | opened band setCmd transport =>
          refine Or.inr ⟨h.opened hc rfl (Or.inr rfl) (fun hs => by cases hs) ?_, _, _, rfl⟩
          rcases hframes with rfl | rfl <;>
            simp [SessionView.step, SessionView.send, isGrant, cfgUnsupported, cfgOk, hview,
              receive_configure hconfig]
  | configStarted requested _ _ hphase hconfig _ hbackend htoken =>
      have hcases := beginConfigure_cases requested b
      change b.beginConfigure requested = _ at hbackend
      rw [hbackend] at hcases
      cases hcases with
      | refused | unreachable => simp at htoken
      | opened band setCmd transport =>
          refine Or.inr ⟨h.opened hc rfl (Or.inl rfl) (fun _ => rfl) ?_, _, _, rfl⟩
          simp [arm, SessionView.step, hview, receive_configure hconfig]
  | ponged hphase | submitRefused _ hphase | submitted _ hphase =>
      rcases h.phase with ⟨hearly, -⟩ | ⟨hclosed, -⟩
      · simp [hphase] at hearly
      · exact absurd hclosed hopen

/-- The session hands a packet to its connection. -/
theorem Own.frame (h : Own past s b) (hopen : s.phase ≠ .closed)
    (hout : FrameOutcome lorahamRadio env now f s b (s', b')) :
    Own past s' b' ∧ earlierLinks b'.trace = earlierLinks b.trace ∧
      (link b'.trace).owner = (link b.trace).owner := by
  have hnot : ∀ p, p = Phase.waitHello ∨ p = Phase.waitAuth ∨ p = Phase.waitConfigure →
      s.phase ≠ p := by
    rintro p hp rfl
    rcases h.phase with hs | hs | hs <;> simp [hs] at hp
  cases hout with
  | rejected =>
      refine ⟨h.next List.prefix_rfl rfl rfl rfl (Or.inr (Or.inr rfl)) rfl (modeOf_closed rfl)
        (by simp [SessionView.step]) fun _ _ => .reject _ _ _ f ?_, rfl, rfl⟩
      rcases h.phase with hs | hs | hs
      · simp [modeOf_configuring hs]
      · simp [modeOf_ready hs rfl]
      · exact absurd hs hopen
  | helloFailed _ _ _ _ hphase | challenged _ _ hphase | helloOpen _ hphase =>
      exact absurd hphase (hnot _ (Or.inl rfl))
  | authClosed _ _ _ _ hphase | authenticated _ hphase =>
      exact absurd hphase (hnot _ (Or.inr (Or.inl rfl)))
  | configInvalid _ _ _ hphase | configRefused _ _ _ _ _ hphase
  | configStarted _ _ _ hphase => exact absurd hphase (hnot _ (Or.inr (Or.inr rfl)))
  | ponged hphase htype =>
      refine ⟨h.same rfl rfl rfl ?_, rfl, rfl⟩
      simp [acceptPong, SessionView.step,
        receive_of_type (f := f) _ (by simp [htype]) (by simp [htype])]
  | submitRefused _ hphase htype hvalid hidle hbackend =>
      have hview : view (shut .backendFailure (XrSession.record (.submitCalled f.seq f.payload false)
          { s.record (.received f) with txSeq := f.seq })).log =
          { view s.log with requests := (view s.log).requests ++ [f.payload] } := by
        simp [SessionView.step, SessionView.receive, htype]
      have hmode : modeOf s = .ready s.appliedCfg none :=
        modeOf_ready hphase (if_neg (by simp [hidle]))
      have hcases := submitTx_cases f.payload b
      change b.submitTx f.payload = _ at hbackend
      rw [hbackend] at hcases
      generalize hfalse : false = accepted at hcases
      cases hcases with
      | refused =>
          exact ⟨h.next List.prefix_rfl rfl rfl rfl (Or.inr (Or.inr rfl)) hmode (modeOf_closed rfl)
            hview fun _ _ => .refuse _ _ _ (Or.inl (.refl _)), rfl, rfl⟩
      | failed transport off writes =>
          obtain ⟨htrace, hearlier, hgrows⟩ :=
            ((goes_wrote (b.holdTx f.payload) transport off writes).trans (goes_reset _)).of_holdTx
          exact ⟨h.next htrace hearlier hgrows.owner rfl (Or.inr (Or.inr rfl)) hmode
            (modeOf_closed rfl) hview fun _ _ => .refuse _ _ _ (Or.inr hgrows), hearlier,
            hgrows.owner⟩
      | accepted => simp at hfalse
  | submitted _ hphase htype hvalid hidle hbackend =>
      have hmode : modeOf s = .ready s.appliedCfg none :=
        modeOf_ready hphase (if_neg (by simp [hidle]))
      have hcases := submitTx_cases f.payload b
      change b.submitTx f.payload = _ at hbackend
      rw [hbackend] at hcases
      generalize htrue : true = accepted at hcases
      cases hcases with
      | refused => simp at htrue
      | failed => simp at htrue
      | accepted transport off writes state =>
          have hwritten : Goes (b.holdTx f.payload)
              { (b.holdTx f.payload).wrote transport off writes with state := state } :=
            (goes_wrote (b.holdTx f.payload) transport off writes).trans
              (.of_append [] (by simp) (by simp))
          obtain ⟨htrace, hearlier, hgrows⟩ := hwritten.of_holdTx
          refine ⟨h.next htrace hearlier hgrows.owner rfl (Or.inr (Or.inl hphase)) hmode
            (modeOf_ready hphase rfl) ?_ fun _ _ => .submit _ _ f.seq f.payload hgrows ?_,
            hearlier, hgrows.owner⟩
          · simp [SessionView.step, SessionView.receive, htype]
          · simp [Link.step, holdTx]

/-- The connection goes on when a transmission is given up. -/
theorem goes_abandonPendingTx (b : LorahamBackend) : Goes b b.abandonPendingTx := by
  unfold abandonPendingTx
  split
  · exact .of_append [] (by simp) (by simp)
  · exact goes_reset b
  · exact .refl b

/-- The connection goes on over the end of its session. -/
theorem goes_teardown (b : LorahamBackend) :
    Goes b (b.abandonPendingTx.setSink none).stop := by
  refine (goes_abandonPendingTx b).trans ?_
  generalize b.abandonPendingTx = c
  unfold stop
  split
  · exact .of_append [] (by simp [setSink]) (by simp)
  · have hsink : Goes c (c.setSink none) := .of_append [] (by simp [setSink]) (by simp)
    exact hsink.trans ((goes_reset _).trans (.of_append [] (by simp) (by simp)))

/-- A tick keeps the session's own connection in refinement. -/
theorem Own.tick (h : Own past s b)
    (hout : TickOutcome lorahamRadio env now s b (s', b')) : Own past s' b' ∧ Goes b b' := by
  cases hout with
  | quiet => exact ⟨h, .refl b⟩
  | expired => exact ⟨h.close (.refl b) rfl rfl (by simp), .refl b⟩
  | abandoned =>
      have hgoes := goes_abandonPendingTx b
      exact ⟨h.close hgoes rfl rfl (by simp [SessionView.step]), hgoes⟩
  | pinged =>
      exact ⟨h.same rfl rfl rfl (by simp [SessionView.send]), .refl b⟩

/-- A tick of a session without a connection opens none. -/
theorem Foreign.tick (h : Foreign past s b)
    (hout : TickOutcome lorahamRadio env now s b (s', b')) : Foreign past s' b' ∧ Goes b b' := by
  have hready : s.phase ≠ .ready := by
    rcases h.phase with ⟨hs, -⟩ | ⟨hs, -⟩
    · rcases hs with hs | hs | hs <;> simp [hs]
    · simp [hs]
  cases hout with
  | quiet => exact ⟨h, .refl b⟩
  | expired => exact ⟨h.close rfl (by simp), .refl b⟩
  | abandoned hphase | pinged _ hphase => exact absurd hphase hready

/-- The session of a connection that is torn down joins the past. -/
theorem attributed_teardown (h : Foreign past s b ∨ Own past s b) (hgoes : Goes b b') :
    ∀ honest, Honest honest b'.trace → ∀ l ∈ links b'.trace,
      Attributed honest (past ++ [s]) l := by
  intro honest hhonest l hl
  rcases h with h | h
  · exact (attributed_goes hgoes h.links honest hhonest l hl).append s
  · rcases mem_links.mp hl with hl | rfl
    · rw [hgoes.earlier] at hl
      exact (h.earlier honest (hhonest.mono hgoes.trace) l hl).append s
    · refine Or.inr ⟨s, by simp, hgoes.grows.owner.trans h.owner, ?_⟩
      exact (h.bond honest (hhonest.mono hgoes.trace)).step (.close _ _ hgoes.grows)

/-- With a connection of its own or none, the session is linked. -/
theorem linked_of_bonded (h : Foreign past s b ∨ Own past s b) : Linked s b.trace := by
  rcases h with h | h
  · rcases h.phase with ⟨-, hview⟩ | ⟨-, hblank⟩
    · exact Or.inl (by rw [hview]; exact ⟨rfl, rfl, rfl, rfl⟩)
    · exact Or.inl hblank
  · exact Or.inr ⟨link b.trace, mem_links.mpr (Or.inr rfl), h.owner⟩

end Session

/-! ## Main result -/

/-- Coupling and soundness, on which the bonds rest. -/
def grounded (env : BridgeEnv) : Invariant env :=
  (Extension.sound (coupling env)).toInvariant

/-- The connections of the sessions of the past. -/
structure PastBonds (past : List XrSession) (b : LorahamBackend) : Prop where
  linked : ∀ t ∈ past, Linked t b.trace
  links : ∀ honest, Honest honest b.trace → ∀ l ∈ links b.trace, Attributed honest past l

/-- The connections of all sessions, the present one included. -/
structure Bonds (past : List XrSession) (s : XrSession) (b : LorahamBackend) : Prop where
  linked : ∀ t ∈ past, Linked t b.trace
  session : Foreign past s b ∨ Own past s b

/-- The connections of past sessions stay theirs. -/
theorem PastBonds.goes {past : List XrSession} {b b' : LorahamBackend} (h : PastBonds past b)
    (hgoes : Goes b b') : PastBonds past b' :=
  ⟨fun t ht => (h.linked t ht).goes hgoes, attributed_goes hgoes h.links⟩

/-- A new connection joins the others. -/
theorem Linked.opened {s : XrSession} {trace : List Event} (h : Linked s trace)
    (owner : Option Nat) (band : Loraham.Band) : Linked s (trace ++ [.opened owner band]) := by
  refine h.imp_right ?_
  rintro ⟨l, hl, howner⟩
  exact ⟨l, mem_links.mpr (Or.inl (by rwa [earlierLinks_opened])), howner⟩

/-- A packet handed over leaves the connections as they are. -/
theorem Linked.kept {s : XrSession} {b b' : LorahamBackend} (h : Linked s b.trace)
    (hearlier : earlierLinks b'.trace = earlierLinks b.trace)
    (howner : (link b'.trace).owner = (link b.trace).owner) : Linked s b'.trace := by
  refine h.imp_right ?_
  rintro ⟨l, hl, hl'⟩
  rcases mem_links.mp hl with hl | rfl
  · exact ⟨l, mem_links.mpr (Or.inl (by rwa [hearlier])), hl'⟩
  · exact ⟨link b'.trace, mem_links.mpr (Or.inr rfl), by rw [howner, hl']⟩

/-- Every session moves with its connection as the bond machine says. -/
def bonds (env : BridgeEnv) : Extension (grounded env) where
  idle past b _ := PastBonds past b
  active past s b _ := Bonds past s b
  initial := by
    refine ⟨by simp, ?_⟩
    intro honest _ l hl
    simp only [XrServer.initial, links, linkHistory, List.foldl_nil, List.nil_append,
      List.mem_singleton] at hl
    exact Or.inl (by rw [hl]; exact ⟨rfl, rfl, rfl⟩)
  idle_environment _ _ h := ⟨h.linked, h.links⟩
  active_environment _ _ h := ⟨h.linked, h.session.imp
    (fun hf => ⟨hf.parked, hf.phase, hf.links⟩)
    (fun ho => ⟨ho.owner, ho.phase, ho.earlier, ho.bond⟩)⟩
  idle_poll hC h hstep := by
    cases hstep with
    | quiet hstep => exact h.goes (hstep.goes hC.2.confed)
    | call hstep => exact absurd hC.1.2.parked hstep.not_parked
  quiet_poll hC h hstep := by
    have hgoes := hstep.goes hC.2.confed
    refine ⟨fun t ht => (h.linked t ht).goes hgoes, h.session.imp ?_ ?_⟩
    · exact fun hf => hf.goes hgoes (hstep.parked hf.parked)
    · exact fun ho => ho.quiet hC.1.2.2 hC.2 hstep
  call_poll hC h hstep hout := by
    refine ⟨fun t ht => (h.linked t ht).goes hstep.goes, ?_⟩
    rcases h.session with hf | ho
    · exact absurd hf.parked hstep.not_parked
    · exact Or.inr (ho.call hC.1.2.2 hC.2 hstep hout)
  accept _ hC h := ⟨h.linked, Or.inl ⟨hC.1.2.parked, Or.inl ⟨Or.inl rfl, rfl⟩, h.links⟩⟩
  parser _ h := ⟨h.linked, h.session.imp
    (fun hf => ⟨hf.parked, hf.phase, hf.links⟩) (fun ho => ho.same rfl rfl rfl rfl)⟩
  parserError _ h _ := ⟨h.linked, h.session.imp
    (fun hf => hf.close rfl (by simp)) (fun ho => ho.close (.refl _) rfl rfl (by simp))⟩
  frame hC h hopen hout := by
    rcases h.session with hf | ho
    · rcases hf.frame hC.1.2.2 hopen hout with ⟨hf', hgoes⟩ | ⟨ho', owner, band, htrace⟩
      · exact ⟨fun t ht => (h.linked t ht).goes hgoes, Or.inl hf'⟩
      · exact ⟨fun t ht => htrace ▸ (h.linked t ht).opened owner band, Or.inr ho'⟩
    · obtain ⟨ho', hearlier, howner⟩ := ho.frame hopen hout
      exact ⟨fun t ht => (h.linked t ht).kept hearlier howner, Or.inr ho'⟩
  tick _ h hout := by
    rcases h.session with hf | ho
    · obtain ⟨hf', hgoes⟩ := hf.tick hout
      exact ⟨fun t ht => (h.linked t ht).goes hgoes, Or.inl hf'⟩
    · obtain ⟨ho', hgoes⟩ := ho.tick hout
      exact ⟨fun t ht => (h.linked t ht).goes hgoes, Or.inr ho'⟩
  consume _ h := ⟨h.linked, h.session.imp
    (fun hf => ⟨hf.parked, hf.phase, hf.links⟩) (fun ho => ho.same rfl rfl rfl rfl)⟩
  teardown := by
    intro past s b _ h
    have hgoes := goes_teardown b
    refine ⟨?_, attributed_teardown h.session hgoes⟩
    intro t ht
    rcases List.mem_append.mp ht with ht | ht
    · exact (h.linked t ht).goes hgoes
    · rw [List.mem_singleton.mp ht]
      exact (linked_of_bonded h.session).goes hgoes

section Run

variable (env : BridgeEnv) (ops : List XrServer.Op)

/-- In every run the sessions are numbered in order. -/
theorem run_sessions_id :
    (XrServer.run env ops).sessions.map XrSession.id =
      List.range (XrServer.run env ops).sessions.length := by
  have h := (coupling env).run ops
  unfold Invariant.holds at h
  unfold XrServer.sessions
  split at h <;> rename_i hconn
  · simpa [hconn] using h.1.eq
  · simp [hconn, h.1.eq, h.2.1, List.range_succ]

/-- A session is known by its number. -/
theorem run_session_unique {s t : XrSession} (hs : s ∈ (XrServer.run env ops).sessions)
    (ht : t ∈ (XrServer.run env ops).sessions) (hid : s.id = t.id) : s = t := by
  have hnodup : ((XrServer.run env ops).sessions.map XrSession.id).Nodup := by
    rw [run_sessions_id]
    exact List.nodup_range
  exact List.inj_on_of_nodup_map hnodup hs ht hid

/-- An open session behind `WaitConfigure` owns the current connection. -/
theorem run_own {c : XrConnection} (hconn : (XrServer.run env ops).conn = some c)
    (hphase : c.session.phase = .configuring ∨ c.session.phase = .ready) :
    Own (XrServer.run env ops).past c.session (XrServer.run env ops).backend := by
  have h := (bonds env).toInvariant.run ops
  unfold Invariant.holds at h
  rw [hconn] at h
  rcases h.2.session with hf | ho
  · rcases hf.phase with ⟨hearly, -⟩ | ⟨hclosed, -⟩
    · rcases hphase with hs | hs <;> simp [hs] at hearly
    · rcases hphase with hs | hs <;> simp [hs] at hclosed
  · exact ho

/-- Every connection belongs to the session that opened it, and moves with it. -/
theorem run_link_bond {honest : Prop}
    (hhonest : Honest honest (XrServer.run env ops).backend.trace) {l : Link}
    (hl : l ∈ links (XrServer.run env ops).backend.trace) :
    l.Unopened ∨ ∃ s ∈ (XrServer.run env ops).sessions, l.owner = some s.id ∧
      ∃ m, Bond.Reachable honest ⟨m, view s.log, l⟩ := by
  have h := (bonds env).toInvariant.run ops
  unfold Invariant.holds at h
  unfold XrServer.sessions
  generalize XrServer.run env ops = sv at h hl hhonest
  have hpast : Attributed honest sv.past l → l.Unopened ∨
      ∃ s ∈ sv.past ++ (sv.conn.map XrConnection.session).toList, l.owner = some s.id ∧
      ∃ m, Bond.Reachable honest ⟨m, view s.log, l⟩ := by
    refine Or.imp_right ?_
    rintro ⟨s, hs, howner, hbond⟩
    exact ⟨s, by simp [hs], howner, .closed, hbond⟩
  split at h <;> rename_i hconn
  · exact hpast (h.2.links honest hhonest l hl)
  · rename_i c
    rcases h.2.session with hf | ho
    · exact hpast (hf.links honest hhonest l hl)
    · rcases mem_links.mp hl with hl | rfl
      · exact hpast (ho.earlier honest hhonest l hl)
      · exact Or.inr ⟨c.session, by simp [hconn], ho.owner, _, ho.bond honest hhonest⟩

/-- Every session that has something to show for it has a connection. -/
theorem run_session_bond {honest : Prop}
    (hhonest : Honest honest (XrServer.run env ops).backend.trace) {s : XrSession}
    (hs : s ∈ (XrServer.run env ops).sessions) :
    (view s.log).Blank ∨ ∃ l ∈ links (XrServer.run env ops).backend.trace,
      l.owner = some s.id ∧ ∃ m, Bond.Reachable honest ⟨m, view s.log, l⟩ := by
  have hlinked : Linked s (XrServer.run env ops).backend.trace := by
    have h := (bonds env).toInvariant.run ops
    unfold Invariant.holds at h
    unfold XrServer.sessions at hs
    split at h <;> rename_i hconn
    · exact h.2.linked s (by simpa [hconn] using hs)
    · rename_i c
      simp only [hconn, Option.map_some, Option.toList_some, List.mem_append,
        List.mem_singleton] at hs
      rcases hs with hs | rfl
      · exact h.2.linked s hs
      · exact linked_of_bonded h.2.session
  refine hlinked.imp_right ?_
  rintro ⟨l, hl, howner⟩
  refine ⟨l, hl, howner, ?_⟩
  rcases run_link_bond env ops hhonest hl with hnone | ⟨t, ht, howner', hbond⟩
  · simp [hnone.1] at howner
  · have hid : s.id = t.id := Option.some.inj (howner.symm.trans howner')
    rwa [run_session_unique env ops hs ht hid]

end Run

end LorahamBridge
