import LorahamBridge.Bridge.Offers
import LorahamBridge.Bridge.RfAccount
import LorahamBridge.Xr.OutputTrace

/-!
# The receive path

From the bytes of a DATA connection to the `RX_PACKET` frames of the session that
opened it: every packet of legal length goes to the client, in order, once, with its
signal levels and its bytes, as long as the session is `Ready`.  A packet that does
not fit into the output queue closes the session; nothing else becomes of one.

Main results:

- Theorem `replay_rx`: a packet offered to a ready session is sent or closes it.
- Theorem `Bond.Reachable.rxTied`: the packets sent are those of the connection.
- Definition `rxOffering`: every packet taken off a connection in use is offered.
- Theorem `rx_path_transparent`: all of it for every run, and over every interval.
-/

namespace LorahamBridge

open Foundation Extradio LorahamBackend

/-! ## Packets -/

/-- The packet of a DATA frame, if it is one for the client: an `RX_PACKET` with its
signal levels and at least one byte. -/
def rfPacket? (f : Loraham.Frame) : Option RxPacket :=
  if f.type = .rxPacket ∧ 4 < f.payload.length ∧ f.payload.length ≤ 259 then
    some
      { rssi := (getLE16 (f.payload.getD 0 0) (f.payload.getD 1 0)).toInt16
        snr := (getLE16 (f.payload.getD 2 0) (f.payload.getD 3 0)).toInt16
        data := f.payload.drop 4 }
  else none

/-- The packet the backend decodes and the session accepts. -/
def deliverable (f : Loraham.Frame) : Option RxEvent :=
  (Loraham.decodeRx f).filter fun rx => rxPayloadAcceptable rx.data.length

/-- The packets described by the daemon's format are those the code delivers. -/
theorem rfPacket?_eq (f : Loraham.Frame) :
    rfPacket? f = (deliverable f).map fun rx => ⟨rx.rssiCdbm, rx.snrCdb, rx.data⟩ := by
  rw [deliverable, decodeRx_eq]
  by_cases hline : f.type = .rxPacket ∧ 4 ≤ f.payload.length ∧ f.payload.length ≤ 259
  · rw [rxLineOf, if_pos hline]
    have haccept : rxPayloadAcceptable (f.payload.length - 4) = true ↔ 4 < f.payload.length := by
      rw [rxPayloadAcceptable_iff, kMaxLoraPayload]
      omega
    by_cases hpos : 4 < f.payload.length
    · simp [rfPacket?, hline, hpos, Option.filter, haccept.mpr hpos]
    · have hreject : rxPayloadAcceptable (f.payload.length - 4) = false := by
        simpa using mt haccept.mp hpos
      simp [rfPacket?, hpos, Option.filter, hreject]
  · rw [rxLineOf, if_neg hline, rfPacket?, if_neg fun h => hline ⟨h.1, h.2.1.le, h.2.2⟩]
    rfl

/-- The client reads a forwarded packet back. -/
theorem decodeRxPacket_rxFrame {rx : RxEvent} (h : rxPayloadAcceptable rx.data.length = true) :
    decodeRxPacket (XrSession.rxFrame rx) = some ⟨rx.rssiCdbm, rx.snrCdb, rx.data⟩ := by
  have hle := ((rxPayloadAcceptable_iff _).mp h).2
  simp only [decodeRxPacket, XrSession.rxFrame, rxPayload_lengthField hle,
    XrSession.rxPayload_length]
  simp [hle, XrSession.rxPayload, putBE16, getBE16_putBE16]

/-- The client decodes the packets of the frames. -/
theorem decodeRxPacket_deliverable (frames : List Loraham.Frame) :
    ((frames.filterMap deliverable).map XrSession.rxFrame).map decodeRxPacket =
      (frames.filterMap rfPacket?).map some := by
  induction frames with
  | nil => rfl
  | cons f frames ih =>
      simp only [List.filterMap_cons, rfPacket?_eq f]
      cases hrx : deliverable f with
      | none => simpa using ih
      | some rx =>
          have haccept : rxPayloadAcceptable rx.data.length = true := (Option.filter_eq_some_iff.mp hrx).2
          simp only [Option.map_some, List.map_cons, decodeRxPacket_rxFrame haccept, ih]

/-! ## A ready session -/

/-- The session has granted its client a configuration and has not closed. -/
def ReadyIn (log : List SessionEvent) : Prop :=
  (∃ f ∈ emittedFrames log, isGrant f = true) ∧ ∀ reason, .closed reason ∉ log

/-- A replay ends closed exactly if the history has a closing. -/
theorem replay_closed_iff {env : XrEnv} {log : List SessionEvent} {c : Conduct}
    (h : replay env log = some c) : (∃ reason, .closed reason ∈ log) ↔ c.stage = .closed := by
  refine replay_induction
    (P := fun log c => (∃ reason, .closed reason ∈ log) ↔ c.stage = .closed) ?_ ?_ h
  · simp [Conduct.initial]
  · intro log c e c' hreplay hlog hmove
    cases hmove with
    | closed reason => simp
    | received | ignored => simpa using hlog
    | paid f next hstage =>
        rcases ((replay_promised hreplay).owed f next hstage).2.2 with rfl | rfl | rfl <;>
          simpa [hstage] using hlog
    | _ => simp_all

/-- No frame before a configuration grants one. -/
theorem Admission.no_grant {auth : AuthConfig} {frames : List Frame} (h : Admission auth frames) :
    ∀ f ∈ frames, isGrant f = false := by
  unfold Admission at h
  split at h
  · obtain ⟨nonce, rfl⟩ := h
    simp [isGrant]
  · simp [h, isGrant]

/-- A history is in operation exactly if its replay is. -/
theorem readyIn_iff {env : XrEnv} {log : List SessionEvent} {c : Conduct}
    (h : replay env log = some c) (hrest : Conduct.resting c.stage = true ∨ c.stage = .closed) :
    ReadyIn log ↔ c.stage = .ready := by
  have hclosed := replay_closed_iff h
  have hsent := replay_sent h
  constructor
  · rintro ⟨⟨f, hf, hgrant⟩, hopen⟩
    have hnot : c.stage ≠ .closed := fun hstage => by
      obtain ⟨reason, hreason⟩ := hclosed.mpr hstage
      exact hopen reason hreason
    cases hstage : c.stage with
    | ready => rfl
    | closed => exact absurd hstage hnot
    | acked | due | closing => simp [hstage, Conduct.resting] at hrest
    | start =>
        rw [hstage] at hsent
        simp [show emittedFrames log = [] from hsent] at hf
    | challenged nonce =>
        rw [hstage] at hsent
        rw [hsent.2] at hf
        rcases List.mem_pair.mp hf with rfl | rfl <;> simp [isGrant] at hgrant
    | admitted | configuring =>
        rw [hstage] at hsent
        simp [Admission.no_grant hsent f hf] at hgrant
  · intro hstage
    refine ⟨?_, fun reason hreason => ?_⟩
    · rw [hstage] at hsent
      obtain ⟨admission, cfg, traffic, -, -, hframes⟩ := hsent
      exact ⟨XrSession.configOkFrame cfg, by simp [hframes], rfl⟩
    · have := hclosed.mp ⟨reason, hreason⟩
      simp [hstage] at this

/-- The frame forwards the packet of the callback before it, heard while `Ready`. -/
def Forwards (f : Frame) (log : List SessionEvent) : Prop :=
  ∃ earlier rx, log = earlier ++ [.callback (.onRx rx)] ∧ ReadyIn earlier ∧
    rxPayloadAcceptable rx.data.length = true ∧ f = XrSession.rxFrame rx

/-- Every `RX_PACKET` of a history forwards a packet. -/
structure Forwarding (log : List SessionEvent) (c : Conduct) : Prop where
  owed : ∀ f next, c.stage = .due f next → f.type = .rxPacket → Forwards f log
  sent : ∀ earlier f, earlier ++ [.emitted f] <+: log → f.type = .rxPacket → Forwards f earlier

/-- One more event, which forwards a packet if it sends one. -/
theorem Forwarding.sent_append {log : List SessionEvent} {c : Conduct} (h : Forwarding log c)
    {e : SessionEvent} (he : ∀ f, e = .emitted f → f.type = .rxPacket → Forwards f log)
    (earlier : List SessionEvent) (f : Frame) (hle : earlier ++ [.emitted f] <+: log ++ [e])
    (htype : f.type = .rxPacket) : Forwards f earlier := by
  rcases List.prefix_concat_iff.mp hle with heq | hle
  · obtain ⟨rfl, hlast⟩ := List.append_inj' heq rfl
    exact he f (List.cons.inj hlast).1.symm htype
  · exact h.sent earlier f hle htype

/-- Every move of a session keeps the account of what it forwards. -/
theorem Forwarding.move {env : XrEnv} {log : List SessionEvent} {c c' : Conduct} {e : SessionEvent}
    (hreplay : replay env log = some c) (h : Forwarding log c) (hmove : c.Move env e c') :
    Forwarding (log ++ [e]) c' := by
  cases hmove with
  | received f hresting =>
      refine ⟨fun f' next hdue => ?_, h.sent_append (by simp)⟩
      simp [show c.stage = _ from hdue, Conduct.resting] at hresting
  | ignored call hrest =>
      refine ⟨fun f' next hdue => ?_, h.sent_append (by simp)⟩
      simp [hdue, Conduct.resting] at hrest
  | acked | challenged | admitted | configInvalid =>
      refine ⟨by simp, h.sent_append ?_⟩
      rintro f ⟨⟩ ⟨⟩
  | pinged hstage =>
      refine ⟨fun f next hdue => absurd (hstage.symm.trans hdue) (by simp), h.sent_append ?_⟩
      rintro f ⟨⟩ ⟨⟩
  | paid f next hstage =>
      refine ⟨?_, h.sent_append ?_⟩
      · rintro f' next' rfl
        simpa using ((replay_promised hreplay).owed f _ hstage).2.2
      · rintro f' ⟨⟩ htype
        exact h.owed f next hstage htype
  | authenticated | refused | configRefused | configFailed | configured | completed =>
      refine ⟨?_, h.sent_append (by simp)⟩
      rintro f next ⟨⟩ ⟨⟩
  | configStarted | submitRefused | abandoned | closed => exact ⟨by simp, h.sent_append (by simp)⟩
  | submitted _ hstage | ponged hstage =>
      exact ⟨fun f next hdue => absurd (hstage.symm.trans hdue) (by simp), h.sent_append (by simp)⟩
  | forwarded rx hstage hrx =>
      refine ⟨?_, h.sent_append (by simp)⟩
      rintro f next ⟨⟩ -
      exact ⟨log, rx, rfl, (readyIn_iff hreplay (by simp [hstage, Conduct.resting])).mpr hstage,
        hrx, rfl⟩

/-- The account holds in every history of a session. -/
theorem replay_forwarding {env : XrEnv} {log : List SessionEvent} {c : Conduct}
    (h : replay env log = some c) : Forwarding log c :=
  replay_induction ⟨by simp [Conduct.initial], fun _ _ hle => by simp at hle⟩
    (fun _ _ _ _ hreplay hlog hmove => hlog.move hreplay hmove) h

/-- A frame that a ready session owes is sent next, or the session closes for want of
room. -/
theorem replay_due {env : XrEnv} {rest : List SessionEvent} {f : Frame} {c₁ c : Conduct}
    (hrun : rest.foldlM (Conduct.step env) c₁ = some c) (hstage : c₁.stage = .due f .ready)
    (hrest : Conduct.resting c.stage = true ∨ c.stage = .closed) :
    ∃ tail, rest = .emitted f :: tail ∨ rest = .closed .outputOverflow :: tail := by
  cases rest with
  | nil =>
      obtain rfl : c₁ = c := by simpa using hrun
      simp [hstage, Conduct.resting] at hrest
  | cons e tail =>
      rw [List.foldlM_cons, Option.bind_eq_bind, Option.bind_eq_some_iff] at hrun
      obtain ⟨c₂, hstep, -⟩ := hrun
      refine ⟨tail, ?_⟩
      cases Conduct.move_of_step hstep with
      | paid f next hdue => simp_all
      | closed reason _ hdue => simp [hdue _ hstage]
      | _ => simp_all [Conduct.resting]

/-- What a callback of a history finds, and what comes of it. -/
theorem replay_callback {env : XrEnv} {earlier rest : List SessionEvent} {call : SinkCall}
    {c : Conduct} (h : replay env (earlier ++ .callback call :: rest) = some c)
    (hready : ReadyIn earlier) :
    ∃ c₀ c₁, replay env earlier = some c₀ ∧ c₀.stage = .ready ∧ c₀.call call = some c₁ ∧
      rest.foldlM (Conduct.step env) c₁ = some c := by
  rw [replay_append, Option.bind_eq_some_iff] at h
  obtain ⟨c₀, hreplay, hrun⟩ := h
  rw [List.foldlM_cons, Option.bind_eq_bind, Option.bind_eq_some_iff] at hrun
  obtain ⟨c₁, hstep, hrun⟩ := hrun
  refine ⟨c₀, c₁, hreplay, (readyIn_iff hreplay ?_).mp hready, hstep, hrun⟩
  cases hs : c₀.stage <;> simp_all [Conduct.step, Conduct.call, Conduct.resting]

/-- A packet offered to a ready session is sent, or the session closes for want of
room. -/
theorem replay_rx {env : XrEnv} {earlier rest : List SessionEvent} {rx : RxEvent} {c : Conduct}
    (h : replay env (earlier ++ .callback (.onRx rx) :: rest) = some c)
    (hrest : Conduct.resting c.stage = true ∨ c.stage = .closed) (hready : ReadyIn earlier)
    (hrx : rxPayloadAcceptable rx.data.length = true) :
    ∃ tail, rest = .emitted (XrSession.rxFrame rx) :: tail ∨
      rest = .closed .outputOverflow :: tail := by
  obtain ⟨c₀, c₁, -, hstage, hcall, hrun⟩ := replay_callback h hready
  refine replay_due hrun ?_ hrest
  simp only [Conduct.call, hstage, hrx, if_true, Option.some.injEq] at hcall
  rw [← hcall]

/-! ## The packets sent -/

/-- An answer is not a packet. -/
theorem deliverable_of_answer? {f : Loraham.Frame} {outcome : TxOutcome}
    (h : answer? f = some outcome) : deliverable f = none := by
  rw [deliverable, decodeRx_of_answer? h]
  rfl

/-- The `RX_PACKET` frames sent are the packets of the connection. -/
def Bond.RxTied (β : Bond) : Prop :=
  match β.mode with
  | .configuring _ => β.view.rxs = [] ∧ β.link.frames = []
  | .ready _ _ => β.view.rxs = (β.link.frames.filterMap deliverable).map XrSession.rxFrame
  | .closed => True

/-- In operation the packets sent are those of the connection. -/
@[simp]
theorem Bond.rxTied_ready (cfg : RadioConfig) (flight : Option UInt16) (v : SessionView) (l : Link) :
    Bond.RxTied ⟨.ready cfg flight, v, l⟩ ↔
      v.rxs = (l.frames.filterMap deliverable).map XrSession.rxFrame :=
  Iff.rfl

/-- Every step of a bond keeps the packets sent tied to the connection. -/
theorem BondStep.rxTied {honest : Prop} {β β' : Bond} (hstep : BondStep honest β β')
    (h : β.RxTied) : β'.RxTied := by
  cases hstep with
  | carry m v hgrows hframes =>
      unfold Bond.RxTied at h ⊢
      simpa only [hframes] using h
  | grant cfg v hgrows hframes hconfigured =>
      obtain ⟨hrxs, hnone⟩ := h
      rw [Bond.rxTied_ready, hframes, hnone, SessionView.send_eq]
      simpa [XrSession.configOkFrame] using hrxs
  | ignore cfg flight v f hgrows hframes hrx =>
      have hnone : deliverable f = none := by
        rw [deliverable, Option.filter_eq_none_iff]
        intro rx hsome
        simp [hrx rx hsome]
      rw [Bond.rxTied_ready, hframes]
      simpa [hnone] using h
  | forward cfg flight v f rx hgrows hframes hrx haccept =>
      have hsome : deliverable f = some rx := by simp [deliverable, hrx, Option.filter, haccept]
      rw [Bond.rxTied_ready, hframes, SessionView.send_eq]
      simpa [hsome, XrSession.rxFrame] using h
  | result cfg seq v f outcome hgrows hframes hanswer =>
      rw [Bond.rxTied_ready, hframes, SessionView.send_eq]
      simpa [deliverable_of_answer? hanswer, XrSession.txResultFrame] using h
  | submit cfg v seq payload hgrows hframes =>
      rw [Bond.rxTied_ready, hframes]
      exact h
  | refuse | close | reject => trivial

/-- In every reachable bond the packets sent are those of the connection. -/
theorem Bond.Reachable.rxTied {honest : Prop} {β : Bond} (h : β.Reachable honest) : β.RxTied := by
  refine h.induction (fun β hβ => ?_) fun _ _ hstep hβ => hstep.rxTied hβ
  obtain ⟨cfg, hmode, -⟩ := hβ.mode
  rw [Bond.RxTied, hmode]
  exact ⟨hβ.blank.2.2.1, hβ.frames⟩

/-! ## The packets offered -/

/-- The packet a callback offers. -/
def SinkCall.rx? : SinkCall → Option RxEvent
  | .onRx rx => some rx
  | _ => none

/-- A quiet step of a link that is not draining takes no packet off it. -/
theorem LorahamBackend.QuietStep.decoded {x y : Snapshot} (h : QuietStep x y)
    (hdrain : x.1.state ≠ .draining) :
    (link y.1.trace).frames.filterMap Loraham.decodeRx =
      (link x.1.trace).frames.filterMap Loraham.decodeRx := by
  cases h with
  | answers | connected | confWritten | dataPush | dataDrained | discard => rfl
  | confWrite | configQuiet | confQuiet | dataWrite | dataWriteLast | dataRead =>
      simp [sendConf_eq, sendData_eq, Link.step]
  | dataIgnored b unread f rest hlink hpop hrx => simp [Link.step, hrx]
  | dataFenced b unread f rest outcome hstate hpop hanswer =>
      simp [Link.step, decodeRx_of_answer? hanswer]
  | dataHeard _ _ _ _ _ hstate | dataCleared _ _ _ _ _ hstate | drainLost _ _ hstate
  | drainExpired _ hstate | confDiscard _ _ hstate => exact absurd hstate hdrain

/-- A call step takes off the packet it offers. -/
theorem LorahamBackend.CallStep.decoded {call : SinkCall} {x y : Snapshot} (h : CallStep call x y) :
    (link y.1.trace).frames.filterMap Loraham.decodeRx =
      (link x.1.trace).frames.filterMap Loraham.decodeRx ++ call.rx?.toList := by
  cases h with
  | configSucceed => simp [Link.step, SinkCall.rx?]
  | configFail b c hc | lost b c unread hc =>
      rcases hc with rfl | ⟨chunk, line, rfl⟩ <;> simp [Link.step, SinkCall.rx?]
  | received b unread f rest rx hstate hpop hrx =>
      simp [link_append, Link.step, hrx, SinkCall.rx?]
  | completed b unread f rest outcome hstate hpop hanswer =>
      simp [Link.step, decodeRx_of_answer? hanswer, SinkCall.rx?]

/-- The packets of a connection are offered whatever the daemon does. -/
def rxOffering : Offering RxEvent where
  pick := SinkCall.rx?
  take := Loraham.decodeRx
  assumed _ := True
  mono _ _ := trivial
  quiet _ _ hdrain hstep _ := hstep.decoded hdrain
  call hstep := hstep.decoded

/-! ## Intervals -/

/-- Between two openings the connection goes on. -/
theorem link_of_not_opened (trace : List Event) {events : List Event}
    (h : ∀ e ∈ events, e.isOpened = false) :
    (link (trace ++ events)).owner = (link trace).owner ∧
      (link (trace ++ events)).frames = (link trace).frames ++ dispatchedFrames events := by
  induction events using List.reverseRecOn with
  | nil => simp [dispatchedFrames]
  | append_singleton events e ih =>
      obtain ⟨howner, hframes⟩ := ih fun e he => h e (by simp [he])
      have he := h e (by simp)
      rw [← List.append_assoc, link_append_singleton]
      cases e with
      | opened => simp [Event.isOpened] at he
      | _ => simp [Link.step, howner, hframes, dispatchedFrames, Event.dispatched?]

/-- An opening leaves the connection before it among the earlier ones. -/
theorem earlier_of_opened (trace : List Event) {events : List Event}
    (h : ∃ e ∈ events, e.isOpened = true) :
    ∃ l ∈ earlierLinks (trace ++ events), l.owner = (link trace).owner := by
  induction events using List.reverseRecOn with
  | nil => simp at h
  | append_singleton events e ih =>
      rw [← List.append_assoc]
      by_cases hearlier : ∃ e ∈ events, e.isOpened = true
      · obtain ⟨l, hl, howner⟩ := ih hearlier
        refine ⟨l, ?_, howner⟩
        cases e with
        | opened owner band =>
            rw [earlierLinks_opened]
            exact mem_links.mpr (Or.inl hl)
        | _ => rwa [earlierLinks_append (by simp [Event.isOpened])]
      · push Not at hearlier
        obtain ⟨e', he', hopened⟩ := h
        rcases List.mem_append.mp he' with hmem | hmem
        · exact absurd hopened (hearlier e' hmem)
        · rw [List.mem_singleton.mp hmem] at hopened
          cases e with
          | opened owner band =>
              rw [earlierLinks_opened]
              exact ⟨_, mem_links.mpr (Or.inr rfl),
                (link_of_not_opened trace fun e he => by simpa using hearlier e he).1⟩
          | _ => simp [Event.isOpened] at hopened

section Run

variable (env : BridgeEnv) (ops : List XrServer.Op)

/-- The history of the backend only grows. -/
theorem run_trace_append (more : List XrServer.Op) :
    (XrServer.run env ops).backend.trace <+: (XrServer.run env (ops ++ more)).backend.trace :=
  run_backend_more env (I := fun x => (XrServer.run env ops).backend.trace <+: x.1.trace)
    (fun _ _ hstep h => h.trans hstep.trace_append) ops more List.prefix_rfl

/-- What a ready session has sent, and the connection it took it from. -/
theorem run_rxs {c : XrConnection} (hconn : (XrServer.run env ops).conn = some c)
    (hphase : c.session.phase = .ready) :
    (link (XrServer.run env ops).backend.trace).owner = some c.session.id ∧
      (view c.session.log).rxs =
        ((link (XrServer.run env ops).backend.trace).frames.filterMap deliverable).map
          XrSession.rxFrame := by
  have hown := run_own env ops hconn (Or.inr hphase)
  have htied := (hown.bond False False.elim).rxTied
  rw [bond, modeOf_ready hphase rfl] at htied
  exact ⟨hown.owner, htied⟩

/-- Between two operations no frame is left in the parser of a ready session. -/
theorem run_frames {c : XrConnection} (hconn : (XrServer.run env ops).conn = some c)
    (hphase : c.session.phase = .ready) :
    (link (XrServer.run env ops).backend.trace).frames =
      (Loraham.daemonFormat.parse (link (XrServer.run env ops).backend.trace).received).1 := by
  have hcoupled := (coupling env).run ops
  unfold Invariant.holds at hcoupled
  rw [hconn] at hcoupled
  have hlink := onLink_of_rxOk (hcoupled.2.2.rxOk_of_ready hphase)
  obtain ⟨hpop, hconsumed⟩ := (parsed_none_iff hlink).mp (run_sound env ops).parsed
  rw [hconsumed, Loraham.daemonFormat.parse_of_needMore hpop, List.append_nil]

/-- While a session stays ready, its connection is the same. -/
theorem run_same_link (more : List XrServer.Op) {c c' : XrConnection}
    (hconn : (XrServer.run env ops).conn = some c) (hphase : c.session.phase = .ready)
    (hconn' : (XrServer.run env (ops ++ more)).conn = some c') (hphase' : c'.session.phase = .ready)
    (hid : c'.session.id = c.session.id) {events : List Event}
    (htrace : (XrServer.run env (ops ++ more)).backend.trace =
      (XrServer.run env ops).backend.trace ++ events) : ∀ e ∈ events, e.isOpened = false := by
  by_contra hnot
  push Not at hnot
  obtain ⟨e, he, hopened⟩ := hnot
  obtain ⟨l, hl, howner⟩ := earlier_of_opened (XrServer.run env ops).backend.trace
    ⟨e, he, by simpa using hopened⟩
  rw [← htrace] at hl
  have hown := run_own env (ops ++ more) hconn' (Or.inr hphase')
  have hcoupled := (coupling env).run (ops ++ more)
  unfold Invariant.holds at hcoupled
  rw [hconn'] at hcoupled
  rw [(run_rxs env ops hconn hphase).1, ← hid, hcoupled.2.1] at howner
  rcases hown.earlier False False.elim l hl with hl | ⟨t, ht, htowner, -⟩
  · simp [hl.1] at howner
  · have hlt := hcoupled.1.id_lt ht
    rw [htowner, Option.some.injEq] at howner
    omega

/-- What became of the packets between two moments of a ready session. -/
theorem run_interval (more : List XrServer.Op) {c c' : XrConnection}
    (hconn : (XrServer.run env ops).conn = some c) (hphase : c.session.phase = .ready)
    (hconn' : (XrServer.run env (ops ++ more)).conn = some c') (hphase' : c'.session.phase = .ready)
    (hid : c'.session.id = c.session.id) :
    ∃ events sent, (XrServer.run env (ops ++ more)).backend.trace =
        (XrServer.run env ops).backend.trace ++ events ∧
      (view c'.session.log).rxs = (view c.session.log).rxs ++ sent ∧
      sent.map decodeRxPacket = ((dispatchedFrames events).filterMap rfPacket?).map some := by
  obtain ⟨events, htrace⟩ := run_trace_append env ops more
  have hlink := link_of_not_opened (XrServer.run env ops).backend.trace
    (run_same_link env ops more hconn hphase hconn' hphase' hid htrace.symm)
  refine ⟨events, ((dispatchedFrames events).filterMap deliverable).map XrSession.rxFrame,
    htrace.symm, ?_, decodeRxPacket_deliverable _⟩
  rw [(run_rxs env ops hconn hphase).2, (run_rxs env (ops ++ more) hconn' hphase').2, ← htrace,
    hlink.2, List.filterMap_append, List.map_append]

end Run

/-- A parked backend calls nobody. -/
theorem LorahamBackend.Polls.calls_of_parked {x y : Snapshot} (h : Polls x y)
    (hparked : Parked x.1.state) : y.1.calls = x.1.calls ∧ Parked y.1.state := by
  induction h with
  | refl => exact ⟨rfl, hparked⟩
  | tail _ hstep ih =>
      cases hstep with
      | quiet hstep => exact ⟨hstep.calls.1.trans ih.1, hstep.parked ih.2⟩
      | call hstep => exact absurd ih.2 hstep.not_parked

/-- What the backend hears while it drains does not reach the session. -/
theorem poll_of_draining (env : BridgeEnv) {sv : XrServer} (hheld : sv.backend.TxHeld)
    (hstate : sv.backend.state = .draining) (elapsed : Nat) (transport : DaemonTransport) :
    (XrServer.step env sv ⟨elapsed, transport, .poll⟩).conn = sv.conn := by
  have hcalls := (Polls.calls_of_parked (poll_steps (sv.wait elapsed transport).backend hheld)
    (Or.inr (Or.inl hstate))).1
  simp only [XrServer.step, XrServer.act, XrServer.poll]
  rw [hcalls]
  simp [XrServer.wait, XrSession.runCalls]

/-- The receive path is transparent.  A ready session has sent exactly the packets of
the frames its DATA connection was parsed into, and over any interval exactly those
of the frames dispatched meanwhile; every packet dispatched on the connection of a
session that has not given it up was offered to it, and a packet offered to a ready
session is sent at once, or closes it for want of room; whole frames are sent, each
`RX_PACKET` for a packet offered while ready; and a draining backend offers nothing. -/
theorem rx_path_transparent (env : BridgeEnv) (ops : List XrServer.Op) :
    let sv := XrServer.run env ops
    let trace := sv.backend.trace
    (∀ c, sv.conn = some c → c.session.phase = .ready →
      (link trace).owner = some c.session.id ∧
      (link trace).frames = (Loraham.daemonFormat.parse (link trace).received).1 ∧
      (view c.session.log).rxs.map decodeRxPacket =
        ((link trace).frames.filterMap rfPacket?).map some ∧
      ∀ more c', (XrServer.run env (ops ++ more)).conn = some c' →
        c'.session.phase = .ready → c'.session.id = c.session.id →
        ∃ events sent, (XrServer.run env (ops ++ more)).backend.trace = trace ++ events ∧
          (view c'.session.log).rxs = (view c.session.log).rxs ++ sent ∧
          sent.map decodeRxPacket = ((dispatchedFrames events).filterMap rfPacket?).map some) ∧
    (∀ c, sv.conn = some c →
      c.session.drained ++ c.session.outbox.data =
        (emittedFrames c.session.log).flatMap frameBytes ∧
      ((link trace).owner = some c.session.id → .abandonCalled ∉ c.session.log →
        offered SinkCall.rx? c.session.log = (link trace).frames.filterMap Loraham.decodeRx) ∧
      (∀ earlier rx rest, c.session.log = earlier ++ .callback (.onRx rx) :: rest →
        ReadyIn earlier → rxPayloadAcceptable rx.data.length = true →
        ∃ tail, rest = .emitted (XrSession.rxFrame rx) :: tail ∨
          rest = .closed .outputOverflow :: tail) ∧
      ∀ earlier f, earlier ++ [.emitted f] <+: c.session.log → f.type = .rxPacket →
        Forwards f earlier) ∧
    (sv.backend.state = .draining → ∀ elapsed transport,
      (XrServer.step env sv ⟨elapsed, transport, .poll⟩).conn = sv.conn) := by
  refine ⟨?_, ?_, fun hstate elapsed transport =>
    poll_of_draining env (run_txHeld env ops) hstate elapsed transport⟩
  · intro c hconn hphase
    obtain ⟨howner, hrxs⟩ := run_rxs env ops hconn hphase
    refine ⟨howner, ?_, ?_, fun more c' hconn' hphase' hid =>
      run_interval env ops more hconn hphase hconn' hphase' hid⟩
    · exact run_frames env ops hconn hphase
    · rw [hrxs, decodeRxPacket_deliverable]
  · intro c hconn
    have hconducted : Conducted env.toXrEnv c.session :=
      (conducted_invariant lorahamRadio env.toXrEnv).run_server ops hconn
    obtain ⟨a, hreplay, hagrees⟩ := hconducted.conduct
    refine ⟨hconducted.written, (run_heard rxOffering env ops hconn).own trivial, ?_, (replay_forwarding hreplay).sent⟩
    intro earlier rx rest hlog hready hrx
    refine replay_rx (hlog ▸ hreplay) ?_ hready hrx
    by_cases hopen : c.session.phase = .closed
    · exact Or.inr (by rw [hagrees.stage, stageOf, hopen])
    · exact Or.inl (hagrees.resting hopen)

end LorahamBridge
