import LorahamBridge.Bridge.RxPath
import LorahamBridge.Xr.Results
import LorahamBridge.Loraham.Configure

/-!
# Whom a transmission result is about

A `TX_RESULT` of the daemon carries nothing that names the packet it answers, and one
backend serves many sessions.  Given a daemon that answers only packets it has
received whole, and each at most once, every result a client gets is nevertheless the
daemon's answer to the packet of the request that client made last.

Main results:

- Theorem `replay_tx`: what becomes of an answer a session is told.
- Theorem `Bond.Reachable.settled`: the results of a session are the answers on its
  connection, in order.
- Theorem `run_matched`: the answers on every connection, in order, are about the
  packets written to it.
- Definition `txOffering`: every answer on a connection in use is passed on.
- Theorem `tx_results_attributed`: all of it for every run.
-/

namespace LorahamBridge

open Foundation Extradio LorahamBackend

/-! ## Answers told to a session -/

/-- An answer offered to a ready session that waits for one is sent as the result of
its last request, or the session closes for want of room. -/
theorem replay_tx {env : XrEnv} {earlier rest : List SessionEvent} {outcome : TxOutcome}
    {c : Conduct} (h : replay env (earlier ++ .callback (.onTxComplete outcome) :: rest) = some c)
    (hrest : Conduct.resting c.stage = true ∨ c.stage = .closed) (hready : ReadyIn earlier)
    (hwaits : (view earlier).results.length < (view earlier).accepted.length) :
    ∃ seq tail, Unanswered seq earlier ∧
      (rest = .emitted (XrSession.txResultFrame seq outcome) :: tail ∨
        rest = .closed .outputOverflow :: tail) := by
  obtain ⟨c₀, c₁, hreplay, hstage, hcall, hrun⟩ := replay_callback h hready
  have hbalance := replay_balanced hreplay (by simp [hstage])
  cases hflight : c₀.flight with
  | none =>
      simp [Conduct.awaited, hstage, hflight] at hbalance
      omega
  | some seq =>
      simp only [Conduct.call, hstage, hflight, Option.some.injEq] at hcall
      obtain ⟨tail, htail⟩ := replay_due hrun (by rw [← hcall]) hrest
      exact ⟨seq, tail, (replay_answering hreplay).flight seq hflight, htail⟩

/-! ## Results and answers -/

theorem getElem?_eq_of_lt {α : Type} {l l' : List α} (h : l <+: l') {n : Nat}
    (hn : n < l.length) : l'[n]? = l[n]? := by
  obtain ⟨rest, rfl⟩ := h
  exact List.getElem?_append_left hn

theorem getElem?_of_append {α : Type} {l l' : List α} (h : l <+: l') {n : Nat} {a : α}
    (hn : l[n]? = some a) : l'[n]? = some a :=
  (getElem?_eq_of_lt h (List.getElem?_eq_some_iff.mp hn).1).trans hn

/-- One more frame adds its outcome, if it is an answer. -/
theorem outcomes_append (frames : List Loraham.Frame) (f : Loraham.Frame) :
    outcomes (frames ++ [f]) = outcomes frames ++ (answer? f).toList := by
  cases h : answer? f <;> simp [outcomes, h]

/-- Result `n` reports answer `n` under the number of request `n`. -/
def Reports (v : SessionView) (l : Link) : Prop :=
  ∀ (n : Nat) (f : Frame), v.results[n]? = some f → ∃ seq payload outcome,
    v.accepted[n]? = some (seq, payload) ∧ (outcomes l.frames)[n]? = some outcome ∧
      f = XrSession.txResultFrame seq outcome

/-- More requests and more answers leave the reports as they are. -/
theorem Reports.extend {v v' : SessionView} {l l' : Link} (h : Reports v l)
    (hresults : v'.results = v.results) (haccepted : v.accepted <+: v'.accepted)
    (hframes : l.frames <+: l'.frames) : Reports v' l' := by
  intro n f hf
  rw [hresults] at hf
  obtain ⟨seq, payload, outcome, ha, houtcome, rfl⟩ := h n f hf
  exact ⟨seq, payload, outcome, getElem?_of_append haccepted ha,
    getElem?_of_append (hframes.filterMap answer?) houtcome, rfl⟩

/-- The next answer is reported under the number of the request that awaits it. -/
theorem Reports.result {v : SessionView} {l l' : Link} {f : Loraham.Frame} {outcome : TxOutcome}
    {earlier : List (UInt16 × Bytes)} {seq : UInt16} {payload : Bytes} (h : Reports v l)
    (haccepted : v.accepted = earlier ++ [(seq, payload)])
    (hearlier : earlier.length = v.results.length)
    (hanswers : v.results.length = (outcomes l.frames).length)
    (hframes : l'.frames = l.frames ++ [f]) (hanswer : answer? f = some outcome) :
    Reports (v.send (XrSession.txResultFrame seq outcome)) l' := by
  have hsend : v.send (XrSession.txResultFrame seq outcome) =
      { v with results := v.results ++ [XrSession.txResultFrame seq outcome] } := rfl
  rw [hsend]
  intro n g hg
  rcases Nat.lt_or_ge n v.results.length with hn | hn
  · rw [List.getElem?_append_left hn] at hg
    exact h.extend rfl List.prefix_rfl (by simp [hframes]) n g hg
  · rw [List.getElem?_append_right hn, List.getElem?_singleton] at hg
    split at hg <;> rename_i hlast
    · obtain rfl := Option.some.inj hg
      obtain rfl : n = v.results.length := by omega
      refine ⟨seq, payload, outcome, ?_, ?_, rfl⟩
      · simp [haccepted, ← hearlier]
      · simp [hframes, outcomes_append, hanswer, hanswers]
    · cases hg

/-- The results sent are the answers on the connection, in order. -/
structure Bond.Settled (β : Bond) : Prop where
  payloads : β.view.accepted.map Prod.snd <+: β.link.submitted
  reports : Reports β.view β.link
  ready : ∀ cfg flight, β.mode = .ready cfg flight →
    β.view.accepted.map Prod.snd = β.link.submitted ∧
      β.view.results.length = (outcomes β.link.frames).length
  idle : ∀ cfg, β.mode = .ready cfg none → β.view.accepted.length = β.view.results.length
  busy : ∀ cfg seq, β.mode = .ready cfg (some seq) → ∃ earlier payload,
    β.view.accepted = earlier ++ [(seq, payload)] ∧ earlier.length = β.view.results.length
  configuring : ∀ cfg, β.mode = .configuring cfg →
    β.view.accepted = [] ∧ β.view.results = [] ∧ β.link.submitted = [] ∧ β.link.frames = []

/-- Steps that concern neither requests nor answers. -/
theorem Bond.Settled.same {β β' : Bond} (h : β.Settled) (hmode : β'.mode = β.mode)
    (haccepted : β'.view.accepted = β.view.accepted)
    (hresults : β'.view.results = β.view.results)
    (hsubmitted : β'.link.submitted = β.link.submitted)
    (hframes : β.link.frames <+: β'.link.frames)
    (houtcomes : outcomes β'.link.frames = outcomes β.link.frames)
    (hconfiguring : ∀ cfg, β.mode = .configuring cfg → β'.link.frames = β.link.frames) :
    β'.Settled where
  payloads := by rw [haccepted, hsubmitted]; exact h.payloads
  reports := h.reports.extend hresults (by rw [haccepted]) hframes
  ready := by rw [hmode, haccepted, hresults, hsubmitted, houtcomes]; exact h.ready
  idle := by rw [hmode, haccepted, hresults]; exact h.idle
  busy := by rw [hmode, haccepted, hresults]; exact h.busy
  configuring cfg hcfg := by
    rw [hmode] at hcfg
    rw [haccepted, hresults, hsubmitted, hconfiguring cfg hcfg]
    exact h.configuring cfg hcfg

/-- A closed session is settled by what it has reported. -/
theorem Bond.settled_closed {v : SessionView} {l : Link}
    (hpayloads : v.accepted.map Prod.snd <+: l.submitted) (hreports : Reports v l) :
    Bond.Settled ⟨.closed, v, l⟩ :=
  ⟨hpayloads, hreports, by simp, by simp, by simp, by simp⟩

/-- Every step of a bond keeps its results settled. -/
theorem BondStep.settled {β β' : Bond} (hstep : BondStep True β β') (h : β.Settled) :
    β'.Settled := by
  cases hstep with
  | carry m v hgrows hframes =>
      exact h.same rfl rfl rfl hgrows.submitted hgrows.frames (by simp [hframes])
        fun _ _ => hframes
  | grant cfg v hgrows hframes =>
      obtain ⟨haccepted, hresults, hsubmitted, hnone⟩ := h.configuring cfg rfl
      dsimp only at haccepted hresults hsubmitted hnone
      rw [SessionView.send_eq]
      refine ⟨?_, ?_, ?_, ?_, by simp, by simp⟩
      · simp [haccepted]
      · exact fun n f hf => by simp [hresults, XrSession.configOkFrame] at hf
      · simp [haccepted, hresults, hgrows.submitted, hsubmitted, hframes, hnone,
          XrSession.configOkFrame, outcomes]
      · simp [haccepted, hresults, XrSession.configOkFrame]
  | ignore cfg flight v f hgrows hframes hrx hanswer =>
      exact h.same rfl rfl rfl hgrows.submitted hgrows.frames
        (by simp [hframes, outcomes_append, hanswer trivial]) (by simp)
  | forward cfg flight v f rx hgrows hframes hrx =>
      exact h.same rfl rfl rfl hgrows.submitted hgrows.frames
        (by simp [hframes, outcomes_append, answer?_of_decodeRx hrx]) (by simp)
  | result cfg seq v f outcome hgrows hframes hanswer =>
      obtain ⟨hsubmitted, hanswers⟩ := h.ready cfg (some seq) rfl
      obtain ⟨earlier, payload, haccepted, hearlier⟩ := h.busy cfg seq rfl
      dsimp only at haccepted hearlier
      have hreports := h.reports.result haccepted hearlier hanswers hframes hanswer
      refine ⟨?_, hreports, ?_, ?_, by simp, by simp⟩
      · rw [hgrows.submitted]
        exact h.payloads
      · rintro _ _ ⟨⟩
        refine ⟨hsubmitted.trans hgrows.submitted.symm, ?_⟩
        simpa [SessionView.send_eq, XrSession.txResultFrame, hframes, outcomes_append, hanswer]
          using hanswers
      · rintro _ ⟨⟩
        simp [SessionView.send_eq, XrSession.txResultFrame, haccepted, hearlier]
  | @submit cfg v l l' seq payload hgrows hframes =>
      obtain ⟨hsubmitted, hanswers⟩ := h.ready cfg none rfl
      have hnext : (v.accepted ++ [(seq, payload)]).map Prod.snd = l'.submitted := by
        rw [hgrows.submitted]
        simpa [Link.step] using hsubmitted
      refine ⟨by rw [hnext], h.reports.extend rfl (by simp) (by rw [hframes]), ?_, by simp, ?_,
        by simp⟩
      · rintro _ _ ⟨⟩
        exact ⟨hnext, by rw [hframes]; exact hanswers⟩
      · rintro _ _ ⟨⟩
        exact ⟨v.accepted, payload, rfl, h.idle cfg rfl⟩
  | refuse cfg v payload hgrows =>
      rcases hgrows with hgrows | hgrows
      · refine Bond.settled_closed ?_ (h.reports.extend rfl List.prefix_rfl hgrows.frames)
        rw [hgrows.submitted]
        exact h.payloads
      · refine Bond.settled_closed ?_ (h.reports.extend rfl List.prefix_rfl hgrows.frames)
        rw [hgrows.submitted]
        exact h.payloads.trans (List.prefix_append _ _)
  | close m v hgrows =>
      refine Bond.settled_closed ?_ (h.reports.extend rfl List.prefix_rfl hgrows.frames)
      rw [hgrows.submitted]
      exact h.payloads
  | reject m v l f hopen =>
      rw [SessionView.receive_eq]
      exact Bond.settled_closed h.payloads (h.reports.extend rfl List.prefix_rfl List.prefix_rfl)

/-- In every reachable bond the results are settled. -/
theorem Bond.Reachable.settled {β : Bond} (h : β.Reachable True) : β.Settled := by
  refine h.induction (fun β hβ => ?_) fun _ _ hstep hβ => hstep.settled hβ
  obtain ⟨⟨cfg, hmode, -⟩, -, hblank, hsubmitted, hframes⟩ := hβ
  refine ⟨by simp [hblank.1], fun n f hf => by simp [hblank.2.2.2] at hf, by simp [hmode],
    by simp [hmode], by simp [hmode], fun _ _ => ?_⟩
  exact ⟨hblank.1, hblank.2.2.2, hsubmitted, hframes⟩

/-! ## Answers and packets -/

/-- Answer `n` on a connection is about packet `n`, which was written whole. -/
def Matched (answered : Nat → Nat) (l : Link) : Prop :=
  ∀ n < (outcomes l.frames).length, answered n = n ∧ n < (Loraham.txPackets l.sent).length

/-- The answers on the present connection match its packets. -/
theorem LorahamBackend.Sound.matched {x : Snapshot} {answered : Nat → Nat → Nat} (h : Sound x)
    (hobedient : Obedient answered x.1.trace) :
    Matched (answered (earlierLinks x.1.trace).length) (link x.1.trace) := by
  intro n hn
  have hname := (h.tally answered hobedient).named n hn
  have hreceived := hn.trans_le (outcomes_le_received h.dispatches)
  have hwritten := hobedient.causal _ List.prefix_rfl n hreceived
  exact ⟨hname, by rwa [hname] at hwritten⟩

/-- A step of the custody machine leaves the connections, or replaces the current one. -/
theorem CustodyStep.earlierLinks {c c' : Custody} {events : List Event}
    (hstep : CustodyStep c events c') (trace : List Event) :
    earlierLinks (trace ++ events) = LorahamBridge.earlierLinks trace ∨
      LorahamBridge.earlierLinks (trace ++ events) = links trace := by
  cases hstep with
  | stay _ _ hinert | drop _ _ hinert | fault _ hinert =>
      exact Or.inl (earlierLinks_append fun e he => Event.isOpened_of_inert (hinert e he))
  | unsolicited | submit | write | finish =>
      exact Or.inl (earlierLinks_append (by simp [Event.isOpened]))
  | resolve f rest _ _ hinert =>
      refine Or.inl (earlierLinks_append fun e he => ?_)
      rcases List.mem_cons.mp he with rfl | he
      · rfl
      · exact Event.isOpened_of_inert (hinert e he)
  | opened _ owner band => exact Or.inr (earlierLinks_opened trace owner band)

/-- The answers on the connections that later ones replaced. -/
def EarlierMatched (trace : List Event) : Prop :=
  ∀ answered, Obedient answered trace → ∀ (k : Nat) (l : Link),
    (earlierLinks trace)[k]? = some l → Matched (answered k) l

/-- The answers on every connection match its packets. -/
theorem LorahamBackend.Sound.links_matched {x : Snapshot} (h : Sound x)
    (hearlier : EarlierMatched x.1.trace) {answered : Nat → Nat → Nat}
    (hobedient : Obedient answered x.1.trace) {k : Nat} {l : Link}
    (hl : (links x.1.trace)[k]? = some l) : Matched (answered k) l := by
  rw [links_eq] at hl
  rcases Nat.lt_or_ge k (earlierLinks x.1.trace).length with hk | hk
  · rw [List.getElem?_append_left hk] at hl
    exact hearlier answered hobedient k l hl
  · rw [List.getElem?_append_right hk, List.getElem?_singleton] at hl
    split at hl <;> rename_i hlast
    · obtain rfl := Option.some.inj hl
      obtain rfl : k = (earlierLinks x.1.trace).length := by omega
      exact h.matched hobedient
    · cases hl

/-- Every step keeps the earlier connections matched. -/
theorem LorahamBackend.Micro.earlierMatched {x y : Snapshot} (hstep : Micro x y) (h : Sound x)
    (hearlier : EarlierMatched x.1.trace) : EarlierMatched y.1.trace := by
  obtain ⟨events, htrace, hcustody⟩ := hstep.moves
  intro answered hobedient k l hl
  have hbefore := hobedient.mono hstep.trace_append
  rw [htrace] at hl
  rcases hcustody.earlierLinks x.1.trace with heq | heq
  · rw [heq] at hl
    exact hearlier answered hbefore k l hl
  · rw [heq] at hl
    exact h.links_matched hearlier hbefore hl

/-- The answers on every connection of a run are about its packets, in order. -/
theorem run_matched (env : BridgeEnv) (ops : List XrServer.Op) {answered : Nat → Nat → Nat}
    (hobedient : Obedient answered (XrServer.run env ops).backend.trace) {k : Nat} {l : Link}
    (hl : (links (XrServer.run env ops).backend.trace)[k]? = some l) : Matched (answered k) l := by
  have h := run_backend env (I := fun x => Sound x ∧ EarlierMatched x.1.trace)
    ⟨sound_of_new rfl rfl, fun _ _ k l hl => by simp [XrServer.initial, earlierLinks, linkHistory] at hl⟩
    (fun _ _ hstep hx => ⟨hstep.sound hx.1, hstep.earlierMatched hx.1 hx.2⟩) ops
  exact h.1.links_matched h.2 hobedient hl

/-- The packets written whole are the first ones submitted. -/
theorem Streams.txPackets_submitted {c : Custody} {l : Link} (h : Streams c l) :
    Loraham.txPackets l.sent <+: l.submitted := by
  obtain ⟨hsized, hstream⟩ := h
  have hwhole : l.Whole → Loraham.txPackets l.sent <+: l.submitted := fun hw => by
    rw [hw.txPackets hsized]
  have hcut : ∀ {done p off}, l.Cut done p off → Loraham.txPackets l.sent <+: l.submitted :=
    fun hc => by
      rw [hc.txPackets hsized, hc.submitted]
      exact List.prefix_append _ _
  cases c with
  | closed =>
      rcases hstream with hw | ⟨done, p, off, hc, -⟩
      · exact hwhole hw
      · exact hcut hc
  | free => exact hwhole hstream
  | writing frame off =>
      obtain ⟨done, p, -, hc⟩ := hstream
      exact hcut hc
  | owned | faulted => exact hwhole hstream.1

/-- The packets written whole are a beginning of those handed over. -/
theorem run_txPackets_submitted (env : BridgeEnv) (ops : List XrServer.Op) {l : Link}
    (hl : l ∈ links (XrServer.run env ops).backend.trace) :
    Loraham.txPackets l.sent <+: l.submitted := by
  have hsound := run_sound env ops
  rcases mem_links.mp hl with hl | rfl
  · exact (hsound.earlier l hl).txPackets_submitted
  · exact hsound.streams.txPackets_submitted

/-! ## The answers passed on -/

/-- The answer a callback reports. -/
def SinkCall.outcome? : SinkCall → Option TxOutcome
  | .onTxComplete outcome => some outcome
  | _ => none

/-- Every answer that is taken off the connection is passed on. -/
theorem LorahamBackend.CallStep.reported {call : SinkCall} {x y : Snapshot}
    (h : CallStep call x y) :
    outcomes (link y.1.trace).frames = outcomes (link x.1.trace).frames ++ call.outcome?.toList := by
  cases h with
  | configSucceed => simp [Link.step, SinkCall.outcome?]
  | configFail b c hc | lost b c unread hc =>
      rcases hc with rfl | ⟨chunk, line, rfl⟩ <;> simp [Link.step, SinkCall.outcome?]
  | received b unread f rest rx hstate hpop hrx =>
      simp [link_append, Link.step, outcomes_append, answer?_of_decodeRx hrx, SinkCall.outcome?]
  | completed b unread f rest outcome hstate hpop hanswer =>
      simp [Link.step, outcomes_append, hanswer, SinkCall.outcome?]

/-- The fence of epochs never holds an answer back, so that a daemon that answers only
what it was asked has all its answers passed on. -/
theorem LorahamBackend.QuietStep.reported {s : XrSession} {b b' : LorahamBackend}
    {unread unread' : Option Bytes} (hcoupled : Coupled s b) (hsound : Sound (b, unread))
    (hdrain : b.state ≠ .draining) (h : QuietStep (b, unread) (b', unread'))
    (hhonest : Honest True b'.trace) :
    outcomes (link b'.trace).frames = outcomes (link b.trace).frames := by
  rcases h.frames hdrain (fun hs => hcoupled.epoch (Or.inr hs)) with
    hframes | ⟨f, htrace, hlink, -, hanswer⟩
  · rw [hframes]
  · have htrace : b'.trace = b.trace ++ [.dispatched f] := htrace
    have hnone : answer? f = none := by
      rcases hanswer with hanswer | hpending
      · exact hanswer
      · refine answer?_of_honest hsound ((Micro.poll (.quiet h)).sound hsound) htrace ?_ hhonest
          trivial
        have hpending : b.state ≠ .txPending := hpending
        have hlink : onLink b.state = true := hlink
        cases hs : b.state <;> simp_all [onLink, rxOk]
    rw [htrace, link_append_singleton]
    simp [Link.step, outcomes_append, hnone]

/-- The answers of an obedient daemon are passed on. -/
def txOffering : Offering TxOutcome where
  pick := SinkCall.outcome?
  take := answer?
  assumed := Honest True
  mono hle hhonest := hhonest.mono hle
  quiet hcoupled hsound hdrain hstep hhonest := hstep.reported hcoupled hsound hdrain hhonest
  call hstep := hstep.reported

/-! ## Main result -/

/-- The result code that stands for a terminal frame: of the statuses of a `TX_RESULT`,
`OK` (0) is a success and `CHANNEL_BUSY` (2) a busy channel; every other status and
every `ERROR` is an error of the radio. -/
def resultByte (answer : Loraham.Frame) : UInt8 :=
  match answer.type with
  | .txResult =>
      if answer.payload.getD 0 0 = 0x00 then 0x00
      else if answer.payload.getD 0 0 = 0x02 then 0x01
      else 0x03
  | _ => 0x03

/-- The code of what a terminal frame says is the one that stands for it. -/
theorem resultCode_outcomeOf (answer : Loraham.Frame) :
    XrSession.resultCode (outcomeOf answer) = resultByte answer := by
  obtain ⟨type, payload⟩ := answer
  cases type with
  | txResult =>
      simp only [outcomeOf, resultByte]
      split
      · rfl
      · split <;> rfl
  | _ => rfl

/-- A result is attributed.  It carries the number of the request handed over last,
which had no result yet; this is request `n` of its session, its packet was written
whole as packet `n` of the connection, and terminal frame `n` received there, which is
about packet `n`, is what the result says. -/
structure AttributedTo (answered : Nat → Nat) (l : Link) (log : List SessionEvent) (f : Frame)
    (n : Nat) (payload : Bytes) (answer : Loraham.Frame) : Prop where
  unanswered : Unanswered f.seq log
  last : (acceptedRequests log).length = n + 1
  request : (acceptedRequests log)[n]? = some (f.seq, payload)
  packet : (Loraham.txPackets l.sent)[n]? = some payload
  terminal : (l.frames.filter isTerminal)[n]? = some answer
  about : answered n = n
  code : f.payload = [resultByte answer]

/-- A settled result is attributed to its request. -/
theorem attributedTo_of_settled {env : XrEnv} {answered : Nat → Nat} {l : Link} {m : BondMode}
    {s : XrSession} (hs : Conducted env s) (hsettled : Bond.Settled ⟨m, view s.log, l⟩)
    (hmatched : Matched answered l) (hpackets : Loraham.txPackets l.sent <+: l.submitted)
    {log : List SessionEvent} {f : Frame} (hle : log ++ [.emitted f] <+: s.log)
    (htype : f.type = .txResult) :
    ∃ n payload answer, AttributedTo answered l log f n payload answer := by
  obtain ⟨c, hreplay, -⟩ := hs.conduct
  have hunanswered := (replay_answering hreplay).answered log f hle htype
  have hcount : (view log).accepted.length = (view log).results.length + 1 := by
    obtain ⟨rest, hlog⟩ := hle
    obtain ⟨c₀, hreplay₀⟩ := replay_prefix (hlog ▸ hreplay)
    exact accepted_of_result hreplay₀ htype
  obtain ⟨hresult, haccepted⟩ := view_of_emitted htype hle
  obtain ⟨seq, payload, outcome, hrequest, houtcome, rfl⟩ := hsettled.reports _ _ hresult
  generalize (view log).results.length = n at hcount hrequest houtcome
  obtain ⟨habout, hwritten⟩ := hmatched n (List.getElem?_eq_some_iff.mp houtcome).1
  obtain ⟨answer, hterminal, rfl⟩ := terminal_of_outcome houtcome
  refine ⟨n, payload, answer, hunanswered, by rw [← view_accepted, hcount], ?_, ?_, hterminal,
    habout, by rw [← resultCode_outcomeOf]; rfl⟩
  · rw [← view_accepted, ← getElem?_eq_of_lt haccepted (by omega)]
    exact hrequest
  · rw [← getElem?_eq_of_lt hpackets hwritten]
    refine getElem?_of_append hsettled.payloads ?_
    rw [List.getElem?_map, hrequest]
    rfl

/-- Results are attributed correctly end to end, if the daemon answers only packets
it has received whole and each at most once.  Every session that sends results has a
connection of its own, and every one of them is the daemon's answer to the packet of
the request before it.  An answer on the connection of a session that has not given
it up is not held back by the fence of epochs, and becomes the result of the request
before it, or closes the session for want of room. -/
theorem tx_results_attributed (env : BridgeEnv) (ops : List XrServer.Op)
    (answered : Nat → Nat → Nat)
    (hobedient : Obedient answered (XrServer.run env ops).backend.trace) :
    let sv := XrServer.run env ops
    let trace := sv.backend.trace
    (∀ s ∈ sv.sessions, (∀ f ∈ emittedFrames s.log, f.type ≠ .txResult) ∨
      ∃ (k : Nat) (l : Link), (links trace)[k]? = some l ∧ l.owner = some s.id ∧
        ∀ log f, log ++ [.emitted f] <+: s.log → f.type = .txResult →
          ∃ n payload answer, AttributedTo (answered k) l log f n payload answer) ∧
    ∀ c, sv.conn = some c →
      (sv.backend.state = .txPending → sv.backend.pendingEpoch = sv.backend.txEpoch) ∧
      ((link trace).owner = some c.session.id → .abandonCalled ∉ c.session.log →
        offered SinkCall.outcome? c.session.log = outcomes (link trace).frames) ∧
      ∀ earlier outcome rest,
        c.session.log = earlier ++ .callback (.onTxComplete outcome) :: rest →
        ReadyIn earlier → (view earlier).results.length < (view earlier).accepted.length →
        ∃ seq tail, Unanswered seq earlier ∧
          (rest = .emitted (XrSession.txResultFrame seq outcome) :: tail ∨
            rest = .closed .outputOverflow :: tail) := by
  have hhonest : Honest True (XrServer.run env ops).backend.trace :=
    fun _ => ⟨answered, hobedient⟩
  have hconducted := conducted_invariant lorahamRadio env.toXrEnv
  refine ⟨?_, ?_⟩
  · intro s hs
    rcases run_session_bond env ops hhonest hs with hblank | ⟨l, hl, howner, m, hbond⟩
    · refine Or.inl fun f hf htype => ?_
      have hresults := hblank.2.2.2
      rw [view_eq] at hresults
      exact absurd (by simp [htype]) (List.filter_eq_nil_iff.mp hresults f hf)
    · obtain ⟨k, hk⟩ := List.mem_iff_getElem?.mp hl
      refine Or.inr ⟨k, l, hk, howner, fun log f hle htype => ?_⟩
      exact attributedTo_of_settled (hconducted.run_sessions ops hs) hbond.settled
        (run_matched env ops hobedient hk) (run_txPackets_submitted env ops hl) hle htype
  · intro c hconn
    have hcoupled := (coupling env).run ops
    unfold Invariant.holds at hcoupled
    rw [hconn] at hcoupled
    refine ⟨fun hstate => hcoupled.2.2.epoch (Or.inr hstate),
      (run_heard txOffering env ops hconn).own hhonest, ?_⟩
    intro earlier outcome rest hlog hready hwaits
    obtain ⟨a, hreplay, hagrees⟩ := (hconducted.run_server ops hconn).conduct
    refine replay_tx (hlog ▸ hreplay) ?_ hready hwaits
    by_cases hopen : c.session.phase = .closed
    · exact Or.inr (by rw [hagrees.stage, stageOf, hopen])
    · exact Or.inl (hagrees.resting hopen)

/-- A client in open mode configures the radio and has one packet transmitted. -/
def exchange : List XrServer.Op :=
  [⟨0, {}, .accept none⟩,
    ⟨1, { beginConnect := [true] }, .feed (Extradio.frameBytes ⟨.hello, 0, [kVersion]⟩ ++
      Extradio.frameBytes ⟨.configure, 0, packConfig meshConfig⟩)⟩,
    ⟨1, { pollConnect := [.connected]
          confSendSome := [.took 512]
          confRecv := [.data readyStatus] }, .poll⟩,
    ⟨1, { dataSendSome := [.took 512] },
      .feed (Extradio.frameBytes ⟨.txRequest, 7, [1, 2, 3]⟩)⟩,
    ⟨1, { dataRecv := [.data ⟨Loraham.framedBytes .txResult [0, 0, 0, 0], by decide⟩] }, .poll⟩]

/-- The result of the exchange is attributed to its request. -/
theorem tx_results_attributed_exchange :
    let env : BridgeEnv :=
      ⟨⟨⟨[]⟩, fun _ _ => none, defaultTimeouts, 65536, fun _ n => n⟩, 2000, 30000⟩
    let result : Frame := ⟨.txResult, 7, [txrSuccess]⟩
    ∃ s ∈ (XrServer.run env exchange).sessions, ∃ l log n payload answer,
      l.owner = some s.id ∧ log ++ [.emitted result] <+: s.log ∧
        AttributedTo (fun n => n) l log result n payload answer := by
  intro env result
  have hanswers : ∀ pre ∈ (XrServer.run env exchange).backend.trace.inits,
      (link pre).answersReceived ≤ (Loraham.txPackets (link pre).sent).length := by
    decide +kernel
  have hobedient : Obedient (fun _ n => n) (XrServer.run env exchange).backend.trace :=
    ⟨fun pre hpre j hj => hj.trans_le (hanswers pre ((List.mem_inits _ _).mpr hpre)),
      fun _ _ _ _ _ _ heq => heq⟩
  have hsent : ((XrServer.run env exchange).sessions.any fun s =>
      s.log.contains (.emitted result)) = true := by decide +kernel
  obtain ⟨s, hs, hlog⟩ := List.any_eq_true.mp hsent
  obtain ⟨log, rest, hsplit⟩ := List.append_of_mem (List.contains_iff_mem.mp hlog)
  rcases (tx_results_attributed env exchange _ hobedient).1 s hs with hnone | ⟨k, l, -, howner, hall⟩
  · exact absurd rfl (hnone result (by simp [hsplit, emittedFrames]))
  · have hle : log ++ [.emitted result] <+: s.log := ⟨rest, by simp [hsplit]⟩
    obtain ⟨n, payload, answer, hattributed⟩ := hall log result hle rfl
    exact ⟨s, hs, l, log, n, payload, answer, howner, hle, hattributed⟩

end LorahamBridge
