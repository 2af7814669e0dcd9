import LorahamBridge.Bridge.BondRefinement
import LorahamBridge.Loraham.ConfEvidence

/-!
# Configuration

A client that is told `CFG_OK` has its configuration applied: on the connection its
own session opened, for the band of its frequency, with exactly the five command
lines written and a ready radio reported by the first reply that decides anything.
And a client that waits does not wait in vain: the result of a configuration is
delivered to the session that asked for it, once.

Main results:

- Theorem `configuration_success_sound`: what stands behind every `CFG_OK` of a run,
  and how the operation tokens are answered.
-/

namespace LorahamBridge

open Foundation Extradio Loraham LorahamBackend

/-! ## The evidence for a grant -/

/-- What a session has granted so far, next to the connection that backs it. -/
structure Bond.Granted (β : Bond) : Prop where
  pending : ∀ cfg, β.mode = .configuring cfg →
    β.view.grants = [] ∧ β.view.configures = [packConfig cfg]
  backed : β.view.grants = [] ∨ ∃ cfg, β.view.grants = [XrSession.configOkFrame cfg] ∧
    [packConfig cfg] <+: β.view.configures ∧ Configured β.link cfg

/-- A grant stays backed while the connection grows and the client asks on. -/
theorem backed_mono {v v' : SessionView} {l l' : Link} (hgrants : v'.grants = v.grants)
    (hconfigures : v.configures <+: v'.configures)
    (hlink : ∀ cfg, Configured l cfg → Configured l' cfg)
    (h : v.grants = [] ∨ ∃ cfg, v.grants = [XrSession.configOkFrame cfg] ∧
      [packConfig cfg] <+: v.configures ∧ Configured l cfg) :
    v'.grants = [] ∨ ∃ cfg, v'.grants = [XrSession.configOkFrame cfg] ∧
      [packConfig cfg] <+: v'.configures ∧ Configured l' cfg := by
  rw [hgrants]
  refine h.imp_right ?_
  rintro ⟨cfg, hgrant, hasked, hbacked⟩
  exact ⟨cfg, hgrant, hasked.trans hconfigures, hlink cfg hbacked⟩

/-- A packet handed over leaves the CONF exchange alone. -/
theorem configured_submitted {l : Link} {cfg : RadioConfig} (payload : Bytes)
    (h : Configured l cfg) : Configured (l.step (.submitted payload)) cfg :=
  h.grow rfl rfl List.prefix_rfl

/-- Receiving grants nothing, and only adds to what is asked for. -/
theorem SessionView.grants_receive (v : SessionView) (f : Extradio.Frame) :
    (v.receive f).grants = v.grants ∧ v.configures <+: (v.receive f).configures := by
  rw [SessionView.receive_eq]
  exact ⟨rfl, List.prefix_append _ _⟩

/-- Every step of a bond keeps its grant behind a configuration. -/
theorem BondStep.granted {honest : Prop} {β β' : Bond} (hstep : BondStep honest β β')
    (h : β.Granted) : β'.Granted := by
  cases hstep with
  | carry m v hgrows =>
      exact ⟨h.pending, backed_mono rfl List.prefix_rfl (fun _ hc => hc.grows hgrows) h.backed⟩
  | grant cfg v hgrows _ hconfigured =>
      obtain ⟨hgrants, hconfigures⟩ := h.pending cfg rfl
      have hgrants : v.grants = [] := hgrants
      have hconfigures : v.configures = [packConfig cfg] := hconfigures
      refine ⟨fun cfg' hmode => (by cases hmode), Or.inr ⟨cfg, ?_, ?_, hconfigured⟩⟩
      · simp [SessionView.send, isGrant, XrSession.configOkFrame, hgrants]
      · simp [SessionView.send, isGrant, XrSession.configOkFrame, hconfigures]
  | ignore _ _ v f hgrows | forward _ _ v f rx hgrows | result _ _ v f outcome hgrows =>
      exact ⟨fun cfg' hmode => (by cases hmode),
        backed_mono (v := v) rfl List.prefix_rfl (fun _ hc => hc.grows hgrows) h.backed⟩
  | submit _ v seq payload hgrows =>
      exact ⟨fun cfg' hmode => (by cases hmode), backed_mono (v := v) rfl List.prefix_rfl
        (fun _ hc => (configured_submitted payload hc).grows hgrows) h.backed⟩
  | refuse _ v payload hgrows =>
      refine ⟨fun cfg' hmode => (by cases hmode), backed_mono (v := v) rfl List.prefix_rfl ?_ h.backed⟩
      intro cfg' hc
      rcases hgrows with hgrows | hgrows
      · exact hc.grows hgrows
      · exact (configured_submitted payload hc).grows hgrows
  | close m v hgrows =>
      exact ⟨fun cfg' hmode => (by cases hmode),
        backed_mono rfl List.prefix_rfl (fun _ hc => hc.grows hgrows) h.backed⟩
  | reject m v l f hopen =>
      obtain ⟨hgrants, hconfigures⟩ := v.grants_receive f
      exact ⟨fun cfg' hmode => (by cases hmode),
        backed_mono hgrants hconfigures (fun _ hc => hc) h.backed⟩

/-- In every reachable bond a grant is behind a configuration. -/
theorem Bond.Reachable.granted {honest : Prop} {β : Bond} (h : β.Reachable honest) :
    β.Granted := by
  refine h.induction ?_ fun _ _ hstep hβ => hstep.granted hβ
  intro β hopened
  obtain ⟨cfg, hmode, hconfigures⟩ := hopened.mode
  refine ⟨fun cfg' hmode' => ⟨hopened.blank.2.1, ?_⟩, Or.inl hopened.blank.2.1⟩
  rw [hmode] at hmode'
  cases hmode'
  exact hconfigures

/-! ## The results delivered to a session -/

/-- The configuration result a callback carries. -/
def SinkCall.completion : SinkCall → List (UInt32 × ConfigureResult)
  | .onConfigureComplete token res => [(token, res)]
  | _ => []

/-- The configuration results delivered to a session. -/
def completionsTo (id : Nat) (trace : List Event) : List (UInt32 × ConfigureResult) :=
  trace.flatMap fun
    | .notified sink call => if sink = id then call.completion else []
    | _ => []

/-- The results delivered over a history that goes on. -/
@[simp]
theorem completionsTo_append (id : Nat) (trace events : List Event) :
    completionsTo id (trace ++ events) = completionsTo id trace ++ completionsTo id events :=
  List.flatMap_append

/-- A configuration is on its way. -/
def Pending (state : BackendState) : Prop :=
  state = .connecting ∨ state = .configuring

namespace LorahamBackend

section Completions

variable (id : Nat)

/-- A callback delivers its result to the session that is the sink. -/
theorem completionsTo_notify (call : SinkCall) (b : LorahamBackend) :
    completionsTo id (b.notify call).trace =
      completionsTo id b.trace ++ if b.sink = some id then call.completion else [] := by
  cases hsink : b.sink <;> simp [notify, hsink, completionsTo]

/-- The dispatch of an answer delivers no configuration result. -/
theorem completionsTo_confirmation (f : Loraham.Frame) (b : LorahamBackend) :
    completionsTo id (.dispatched f :: confirmation f b) = [] := by
  unfold confirmation
  split <;> simp [completionsTo]

theorem completionsTo_logTxOutcome (outcome : LoggedOutcome) (b : LorahamBackend) :
    completionsTo id (b.logTxOutcome outcome).trace = completionsTo id b.trace := by
  simp only [logTxOutcome, completionsTo_append]
  split <;> simp [completionsTo]

@[simp]
theorem completionsTo_reset (b : LorahamBackend) :
    completionsTo id b.resetLinkUnconfigured.trace = completionsTo id b.trace := by
  simp [resetLinkUnconfigured, completionsTo]

@[simp]
theorem completionsTo_enterFault (b : LorahamBackend) :
    completionsTo id b.enterFault.trace = completionsTo id b.trace := by
  rw [enterFault, completionsTo_append, completionsTo_logTxOutcome]
  simp [completionsTo]

theorem ConfTaken.completions {b c : LorahamBackend} (h : ConfTaken b c) :
    completionsTo id c.trace = completionsTo id b.trace := by
  rcases h with rfl | ⟨chunk, line, rfl⟩
  · rfl
  · simp [takeConf, completionsTo]

/-- Nothing is delivered, and what is on its way stays so. -/
structure Undisturbed (b b' : LorahamBackend) : Prop where
  completions : ∀ id, completionsTo id b'.trace = completionsTo id b.trace
  token : b'.configToken = b.configToken
  pending : Pending b'.state ↔ Pending b.state

/-- A quiet step delivers nothing. -/
theorem QuietStep.undisturbed {x y : Snapshot} (h : QuietStep x y) : Undisturbed x.1 y.1 := by
  cases h with
  | answers | dataPush | dataDrained | discard | confWritten =>
      exact ⟨fun _ => rfl, rfl, Iff.rfl⟩
  | connected b hstate => exact ⟨fun _ => rfl, rfl, by simp [Pending, hstate]⟩
  | confWrite | configQuiet | confQuiet | dataWrite | dataRead | dataIgnored | dataHeard
  | confDiscard =>
      exact ⟨by simp [sendConf_eq, takeConf, sendData_eq, record, completionsTo], rfl, Iff.rfl⟩
  | dataWriteLast b n hstate =>
      exact ⟨by simp [sendData_eq, completionsTo], rfl, by simp [Pending, hstate]⟩
  | dataFenced b unread f rest outcome hstate =>
      exact ⟨by simp [completionsTo_confirmation], rfl, by simp [Pending, hstate]⟩
  | dataCleared b unread f rest outcome hstate =>
      exact ⟨by simp [completionsTo_confirmation], rfl,
        by simp [Pending, hstate, resetLinkUnconfigured]⟩
  | drainLost b unread hstate | drainExpired b hstate =>
      exact ⟨fun id => completionsTo_enterFault id b, rfl, by simp [Pending, hstate, enterFault]⟩

theorem undisturbed_submitTx (data : Bytes) (b : LorahamBackend) :
    Undisturbed b (b.submitTx data).2 := by
  have hcases := submitTx_cases data b
  generalize b.submitTx data = r at hcases
  have hwrites : ∀ (id : Nat) (writes : List Bytes),
      completionsTo id (writes.map Event.dataSent) = [] := by
    intro id writes
    simp [completionsTo, List.flatMap_map]
  have hheld : ∀ (id : Nat) (transport : DaemonTransport) (off : Nat) (writes : List Bytes),
      completionsTo id ((b.holdTx data).wrote transport off writes).trace =
        completionsTo id b.trace := by
    intro id transport off writes
    simp only [wrote, holdTx, completionsTo_append, hwrites]
    simp [completionsTo]
  cases hcases with
  | refused => exact ⟨fun _ => rfl, rfl, Iff.rfl⟩
  | failed transport off writes hstate =>
      refine ⟨fun id => ?_, rfl, by simp [Pending, hstate, resetLinkUnconfigured]⟩
      rw [completionsTo_reset, hheld]
  | accepted transport off writes state hstate _ _ hnext =>
      refine ⟨fun id => hheld id transport off writes, rfl, ?_⟩
      rcases hnext with rfl | rfl <;> simp [Pending, hstate]

theorem undisturbed_abandonPendingTx (b : LorahamBackend) : Undisturbed b b.abandonPendingTx := by
  unfold abandonPendingTx
  split <;> rename_i hstate
  · exact ⟨fun _ => rfl, rfl, by simp [Pending, hstate]⟩
  · exact ⟨fun id => completionsTo_reset id b, rfl,
      by simp [Pending, hstate, resetLinkUnconfigured]⟩
  · exact ⟨fun _ => rfl, rfl, Iff.rfl⟩

/-- A call step delivers its own result to the attached session. -/
theorem CallStep.completions {call : SinkCall} {x y : Snapshot} (h : CallStep call x y) :
    completionsTo id y.1.trace =
      completionsTo id x.1.trace ++ if x.1.sink = some id then call.completion else [] := by
  cases h with
  | configSucceed b chunk rest =>
      have htaken : ConfTaken b (b.takeConf chunk rest) := Or.inr ⟨chunk, rest, rfl⟩
      exact (completionsTo_notify id _ _).trans (congrArg (· ++ _) (htaken.completions id))
  | configFail b c hc =>
      obtain ⟨-, -, hsink, -, htoken⟩ := hc.frame
      refine (completionsTo_notify id _ _).trans ?_
      rw [completionsTo_reset, hc.completions id, ← hsink, ← htoken]
      rfl
  | lost b c unread hc hstate =>
      have hnone : completionsTo id c.handleDisconnect.trace = completionsTo id b.trace := by
        rw [← hc.completions id]
        rcases handleDisconnect_cases c with ⟨-, heq⟩ | ⟨-, heq⟩ | ⟨-, -, heq⟩ <;> rw [heq]
        · exact completionsTo_enterFault id c
        all_goals simp [completionsTo_notify, SinkCall.completion]
      simp [hnone, SinkCall.completion]
  | received b unread f rest rx =>
      refine (completionsTo_notify id _ _).trans ?_
      simp [completionsTo]
  | completed b unread f rest outcome =>
      refine (completionsTo_notify id _ _).trans ?_
      simp [completionsTo_confirmation]

end Completions

end LorahamBackend

/-- The operation tokens a session was given. -/
def tokens (log : List SessionEvent) : List UInt32 :=
  log.filterMap fun
    | .configureCalled _ token => if token = 0 then none else some token
    | _ => none

/-- The phases before a configuration is asked for. -/
def Early (phase : Phase) : Prop :=
  phase = .waitHello ∨ phase = .waitAuth ∨ phase = .waitConfigure

/-- The result for a token: still on its way, or delivered once. -/
structure Awaited (s : XrSession) (b : LorahamBackend) : Prop where
  early : Early s.phase → tokens s.log = [] ∧ completionsTo s.id b.trace = []
  token : ∀ token ∈ tokens s.log, b.configToken = token ∧
    (Pending b.state ∧ completionsTo s.id b.trace = [] ∨
      ¬ Pending b.state ∧ ∃ res, completionsTo s.id b.trace = [(token, res)])

/-- A session of the past gets no second result. -/
def AtMostOnce (s : XrSession) (trace : List Event) : Prop :=
  ∀ token ∈ tokens s.log, completionsTo s.id trace = [] ∨
    ∃ res, completionsTo s.id trace = [(token, res)]

/-- The results delivered to the present session, to those of the past, and to those to come. -/
structure Deliveries (past : List XrSession) (s : XrSession) (b : LorahamBackend) : Prop where
  awaited : Awaited s b
  earlier : ∀ t ∈ past, AtMostOnce t b.trace
  fresh : ∀ id, past.length < id → completionsTo id b.trace = []

section Awaited

variable {past : List XrSession} {s s' : XrSession} {b b' : LorahamBackend}

/-- A step that delivers nothing leaves the result where it is. -/
theorem Awaited.undisturbed (h : Awaited s b) (hb : Undisturbed b b') : Awaited s b' := by
  refine ⟨?_, ?_⟩
  · rw [hb.completions]
    exact h.early
  · rw [hb.completions, hb.token, hb.pending]
    exact h.token

/-- The session goes on without asking for another configuration. -/
theorem Awaited.session (h : Awaited s b) (hid : s'.id = s.id)
    (htokens : tokens s'.log = tokens s.log) (hearly : Early s'.phase → Early s.phase) :
    Awaited s' b := by
  refine ⟨?_, ?_⟩
  · rw [hid, htokens]
    exact fun hphase => h.early (hearly hphase)
  · rw [hid, htokens]
    exact h.token

/-- A session that was never given a token has nothing to wait for. -/
theorem awaited_of_closed (hphase : s.phase = .closed) (htokens : tokens s.log = []) :
    Awaited s b :=
  ⟨fun hearly => by simp [Early, hphase] at hearly, by simp [htokens]⟩

/-- A step that delivers nothing to anybody keeps the account of the other sessions. -/
theorem Deliveries.keep (h : Deliveries past s b)
    (hb : ∀ id, completionsTo id b'.trace = completionsTo id b.trace) (hs : Awaited s' b') :
    Deliveries past s' b' := by
  refine ⟨hs, ?_, ?_⟩
  · intro t ht
    unfold AtMostOnce
    rw [hb]
    exact h.earlier t ht
  · intro id hid
    rw [hb]
    exact h.fresh id hid

theorem not_early_closed : ¬ Early .closed := by
  simp [Early]

/-- No outcome of a callback asks for a configuration. -/
theorem XrSession.CallOutcome.tokens {env : XrEnv} {now : Nat} {call : SinkCall}
    (h : XrSession.CallOutcome env now s call s') :
    tokens s'.log = tokens s.log ∧ (Early s'.phase → Early s.phase) := by
  cases h with
  | ignored => exact ⟨by simp [XrSession.record, LorahamBridge.tokens], fun he => he⟩
  | failed | rxOverflow | completeOverflow | configOverflow =>
      exact ⟨by simp [XrSession.shut, XrSession.record, LorahamBridge.tokens],
        fun he => absurd he not_early_closed⟩
  | forwarded | completed =>
      exact ⟨by simp [XrSession.queue, XrSession.record, LorahamBridge.tokens], fun he => he⟩
  | configured =>
      refine ⟨?_, fun he => absurd he (by simp [Early, XrSession.enterReady])⟩
      simp [XrSession.enterReady, XrSession.queue, XrSession.record, LorahamBridge.tokens]
  | configFailed _ _ _ frames _ _ _ hframes =>
      refine ⟨?_, fun he => absurd he not_early_closed⟩
      rcases hframes with rfl | rfl <;>
        simp [XrSession.shut, XrSession.queue, XrSession.record, LorahamBridge.tokens]

/-- A callback delivers what was on its way. -/
theorem Deliveries.call {env : XrEnv} {now : Nat} {call : SinkCall}
    {unread unread' : Option Bytes} (h : Deliveries past s b) (hnumbered : Numbered past)
    (hid : s.id = past.length) (hc : Coupled s b)
    (hstep : CallStep call (b, unread) (b', unread'))
    (hout : XrSession.CallOutcome env now s call s') : Deliveries past s' b' := by
  obtain ⟨htokens, hearly⟩ := hout.tokens
  have hother : ∀ id, id ≠ s.id → completionsTo id b'.trace = completionsTo id b.trace := by
    intro id hne
    refine (hstep.completions id).trans ?_
    simp [hc.sink, hne.symm]
  have hown : completionsTo s.id b'.trace = completionsTo s.id b.trace ++ call.completion := by
    refine (hstep.completions s.id).trans ?_
    simp [hc.sink]
  refine ⟨?_, ?_, ?_⟩
  · refine Awaited.session (s := s) ?_ hout.id htokens hearly
    constructor
    · intro hphase
      exact absurd (hc.early hphase) hstep.not_parked
    · intro token htoken
      obtain ⟨hconfig, hwait⟩ := h.awaited.token token htoken
      cases hstep with
      | configSucceed _ _ _ hstate =>
          rcases hwait with ⟨-, hnone⟩ | ⟨hnot, -⟩
          · rw [hnone, hconfig] at hown
            exact ⟨hconfig, Or.inr ⟨by simp [Pending, configSucceed, notify], _, hown⟩⟩
          · exact absurd (Or.inr hstate) hnot
      | configFail _ c hc' hstate =>
          rcases hwait with ⟨-, hnone⟩ | ⟨hnot, -⟩
          · rw [hnone, hconfig] at hown
            refine ⟨hc'.frame.2.2.2.2.trans hconfig, Or.inr ⟨?_, _, hown⟩⟩
            simp [Pending, configFail, resetLinkUnconfigured, notify]
          · exact absurd hstate hnot
      | lost _ c _ hc' hstate =>
          refine ⟨?_, ?_⟩
          · rcases handleDisconnect_cases c with ⟨-, heq⟩ | ⟨-, heq⟩ | ⟨-, -, heq⟩ <;>
              rw [heq] <;> exact hc'.frame.2.2.2.2.trans hconfig
          · rcases hwait with ⟨hpending, -⟩ | ⟨-, res, hres⟩
            · rcases hpending with hs | hs <;> simp [hs, rxOk] at hstate
            · refine Or.inr ⟨?_, res, by rw [hown, hres]; rfl⟩
              rcases handleDisconnect_state c with hs | hs <;> simp [Pending, hs]
      | received _ _ _ _ _ hstate =>
          refine ⟨hconfig, ?_⟩
          rw [hown]
          simpa [SinkCall.completion, notify] using hwait
      | completed _ _ _ _ _ hstate =>
          refine ⟨hconfig, ?_⟩
          rcases hwait with ⟨hpending, -⟩ | ⟨-, res, hres⟩
          · simp [Pending, hstate] at hpending
          · exact Or.inr ⟨by simp [Pending, notify], res, by rw [hown, hres]; rfl⟩
  · intro t ht
    unfold AtMostOnce
    rw [hother t.id ?_]
    · exact h.earlier t ht
    · have hmem : t.id ∈ past.map XrSession.id := List.mem_map_of_mem ht
      rw [hnumbered.eq, List.mem_range] at hmem
      omega
  · intro id hlt
    rw [hother id (by omega)]
    exact h.fresh id hlt

/-- The answer to a `CONFIGURE` is the only frame that starts a configuration. -/
theorem Deliveries.frame {env : XrEnv} {now : Nat} {f : Extradio.Frame}
    (h : Deliveries past s b)
    (hout : XrSession.FrameOutcome lorahamRadio env now f s b (s', b')) :
    Deliveries past s' b' := by
  have hstay : tokens s'.log = tokens s.log → s'.id = s.id → (Early s'.phase → Early s.phase) →
      Deliveries past s' b := fun htokens hid hearly =>
    h.keep (fun _ => rfl) (h.awaited.session hid htokens hearly)
  cases hout with
  | rejected =>
      exact hstay (by simp [XrSession.shut, XrSession.record, tokens]) rfl
        fun he => absurd he not_early_closed
  | helloFailed _ frames _ _ _ hframes =>
      refine hstay ?_ rfl fun he => absurd he not_early_closed
      rcases hframes with rfl | rfl <;>
        simp [XrSession.shut, XrSession.queue, XrSession.record, tokens]
  | challenged _ nonce hphase | helloOpen _ hphase =>
      exact hstay (by simp [XrSession.arm, XrSession.queue, XrSession.record, tokens]) rfl
        fun _ => Or.inl hphase
  | authClosed _ frames _ _ _ _ _ hframes =>
      refine hstay ?_ rfl fun he => absurd he not_early_closed
      rcases hframes with rfl | ⟨-, rfl⟩ <;>
        simp [XrSession.shut, XrSession.queue, XrSession.record, tokens]
  | authenticated _ hphase =>
      exact hstay (by simp [XrSession.arm, XrSession.queue, XrSession.record, tokens]) rfl
        fun _ => Or.inr (Or.inl hphase)
  | configInvalid _ frames _ _ hframes =>
      refine hstay ?_ rfl fun he => absurd he not_early_closed
      rcases hframes with rfl | rfl <;>
        simp [XrSession.shut, XrSession.queue, XrSession.record, tokens]
  | configRefused _ frames _ requested _ hphase _ hbackend hframes =>
      have hnone := (h.awaited.early (Or.inr (Or.inr hphase))).1
      have hsilent : ∀ id, completionsTo id b'.trace = completionsTo id b.trace := by
        have hcases := beginConfigure_cases requested b
        change b.beginConfigure requested = _ at hbackend
        rw [hbackend] at hcases
        generalize hzero : (0 : UInt32) = token at hcases
        intro id
        cases hcases <;> simp [openLink, record, completionsTo]
      refine h.keep hsilent (awaited_of_closed rfl ?_)
      rcases hframes with rfl | rfl <;>
        simpa [XrSession.shut, XrSession.queue, XrSession.record, tokens] using hnone
  | configStarted requested token _ hphase _ _ hbackend htoken =>
      obtain ⟨hnone, hfresh⟩ := h.awaited.early (Or.inr (Or.inr hphase))
      have hcases := beginConfigure_cases requested b
      change b.beginConfigure requested = _ at hbackend
      rw [hbackend] at hcases
      cases hcases with
      | refused | unreachable => simp at htoken
      | opened band setCmd transport =>
          have hsilent : ∀ id, completionsTo id (openLink requested band setCmd
              { b with transport := transport }).trace = completionsTo id b.trace := by
            simp [openLink, completionsTo]
          refine h.keep hsilent ⟨fun he => by simp [Early, XrSession.arm] at he, ?_⟩
          intro token' htoken'
          have hown : token' = b.nextToken + 1 := by
            have htokens : tokens (s.log ++ [.received f] ++
                [.configureCalled requested (b.nextToken + 1)]) = [b.nextToken + 1] := by
              simpa [tokens, htoken] using hnone
            simp only [XrSession.arm, XrSession.record, htokens, List.mem_singleton] at htoken'
            exact htoken'
          refine ⟨hown.symm, Or.inl ⟨Or.inl rfl, ?_⟩⟩
          rw [hsilent]
          exact hfresh
  | ponged =>
      exact hstay (by simp [XrSession.acceptPong, XrSession.record, tokens]) rfl fun he => he
  | submitRefused _ hphase _ _ _ hbackend | submitted _ hphase _ _ _ hbackend =>
      have hb := undisturbed_submitTx f.payload b
      change b.submitTx f.payload = _ at hbackend
      rw [hbackend] at hb
      refine h.keep hb.completions ((h.awaited.undisturbed hb).session rfl ?_ ?_)
      · simp [XrSession.shut, XrSession.record, tokens]
      · simp [Early, XrSession.shut, hphase, XrSession.record]

/-- A tick delivers nothing. -/
theorem Deliveries.tick {env : XrEnv} {now : Nat} (h : Deliveries past s b)
    (hout : XrSession.TickOutcome lorahamRadio env now s b (s', b')) :
    Deliveries past s' b' := by
  cases hout with
  | quiet => exact h
  | expired =>
      exact h.keep (fun _ => rfl) (h.awaited.session rfl (by simp [XrSession.shut, tokens])
        fun he => absurd he not_early_closed)
  | abandoned =>
      have hb := undisturbed_abandonPendingTx b
      exact h.keep hb.completions ((h.awaited.undisturbed hb).session rfl
        (by simp [XrSession.shut, XrSession.record, tokens]) fun he => absurd he not_early_closed)
  | pinged =>
      exact h.keep (fun _ => rfl)
        (h.awaited.session rfl (by simp [XrSession.queue, tokens]) fun he => he)

theorem completionsTo_teardown (id : Nat) (b : LorahamBackend) :
    completionsTo id (b.abandonPendingTx.setSink none).stop.trace = completionsTo id b.trace := by
  rw [← (undisturbed_abandonPendingTx b).completions id]
  unfold stop
  split
  · rfl
  · exact completionsTo_reset id (b.abandonPendingTx.setSink none)

/-- What is on its way or delivered once is delivered at most once. -/
theorem Awaited.atMostOnce (h : Awaited s b) : AtMostOnce s b.trace := by
  intro token htoken
  rcases (h.token token htoken).2 with ⟨-, hnone⟩ | ⟨-, hone⟩
  · exact Or.inl hnone
  · exact Or.inr hone

end Awaited

/-- The results of all configurations reach the sessions that asked for them. -/
def deliveries (env : BridgeEnv) : Extension (coupling env) where
  idle past b _ :=
    (∀ t ∈ past, AtMostOnce t b.trace) ∧ ∀ id, past.length ≤ id → completionsTo id b.trace = []
  active past s b _ := Deliveries past s b
  initial := ⟨by simp, fun _ _ => rfl⟩
  idle_environment _ _ h := h
  active_environment _ _ h := h.keep (fun _ => rfl)
    (h.awaited.undisturbed ⟨fun _ => rfl, rfl, Iff.rfl⟩)
  idle_poll hC h hstep := by
    cases hstep with
    | quiet hstep =>
        have hb := hstep.undisturbed.completions
        refine ⟨fun t ht => ?_, fun id hid => (hb id).trans (h.2 id hid)⟩
        unfold AtMostOnce
        rw [hb]
        exact h.1 t ht
    | call hstep => exact absurd hC.2.parked hstep.not_parked
  quiet_poll _ h hstep :=
    h.keep hstep.undisturbed.completions (h.awaited.undisturbed hstep.undisturbed)
  call_poll hC h hstep hout := h.call hC.1 hC.2.1 hC.2.2 hstep hout
  accept _ _ h := ⟨⟨fun _ => ⟨rfl, h.2 _ (le_refl _)⟩, by simp [freshSession, tokens,
      XrSession.openSession, XrSession.new, XrSession.arm]⟩,
    h.1, fun id hid => h.2 id (Nat.le_of_lt hid)⟩
  parser _ h := h.keep (fun _ => rfl) (h.awaited.session rfl rfl fun he => he)
  parserError _ h _ := h.keep (fun _ => rfl) (h.awaited.session rfl
    (by simp [XrSession.shut, tokens]) fun he => absurd he not_early_closed)
  frame _ h _ hout := h.frame hout
  tick _ h hout := h.tick hout
  consume _ h := h.keep (fun _ => rfl) (h.awaited.session rfl rfl fun he => he)
  teardown := by
    intro past s b hC h
    refine ⟨fun t ht => ?_, fun id hid => ?_⟩
    · unfold AtMostOnce
      rw [completionsTo_teardown]
      rcases List.mem_append.mp ht with ht | ht
      · exact h.earlier t ht
      · rw [List.mem_singleton.mp ht]
        exact h.awaited.atMostOnce
    · rw [completionsTo_teardown]
      exact h.fresh id (by simpa using hid)

/-! ## Main result -/

/-- The band of a valid configuration is that of its frequency. -/
theorem selectBand_of_validateConfig {cfg : RadioConfig} {band : Band}
    (h : validateConfig cfg = .ok band) : selectBand cfg.freqHz = some band := by
  unfold validateConfig at h
  split at h
  · simp at h
  · repeat' split at h
    all_goals simp_all

/-- No false success.  Behind every `CFG_OK` of a session stands the connection its
own `begin_configure` call opened for the band of a validated configuration; the
echo is the `CONFIGURE` payload the client sent; the five command lines were written
whole, in order and once; and the first reply that decides anything is a status line
that says `RADIO=READY`.
Every token is answered at most once, and as long as the session that got it is
there, its result is on its way or has been delivered. -/
theorem configuration_success_sound (env : BridgeEnv) (ops : List XrServer.Op) :
    let sv := XrServer.run env ops
    (∀ s ∈ sv.sessions, ∀ f, .emitted f ∈ s.log → isGrant f = true →
      ∃ l ∈ links sv.backend.trace, ∃ cfg band core,
        f = ⟨.configResult, 0, 0x00 :: packConfig cfg⟩ ∧
        (view s.log).configures.head? = some (f.payload.drop 1) ∧
        (f.payload.drop 1).length = 17 ∧
        validateConfig cfg = .ok band ∧ selectBand cfg.freqHz = some band ∧
        l.owner = some s.id ∧ l.band = some band ∧
        Commanded cfg l.confSent ∧ RadioReported l.confReceived core ∧
        statusLineRadioReady core = true) ∧
    (∀ s ∈ sv.sessions, ∀ token ∈ tokens s.log,
      completionsTo s.id sv.backend.trace = [] ∨
        ∃ res, completionsTo s.id sv.backend.trace = [(token, res)]) ∧
    ∀ c, sv.conn = some c → ∀ token ∈ tokens c.session.log, sv.backend.configToken = token ∧
      (Pending sv.backend.state ∧ completionsTo c.session.id sv.backend.trace = [] ∨
        ¬ Pending sv.backend.state ∧
          ∃ res, completionsTo c.session.id sv.backend.trace = [(token, res)]) := by
  have hdeliveries := (deliveries env).toInvariant.run ops
  unfold Invariant.holds at hdeliveries
  refine ⟨?_, ?_, ?_⟩
  · intro s hs f hf hgrant
    have hmem : f ∈ (view s.log).grants := by
      rw [view_eq]
      simp only [List.mem_filter, emittedFrames, List.mem_filterMap]
      exact ⟨⟨_, hf, rfl⟩, hgrant⟩
    have hhonest : Honest False (XrServer.run env ops).backend.trace := False.elim
    rcases run_session_bond env ops hhonest hs with hblank | ⟨l, hl, howner, m, hbond⟩
    · simp [hblank.2.1] at hmem
    · rcases hbond.granted.backed with hnone | ⟨cfg, hone, hasked, hconfigured⟩
      · simp only at hnone
        simp [hnone] at hmem
      · simp only at hone hasked hconfigured
        rw [hone, List.mem_singleton] at hmem
        obtain ⟨band, hvalid, hband⟩ := hconfigured.band
        obtain ⟨core, hreported⟩ := hconfigured.reported
        refine ⟨l, hl, cfg, band, core, hmem, ?_, ?_, hvalid,
          selectBand_of_validateConfig hvalid, howner, hband, hconfigured.commanded, hreported,
          (statusLineRadioReady_iff core).mpr hreported.ready⟩
        · obtain ⟨more, hmore⟩ := hasked
          rw [← hmore, hmem]
          rfl
        · rw [hmem]
          exact packConfig_length cfg
  · intro s hs
    unfold XrServer.sessions at hs
    split at hdeliveries <;> rename_i hconn
    · exact hdeliveries.2.1 s (by simpa [hconn] using hs)
    · simp only [hconn, Option.map_some, Option.toList_some, List.mem_append,
        List.mem_singleton] at hs
      rcases hs with hs | rfl
      · exact hdeliveries.2.earlier s hs
      · exact hdeliveries.2.awaited.atMostOnce
  · intro c hconn
    rw [hconn] at hdeliveries
    exact hdeliveries.2.awaited.token

end LorahamBridge
