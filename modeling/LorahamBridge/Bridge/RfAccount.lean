import LorahamBridge.Bridge.TxOwnership

/-!
# The RF log as an account

A transmit line is written in two places and its payload is read back from the held
frame, which several transitions clear.  Here the lines are compared with what crossed
the DATA socket.  The history is cut at the writes: the lines between a write and the
next one belong to the packet that the write completed, if it completed one.

Main results:

- Theorem `Micro.logs`: what every backend step adds to the log.
- Theorem `Logs.exact`: the account is kept by every step.
- Theorem `rf_log_exact`: the account in every reachable state.
-/

namespace LorahamBridge

open Foundation Extradio Loraham LorahamBackend

/-! ## The lines and what they stand for -/

/-- The transmit line an event writes. -/
def Event.txLine? : Event → Option (LoggedOutcome × Bytes)
  | .loggedTx outcome rf => some (outcome, rf)
  | _ => none

/-- The receive line an event writes. -/
def Event.rxLine? : Event → Option RxEvent
  | .loggedRx rx => some rx
  | _ => none

/-- The daemon's frame an event dispatches. -/
def Event.dispatched? : Event → Option Loraham.Frame
  | .dispatched f => some f
  | _ => none

/-- The transmit lines among some events. -/
def txLines (events : List Event) : List (LoggedOutcome × Bytes) :=
  events.filterMap Event.txLine?

/-- The receive lines among some events. -/
def rxLines (events : List Event) : List RxEvent :=
  events.filterMap Event.rxLine?

/-- The DATA frames taken off the parser. -/
def dispatchedFrames (events : List Event) : List Loraham.Frame :=
  events.filterMap Event.dispatched?

/-- The payloads of the packets that a write completes, as the daemon reads them. -/
def completed (pre : List Event) (w : Bytes) : List Bytes :=
  (txPackets ((link pre).sent ++ w)).drop (txPackets (link pre).sent).length

/-- The events up to the next write. -/
def period (post : List Event) : List Event :=
  post.takeWhile fun e => !e.isDataSent

/-- The first terminal frame dispatched from the same connection. -/
def firstAnswer : List Event → Option Loraham.Frame
  | [] => none
  | .opened _ _ :: _ => none
  | .dispatched f :: events => if (answer? f).isSome then some f else firstAnswer events
  | _ :: events => firstAnswer events

/-- The outcome to be logged for a packet: confirmed by a `TX_RESULT` with status OK,
unconfirmed if it was unanswered when the backend faulted, otherwise none. -/
def verdict (faulted : Bool) (events : List Event) : Option LoggedOutcome :=
  match firstAnswer events with
  | some f => if (decodeTxResult f).any (fun r => r.status = txStatusOk) then some .ok else none
  | none => if faulted then some .unconfirmed else none

/-- The transmit lines due for a write, from what happened since. -/
def due (faulted : Bool) (pre : List Event) (w : Bytes) (events : List Event) :
    List (LoggedOutcome × Bytes) :=
  (completed pre w).filterMap fun p => (verdict faulted events).map fun outcome => (outcome, p)

/-- The transmit lines of a history are those due for its writes. -/
structure TxLogExact (faulted : Bool) (trace : List Event) : Prop where
  before : txLines (period trace) = []
  after : ∀ pre w post, trace = pre ++ .dataSent w :: post →
    txLines (period post) = due faulted pre w (period post)

/-! ## Cutting the history -/

@[simp]
theorem txLines_append (events more : List Event) :
    txLines (events ++ more) = txLines events ++ txLines more :=
  List.filterMap_append

/-- Without a further write the period goes on to the end. -/
theorem period_eq_self {post : List Event} (h : ∀ e ∈ post, e.isDataSent = false) :
    period post = post := by
  refine List.takeWhile_eq_self_iff.mpr ?_
  simpa using h

/-- A further write ends the period. -/
theorem period_append_dataSent (post : List Event) (w : Bytes) (rest : List Event) :
    period (post ++ .dataSent w :: rest) = period post := by
  induction post with
  | nil => rfl
  | cons e post ih =>
      unfold period at ih ⊢
      cases he : e.isDataSent with
      | false => simp [he, ih]
      | true => simp [he]

/-- Events without a write continue the last period and leave the others alone. -/
theorem period_append (post : List Event) {events : List Event} (h : ∀ e ∈ events, e.isDataSent = false) :
    ((∀ e ∈ post, e.isDataSent = false) ∧ period (post ++ events) = post ++ events) ∨
      ∃ front w rest, post = front ++ .dataSent w :: rest ∧
        (∀ e ∈ front, e.isDataSent = false) ∧ period (post ++ events) = front ∧
        period post = front := by
  induction post with
  | nil => exact Or.inl ⟨by simp, period_eq_self h⟩
  | cons e post ih =>
      cases he : e.isDataSent with
      | true =>
          cases e with
          | dataSent w => exact Or.inr ⟨[], w, post, rfl, by simp, rfl, rfl⟩
          | _ => simp [Event.isDataSent] at he
      | false =>
          have hcons : ∀ events', period (e :: events') = e :: period events' := by
            intro events'
            simp [period, he]
          rcases ih with ⟨hnone, heq⟩ | ⟨front, w, rest, rfl, hfront, heq, heq'⟩
          · refine Or.inl ⟨?_, by rw [List.cons_append, hcons, heq]⟩
            intro e' he'
            rcases List.mem_cons.mp he' with rfl | he'
            · exact he
            · exact hnone e' he'
          · refine Or.inr ⟨e :: front, w, rest, rfl, ?_, ?_, ?_⟩
            · intro e' he'
              rcases List.mem_cons.mp he' with rfl | he'
              · exact he
              · exact hfront e' he'
            · rw [List.cons_append, hcons, heq]
            · rw [hcons, heq']

/-- A write among a history and further events without one stands in the history. -/
theorem split_append {trace events pre post : List Event} {w : Bytes}
    (h : ∀ e ∈ events, e.isDataSent = false)
    (hsplit : trace ++ events = pre ++ .dataSent w :: post) :
    ∃ front, trace = pre ++ .dataSent w :: front ∧ post = front ++ events := by
  induction events using List.reverseRecOn generalizing post with
  | nil => exact ⟨post, by simpa using hsplit, by simp⟩
  | append_singleton events e ih =>
      rw [← List.append_assoc] at hsplit
      rcases split_snoc hsplit with ⟨-, he, -⟩ | ⟨front, hpost, htrace⟩
      · have := h e (by simp)
        simp [← he, Event.isDataSent] at this
      · obtain ⟨front', htrace', hfront⟩ := ih (fun e he => h e (by simp [he])) htrace
        exact ⟨front', htrace', by rw [hpost, hfront, List.append_assoc]⟩

/-! ## The first answer -/

/-- A first answer stays the first. -/
theorem firstAnswer_append_of_some {events : List Event} {f : Loraham.Frame}
    (h : firstAnswer events = some f) (more : List Event) :
    firstAnswer (events ++ more) = some f := by
  induction events with
  | nil => simp [firstAnswer] at h
  | cons e events ih =>
      cases e with
      | opened => simp [firstAnswer] at h
      | dispatched g =>
          simp only [firstAnswer, List.cons_append] at h ⊢
          split at h <;> rename_i hg
          · rw [if_pos hg]
            exact h
          · rw [if_neg hg]
            exact ih h
      | _ => exact ih h

/-- Behind events that answered nothing on the same connection. -/
theorem firstAnswer_append_of_none {events : List Event} (h : firstAnswer events = none)
    (hopen : ∀ e ∈ events, e.isOpened = false) (more : List Event) :
    firstAnswer (events ++ more) = firstAnswer more := by
  induction events with
  | nil => rfl
  | cons e events ih =>
      have hopen' : ∀ e ∈ events, e.isOpened = false := fun e he => hopen e (by simp [he])
      cases e with
      | opened owner band => simpa [Event.isOpened] using hopen (.opened owner band) (by simp)
      | dispatched g =>
          simp only [firstAnswer, List.cons_append] at h ⊢
          split at h
          · contradiction
          · rename_i hg
            rw [if_neg hg]
            exact ih h hopen'
      | _ => exact ih h hopen'

/-- Inert events answer nothing. -/
theorem firstAnswer_of_inert {events : List Event} (h : ∀ e ∈ events, e.inert = true) :
    firstAnswer events = none := by
  induction events with
  | nil => rfl
  | cons e events ih =>
      have hrest := ih fun e he => h e (by simp [he])
      have he := h e (by simp)
      cases e with
      | opened => rfl
      | dispatched g =>
          simp only [Event.inert, Option.isNone_iff_eq_none] at he
          simp [firstAnswer, he, hrest]
      | _ => exact hrest

/-- Inert events do not change what has answered. -/
theorem firstAnswer_append_inert {events more : List Event} (h : ∀ e ∈ more, e.inert = true) :
    firstAnswer (events ++ more) = firstAnswer events := by
  induction events with
  | nil => exact firstAnswer_of_inert h
  | cons e events ih =>
      cases e with
      | opened => rfl
      | dispatched g => simp only [firstAnswer, List.cons_append, ih]
      | _ => exact ih

/-- The first answer is dispatched from the same connection and answers. -/
theorem split_of_firstAnswer {events : List Event} {f : Loraham.Frame}
    (h : firstAnswer events = some f) :
    (answer? f).isSome = true ∧ ∃ mid rest, events = mid ++ .dispatched f :: rest ∧
      ∀ e ∈ mid, e.isOpened = false := by
  induction events with
  | nil => simp [firstAnswer] at h
  | cons e events ih =>
      have hskip : firstAnswer events = some f → e.isOpened = false →
          (answer? f).isSome = true ∧ ∃ mid rest, e :: events = mid ++ .dispatched f :: rest ∧
            ∀ e ∈ mid, e.isOpened = false := by
        intro hrest he
        obtain ⟨hanswer, mid, rest, heq, hmid⟩ := ih hrest
        refine ⟨hanswer, e :: mid, rest, by rw [heq]; rfl, ?_⟩
        intro e' he'
        rcases List.mem_cons.mp he' with rfl | he'
        · exact he
        · exact hmid e' he'
      cases e with
      | opened => simp [firstAnswer] at h
      | dispatched g =>
          simp only [firstAnswer] at h
          split at h <;> rename_i hg
          · obtain rfl : g = f := by simpa using h
            exact ⟨hg, [], events, rfl, by simp⟩
          · exact hskip h rfl
      | _ => exact hskip h rfl

/-- No terminal frame has been dispatched from the same connection. -/
theorem firstAnswer_eq_none_iff {events : List Event} :
    firstAnswer events = none ↔
      ∀ mid f rest, events = mid ++ .dispatched f :: rest → (∀ e ∈ mid, e.isOpened = false) →
        answer? f = none := by
  constructor
  · rintro h mid f rest rfl hmid
    cases hprior : firstAnswer mid with
    | some g => simp [firstAnswer_append_of_some hprior] at h
    | none =>
        rw [firstAnswer_append_of_none hprior hmid] at h
        simp only [firstAnswer] at h
        split at h
        · contradiction
        · rename_i hf
          simpa using hf
  · intro h
    cases hfirst : firstAnswer events with
    | none => rfl
    | some f =>
        obtain ⟨hanswer, mid, rest, heq, hmid⟩ := split_of_firstAnswer hfirst
        simp [h mid f rest heq hmid] at hanswer

/-! ## The held frame -/

namespace LorahamBackend

/-- The held frame is the packet submitted last. -/
structure Holds (b : LorahamBackend) (p : Bytes) : Prop where
  frame : b.txOut = framedBytes .txPacket p
  pos : 0 < p.length
  last : (link b.trace).submitted.getLast? = some p

/-- A frame is held from its submission to its answer. -/
def TxKept (b : LorahamBackend) : Prop :=
  b.state = .txWriting ∨ b.state = .txPending ∨ b.state = .draining → ∃ p, b.Holds p

variable {b b' c : LorahamBackend} {p : Bytes}

/-- What keeps the held frame and the submissions keeps `TxKept`. -/
theorem TxKept.same (h : b.TxKept)
    (hstate : b'.state = .txWriting ∨ b'.state = .txPending ∨ b'.state = .draining →
      b.state = .txWriting ∨ b.state = .txPending ∨ b.state = .draining)
    (htxOut : b'.txOut = b.txOut)
    (hsubmitted : (link b'.trace).submitted = (link b.trace).submitted) : b'.TxKept := by
  intro hs
  obtain ⟨p, hp⟩ := h (hstate hs)
  exact ⟨p, htxOut.trans hp.frame, hp.pos, by rw [hsubmitted]; exact hp.last⟩

/-- Outside of a transmission there is nothing to hold. -/
theorem txKept_of_state (h : b.state ≠ .txWriting ∧ b.state ≠ .txPending ∧ b.state ≠ .draining) :
    b.TxKept := by
  rintro (hs | hs | hs)
  · exact absurd hs h.1
  · exact absurd hs h.2.1
  · exact absurd hs h.2.2

/-- The frame is held over every quiet step. -/
theorem QuietStep.txKept {x y : Snapshot} (h : QuietStep x y) (hx : x.1.TxKept) : y.1.TxKept := by
  cases h with
  | answers | confWritten | dataPush | dataDrained | discard => exact hx.same id rfl rfl
  | connected => exact txKept_of_state (by simp)
  | confWrite | configQuiet | confQuiet | dataRead | dataIgnored | confDiscard =>
      exact hx.same id rfl (by simp [sendConf_eq, Link.step])
  | dataWrite => exact hx.same id rfl (by simp [sendData_eq, Link.step])
  | dataWriteLast b n hstate =>
      exact hx.same (fun _ => Or.inl hstate) rfl (by simp [sendData_eq, Link.step])
  | dataHeard => exact hx.same id rfl (by simp [link_append, Link.step])
  | dataFenced => exact txKept_of_state (by simp)
  | dataCleared | drainLost | drainExpired =>
      exact txKept_of_state (by simp [resetLinkUnconfigured, enterFault])

/-- The frame is held over every step that calls the session. -/
theorem CallStep.txKept {call : SinkCall} {x y : Snapshot} (h : CallStep call x y)
    (hx : x.1.TxKept) : y.1.TxKept := by
  cases h with
  | configSucceed | configFail | completed =>
      exact txKept_of_state (by simp [LorahamBackend.configSucceed, LorahamBackend.configFail,
        resetLinkUnconfigured, notify])
  | lost b c =>
      refine txKept_of_state ?_
      rcases handleDisconnect_state c with h | h <;> simp [h]
  | received => exact hx.same id rfl (by simp [link_append, Link.step])

/-- The frame is held over every step. -/
theorem Micro.txKept {x y : Snapshot} (h : Micro x y) (hx : x.1.TxKept) : y.1.TxKept := by
  cases h with
  | poll h =>
      cases h with
      | quiet h => exact h.txKept hx
      | call h => exact h.txKept hx
  | environment | attach => exact hx.same id rfl rfl
  | openLink | reset =>
      exact txKept_of_state (by simp [LorahamBackend.openLink, resetLinkUnconfigured])
  | connectRefused => exact hx.same id rfl (by simp [Link.step])
  | holdTx b data hstate hpos =>
      exact fun _ => ⟨data, rfl, hpos, by simp [LorahamBackend.holdTx, Link.step]⟩
  | abandon b hstate => exact hx.same (fun _ => Or.inr (Or.inl hstate)) rfl rfl

/-! ## What a step adds to the log -/

/-- Events that neither write on the DATA socket nor log a transmission. -/
def Plain (events : List Event) : Prop :=
  ∀ e ∈ events, e.isDataSent = false ∧ e.txLine? = none

/-- Every way a step can extend the history, as far as transmit lines go. -/
inductive Logs (b b' : LorahamBackend) : Prop
  | quiet (events : List Event) (htrace : b'.trace = b.trace ++ events) (hplain : Plain events)
      (hanswer : (∀ e ∈ events, e.inert = true) ∨ (b.custody ≠ .owned ∧ b.custody ≠ .faulted))
      (hfaulted : b'.state = .faulted ↔ b.state = .faulted)
  | write (w : Bytes) (htrace : b'.trace = b.trace ++ [.dataSent w]) (hup : b.state ≠ .faulted)
      (hup' : b'.state ≠ .faulted)
  | resolve (p : Bytes) (f : Loraham.Frame) (rest : List Event) (howned : b.custody = .owned)
      (hheld : b.Holds p) (hanswer : (answer? f).isSome = true)
      (htrace : b'.trace = b.trace ++ .dispatched f ::
        ((if (decodeTxResult f).any (fun r => r.status = txStatusOk) then
          [.loggedTx .ok p] else []) ++ rest))
      (hrest : Plain rest) (hup' : b'.state ≠ .faulted)
  | fault (p : Bytes) (front rest : List Event) (howned : b.custody = .owned)
      (hheld : b.Holds p) (htrace : b'.trace = b.trace ++ (front ++ .loggedTx .unconfirmed p :: rest))
      (hfront : Plain front ∧ ∀ e ∈ front, e.inert = true)
      (hrest : Plain rest ∧ ∀ e ∈ rest, e.inert = true) (hfaulted : b'.state = .faulted)

/-- A step that adds nothing to the history logs nothing. -/
theorem Logs.of_eq (htrace : b'.trace = b.trace) (hfaulted : b'.state = .faulted ↔ b.state = .faulted) :
    Logs b b' :=
  .quiet [] (by simp [htrace]) (by simp [Plain]) (Or.inl (by simp)) hfaulted

/-- The events of a call to the sink. -/
def notices (sink : Option Nat) (call : SinkCall) : List Event :=
  sink.toList.map fun id => .notified id call

/-- What a callback adds to the history. -/
theorem notify_trace (call : SinkCall) (b : LorahamBackend) :
    (b.notify call).trace = b.trace ++ notices b.sink call :=
  rfl

/-- Callbacks write no line. -/
theorem plain_notices (sink : Option Nat) (call : SinkCall) : Plain (notices sink call) := by
  cases sink <;> simp [notices, Plain, Event.isDataSent, Event.txLine?]

/-- Callbacks answer nothing. -/
theorem inert_notices (sink : Option Nat) (call : SinkCall) :
    ∀ e ∈ notices sink call, e.inert = true := by
  cases sink <;> simp [notices, Event.inert]

/-- The held packet is what stands behind the header. -/
theorem Holds.drop_eq (h : b.Holds p) : b.txOut.drop kFramedHeaderLen = p := by
  rw [h.frame]
  simp [framedBytes, kFramedHeaderLen, putLE16]

/-- A held packet is not empty. -/
theorem Holds.length_lt (h : b.Holds p) : kFramedHeaderLen < b.txOut.length := by
  have := h.pos
  rw [h.frame, framedBytes_length]
  omega

/-- The line for an answer names the held packet, if the answer is a success. -/
theorem Holds.confirmation_eq (h : b.Holds p) (f : Loraham.Frame) :
    confirmation f b =
      if (decodeTxResult f).any (fun r => r.status = txStatusOk) then [.loggedTx .ok p] else [] := by
  unfold confirmation
  rw [h.drop_eq]
  simp [h.length_lt]

/-- A fault logs the held packet as unconfirmed before it closes the link. -/
theorem Holds.enterFault_trace (h : b.Holds p) :
    b.enterFault.trace = b.trace ++ [.loggedTx .unconfirmed p, .closed] := by
  unfold enterFault logTxOutcome
  simp only
  rw [if_neg (Nat.not_le.mpr h.length_lt), h.drop_eq]
  simp

/-- What a quiet step adds to the log. -/
theorem QuietStep.logs {x y : Snapshot} (h : QuietStep x y) (hx : x.1.TxKept) : Logs x.1 y.1 := by
  cases h with
  | answers | confWritten | dataPush | dataDrained | discard => exact .of_eq rfl Iff.rfl
  | connected b hstate => exact .of_eq rfl (by simp [hstate])
  | confWrite | configQuiet | confQuiet | dataRead | confDiscard =>
      exact .quiet _ rfl (by simp [Plain, Event.isDataSent, Event.txLine?])
        (Or.inl (by simp [Event.inert])) Iff.rfl
  | dataWrite b n hstate => exact .write _ rfl (by simp [hstate]) (by simp [sendData_eq, hstate])
  | dataWriteLast b n hstate => exact .write _ rfl (by simp [hstate]) (by simp)
  | dataIgnored b unread f rest hstate hpop hrx hanswer =>
      refine .quiet _ rfl (by simp [Plain, Event.isDataSent, Event.txLine?]) ?_ Iff.rfl
      rcases hanswer with hnone | ⟨hpending, hdrain⟩
      · exact Or.inl (by simp [Event.inert, hnone])
      · right
        unfold custody
        split <;> simp_all [onLink, rxOk]
  | dataHeard b unread f rest rx hstate hpop hrx =>
      exact .quiet _ rfl (by simp [Plain, Event.isDataSent, Event.txLine?])
        (Or.inl (by simp [Event.inert, answer?_of_decodeRx hrx])) Iff.rfl
  | dataFenced b unread f rest outcome hstate hpop hanswer =>
      obtain ⟨p, hheld⟩ := hx (Or.inr (Or.inl hstate))
      refine .resolve p f [] (by simp [custody, hstate]) hheld (by simp [hanswer]) ?_
        (by simp [Plain]) (by simp)
      simp [hheld.confirmation_eq]
  | dataCleared b unread f rest outcome hstate hpop hanswer =>
      obtain ⟨p, hheld⟩ := hx (Or.inr (Or.inr hstate))
      refine .resolve p f [.closed] (by simp [custody, hstate]) hheld (by simp [hanswer]) ?_
        (by simp [Plain, Event.isDataSent, Event.txLine?]) (by simp [resetLinkUnconfigured])
      simp [resetLinkUnconfigured, hheld.confirmation_eq]
  | drainLost b _ hstate | drainExpired b hstate =>
      obtain ⟨p, hheld⟩ := hx (Or.inr (Or.inr hstate))
      exact .fault p [] [.closed] (by simp [custody, hstate]) hheld hheld.enterFault_trace
        (by simp [Plain]) (by simp [Plain, Event.isDataSent, Event.txLine?, Event.inert]) rfl

/-- A CONF read in front of a step adds nothing to the log. -/
theorem ConfTaken.plain (hc : ConfTaken b c) :
    ∃ front, c.trace = b.trace ++ front ∧ Plain front ∧ (∀ e ∈ front, e.inert = true) ∧
      c.state = b.state ∧ ∀ p, b.Holds p → c.Holds p := by
  rcases hc with rfl | ⟨chunk, line, rfl⟩
  · exact ⟨[], by simp, by simp [Plain], by simp, rfl, fun _ h => h⟩
  · refine ⟨[.confReceived chunk], rfl, by simp [Plain, Event.isDataSent, Event.txLine?],
      by simp [Event.inert], rfl, ?_⟩
    rintro p ⟨hframe, hpos, hlast⟩
    exact ⟨hframe, hpos, by simpa [Link.step] using hlast⟩

/-- Histories without lines, one after the other. -/
theorem Plain.append {events more : List Event} (h : Plain events) (h' : Plain more) :
    Plain (events ++ more) := by
  intro e he
  rcases List.mem_append.mp he with he | he
  · exact h e he
  · exact h' e he

theorem plain_closed : Plain [.closed] := by
  simp [Plain, Event.isDataSent, Event.txLine?]

theorem inert_append {events more : List Event} (h : ∀ e ∈ events, e.inert = true)
    (h' : ∀ e ∈ more, e.inert = true) : ∀ e ∈ events ++ more, e.inert = true := by
  intro e he
  rcases List.mem_append.mp he with he | he
  · exact h e he
  · exact h' e he

/-- A link closed without a held frame. -/
theorem logs_closed (hc : ConfTaken b c) (call : SinkCall) (hup : b.state ≠ .faulted) :
    Logs b (c.resetLinkUnconfigured.notify call) := by
  obtain ⟨front, htrace, hplain, hinert, -, -⟩ := hc.plain
  refine .quiet (front ++ ([.closed] ++ notices c.sink call)) ?_
    (hplain.append (plain_closed.append (plain_notices _ _)))
    (Or.inl (inert_append hinert (inert_append (by simp [Event.inert]) (inert_notices _ _)))) ?_
  · simp [notify_trace, resetLinkUnconfigured, htrace]
  · exact iff_of_false (by simp [notify, resetLinkUnconfigured]) hup

/-- What a step that calls the session adds to the log. -/
theorem CallStep.logs {call : SinkCall} {x y : Snapshot} (h : CallStep call x y)
    (hx : x.1.TxKept) : Logs x.1 y.1 := by
  cases h with
  | configSucceed b chunk rest hstate =>
      refine .quiet ([.confReceived chunk] ++ notices b.sink
          (.onConfigureComplete b.configToken ⟨true, b.pendingCfg⟩)) ?_
        (.append (by simp [Plain, Event.isDataSent, Event.txLine?]) (plain_notices _ _))
        (Or.inl (inert_append (by simp [Event.inert]) (inert_notices _ _))) ?_
      · simp [LorahamBackend.configSucceed, notify_trace, takeConf]
      · simp [LorahamBackend.configSucceed, notify, hstate]
  | configFail b c hc hstate =>
      exact logs_closed hc _ (by rcases hstate with hs | hs <;> simp [hs])
  | lost b c unread hc hstate =>
      obtain ⟨front, htrace, hplain, hinert, hs, hheld⟩ := hc.plain
      rcases handleDisconnect_cases c with ⟨hdrain, -⟩ | ⟨hpending, heq⟩ | ⟨hdrain, hpending, heq⟩
      · rw [hs] at hdrain
        simp [hdrain, rxOk] at hstate
      · rw [hs] at hpending
        obtain ⟨p, hp⟩ := hx (Or.inr (Or.inl hpending))
        rw [heq]
        refine .fault p front ([.closed] ++ notices c.enterFault.sink .onBackendFailure)
          (by simp [custody, hpending]) hp ?_ ⟨hplain, hinert⟩
          ⟨plain_closed.append (plain_notices _ _),
            inert_append (by simp [Event.inert]) (inert_notices _ _)⟩ rfl
        simp [notify_trace, (hheld p hp).enterFault_trace, htrace]
      · rw [heq]
        refine logs_closed hc _ fun hfaulted => ?_
        simp [hfaulted, rxOk] at hstate
  | received b unread f rest rx hstate hpop hrx =>
      exact .quiet ([.dispatched f, .loggedRx rx] ++ notices b.sink (.onRx rx))
        (by simp [notify_trace])
        (.append (by simp [Plain, Event.isDataSent, Event.txLine?]) (plain_notices _ _))
        (Or.inl (inert_append (by simp [Event.inert, answer?_of_decodeRx hrx])
          (inert_notices _ _))) Iff.rfl
  | completed b unread f rest outcome hstate hpop hanswer =>
      obtain ⟨p, hheld⟩ := hx (Or.inr (Or.inl hstate))
      refine .resolve p f (notices b.sink (.onTxComplete outcome))
        (by simp [custody, hstate]) hheld (by simp [hanswer]) ?_ (plain_notices _ _)
        (by simp [notify])
      simp [notify_trace, hheld.confirmation_eq]

/-- What every backend step adds to the log. -/
theorem Micro.logs {x y : Snapshot} (h : Micro x y) (hx : x.1.TxKept) : Logs x.1 y.1 := by
  cases h with
  | poll h =>
      cases h with
      | quiet h => exact h.logs hx
      | call h => exact h.logs hx
  | environment | attach => exact .of_eq rfl Iff.rfl
  | openLink b requested band setCmd hstate =>
      refine .quiet _ rfl (by simp [Plain, Event.isDataSent, Event.txLine?]) (Or.inr ?_) ?_
      · rcases hstate with hs | hs <;> simp [custody, hs]
      · rcases hstate with hs | hs <;> simp [LorahamBackend.openLink, hs]
  | connectRefused =>
      exact .quiet _ rfl (by simp [Plain, Event.isDataSent, Event.txLine?])
        (Or.inl (by simp [Event.inert])) Iff.rfl
  | holdTx b data hstate =>
      exact .quiet _ rfl (by simp [Plain, Event.isDataSent, Event.txLine?])
        (Or.inr (by simp [custody, hstate])) (by simp [LorahamBackend.holdTx, hstate])
  | abandon b hstate => exact .of_eq rfl (by simp [hstate])
  | reset b hstate =>
      exact .quiet [.closed] rfl plain_closed (Or.inl (by simp [Event.inert]))
        (iff_of_false (by simp [resetLinkUnconfigured]) hstate.2.2)

end LorahamBackend

/-! ## The account of the last packet -/

variable {trace pre post : List Event} {w p : Bytes} {faulted : Bool}

/-- A write that completes no packet has none to account for. -/
theorem completed_eq_nil (h : ¬Completes pre w) : completed pre w = [] :=
  List.drop_eq_nil_iff.mpr (Nat.not_lt.mp h)

/-- Behind a later write, a completed packet has its answer. -/
theorem Accounted.answered {c : Custody} {rest : List Event} {w' : Bytes} (h : Accounted c trace)
    (hsplit : trace = pre ++ .dataSent w :: (post ++ .dataSent w' :: rest))
    (hdone : Completes pre w) : firstAnswer post ≠ none := by
  intro hnone
  refine h.before (pre ++ .dataSent w :: post) w' rest (by rw [hsplit]; simp) pre w post
    ⟨rfl, hdone, ?_⟩
  exact firstAnswer_eq_none_iff.mp hnone

/-- Without custody of the daemon, the last completed packet has its answer too. -/
theorem Accounted.settled_answer {c : Custody} (h : Accounted c trace) (howned : c ≠ .owned)
    (hfaulted : c ≠ .faulted) (hsplit : trace = pre ++ .dataSent w :: post)
    (hdone : Completes pre w) : firstAnswer post ≠ none :=
  fun hnone => h.settled howned hfaulted pre w post
    ⟨hsplit, hdone, firstAnswer_eq_none_iff.mp hnone⟩

/-- The last write of a history is unique. -/
theorem last_write_unique {pre' post' : List Event} {w' : Bytes}
    (hsplit : trace = pre ++ .dataSent w :: post) (hsplit' : trace = pre' ++ .dataSent w' :: post')
    (hlast : ∀ e ∈ post, e.isDataSent = false) (hlast' : ∀ e ∈ post', e.isDataSent = false) :
    pre = pre' ∧ w = w' ∧ post = post' := by
  have heq := hsplit.symm.trans hsplit'
  rcases List.append_eq_append_iff.mp heq with ⟨mid, hpre, hrest⟩ | ⟨mid, hpre, hrest⟩
  · cases mid with
    | nil => simp_all
    | cons e mid =>
        simp only [List.cons_append, List.cons.injEq] at hrest
        have := hlast (.dataSent w') (by rw [hrest.2]; simp)
        simp [Event.isDataSent] at this
  · cases mid with
    | nil => simp_all
    | cons e mid =>
        simp only [List.cons_append, List.cons.injEq] at hrest
        have := hlast' (.dataSent w) (by rw [hrest.2]; simp)
        simp [Event.isDataSent] at this

/-- Events that neither open nor write leave the bytes of the connection alone. -/
theorem sent_append (h : ∀ e ∈ post, e.isDataSent = false ∧ e.isOpened = false) :
    (link (trace ++ post)).sent = (link trace).sent := by
  induction post using List.reverseRecOn with
  | nil => simp
  | append_singleton post e ih =>
      have he := h e (by simp)
      rw [← List.append_assoc, link_append_singleton, ← ih fun e he => h e (by simp [he])]
      cases e with
      | opened => simp [Event.isOpened] at he
      | dataSent => simp [Event.isDataSent] at he
      | _ => rfl

/-- The packet the daemon owns: it was completed by the last write, it is the held
one, and nothing has answered it. -/
structure LastPacket (trace pre : List Event) (w : Bytes) (post : List Event) (p : Bytes) :
    Prop where
  split : trace = pre ++ .dataSent w :: post
  quiet : ∀ e ∈ post, e.isDataSent = false ∧ e.isOpened = false
  unanswered : firstAnswer post = none
  packet : completed pre w = [p]

/-- While the daemon owns a packet, it is the last one that was completed. -/
theorem LorahamBackend.Sound.lastPacket {b : LorahamBackend} {unread : Option Bytes}
    (h : Sound (b, unread)) (howned : b.custody = .owned) (hheld : b.Holds p) :
    ∃ pre w post, LastPacket b.trace pre w post p := by
  obtain ⟨pre, w, post, hu⟩ := h.accounted.one howned
  have hquiet := h.accounted.last pre w post hu
  refine ⟨pre, w, post, hu.split, hquiet, firstAnswer_eq_none_iff.mpr hu.unanswered, ?_⟩
  have hstreams : (link b.trace).Sized ∧ (link b.trace).Whole ∧ (link b.trace).submitted ≠ [] := by
    have hs := h.streams
    change Streams b.custody (link b.trace) at hs
    rw [howned] at hs
    exact hs
  have hsent : (link b.trace).sent = (link pre).sent ++ w := by
    have hfirst : b.trace = (pre ++ [.dataSent w]) ++ post := by
      rw [List.append_assoc]
      exact hu.split
    rw [hfirst, sent_append hquiet, link_append_singleton]
    rfl
  have hpackets : txPackets ((link pre).sent ++ w) = (link b.trace).submitted := by
    rw [← hsent]
    exact hstreams.2.1.txPackets hstreams.1
  have hone := (h.accounted.whole pre w post hu.split hu.completes).2
  obtain ⟨done, hdone⟩ : ∃ done, (link b.trace).submitted = done ++ [p] := by
    obtain ⟨done, hdone⟩ := List.getLast?_eq_some_iff.mp hheld.last
    exact ⟨done, hdone⟩
  rw [hpackets, hdone, List.length_append, List.length_singleton] at hone
  unfold completed
  rw [hpackets, hdone, show (txPackets (link pre).sent).length = done.length by omega]
  simp

/-! ## Every step keeps the account -/

/-- A history without lines has no transmit line. -/
theorem txLines_of_plain {events : List Event} (h : Plain events) : txLines events = [] :=
  List.filterMap_eq_nil_iff.mpr fun e he => (h e he).2

/-- A history without lines has no write. -/
theorem LorahamBackend.Plain.not_dataSent {events : List Event} (h : Plain events) :
    ∀ e ∈ events, e.isDataSent = false :=
  fun e he => (h e he).1

/-- No line is due for a write that completes no packet. -/
theorem due_of_not_completes (h : ¬Completes pre w) (events : List Event) :
    due faulted pre w events = [] := by
  simp [due, completed_eq_nil h]

/-- With an answer the verdict is final. -/
theorem due_congr {faulted' : Bool} {events events' : List Event}
    (h : firstAnswer events' = firstAnswer events)
    (hfinal : faulted' = faulted ∨ firstAnswer events ≠ none) :
    due faulted' pre w events' = due faulted pre w events := by
  have hverdict : verdict faulted' events' = verdict faulted events := by
    unfold verdict
    rw [h]
    rcases hfinal with rfl | hsome
    · rfl
    · cases hfirst : firstAnswer events with
      | none => exact absurd hfirst hsome
      | some f => rfl
  simp [due, hverdict]

/-- Events without a write concern the last packet only. -/
theorem TxLogExact.extend {c : Custody} {events : List Event} {faulted' : Bool}
    (h : TxLogExact faulted trace) (haccount : Accounted c trace)
    (hevents : ∀ e ∈ events, e.isDataSent = false)
    (hbefore : (∀ e ∈ trace, e.isDataSent = false) → txLines events = [])
    (hlast : ∀ pre w post, trace = pre ++ .dataSent w :: post →
      (∀ e ∈ post, e.isDataSent = false) → txLines post = due faulted pre w post →
      txLines (post ++ events) = due faulted' pre w (post ++ events)) :
    TxLogExact faulted' (trace ++ events) := by
  constructor
  · have hold := h.before
    rcases period_append trace hevents with ⟨hnone, heq⟩ | ⟨front, w, rest, -, -, heq, heq'⟩
    · rw [period_eq_self hnone] at hold
      rw [heq, txLines_append, hold, hbefore hnone]
      rfl
    · rw [heq, ← heq']
      exact hold
  · intro pre w post hsplit
    obtain ⟨old, htrace, rfl⟩ := split_append hevents hsplit
    have hold := h.after pre w old htrace
    rcases period_append old hevents with
      ⟨hnone, heq⟩ | ⟨front, w', rest, hfront, -, heq, heq'⟩
    · rw [period_eq_self hnone] at hold
      rw [heq]
      exact hlast pre w old htrace hnone hold
    · rw [heq'] at hold
      rw [heq, hold]
      by_cases hdone : Completes pre w
      · rw [hfront] at htrace
        exact (due_congr rfl (Or.inr (haccount.answered htrace hdone))).symm
      · rw [due_of_not_completes hdone, due_of_not_completes hdone]

/-- A write begins the account of another packet. -/
theorem TxLogExact.write (h : TxLogExact false trace) (w : Bytes) :
    TxLogExact false (trace ++ [.dataSent w]) := by
  constructor
  · rw [period_append_dataSent]
    exact h.before
  · intro pre w' post hsplit
    rcases split_snoc hsplit with ⟨-, -, rfl⟩ | ⟨front, rfl, htrace⟩
    · simp [due, verdict, period, firstAnswer, txLines]
    · rw [period_append_dataSent]
      exact h.after pre w' front htrace

/-- What is due for the packet the daemon owns depends on what follows. -/
theorem LastPacket.due_eq (h : LastPacket trace pre w post p) (events : List Event) :
    due faulted pre w (post ++ events) =
      ((verdict faulted events).map fun outcome => (outcome, p)).toList := by
  have hfirst := firstAnswer_append_of_none h.unanswered (fun e he => (h.quiet e he).2) events
  have hverdict : verdict faulted (post ++ events) = verdict faulted events := by
    unfold verdict
    rw [hfirst]
  unfold due
  rw [h.packet, hverdict]
  cases verdict faulted events <;> rfl

/-- Without an answer only a fault decides. -/
theorem verdict_of_inert {events : List Event} (h : ∀ e ∈ events, e.inert = true) :
    verdict faulted events = if faulted then some .unconfirmed else none := by
  unfold verdict
  rw [firstAnswer_of_inert h]

namespace LorahamBackend

variable {b b' : LorahamBackend} {unread : Option Bytes}

/-- The account of the packet the daemon owns, when something is added to it. -/
theorem Sound.extend_last {events : List Event} {faulted' : Bool} (hsound : Sound (b, unread))
    (h : TxLogExact false b.trace) (howned : b.custody = .owned) (hheld : b.Holds p)
    (hevents : ∀ e ∈ events, e.isDataSent = false)
    (hlines : txLines events = ((verdict faulted' events).map fun outcome => (outcome, p)).toList) :
    TxLogExact faulted' (b.trace ++ events) := by
  obtain ⟨pre, w, post, hlast⟩ := hsound.lastPacket howned hheld
  refine h.extend hsound.accounted hevents ?_ ?_
  · intro hnone
    have := hnone (.dataSent w) (by rw [hlast.split]; simp)
    simp [Event.isDataSent] at this
  · intro pre' w' post' hsplit hpost hold
    obtain ⟨rfl, rfl, rfl⟩ := last_write_unique hlast.split hsplit
      (fun e he => (hlast.quiet e he).1) hpost
    have hempty : due false pre w (post ++ []) = [] := hlast.due_eq []
    rw [List.append_nil] at hempty
    rw [txLines_append, hold, hempty, hlast.due_eq, hlines]
    rfl

/-- Every step keeps the account. -/
theorem Logs.exact (h : Logs b b') (hsound : Sound (b, unread))
    (hx : TxLogExact (b.state == .faulted) b.trace) : TxLogExact (b'.state == .faulted) b'.trace := by
  cases h with
  | quiet events htrace hplain hanswer hfaulted =>
      have hsame : (b'.state == .faulted) = (b.state == .faulted) := by
        rw [Bool.eq_iff_iff]
        simpa using hfaulted
      rw [hsame, htrace]
      refine hx.extend hsound.accounted hplain.not_dataSent
        (fun _ => txLines_of_plain hplain) ?_
      intro pre w post hsplit _ hold
      rw [txLines_append, txLines_of_plain hplain, List.append_nil, hold]
      by_cases hdone : Completes pre w
      · refine (due_congr ?_ (Or.inl rfl)).symm
        rcases hanswer with hinert | ⟨howned, hnot⟩
        · exact firstAnswer_append_inert hinert
        · cases hfirst : firstAnswer post with
          | none =>
              exact absurd hfirst (hsound.accounted.settled_answer howned hnot hsplit hdone)
          | some f => exact firstAnswer_append_of_some hfirst events
      · rw [due_of_not_completes hdone, due_of_not_completes hdone]
  | write w htrace hup hup' =>
      rw [beq_eq_false_iff_ne.mpr hup] at hx
      rw [beq_eq_false_iff_ne.mpr hup', htrace]
      exact hx.write w
  | resolve p f rest howned hheld hanswer htrace hrest hup' =>
      have hup : b.state ≠ .faulted := fun hs => by simp [custody, hs] at howned
      rw [beq_eq_false_iff_ne.mpr hup] at hx
      rw [beq_eq_false_iff_ne.mpr hup', htrace]
      refine hsound.extend_last hx howned hheld ?_ ?_
      · intro e he
        simp only [List.mem_cons, List.mem_append] at he
        rcases he with rfl | he | he
        · rfl
        · split at he
          · rw [List.mem_singleton.mp he]
            rfl
          · simp at he
        · exact hrest.not_dataSent e he
      · have hline := txLines_of_plain hrest
        simp only [verdict, firstAnswer, hanswer, if_true]
        by_cases hok : (decodeTxResult f).any (fun r => r.status = txStatusOk) = true
        · rw [if_pos hok, if_pos hok]
          change ([.dispatched f, .loggedTx .ok p].filterMap Event.txLine? ++ txLines rest) = _
          rw [hline]
          rfl
        · rw [if_neg hok, if_neg hok]
          exact hline
  | fault p front rest howned hheld htrace hfront hrest hfaulted =>
      have hup : b.state ≠ .faulted := fun hs => by simp [custody, hs] at howned
      rw [beq_eq_false_iff_ne.mpr hup] at hx
      rw [hfaulted, beq_self_eq_true, htrace]
      refine hsound.extend_last hx howned hheld ?_ ?_
      · intro e he
        simp only [List.mem_append, List.mem_cons] at he
        rcases he with he | rfl | he
        · exact hfront.1.not_dataSent e he
        · rfl
        · exact hrest.1.not_dataSent e he
      · have hinert : ∀ e ∈ front ++ .loggedTx .unconfirmed p :: rest, e.inert = true := by
          refine inert_append hfront.2 fun e he => ?_
          rcases List.mem_cons.mp he with rfl | he
          · rfl
          · exact hrest.2 e he
        have hline := txLines_of_plain hrest.1
        rw [verdict_of_inert hinert, txLines_append, txLines_of_plain hfront.1]
        change _ ++ ((LoggedOutcome.unconfirmed, p) :: txLines rest) = _
        rw [hline]
        rfl

end LorahamBackend

/-! ## Received packets -/

/-- Every received packet of legal length has its line, and no line is without one. -/
def RxLogExact (trace : List Event) : Prop :=
  rxLines trace = (dispatchedFrames trace).filterMap decodeRx

/-- Exact logs, one after the other. -/
theorem RxLogExact.append {trace events : List Event} (h : RxLogExact trace)
    (h' : RxLogExact events) : RxLogExact (trace ++ events) := by
  unfold RxLogExact rxLines dispatchedFrames at *
  simp [h, h']

/-- Events that neither dispatch a frame nor log a reception. -/
theorem RxLogExact.silent {trace events : List Event} (h : RxLogExact trace)
    (hsilent : ∀ e ∈ events, e.rxLine? = none ∧ e.dispatched? = none) :
    RxLogExact (trace ++ events) := by
  refine h.append ?_
  have hrx : rxLines events = [] := List.filterMap_eq_nil_iff.mpr fun e he => (hsilent e he).1
  have hframes : dispatchedFrames events = [] :=
    List.filterMap_eq_nil_iff.mpr fun e he => (hsilent e he).2
  rw [RxLogExact, hrx, hframes]
  rfl

/-- A dispatched frame that is not a received packet. -/
theorem RxLogExact.dispatched {trace events : List Event} {f : Loraham.Frame}
    (h : RxLogExact trace) (hrx : decodeRx f = none)
    (hsilent : ∀ e ∈ events, e.rxLine? = none ∧ e.dispatched? = none) :
    RxLogExact (trace ++ .dispatched f :: events) := by
  rw [List.append_cons]
  refine RxLogExact.silent (h.append ?_) hsilent
  simp [RxLogExact, rxLines, dispatchedFrames, Event.rxLine?, Event.dispatched?, hrx]

/-- A packet that is dispatched and logged keeps the log exact. -/
theorem RxLogExact.received {trace : List Event} {f : Loraham.Frame} {rx : RxEvent}
    (h : RxLogExact trace) (hrx : decodeRx f = some rx) :
    RxLogExact (trace ++ [.dispatched f, .loggedRx rx]) := by
  refine h.append ?_
  change [rx] = [f].filterMap decodeRx
  simp [hrx]

namespace LorahamBackend

/-- An answer to a packet is not a received packet. -/
theorem decodeRx_of_answer? {f : Loraham.Frame} {outcome : TxOutcome}
    (h : answer? f = some outcome) : decodeRx f = none := by
  cases hrx : decodeRx f with
  | none => rfl
  | some rx => simp [answer?_of_decodeRx hrx] at h

/-- The line for an answer is a transmit line. -/
theorem silent_confirmation (f : Loraham.Frame) (b : LorahamBackend) :
    ∀ e ∈ confirmation f b, e.rxLine? = none ∧ e.dispatched? = none := by
  unfold confirmation
  split <;> simp [Event.rxLine?, Event.dispatched?]

/-- A callback keeps the log exact. -/
theorem rxLogExact_notify {b : LorahamBackend} (call : SinkCall) (h : RxLogExact b.trace) :
    RxLogExact (b.notify call).trace := by
  rw [notify_trace]
  refine h.silent ?_
  cases b.sink <;> simp [notices, Event.rxLine?, Event.dispatched?]

/-- A fault keeps the log exact. -/
theorem rxLogExact_enterFault {b : LorahamBackend} (h : RxLogExact b.trace) :
    RxLogExact b.enterFault.trace := by
  unfold enterFault logTxOutcome
  simp only
  refine RxLogExact.silent (h.silent ?_) (by simp [Event.rxLine?, Event.dispatched?])
  split <;> simp [Event.rxLine?, Event.dispatched?]

theorem rxLogExact_reset {b : LorahamBackend} (h : RxLogExact b.trace) :
    RxLogExact b.resetLinkUnconfigured.trace :=
  h.silent (by simp [Event.rxLine?, Event.dispatched?])

/-- Reading CONF replies keeps the log exact. -/
theorem ConfTaken.rxLogExact {b c : LorahamBackend} (hc : ConfTaken b c)
    (h : RxLogExact b.trace) : RxLogExact c.trace := by
  rcases hc with rfl | ⟨chunk, line, rfl⟩
  · exact h
  · exact h.silent (by simp [Event.rxLine?, Event.dispatched?])

/-- Every quiet step keeps the log exact. -/
theorem QuietStep.rxLogExact {x y : Snapshot} (h : QuietStep x y) (hx : RxLogExact x.1.trace) :
    RxLogExact y.1.trace := by
  cases h with
  | answers | connected | confWritten | dataPush | dataDrained | discard => exact hx
  | confWrite | configQuiet | confQuiet | dataWrite | dataWriteLast | dataRead | confDiscard =>
      exact hx.silent (by simp [Event.rxLine?, Event.dispatched?])
  | dataIgnored b unread f rest hstate hpop hrx => exact hx.dispatched hrx (by simp)
  | dataHeard b unread f rest rx hstate hpop hrx => exact hx.received hrx
  | dataFenced b unread f rest outcome hstate hpop hanswer =>
      exact hx.dispatched (decodeRx_of_answer? hanswer) (silent_confirmation f b)
  | dataCleared b unread f rest outcome hstate hpop hanswer =>
      exact rxLogExact_reset (b := { b with trace := b.trace ++ (.dispatched f :: confirmation f b) })
        (hx.dispatched (decodeRx_of_answer? hanswer) (silent_confirmation f b))
  | drainLost | drainExpired => exact rxLogExact_enterFault hx

/-- Every step that calls the session keeps the log exact: a packet is logged when it is
dispatched. -/
theorem CallStep.rxLogExact {call : SinkCall} {x y : Snapshot} (h : CallStep call x y)
    (hx : RxLogExact x.1.trace) : RxLogExact y.1.trace := by
  cases h with
  | configSucceed b chunk rest =>
      have htaken : ConfTaken b (b.takeConf chunk rest) := Or.inr ⟨chunk, rest, rfl⟩
      exact rxLogExact_notify _ (htaken.rxLogExact hx)
  | configFail b c hc => exact rxLogExact_notify _ (rxLogExact_reset (hc.rxLogExact hx))
  | lost b c unread hc =>
      have hc := hc.rxLogExact hx
      rcases handleDisconnect_cases c with ⟨-, heq⟩ | ⟨-, heq⟩ | ⟨-, -, heq⟩ <;> rw [heq]
      · exact rxLogExact_enterFault hc
      · exact rxLogExact_notify _ (rxLogExact_enterFault hc)
      · exact rxLogExact_notify _ (rxLogExact_reset hc)
  | received b unread f rest rx hstate hpop hrx => exact rxLogExact_notify _ (hx.received hrx)
  | completed b unread f rest outcome hstate hpop hanswer =>
      exact rxLogExact_notify _
        (hx.dispatched (decodeRx_of_answer? hanswer) (silent_confirmation f b))

/-- Every step keeps the account of received packets. -/
theorem Micro.rxLogExact {x y : Snapshot} (h : Micro x y) (hx : RxLogExact x.1.trace) :
    RxLogExact y.1.trace := by
  cases h with
  | poll h =>
      cases h with
      | quiet h => exact h.rxLogExact hx
      | call h => exact h.rxLogExact hx
  | environment | attach | abandon => exact hx
  | openLink | connectRefused | holdTx | reset =>
      exact hx.silent (by simp [Event.rxLine?, Event.dispatched?])

end LorahamBackend

/-- The receive line of a DATA frame: an `RX_PACKET` of 4 to 259 bytes has its signal
levels in front, two little-endian words, and the bytes off the air behind them. -/
def rxLineOf (f : Loraham.Frame) : Option RxEvent :=
  if f.type = .rxPacket ∧ 4 ≤ f.payload.length ∧ f.payload.length ≤ 259 then
    some
      { rssiCdbm := (getLE16 (f.payload.getD 0 0) (f.payload.getD 1 0)).toInt16
        snrCdb := (getLE16 (f.payload.getD 2 0) (f.payload.getD 3 0)).toInt16
        data := f.payload.drop 4 }
  else none

/-- The decoder of the backend reads just these. -/
theorem decodeRx_eq (f : Loraham.Frame) : decodeRx f = rxLineOf f := by
  have hshort : f.payload.length < kRxMetaLen ↔ f.payload.length < 4 := Iff.rfl
  have hlong : kMaxRfPayload < f.payload.length - kRxMetaLen ↔ 255 < f.payload.length - 4 := Iff.rfl
  by_cases hline : f.type = .rxPacket ∧ 4 ≤ f.payload.length ∧ f.payload.length ≤ 259
  · rw [rxLineOf, if_pos hline, decodeRx, if_neg (not_not.mpr hline.1),
      if_neg (mt hshort.mp (by omega)), if_neg (mt hlong.mp (by omega))]
    rfl
  · rw [rxLineOf, if_neg hline, decodeRx]
    by_cases htype : f.type = .rxPacket
    · rw [if_neg (not_not.mpr htype)]
      by_cases hfew : f.payload.length < 4
      · rw [if_pos (hshort.mpr hfew)]
      · rw [if_neg (mt hshort.mp hfew), if_pos (hlong.mpr (by grind))]
    · rw [if_pos htype]

/-! ## The log in every run -/

/-- Everything the account needs. -/
structure Booked (x : Snapshot) : Prop where
  sound : Sound x
  kept : x.1.TxKept
  tx : TxLogExact (x.1.state == .faulted) x.1.trace
  rx : RxLogExact x.1.trace

/-- Every step keeps the account. -/
theorem LorahamBackend.Micro.booked {x y : Snapshot} (h : Micro x y) (hx : Booked x) : Booked y :=
  ⟨h.sound hx.sound, h.txKept hx.kept, (h.logs hx.kept).exact hx.sound hx.tx, h.rxLogExact hx.rx⟩

/-- The account of every run. -/
theorem run_booked (env : BridgeEnv) (ops : List XrServer.Op) :
    Booked ((XrServer.run env ops).backend, none) := by
  refine run_backend env ⟨sound_of_new rfl rfl, txKept_of_state (by simp [XrServer.initial]),
    ⟨rfl, ?_⟩, rfl⟩ (fun _ _ h hx => h.booked hx) ops
  intro pre w post hsplit
  simp [XrServer.initial] at hsplit

/-- The RF log is an exact account of what crossed the DATA socket.  The transmit
lines between a write and the next are those due for the packet it completed: one
with status ok if a `TX_RESULT` OK was dispatched for it, one unconfirmed if the
backend faulted while it was unanswered, otherwise none; an unanswered packet keeps
the backend in `TxPending` or `Draining` until then.  The receive lines are those of
the dispatched packets of legal length. -/
theorem rf_log_exact (env : BridgeEnv) (ops : List XrServer.Op) :
    let b := (XrServer.run env ops).backend
    txLines (period b.trace) = [] ∧
    (∀ pre w post, b.trace = pre ++ .dataSent w :: post →
      (completed pre w).length ≤ 1 ∧
      txLines (period post) = due (b.state == .faulted) pre w (period post) ∧
      (completed pre w ≠ [] → firstAnswer (period post) = none →
        b.state = .txPending ∨ b.state = .draining ∨ b.state = .faulted)) ∧
    rxLines b.trace = (dispatchedFrames b.trace).filterMap rxLineOf := by
  have hbooked := run_booked env ops
  refine ⟨hbooked.tx.before, ?_, hbooked.rx.trans (by rw [funext decodeRx_eq])⟩
  intro pre w post hsplit
  refine ⟨?_, hbooked.tx.after pre w post hsplit, ?_⟩
  · by_cases hdone : Completes pre w
    · have hone := (hbooked.sound.accounted.whole pre w post hsplit hdone).2
      simp [completed, hone]
    · simp [completed_eq_nil hdone]
  · intro hdone hnone
    have hcompletes : Completes pre w := by
      by_contra hnot
      exact hdone (completed_eq_nil hnot)
    -- A packet with a later write behind it has been answered before that write.
    rcases period_append post (show ∀ e ∈ ([] : List Event), e.isDataSent = false by simp) with
      ⟨hlast, heq⟩ | ⟨front, w', rest, hpost, -, -, heq⟩
    · rw [List.append_nil] at heq
      rw [heq] at hnone
      apply state_of_owned
      by_contra hnot
      rw [not_or] at hnot
      exact hbooked.sound.accounted.settled_answer hnot.1 hnot.2 hsplit hcompletes hnone
    · rw [heq] at hnone
      rw [hpost] at hsplit
      exact (hbooked.sound.accounted.answered hsplit hcompletes hnone).elim

end LorahamBridge
