import LorahamBridge.Loraham.BackendSteps

/-!
# The view of one daemon link

The history of the backend, cut down to the daemon connection that was opened
last: who opened it and for which band, the bytes that went out and came in on
its two sockets, the packets submitted to it, and the DATA frames taken off it.

Main results:

- Theorem `Micro.trace_append`: a step only ever extends the history.
- The `link_*` lemmas: what each update of the backend means for the view.
-/

namespace LorahamBridge

open Foundation Extradio Loraham

/-- What one daemon connection has carried. -/
structure Link where
  owner : Option Nat
  band : Option Band
  confSent : Bytes
  confReceived : Bytes
  submitted : List Bytes
  sent : Bytes
  received : Bytes
  frames : List Loraham.Frame
  closed : Bool
deriving DecidableEq

namespace Link

/-- Before the first connection. -/
def none : Link :=
  ⟨.none, .none, [], [], [], [], [], [], false⟩

/-- What an event does to a link: opening starts a new one, everything else extends it. -/
def step (l : Link) : Event → Link
  | .opened owner band => { none with owner := owner, band := some band }
  | .confSent bytes => { l with confSent := l.confSent ++ bytes }
  | .confReceived bytes => { l with confReceived := l.confReceived ++ bytes }
  | .submitted payload => { l with submitted := l.submitted ++ [payload] }
  | .dataSent bytes => { l with sent := l.sent ++ bytes }
  | .dataReceived bytes => { l with received := l.received ++ bytes }
  | .dispatched frame => { l with frames := l.frames ++ [frame] }
  | .closed => { l with closed := true }
  | .connectRefused _ | .loggedRx _ | .loggedTx _ _ | .notified _ _ => l

end Link

/-- The connection opened last. -/
def link (trace : List Event) : Link :=
  trace.foldl Link.step Link.none

/-- The link at the end of a trace that goes on. -/
theorem link_append (trace events : List Event) :
    link (trace ++ events) = events.foldl Link.step (link trace) :=
  List.foldl_append

/-- One more event is one more step of the link. -/
@[simp]
theorem link_append_singleton (trace : List Event) (e : Event) :
    link (trace ++ [e]) = (link trace).step e := by
  simp [link_append]

/-- The connections replaced by later ones, next to the one opened last. -/
def linkHistory (trace : List Event) : List Link × Link :=
  trace.foldl
    (fun h e => (match e with | .opened _ _ => h.1 ++ [h.2] | _ => h.1, h.2.step e))
    ([], Link.none)

/-- Every connection in the order of opening, behind the empty view. -/
def links (trace : List Event) : List Link :=
  (linkHistory trace).1 ++ [(linkHistory trace).2]

/-- The history ends in the present link. -/
theorem linkHistory_snd (trace : List Event) : (linkHistory trace).2 = link trace := by
  induction trace using List.reverseRecOn with
  | nil => rfl
  | append_singleton trace e ih =>
      rw [link_append_singleton, ← ih]
      simp [linkHistory]

/-- The connections that later ones replaced. -/
def earlierLinks (trace : List Event) : List Link :=
  (linkHistory trace).1

/-- All links are the earlier ones and the present one. -/
theorem links_eq (trace : List Event) : links trace = earlierLinks trace ++ [link trace] := by
  rw [links, linkHistory_snd, earlierLinks]

/-- The events that begin a new connection. -/
def Event.isOpened : Event → Bool
  | .opened _ _ => true
  | _ => false

/-- Opening a link makes the one before it an earlier link. -/
theorem earlierLinks_opened (trace : List Event) (owner : Option Nat) (band : Band) :
    earlierLinks (trace ++ [.opened owner band]) = links trace := by
  simp [earlierLinks, links, linkHistory]

/-- Nothing but opening a link adds to the earlier ones. -/
theorem earlierLinks_append {trace events : List Event}
    (h : ∀ e ∈ events, e.isOpened = false) :
    earlierLinks (trace ++ events) = earlierLinks trace := by
  induction events using List.reverseRecOn with
  | nil => simp
  | append_singleton events e ih =>
      rw [← ih fun e he => h e (by simp [he])]
      have he := h e (by simp)
      rw [← List.append_assoc]
      generalize trace ++ events = t
      cases e with
      | opened => simp [Event.isOpened] at he
      | _ => simp [earlierLinks, linkHistory]

namespace LorahamBackend

/-! ## The view after each update -/

/-- A callback to the session does not touch the link. -/
@[simp]
theorem link_notify (call : SinkCall) (b : LorahamBackend) :
    link (b.notify call).trace = link b.trace := by
  unfold notify
  cases b.sink <;> simp [Link.step]

/-- A line of the RF log does not touch the link. -/
@[simp]
theorem link_logTxOutcome (outcome : LoggedOutcome) (b : LorahamBackend) :
    link (b.logTxOutcome outcome).trace = link b.trace := by
  unfold logTxOutcome
  simp only
  split <;> simp [Link.step]

/-- A reset closes the link. -/
@[simp]
theorem link_resetLinkUnconfigured (b : LorahamBackend) :
    link b.resetLinkUnconfigured.trace = (link b.trace).step .closed := by
  simp [resetLinkUnconfigured]

/-- A fault closes the link, whatever is logged and reported before. -/
@[simp]
theorem link_enterFault (b : LorahamBackend) :
    link b.enterFault.trace = (link b.trace).step .closed := by
  simp [enterFault]

@[simp]
theorem link_handleDisconnect (b : LorahamBackend) :
    link b.handleDisconnect.trace = (link b.trace).step .closed := by
  unfold handleDisconnect
  split <;> simp

@[simp]
theorem link_configSucceed (b : LorahamBackend) :
    link b.configSucceed.trace = link b.trace := by
  simp [configSucceed]

/-- A failed configuration closes the link. -/
@[simp]
theorem link_configFail (b : LorahamBackend) :
    link b.configFail.trace = (link b.trace).step .closed := by
  simp [configFail]

@[simp]
theorem link_record (e : Event) (b : LorahamBackend) :
    link (b.record e).trace = (link b.trace).step e := by
  simp [record]

@[simp]
theorem link_takeConf (chunk line : Bytes) (b : LorahamBackend) :
    link (b.takeConf chunk line).trace = (link b.trace).step (.confReceived chunk) := by
  simp [takeConf]

/-- A dispatched frame with its log line is one step of the link. -/
@[simp]
theorem link_confirmation (trace : List Event) (f : Loraham.Frame) (b : LorahamBackend) :
    link (trace ++ .dispatched f :: confirmation f b) = (link trace).step (.dispatched f) := by
  unfold confirmation
  split <;> simp [link_append, Link.step]

/-- A round of writes is one step of the link that sends all of their bytes. -/
@[simp]
theorem link_wrote (transport : DaemonTransport) (off : Nat) (writes : List Bytes)
    (b : LorahamBackend) :
    link (b.wrote transport off writes).trace =
      (link b.trace).step (.dataSent writes.flatten) := by
  unfold wrote
  simp only
  induction writes generalizing b with
  | nil => simp [Link.step]
  | cons w writes ih =>
      have h := ih { b with trace := b.trace ++ [.dataSent w] }
      simp only [List.map_cons, List.flatten_cons]
      rw [List.append_cons, h]
      simp [Link.step]

/-! ## The history only grows -/

/-- A fault only adds to the trace. -/
theorem prefix_enterFault (b : LorahamBackend) : b.trace <+: b.enterFault.trace := by
  simp [enterFault, logTxOutcome, List.append_assoc]

/-- A disconnect only adds to the trace. -/
theorem prefix_handleDisconnect (b : LorahamBackend) : b.trace <+: b.handleDisconnect.trace := by
  unfold handleDisconnect
  split
  · exact prefix_enterFault b
  · exact (prefix_enterFault b).trans (List.prefix_append _ _)
  · exact (List.prefix_append _ _).trans (List.prefix_append _ _)

/-- No step takes anything back from the trace: quiet steps. -/
theorem QuietStep.trace_append {x y : Snapshot} (h : QuietStep x y) :
    x.1.trace <+: y.1.trace := by
  cases h with
  | answers | connected | confWritten | dataPush | dataDrained | discard => exact List.prefix_rfl
  | confWrite | configQuiet | confQuiet | dataWrite | dataWriteLast | dataRead | dataIgnored
  | dataHeard | dataFenced | confDiscard => exact List.prefix_append _ _
  | dataCleared => exact (List.prefix_append _ _).trans (List.prefix_append _ _)
  | drainLost b | drainExpired b => exact prefix_enterFault b

/-- Reading CONF replies only adds to the trace. -/
theorem ConfTaken.trace_append {b c : LorahamBackend} (h : ConfTaken b c) :
    b.trace <+: c.trace := by
  rcases h with rfl | ⟨chunk, line, rfl⟩
  · exact List.prefix_rfl
  · exact List.prefix_append _ _

/-- No step takes anything back from the trace: steps that call the session. -/
theorem CallStep.trace_append {call : SinkCall} {x y : Snapshot} (h : CallStep call x y) :
    x.1.trace <+: y.1.trace := by
  cases h with
  | configSucceed | received | completed =>
      exact (List.prefix_append _ _).trans (List.prefix_append _ _)
  | configFail b c hc =>
      exact hc.trace_append.trans ((List.prefix_append _ _).trans (List.prefix_append _ _))
  | lost b c unread hc => exact hc.trace_append.trans (prefix_handleDisconnect c)

/-- A step only ever extends the history. -/
theorem Micro.trace_append {x y : Snapshot} (h : Micro x y) : x.1.trace <+: y.1.trace := by
  cases h with
  | environment | attach | abandon => exact List.prefix_rfl
  | openLink | connectRefused | holdTx | reset => exact List.prefix_append _ _
  | poll h =>
      cases h with
      | quiet h => exact h.trace_append
      | call h => exact h.trace_append

end LorahamBackend

end LorahamBridge
