import LorahamBridge.Loraham.Backend
import Mathlib.Logic.Relation

/-!
# What the backend can do

The loops of `poll` are cut into small steps: one write, one read, one frame
taken off the parser, one verdict on the CONF stream.  The relation `PollStep`
lists them with the guards under which the code takes them, and `Micro` adds what
the session and the server do to the backend from outside.  A configuration
carries, next to the backend, the unread rest of a DATA read in progress.

Every safety property of the backend is proved against these steps; the loops
are unfolded only here.

Main results:

- Theorem `poll_steps`: a poll is a sequence of poll steps.
- Theorems `beginConfigure_micro`, `submitTx_micro`, `abandonPendingTx_micro` and
  `teardown_micro`: what the session and the server call is a sequence of steps.
-/

namespace LorahamBridge
namespace LorahamBackend

open Foundation Extradio Loraham Relation

/-! ## What a frame does -/

/-- The frames that settle a transmission: a `TX_RESULT` of four bytes and an `ERROR`. -/
def isTerminal (f : Loraham.Frame) : Bool :=
  match f.type with
  | .txResult => f.payload.length == 4
  | .error => true
  | _ => false

/-- What a terminal frame says of the packet: the status byte of a `TX_RESULT` is 0 for
a packet that was sent and 2 for a busy channel. -/
def outcomeOf (f : Loraham.Frame) : TxOutcome :=
  match f.type with
  | .txResult =>
      if f.payload.getD 0 0 = 0x00 then .success
      else if f.payload.getD 0 0 = 0x02 then .channelBusy
      else .radioError
  | _ => .radioError

/-- The outcome a terminal DATA frame reports; `none` for every other frame. -/
def answer? (f : Loraham.Frame) : Option TxOutcome :=
  if isTerminal f then some (outcomeOf f) else none

/-- The backend reads the outcome of a `TX_RESULT` off its status byte. -/
theorem answer?_of_txResult {f : Loraham.Frame} (htype : f.type = .txResult) :
    answer? f = (decodeTxResult f).map fun r => mapTxStatus r.status := by
  have hmap : mapTxStatus (f.payload.getD 0 0) = outcomeOf f := by
    rw [outcomeOf, htype]
    rfl
  by_cases hlen : f.payload.length = 4
  · simp [answer?, isTerminal, decodeTxResult, htype, hlen, kTxResultPayloadLen, ← hmap]
  · simp [answer?, isTerminal, decodeTxResult, htype, hlen, kTxResultPayloadLen]

/-- Every `ERROR` is a failure of the radio. -/
theorem answer?_of_error {f : Loraham.Frame} (htype : f.type = .error) :
    answer? f = some .radioError := by
  simp [answer?, isTerminal, outcomeOf, htype]

/-- A received packet answers nothing. -/
theorem answer?_of_decodeRx {f : Loraham.Frame} {rx : RxEvent} (h : decodeRx f = some rx) :
    answer? f = none := by
  unfold decodeRx at h
  cases htype : f.type <;> simp [answer?, isTerminal, htype] at h ⊢

/-- The RF log line for a confirmed transmission of the held frame. -/
def confirmation (f : Loraham.Frame) (b : LorahamBackend) : List Event :=
  if (decodeTxResult f).any (fun r => r.status = txStatusOk) ∧
      kFramedHeaderLen < b.txOut.length then
    [.loggedTx .ok (b.txOut.drop kFramedHeaderLen)]
  else []

/-- Every way a dispatched frame can act. -/
inductive Dispatched (f : Loraham.Frame) (b : LorahamBackend) : LorahamBackend → Prop
  | ignored (hrx : decodeRx f = none)
      (hanswer : answer? f = none ∨ b.state ≠ .txPending ∧ b.state ≠ .draining) :
      Dispatched f b { b with trace := b.trace ++ [.dispatched f] }
  | heard (rx : RxEvent) (hrx : decodeRx f = some rx) (hstate : rxOk b.state = false) :
      Dispatched f b { b with trace := b.trace ++ [.dispatched f, .loggedRx rx] }
  | forwarded (rx : RxEvent) (hrx : decodeRx f = some rx) (hstate : rxOk b.state = true) :
      Dispatched f b
        (notify (.onRx rx) { b with trace := b.trace ++ [.dispatched f, .loggedRx rx] })
  | completed (outcome : TxOutcome) (hanswer : answer? f = some outcome)
      (hstate : b.state = .txPending) (hepoch : b.pendingEpoch = b.txEpoch) :
      Dispatched f b
        (notify (.onTxComplete outcome)
          { b with
            state := .ready
            txOut := []
            txOutOff := 0
            trace := b.trace ++ (.dispatched f :: confirmation f b) })
  | fenced (outcome : TxOutcome) (hanswer : answer? f = some outcome)
      (hstate : b.state = .txPending) (hepoch : b.pendingEpoch ≠ b.txEpoch) :
      Dispatched f b
        { b with
          state := .ready
          txOut := []
          txOutOff := 0
          trace := b.trace ++ (.dispatched f :: confirmation f b) }
  | cleared (outcome : TxOutcome) (hanswer : answer? f = some outcome)
      (hstate : b.state = .draining) :
      Dispatched f b
        (resetLinkUnconfigured { b with trace := b.trace ++ (.dispatched f :: confirmation f b) })

/-- A terminal frame, once its RF log line is written. -/
theorem dispatched_of_answer {f : Loraham.Frame} (outcome : TxOutcome) (b : LorahamBackend)
    (hrx : decodeRx f = none) (hanswer : answer? f = some outcome) :
    Dispatched f b (resolveTx outcome
      { b with trace := b.trace ++ (.dispatched f ::
          if b.state = .txPending ∨ b.state = .draining then confirmation f b else []) }) := by
  unfold resolveTx
  simp only
  split <;> rename_i hstate
  · simp only [hstate, true_or, if_true]
    split <;> rename_i hepoch
    · exact .completed outcome hanswer hstate hepoch
    · exact .fenced outcome hanswer hstate hepoch
  · simp only [hstate, or_true, if_true]
    exact .cleared outcome hanswer hstate
  · rw [if_neg (by tauto)]
    exact .ignored hrx (Or.inr ⟨by tauto, by tauto⟩)

/-- The RF log line of a confirmed transmission. -/
theorem logTxOutcome_ok {f : Loraham.Frame} {r : TxResult} (b : LorahamBackend)
    (hres : decodeTxResult f = some r) (hok : r.status = txStatusOk) :
    (b.record (.dispatched f)).logTxOutcome .ok =
      { b with trace := b.trace ++ (.dispatched f :: confirmation f b) } := by
  unfold logTxOutcome confirmation record
  by_cases hlen : kFramedHeaderLen < b.txOut.length
  · simp [hres, hok, hlen, Nat.not_le.mpr hlen]
  · simp [hlen, Nat.not_lt.mp hlen]

/-- The cases of `dispatch`. -/
theorem dispatch_cases (f : Loraham.Frame) (b : LorahamBackend) :
    Dispatched f b (dispatch f b) := by
  unfold dispatch
  simp only
  split <;> rename_i htype
  · split <;> rename_i hrx
    · exact .ignored hrx (Or.inl (by simp [answer?, isTerminal, htype]))
    · rename_i rx
      have hrec : (b.record (.dispatched f)).record (.loggedRx rx) =
          { b with trace := b.trace ++ [.dispatched f, .loggedRx rx] } := by simp [record]
      rw [hrec]
      split <;> rename_i hstate
      · exact .forwarded rx hrx hstate
      · exact .heard rx hrx (by simpa using hstate)
  · have hnorx : decodeRx f = none := by simp [decodeRx, htype]
    split <;> rename_i hres
    · exact .ignored hnorx (Or.inl (by simp [answer?_of_txResult htype, hres]))
    · rename_i r
      have h := dispatched_of_answer (mapTxStatus r.status) b hnorx
        (by simp [answer?_of_txResult htype, hres])
      split <;> rename_i hok
      · have hs : b.state = .txPending ∨ b.state = .draining := hok.2
        rw [if_pos hs] at h
        rwa [logTxOutcome_ok b hres hok.1]
      · convert h using 2
        by_cases hs : b.state = .txPending ∨ b.state = .draining
        · have : r.status ≠ txStatusOk := fun heq => hok ⟨heq, hs⟩
          simp [record, confirmation, hres, this]
        · simp [record, hs]
  · have hnorx : decodeRx f = none := by simp [decodeRx, htype]
    have h := dispatched_of_answer .radioError b hnorx (answer?_of_error htype)
    convert h using 2
    simp [record, confirmation, decodeTxResult, htype]
  · exact .ignored (by simp [decodeRx, htype]) (Or.inl (by simp [answer?, isTerminal, htype]))

/-- A dispatched frame keeps the state, completes a pending transmission, or
clears the one being drained.  While the link stays up the parser is untouched. -/
theorem dispatch_state (f : Loraham.Frame) (b : LorahamBackend) :
    ((dispatch f b).state = b.state ∧ (dispatch f b).parser = b.parser) ∨
      (b.state = .txPending ∧ (dispatch f b).state = .ready ∧
        (dispatch f b).parser = b.parser) ∨
      (b.state = .draining ∧ (dispatch f b).state = .disconnected) := by
  have h := dispatch_cases f b
  generalize dispatch f b = b' at h
  cases h with
  | ignored | heard | forwarded => exact Or.inl ⟨rfl, rfl⟩
  | completed _ _ hstate | fenced _ _ hstate => exact Or.inr (Or.inl ⟨hstate, rfl, rfl⟩)
  | cleared _ _ hstate => exact Or.inr (Or.inr ⟨hstate, rfl⟩)

/-! ## The steps -/

/-- States with an established link that is being read. -/
def onLink (state : BackendState) : Bool :=
  rxOk state || state == .draining

/-- Where packets are received there is a link. -/
theorem onLink_of_rxOk {state : BackendState} (h : rxOk state = true) : onLink state = true := by
  simp [onLink, h]

/-- A backend between two steps.  While a DATA read is being parsed, the bytes
that the parser has not been given yet stand next to it. -/
abbrev Snapshot : Type :=
  LorahamBackend × Option Bytes

/-- The steps of `poll` that call nothing on the sink. -/
inductive QuietStep : Snapshot → Snapshot → Prop
  | answers (b : LorahamBackend) (unread : Option Bytes) (transport : DaemonTransport) :
      QuietStep (b, unread) ({ b with transport := transport }, unread)
  | connected (b : LorahamBackend) (hstate : b.state = .connecting) :
      QuietStep (b, none) ({ b with state := .configuring }, none)
  | confWrite (b : LorahamBackend) (n : Nat) (hstate : b.state = .configuring)
      (hleft : b.confOutOff < b.confOut.length) :
      QuietStep (b, none) (b.sendConf n, none)
  | confWritten (b : LorahamBackend) (hstate : b.state = .configuring)
      (hleft : b.confOut.length ≤ b.confOutOff) :
      QuietStep (b, none) ({ b with awaitingStatus := true }, none)
  | configQuiet (b : LorahamBackend) (chunk rest : Bytes) (hstate : b.state = .configuring)
      (hawait : b.awaitingStatus = true)
      (hscan : scanConf true (b.confLine ++ chunk) = (.quiet, rest))
      (hbound : (b.confLine ++ chunk).length ≤ kMaxConfLine) :
      QuietStep (b, none) (b.takeConf chunk rest, none)
  | confQuiet (b : LorahamBackend) (chunk rest : Bytes) (hstate : rxOk b.state = true)
      (hscan : scanConf false (b.confLine ++ chunk) = (.quiet, rest))
      (hbound : (b.confLine ++ chunk).length ≤ kMaxConfLine) :
      QuietStep (b, none) (b.takeConf chunk rest, none)
  | dataWrite (b : LorahamBackend) (n : Nat) (hstate : b.state = .txWriting)
      (hleft : b.txOutOff + n < b.txOut.length) :
      QuietStep (b, none) (b.sendData n, none)
  | dataWriteLast (b : LorahamBackend) (n : Nat) (hstate : b.state = .txWriting)
      (hleft : b.txOutOff < b.txOut.length) (hlast : b.txOut.length ≤ b.txOutOff + n) :
      QuietStep (b, none) ({ b.sendData n with state := .txPending }, none)
  | dataRead (b : LorahamBackend) (chunk : Bytes) (hstate : onLink b.state = true) :
      QuietStep (b, none) (b.record (.dataReceived chunk), some chunk)
  | dataPush (b : LorahamBackend) (unread : Bytes) (k : Nat) (hstate : onLink b.state = true)
      (hpop : daemonFormat.pop b.parser = .needMore) :
      QuietStep (b, some unread)
        (b.withParser (b.parser ++ unread.take k), some (unread.drop k))
  | dataDrained (b : LorahamBackend) (hstate : onLink b.state = true)
      (hpop : daemonFormat.pop b.parser = .needMore) :
      QuietStep (b, some []) (b, none)
  | dataIgnored (b : LorahamBackend) (unread : Bytes) (f : Loraham.Frame) (rest : Bytes)
      (hstate : onLink b.state = true) (hpop : daemonFormat.pop b.parser = .gotFrame f rest)
      (hrx : decodeRx f = none)
      (hanswer : answer? f = none ∨ b.state ≠ .txPending ∧ b.state ≠ .draining) :
      QuietStep (b, some unread)
        ({ b with parser := rest, trace := b.trace ++ [.dispatched f] }, some unread)
  | dataHeard (b : LorahamBackend) (unread : Bytes) (f : Loraham.Frame) (rest : Bytes)
      (rx : RxEvent) (hstate : b.state = .draining)
      (hpop : daemonFormat.pop b.parser = .gotFrame f rest) (hrx : decodeRx f = some rx) :
      QuietStep (b, some unread)
        ({ b with parser := rest, trace := b.trace ++ [.dispatched f, .loggedRx rx] },
          some unread)
  | dataFenced (b : LorahamBackend) (unread : Bytes) (f : Loraham.Frame) (rest : Bytes)
      (outcome : TxOutcome) (hstate : b.state = .txPending)
      (hpop : daemonFormat.pop b.parser = .gotFrame f rest)
      (hanswer : answer? f = some outcome) (hepoch : b.pendingEpoch ≠ b.txEpoch) :
      QuietStep (b, some unread)
        ({ b with
          state := .ready
          parser := rest
          txOut := []
          txOutOff := 0
          trace := b.trace ++ (.dispatched f :: confirmation f b) }, some unread)
  | dataCleared (b : LorahamBackend) (unread : Bytes) (f : Loraham.Frame) (rest : Bytes)
      (outcome : TxOutcome) (hstate : b.state = .draining)
      (hpop : daemonFormat.pop b.parser = .gotFrame f rest)
      (hanswer : answer? f = some outcome) :
      QuietStep (b, some unread)
        (resetLinkUnconfigured
          { b with trace := b.trace ++ (.dispatched f :: confirmation f b) }, some unread)
  | discard (b : LorahamBackend) (unread : Option Bytes) (hstate : b.state = .disconnected) :
      QuietStep (b, unread) (b, none)
  | drainLost (b : LorahamBackend) (unread : Option Bytes) (hstate : b.state = .draining) :
      QuietStep (b, unread) (b.enterFault, none)
  | drainExpired (b : LorahamBackend) (hstate : b.state = .draining)
      (hdeadline : b.drainDeadlineAt ≤ b.now) :
      QuietStep (b, none) (b.enterFault, none)
  | confDiscard (b : LorahamBackend) (chunk : Bytes) (hstate : b.state = .draining) :
      QuietStep (b, none) (b.record (.confReceived chunk), none)

/-- The backend after a CONF read, or as it is if there was none. -/
def ConfTaken (b c : LorahamBackend) : Prop :=
  c = b ∨ ∃ chunk line, c = b.takeConf chunk line

/-- The steps of `poll` that call the sink. -/
inductive CallStep : SinkCall → Snapshot → Snapshot → Prop
  | configSucceed (b : LorahamBackend) (chunk rest : Bytes) (hstate : b.state = .configuring)
      (hawait : b.awaitingStatus = true)
      (hscan : scanConf true (b.confLine ++ chunk) = (.status true, rest))
      (hbound : (b.confLine ++ chunk).length ≤ kMaxConfLine)
      (hchunk : chunk.length ≤ kReadChunk) :
      CallStep (.onConfigureComplete b.configToken ⟨true, b.pendingCfg⟩) (b, none)
        ((b.takeConf chunk rest).configSucceed, none)
  | configFail (b c : LorahamBackend) (hc : ConfTaken b c)
      (hstate : b.state = .connecting ∨ b.state = .configuring) :
      CallStep (.onConfigureComplete b.configToken .failed) (b, none) (c.configFail, none)
  | lost (b c : LorahamBackend) (unread : Option Bytes) (hc : ConfTaken b c)
      (hstate : rxOk b.state = true) :
      CallStep .onBackendFailure (b, unread) (c.handleDisconnect, none)
  | received (b : LorahamBackend) (unread : Bytes) (f : Loraham.Frame) (rest : Bytes)
      (rx : RxEvent) (hstate : rxOk b.state = true)
      (hpop : daemonFormat.pop b.parser = .gotFrame f rest) (hrx : decodeRx f = some rx) :
      CallStep (.onRx rx) (b, some unread)
        (notify (.onRx rx)
          { b with parser := rest, trace := b.trace ++ [.dispatched f, .loggedRx rx] },
          some unread)
  | completed (b : LorahamBackend) (unread : Bytes) (f : Loraham.Frame) (rest : Bytes)
      (outcome : TxOutcome) (hstate : b.state = .txPending)
      (hpop : daemonFormat.pop b.parser = .gotFrame f rest)
      (hanswer : answer? f = some outcome) (hepoch : b.pendingEpoch = b.txEpoch) :
      CallStep (.onTxComplete outcome) (b, some unread)
        (notify (.onTxComplete outcome)
          { b with
            state := .ready
            parser := rest
            txOut := []
            txOutOff := 0
            trace := b.trace ++ (.dispatched f :: confirmation f b) }, some unread)

/-- The steps of `poll`. -/
inductive PollStep : Snapshot → Snapshot → Prop
  | quiet {x y : Snapshot} (h : QuietStep x y) : PollStep x y
  | call {call : SinkCall} {x y : Snapshot} (h : CallStep call x y) : PollStep x y

/-- Any number of poll steps. -/
abbrev Polls : Snapshot → Snapshot → Prop :=
  ReflTransGen PollStep

/-- In a state that writes, part of the held frame is still unsent. -/
def TxHeld (b : LorahamBackend) : Prop :=
  b.state = .txWriting → b.txOutOff < b.txOut.length

/-- The three ways a lost link is handled. -/
theorem handleDisconnect_cases (b : LorahamBackend) :
    (b.state = .draining ∧ b.handleDisconnect = b.enterFault) ∨
      (b.state = .txPending ∧ b.handleDisconnect = b.enterFault.notify .onBackendFailure) ∨
      (b.state ≠ .draining ∧ b.state ≠ .txPending ∧
        b.handleDisconnect = b.resetLinkUnconfigured.notify .onBackendFailure) := by
  unfold handleDisconnect
  split <;> rename_i h
  · exact Or.inl ⟨h, rfl⟩
  · exact Or.inr (Or.inl ⟨h, rfl⟩)
  · exact Or.inr (Or.inr ⟨by assumption, by assumption, rfl⟩)

/-- A lost link ends in a reusable state, or in a fault if the daemon owned a packet. -/
theorem handleDisconnect_state (b : LorahamBackend) :
    b.handleDisconnect.state = .disconnected ∨ b.handleDisconnect.state = .faulted := by
  rcases handleDisconnect_cases b with ⟨-, h⟩ | ⟨-, h⟩ | ⟨-, -, h⟩ <;> rw [h]
  · exact Or.inr rfl
  · exact Or.inr rfl
  · exact Or.inl rfl

/-- Losing the link is one step. -/
theorem PollStep.linkLost (b : LorahamBackend) (unread : Option Bytes)
    (hstate : onLink b.state = true) : PollStep (b, unread) (b.handleDisconnect, none) := by
  rcases handleDisconnect_cases b with ⟨hs, heq⟩ | ⟨hs, -⟩ | ⟨hdrain, -, -⟩
  · rw [heq]
    exact .quiet (.drainLost b unread hs)
  · exact .call (.lost b b unread (Or.inl rfl) (by simp [rxOk, hs]))
  · exact .call (.lost b b unread (Or.inl rfl) (by simpa [onLink, hdrain] using hstate))

/-- Taking a frame off the parser is one step. -/
theorem PollStep.dataPop (b : LorahamBackend) (unread : Bytes) (f : Loraham.Frame) (rest : Bytes)
    (hstate : onLink b.state = true) (hpop : daemonFormat.pop b.parser = .gotFrame f rest) :
    PollStep (b, some unread) (dispatch f (b.withParser rest), some unread) := by
  have hcase := dispatch_cases f (b.withParser rest)
  generalize dispatch f (b.withParser rest) = b' at hcase
  cases hcase with
  | ignored hrx hanswer => exact .quiet (.dataIgnored b unread f rest hstate hpop hrx hanswer)
  | heard rx hrx hdeaf =>
      have hdrain : b.state = .draining := by
        have hdeaf : rxOk b.state = false := hdeaf
        simpa [onLink, hdeaf] using hstate
      exact .quiet (.dataHeard b unread f rest rx hdrain hpop hrx)
  | forwarded rx hrx hrxOk => exact .call (.received b unread f rest rx hrxOk hpop hrx)
  | completed outcome hanswer hs hepoch =>
      exact .call (.completed b unread f rest outcome hs hpop hanswer hepoch)
  | fenced outcome hanswer hs hepoch =>
      exact .quiet (.dataFenced b unread f rest outcome hs hpop hanswer hepoch)
  | cleared outcome hanswer hs =>
      exact .quiet (.dataCleared b unread f rest outcome hs hpop hanswer)

/-- Every quiet step keeps the offset within the held frame. -/
theorem QuietStep.txHeld {x y : Snapshot} (h : QuietStep x y) (hx : x.1.TxHeld) :
    y.1.TxHeld := by
  intro hstate
  cases h with
  | answers | confWrite | confWritten | configQuiet | confQuiet | dataRead | dataPush
  | dataDrained | dataIgnored | dataHeard | discard | confDiscard => exact hx hstate
  | connected | dataWriteLast | dataFenced | dataCleared | drainLost | drainExpired =>
      cases hstate
  | dataWrite b n hb hleft =>
      simp only [sendData_eq, List.length_take, List.length_drop]
      omega

theorem CallStep.txHeld {call : SinkCall} {x y : Snapshot} (h : CallStep call x y)
    (hx : x.1.TxHeld) : y.1.TxHeld := by
  intro hstate
  cases h with
  | configSucceed | configFail | completed => cases hstate
  | lost b c =>
      rcases handleDisconnect_state c with h | h <;> rw [h] at hstate <;> cases hstate
  | received => exact hx hstate

/-- Poll steps keep the unsent rest of a frame in a state that writes. -/
theorem Polls.txHeld {x y : Snapshot} (h : Polls x y) (hx : x.1.TxHeld) :
    y.1.TxHeld := by
  induction h with
  | refl => exact hx
  | tail _ hstep ih =>
      cases hstep with
      | quiet h => exact h.txHeld ih
      | call h => exact h.txHeld ih

/-! ## The loops as steps -/

/-- Writing the command takes quiet steps only. -/
theorem pumpConfOut_steps (b : LorahamBackend) (answers : List SendAnswer)
    (hstate : b.state = .configuring) :
    Polls (b, none) ((b.pumpConfOut answers).2, none) ∧
      (b.pumpConfOut answers).2.state = .configuring := by
  induction answers generalizing b with
  | nil => exact ⟨.single (.quiet (.answers b none _)), hstate⟩
  | cons answer answers ih =>
      unfold pumpConfOut
      split <;> rename_i hleft
      · exact ⟨.single (.quiet (.answers b none _)), hstate⟩
      · cases answer with
        | failed => exact ⟨.single (.quiet (.answers b none _)), hstate⟩
        | took n =>
            simp only
            split
            · exact ⟨.single (.quiet (.answers b none _)), hstate⟩
            · obtain ⟨hsteps, hnext⟩ := ih (b.sendConf n) hstate
              exact ⟨.head (.quiet (.confWrite b n hstate (by omega))) hsteps, hnext⟩

/-- The CONF input loop while the status reply is awaited. -/
theorem pumpConf_configure_steps (b : LorahamBackend)
    (answers : List (RecvAnswer kReadChunk)) (hstate : b.state = .configuring)
    (hawait : b.awaitingStatus = true) :
    Polls (b, none) (concludeConfigure (b.pumpConf true answers), none) := by
  induction answers generalizing b with
  | nil => exact .single (.quiet (.answers b none _))
  | cons answer answers ih =>
      have hscript : Polls (b, none) (b.answered fun t => { t with confRecv := answers }, none) :=
        .single (.quiet (.answers b none _))
      cases answer with
      | failed => exact .tail hscript (.call (.configFail _ _ (Or.inl rfl) (Or.inr hstate)))
      | data chunk =>
          unfold pumpConf
          simp only
          have hstate' : (b.answered fun t => { t with confRecv := answers }).state =
            .configuring := hstate
          have hawait' : (b.answered fun t => { t with confRecv := answers }).awaitingStatus =
            true := hawait
          generalize b.answered (fun t => { t with confRecv := answers }) = b' at *
          split
          · exact hscript
          · split <;> rename_i hbound
            · exact .tail hscript (.call (.configFail b' _ (Or.inr ⟨_, _, rfl⟩) (Or.inr hstate')))
            · have hbound := Nat.not_lt.mp hbound
              cases hscan : scanConf true (b'.confLine ++ chunk.bytes) with
              | mk outcome rest =>
                  cases outcome with
                  | quiet =>
                      have hquiet := PollStep.quiet
                        (.configQuiet b' _ _ hstate' hawait' hscan hbound)
                      simp only
                      split
                      · exact .tail hscript hquiet
                      · exact (ReflTransGen.tail hscript hquiet).trans (ih _ hstate' hawait')
                  | fatal => exact .tail hscript (.call (.configFail b' _ (Or.inr ⟨_, _, rfl⟩) (Or.inr hstate')))
                  | status ready =>
                      cases ready with
                      | true =>
                          exact .tail hscript
                            (.call (.configSucceed b' _ _ hstate' hawait' hscan hbound chunk.fits))
                      | false => exact .tail hscript (.call (.configFail b' _ (Or.inr ⟨_, _, rfl⟩) (Or.inr hstate')))

/-- While no status is awaited, no line passes for one. -/
theorem scanConf_false (text rest : Bytes) (ready : Bool) :
    scanConf false text ≠ (.status ready, rest) := by
  induction hn : text.length using Nat.strong_induction_on generalizing text with
  | _ n ih =>
      rw [scanConf]
      split
      · simp
      · rename_i line tail hsplit
        have hlt := splitLine_length_lt hsplit
        have hjudge : judgeLine false (trimLine line) ≠ .status ready := by
          unfold judgeLine
          simp only [Bool.false_and, Bool.false_eq_true, if_false]
          split <;> try split <;> try split
          all_goals simp
        split <;> rename_i hline
        · exact ih _ (by omega) _ rfl
        · rename_i r
          intro heq
          simp only [Prod.mk.injEq, ConfOutcome.status.injEq] at heq
          exact hjudge (heq.1 ▸ hline)
        · simp

/-- The CONF input loop of an operational link. -/
theorem pumpConf_operational_steps (b : LorahamBackend)
    (answers : List (RecvAnswer kReadChunk)) (hstate : rxOk b.state = true) :
    (∃ b', b.pumpConf false answers = (.fatal, b') ∧
        Polls (b, none) (b'.handleDisconnect, none)) ∨
      (∃ b', b.pumpConf false answers = (.quiet, b') ∧ Polls (b, none) (b', none) ∧
        b'.state = b.state) := by
  induction answers generalizing b with
  | nil => exact Or.inr ⟨_, rfl, .single (.quiet (.answers b none _)), rfl⟩
  | cons answer answers ih =>
      have hscript : Polls (b, none) (b.answered fun t => { t with confRecv := answers }, none) :=
        .single (.quiet (.answers b none _))
      have hstate' : (b.answered fun t => { t with confRecv := answers }).state = b.state := rfl
      cases answer with
      | failed =>
          exact Or.inl ⟨_, rfl, .tail hscript (.linkLost _ _ (by simp [onLink, hstate', hstate]))⟩
      | data chunk =>
          unfold pumpConf
          simp only
          generalize b.answered (fun t => { t with confRecv := answers }) = b' at *
          have hrx : rxOk b'.state = true := hstate' ▸ hstate
          split
          · exact Or.inr ⟨b', rfl, hscript, hstate'⟩
          · split <;> rename_i hbound
            · exact Or.inl ⟨_, rfl, .tail hscript (.call (.lost b' _ none (Or.inr ⟨_, _, rfl⟩) hrx))⟩
            · have hbound := Nat.not_lt.mp hbound
              cases hscan : scanConf false (b'.confLine ++ chunk.bytes) with
              | mk outcome rest =>
                  cases outcome with
                  | quiet =>
                      have hquiet := ReflTransGen.tail hscript
                        (PollStep.quiet (.confQuiet b' _ _ hrx hscan hbound))
                      simp only
                      split
                      · exact Or.inr ⟨_, rfl, hquiet, hstate'⟩
                      · rcases ih (b'.takeConf chunk.bytes rest) hrx with
                          ⟨c, heq, hsteps⟩ | ⟨c, heq, hsteps, hc⟩
                        · exact Or.inl ⟨c, heq, hquiet.trans hsteps⟩
                        · exact Or.inr ⟨c, heq, hquiet.trans hsteps, hc.trans hstate'⟩
                  | fatal => exact Or.inl ⟨_, rfl, .tail hscript (.call (.lost b' _ none (Or.inr ⟨_, _, rfl⟩) hrx))⟩
                  | status ready => exact absurd hscan (scanConf_false _ _ _)

/-- A frame without unsent bytes is complete, whatever the socket would answer. -/
theorem pumpTxWrite_of_sent (b : LorahamBackend) (answers : List SendAnswer)
    (h : b.txOut.length ≤ b.txOutOff) :
    ∃ update, b.pumpTxWrite answers = (.complete, b.answered update) := by
  cases answers with
  | nil =>
      unfold pumpTxWrite
      rw [if_pos h]
      exact ⟨_, rfl⟩
  | cons answer answers =>
      unfold pumpTxWrite
      rw [if_pos h]
      exact ⟨_, rfl⟩

/-- The write loop.  Completing the frame and entering `TxPending` is one step. -/
theorem pumpTxWrite_steps (b : LorahamBackend) (answers : List SendAnswer)
    (hstate : b.state = .txWriting) (hleft : b.txOutOff < b.txOut.length) :
    (∃ b', b.pumpTxWrite answers = (.complete, b') ∧
        Polls (b, none) ({ b' with state := .txPending }, none)) ∨
      (∃ flush b', b.pumpTxWrite answers = (flush, b') ∧ flush ≠ .complete ∧
        Polls (b, none) (b', none) ∧ b'.state = .txWriting) := by
  induction answers generalizing b with
  | nil =>
      unfold pumpTxWrite
      rw [if_neg (by omega)]
      exact Or.inr ⟨.partly, _, rfl, by simp, .single (.quiet (.answers b none _)), hstate⟩
  | cons answer answers ih =>
      unfold pumpTxWrite
      rw [if_neg (by omega)]
      cases answer with
      | failed => exact Or.inr ⟨_, _, rfl, by simp, .single (.quiet (.answers b none _)), hstate⟩
      | took n =>
          simp only
          split
          · exact Or.inr ⟨_, _, rfl, by simp, .single (.quiet (.answers b none _)), hstate⟩
          · by_cases hmore : b.txOutOff + n < b.txOut.length
            · have hstep := QuietStep.dataWrite b n hstate hmore
              have hheld : (b.sendData n).TxHeld := hstep.txHeld fun _ => hleft
              rcases ih (b.sendData n) hstate (hheld hstate) with
                ⟨c, heq, hsteps⟩ | ⟨flush, c, heq, hflush, hsteps, hc⟩
              · exact Or.inl ⟨c, heq, .head (.quiet hstep) hsteps⟩
              · exact Or.inr ⟨flush, c, heq, hflush, .head (.quiet hstep) hsteps, hc⟩
            · have hstep := QuietStep.dataWriteLast b n hstate hleft (by omega)
              have hsent : (b.sendData n).txOut.length ≤ (b.sendData n).txOutOff := by
                simp only [sendData_eq, List.length_take, List.length_drop]
                omega
              obtain ⟨update, heq⟩ := pumpTxWrite_of_sent (b.sendData n) answers hsent
              exact Or.inl ⟨_, heq, .tail (.single (.quiet hstep)) (.quiet (.answers _ _ _))⟩

theorem drainConfInput_steps (b : LorahamBackend) (answers : List (RecvAnswer kReadChunk))
    (hstate : b.state = .draining) :
    Polls (b, none) (b.drainConfInput answers, none) ∧
      (b.drainConfInput answers).state = .draining := by
  induction answers generalizing b with
  | nil => exact ⟨.single (.quiet (.answers b none _)), hstate⟩
  | cons answer answers ih =>
      have hscript : Polls (b, none) (b.answered fun t => { t with confRecv := answers }, none) :=
        .single (.quiet (.answers b none _))
      cases answer with
      | failed => exact ⟨hscript, hstate⟩
      | data chunk =>
          have hread := hscript.tail (PollStep.quiet (.confDiscard _ chunk.bytes hstate))
          unfold drainConfInput
          simp only
          split
          · exact ⟨hscript, hstate⟩
          · split
            · exact ⟨hread, hstate⟩
            · obtain ⟨hsteps, hnext⟩ := ih (record (.confReceived chunk.bytes)
                (b.answered fun t => { t with confRecv := answers })) hstate
              exact ⟨hread.trans hsteps, hnext⟩

theorem withParser_eq {b : LorahamBackend} {buf : Bytes} (h : b.parser = buf) :
    b.withParser buf = b := by
  subst h
  rfl

section DataLoop

variable {halted : BackendState → Bool}
  (hready : halted .txPending = false → halted .ready = false)

include hready

/-- After a dispatched frame the loop goes on with the link up, or stops because
the frame took the link down. -/
theorem dispatch_halted {f : Loraham.Frame} {b : LorahamBackend} (hlink : onLink b.state = true)
    (hrun : halted b.state = false) :
    (halted (dispatch f b).state = false ∧ onLink (dispatch f b).state = true ∧
        (dispatch f b).parser = b.parser) ∨
      (dispatch f b).state = .disconnected := by
  rcases dispatch_state f b with ⟨hs, hp⟩ | ⟨hs, hs', hp⟩ | ⟨-, hs'⟩
  · exact Or.inl ⟨hs ▸ hrun, hs ▸ hlink, hp⟩
  · refine Or.inl ⟨?_, ?_, hp⟩
    · rw [hs']
      exact hready (hs ▸ hrun)
    · rw [hs']
      rfl
  · exact Or.inr hs'

variable (hstop : halted .disconnected = true)

include hstop

/-- The receive loop over one read, as steps from the moment the read was made. -/
theorem driveData_steps {start : Snapshot} {b : LorahamBackend} {data : Bytes}
    (hlink : onLink b.state = true) (hrun : halted b.state = false)
    (hsteps : Polls start (b, some data)) :
    match driveData halted data b with
    | ⟨.halted, _, b'⟩ => Polls start (b', none)
    | ⟨.malformed _, buf, b'⟩ | ⟨.stuck, buf, b'⟩ =>
        Polls start ((b'.withParser buf).handleDisconnect, none)
    | ⟨.drained, buf, b'⟩ => Polls start (b'.withParser buf, none) ∧ onLink b'.state = true ∧
        halted b'.state = false := by
  -- The loop's buffer is the parser of the model as long as the link is up.
  obtain ⟨exit, buf', unread, b', heq, hinv, hexit⟩ := daemonFormat.drive_rule
    (fun f rest b => dispatch f (b.withParser rest)) (fun b => halted b.state)
    (fun buf data s =>
      (halted s.state = false ∧ onLink s.state = true ∧ Polls start (s.withParser buf, some data)) ∨
      (s.state = .disconnected ∧ Polls start (s, some data)))
    (by
      rintro buf data s f rest (⟨-, hl, hs⟩ | ⟨hd, -⟩) hr hpop
      · have hnext := hs.tail (PollStep.dataPop (s.withParser buf) data f rest hl hpop)
        rcases dispatch_halted hready (f := f) (b := s.withParser rest) hl hr with
          ⟨hrun', hlink', hparser⟩ | hdown
        · have hsame : (dispatch f (s.withParser rest)).withParser rest =
              dispatch f (s.withParser rest) := withParser_eq hparser
          exact Or.inl ⟨hrun', hlink', hsame.symm ▸ hnext⟩
        · exact Or.inr ⟨hdown, hnext⟩
      · simp only [hd, hstop] at hr
        contradiction)
    (by
      rintro buf data s k (⟨hr, hl, hs⟩ | ⟨hd, -⟩) hr' hpop
      · exact Or.inl ⟨hr, hl, hs.tail (.quiet (.dataPush (s.withParser buf) data k hl hpop))⟩
      · simp only [hd, hstop] at hr'
        contradiction)
    b.parser data b (Or.inl ⟨hrun, hlink, hsteps⟩) hrun
  unfold driveData
  rw [heq]
  rcases hinv with ⟨hr, hl, hs⟩ | ⟨hd, hs⟩
  · cases exit with
    | halted => simp [hr] at hexit
    | malformed e => exact hs.tail (.linkLost _ _ hl)
    | stuck => exact hexit.elim
    | drained =>
        rw [hexit.1] at hs
        exact ⟨hs.tail (.quiet (.dataDrained _ hl hexit.2.1)), hl, hr⟩
  · cases exit with
    | halted => exact hs.tail (.quiet (.discard _ _ hd))
    | malformed e => simp [hd, hstop] at hexit
    | stuck => exact hexit.elim
    | drained => simp [hd, hstop] at hexit

/-- The DATA input loop. -/
theorem dataLoop_steps (b : LorahamBackend) (answers : List (RecvAnswer kReadChunk))
    (hlink : onLink b.state = true) (hrun : halted b.state = false) :
    Polls (b, none) (b.dataLoop halted answers, none) := by
  induction answers generalizing b with
  | nil => exact .single (.quiet (.answers b none _))
  | cons answer answers ih =>
      have hscript : Polls (b, none) (b.answered fun t => { t with dataRecv := answers }, none) :=
        .single (.quiet (.answers b none _))
      cases answer with
      | failed => exact hscript.tail (.linkLost _ _ hlink)
      | data chunk =>
          have hread := hscript.tail (PollStep.quiet (.dataRead _ chunk.bytes hlink))
          have hdrive := driveData_steps hready hstop (b := record (.dataReceived chunk.bytes)
            (b.answered fun t => { t with dataRecv := answers })) hlink hrun hread
          unfold dataLoop
          simp only
          split
          · exact hscript
          · generalize driveData halted chunk.bytes _ = r at hdrive
            obtain ⟨exit, buf, b'⟩ := r
            cases exit with
            | halted | malformed | stuck => exact hdrive
            | drained =>
                obtain ⟨hsteps, hl, hr⟩ := hdrive
                simp only
                split
                · exact hsteps
                · exact hsteps.trans (ih _ hl hr)

end DataLoop

/-! ## Polling as steps -/

/-- The polls of a backend that configures, as steps. -/
theorem advanceConfigure_steps (b : LorahamBackend) (hstate : b.state = .configuring) :
    Polls (b, none) (b.advanceConfigure, none) := by
  obtain ⟨hwrite, hnext⟩ := pumpConfOut_steps b b.transport.confSendSome hstate
  unfold advanceConfigure
  generalize b.pumpConfOut b.transport.confSendSome = r at hwrite hnext
  obtain ⟨sent, b'⟩ := r
  cases sent with
  | false => exact hwrite.tail (.call (.configFail _ _ (Or.inl rfl) (Or.inr hnext)))
  | true =>
      simp only
      split <;> rename_i hleft
      · have hwritten := hwrite.tail (PollStep.quiet (.confWritten b' hnext hleft))
        exact hwritten.trans (pumpConf_configure_steps _ _ hnext rfl)
      · split <;> rename_i hawait
        · exact hwrite.trans (pumpConf_configure_steps _ _ hnext hawait)
        · exact hwrite

/-- The polls of a backend that connects, as steps. -/
theorem advanceConnect_steps (b : LorahamBackend) (hstate : b.state = .connecting) :
    Polls (b, none) (b.advanceConnect, none) := by
  have hscript : Polls (b, none)
      (b.answered fun t => { t with pollConnect := t.pollConnect.tail }, none) :=
    .single (.quiet (.answers b none _))
  unfold advanceConnect
  simp only
  split
  · exact hscript.tail (.call (.configFail _ _ (Or.inl rfl) (Or.inl hstate)))
  · exact hscript
  · exact (hscript.tail (.quiet (.connected _ hstate))).trans (advanceConfigure_steps _ rfl)

/-- The operational loop stops only on a state without a live link. -/
theorem operationalHalted_of_rxOk {state : BackendState} (h : rxOk state = true) :
    onLink state = true ∧ operationalHalted state = false := by
  cases state <;> simp_all [rxOk, onLink, operationalHalted]

/-- The polls of a backend in operation, as steps. -/
theorem advanceOperational_steps (b : LorahamBackend) (hstate : rxOk b.state = true)
    (hheld : b.TxHeld) : Polls (b, none) (b.advanceOperational, none) := by
  have hloop : ∀ c : LorahamBackend, rxOk c.state = true →
      Polls (c, none) (c.dataLoop operationalHalted c.transport.dataRecv, none) := by
    intro c hc
    obtain ⟨hlink, hrun⟩ := operationalHalted_of_rxOk hc
    exact dataLoop_steps (fun _ => rfl) rfl c _ hlink hrun
  unfold advanceOperational
  rcases pumpConf_operational_steps b b.transport.confRecv hstate with
    ⟨b', heq, hsteps⟩ | ⟨b', heq, hsteps, hsame⟩
  · rw [heq]
    exact hsteps
  · rw [heq]
    simp only
    split <;> rename_i hwriting
    · have hleft := hsteps.txHeld hheld hwriting
      rcases pumpTxWrite_steps b' b'.transport.dataSendSome hwriting hleft with
        ⟨c, hc, hwrite⟩ | ⟨flush, c, hc, hflush, hwrite, hcstate⟩
      · rw [hc]
        exact (hsteps.trans hwrite).trans (hloop { c with state := .txPending } rfl)
      · rw [hc]
        cases flush with
        | complete => contradiction
        | partly => exact (hsteps.trans hwrite).trans (hloop c (by rw [hcstate]; rfl))
        | failed =>
            have hlost := PollStep.linkLost c none (by rw [hcstate]; rfl)
            simp only [handleDisconnect, hcstate] at hlost
            exact (hsteps.trans hwrite).tail hlost
    · exact hsteps.trans (hloop b' (by rw [hsame]; exact hstate))

/-- The polls of a backend that drains, as steps. -/
theorem advanceDrain_steps (b : LorahamBackend) (hstate : b.state = .draining) :
    Polls (b, none) (b.advanceDrain, none) := by
  unfold advanceDrain
  split <;> rename_i hdeadline
  · exact .single (.quiet (.drainExpired b hstate hdeadline))
  · obtain ⟨hconf, hnext⟩ := drainConfInput_steps b b.transport.confRecv hstate
    refine hconf.trans (dataLoop_steps (by decide) rfl _ _ ?_ ?_)
    · rw [hnext]
      rfl
    · rw [hnext]
      rfl

/-- A poll is a sequence of poll steps. -/
theorem poll_steps (b : LorahamBackend) (hheld : b.TxHeld) : Polls (b, none) (b.poll, none) := by
  unfold poll
  split <;> rename_i hstate
  · exact .refl
  · exact .refl
  · split
    · exact .single (.call (.configFail b b (Or.inl rfl) (Or.inl hstate)))
    · exact advanceConnect_steps b hstate
  · split
    · exact .single (.call (.configFail b b (Or.inl rfl) (Or.inr hstate)))
    · exact advanceConfigure_steps b hstate
  · exact advanceOperational_steps b (by rw [hstate]; rfl) hheld
  · exact advanceOperational_steps b (by rw [hstate]; rfl) hheld
  · exact advanceOperational_steps b (by rw [hstate]; rfl) hheld
  · exact advanceDrain_steps b hstate

/-! ## Operations from outside -/

/-- A link opened for a configuration, once the transport has agreed. -/
def openLink (requested : RadioConfig) (band : Band) (setCmd : Bytes) (b : LorahamBackend) :
    LorahamBackend :=
  { b with
    confOut := confCommands setCmd
    confOutOff := 0
    awaitingStatus := false
    confLine := []
    parser := []
    pendingCfg := requested
    state := .connecting
    configDeadlineAt := addMs b.now b.configTimeoutMs
    nextToken := b.nextToken + 1
    configToken := b.nextToken + 1
    trace := b.trace ++ [.opened b.sink band] }

/-- A packet accepted for writing, before its first byte is written. -/
def holdTx (data : Bytes) (b : LorahamBackend) : LorahamBackend :=
  { b with
    txOut := framedBytes .txPacket data
    txOutOff := 0
    txEpoch := b.txEpoch + 1
    pendingEpoch := b.txEpoch + 1
    state := .txWriting
    trace := b.trace ++ [.submitted data] }

/-- Everything that happens to a backend: the steps of `poll`, and what the
session and the server do between polls. -/
inductive Micro : Snapshot → Snapshot → Prop
  | poll {x y : Snapshot} (h : PollStep x y) : Micro x y
  | environment (b : LorahamBackend) (transport : DaemonTransport) (now : Nat)
      (calls : List (Nat × SinkCall)) :
      Micro (b, none) ({ b with transport := transport, now := now, calls := calls }, none)
  | attach (b : LorahamBackend) (sink : Option Nat) (started : Bool) :
      Micro (b, none) ({ b with sink := sink, started := started }, none)
  | openLink (b : LorahamBackend) (requested : RadioConfig) (band : Band) (setCmd : Bytes)
      (hstate : b.state = .disconnected ∨ b.state = .ready)
      (hband : validateConfig requested = .ok band)
      (hcmd : buildSetCommand requested = some setCmd) :
      Micro (b, none) (b.openLink requested band setCmd, none)
  | connectRefused (b : LorahamBackend) (band : Band)
      (hstate : b.state = .disconnected ∨ b.state = .ready) :
      Micro (b, none) (b.record (.connectRefused band), none)
  | holdTx (b : LorahamBackend) (data : Bytes) (hstate : b.state = .ready)
      (hpos : 0 < data.length) (hlen : data.length ≤ kMaxRfPayload) :
      Micro (b, none) (b.holdTx data, none)
  | abandon (b : LorahamBackend) (hstate : b.state = .txPending) :
      Micro (b, none) ({ b with
        state := .draining
        drainDeadlineAt := addMs b.now b.drainTimeoutMs }, none)
  | reset (b : LorahamBackend)
      (hstate : b.state ≠ .txPending ∧ b.state ≠ .draining ∧ b.state ≠ .faulted) :
      Micro (b, none) (b.resetLinkUnconfigured, none)

/-- Any number of steps. -/
abbrev Micros : Snapshot → Snapshot → Prop :=
  ReflTransGen Micro

/-- The steps of a poll are steps of the backend. -/
theorem Polls.micros {x y : Snapshot} (h : Polls x y) : Micros x y :=
  ReflTransGen.mono (fun _ _ h => Micro.poll h) _ _ h

/-- Every way `begin_configure` can end. -/
inductive BeganConfigure (requested : RadioConfig) (b : LorahamBackend) :
    UInt32 × LorahamBackend → Prop
  | refused : BeganConfigure requested b (0, b)
  | unreachable (band : Band) (transport : DaemonTransport)
      (hstate : b.state = .disconnected ∨ b.state = .ready) :
      BeganConfigure requested b
        (0, record (.connectRefused band) { b with transport := transport })
  | opened (band : Band) (setCmd : Bytes) (transport : DaemonTransport)
      (hstate : b.state = .disconnected ∨ b.state = .ready)
      (hband : validateConfig requested = .ok band)
      (hcmd : buildSetCommand requested = some setCmd) :
      BeganConfigure requested b
        (b.nextToken + 1, openLink requested band setCmd { b with transport := transport })

/-- Every request to configure ends in one of these. -/
theorem beginConfigure_cases (requested : RadioConfig) (b : LorahamBackend) :
    BeganConfigure requested b (b.beginConfigure requested) := by
  have hstart : b.state = .disconnected ∨ b.state = .ready →
      BeganConfigure requested b (b.startConfigure requested) := by
    intro hstate
    unfold startConfigure
    split <;> rename_i hband
    · exact .refused
    · split <;> rename_i hcmd
      · exact .refused
      · unfold beginConnect
        cases b.transport.beginConnect.headD false with
        | false => exact .unreachable _ _ hstate
        | true => exact .opened _ _ _ hstate hband hcmd
  unfold beginConfigure
  split <;> rename_i hstate
  any_goals exact .refused
  · exact hstart (Or.inl hstate)
  · exact hstart (Or.inr hstate)

/-- A backend after some writes on the DATA socket. -/
def wrote (transport : DaemonTransport) (off : Nat) (writes : List Bytes)
    (b : LorahamBackend) : LorahamBackend :=
  { b with
    transport := transport
    txOutOff := off
    trace := b.trace ++ writes.map Event.dataSent }

/-- A round without writes. -/
theorem wrote_nil (b : LorahamBackend) (transport : DaemonTransport) :
    b.wrote transport b.txOutOff [] = { b with transport := transport } := by
  simp [wrote]

/-- The write loop touches the offset and the history and nothing else. -/
theorem pumpTxWrite_frame (b : LorahamBackend) (answers : List SendAnswer) :
    ∃ transport off writes, (b.pumpTxWrite answers).2 = b.wrote transport off writes := by
  induction answers generalizing b with
  | nil => exact ⟨_, _, _, (wrote_nil b _).symm⟩
  | cons answer answers ih =>
      unfold pumpTxWrite
      split
      · exact ⟨_, _, _, (wrote_nil b _).symm⟩
      · cases answer with
        | failed => exact ⟨_, _, _, (wrote_nil b _).symm⟩
        | took n =>
            simp only
            split
            · exact ⟨_, _, _, (wrote_nil b _).symm⟩
            · obtain ⟨transport, off, writes, heq⟩ := ih (b.sendData n)
              refine ⟨transport, off, (b.txOut.drop b.txOutOff).take n :: writes, ?_⟩
              rw [heq]
              simp [wrote, sendData_eq]

/-- A failed write is the last answer the DATA socket gave. -/
theorem failed_of_pumpTxWrite {b b' : LorahamBackend} {answers : List SendAnswer}
    (h : b.pumpTxWrite answers = (.failed, b')) :
    ∃ taken, answers = taken ++ .failed :: b'.transport.dataSendSome := by
  induction answers generalizing b with
  | nil =>
      unfold pumpTxWrite at h
      split at h <;> simp at h
  | cons answer answers ih =>
      unfold pumpTxWrite at h
      split at h
      · simp at h
      · cases answer with
        | failed =>
            simp only [Prod.mk.injEq, true_and] at h
            subst h
            exact ⟨[], rfl⟩
        | took n =>
            simp only at h
            split at h
            · simp at h
            · obtain ⟨taken, htaken⟩ := ih h
              exact ⟨.took n :: taken, by rw [htaken]; rfl⟩

/-- Every way `submit_tx` can end. -/
inductive SubmittedTx (data : Bytes) (b : LorahamBackend) : Bool × LorahamBackend → Prop
  | refused (hwhy : b.started = false ∨ b.state ≠ .ready ∨ data.length = 0 ∨
      kMaxRfPayload < data.length) :
      SubmittedTx data b (false, b)
  | failed (transport : DaemonTransport) (off : Nat) (writes : List Bytes)
      (hstate : b.state = .ready) (hpos : 0 < data.length) (hlen : data.length ≤ kMaxRfPayload)
      (hanswer : ∃ taken, b.transport.dataSendSome = taken ++ .failed :: transport.dataSendSome)
      (hsteps : Polls (b.holdTx data, none) ((b.holdTx data).wrote transport off writes, none)) :
      SubmittedTx data b
        (false, ((b.holdTx data).wrote transport off writes).resetLinkUnconfigured)
  | accepted (transport : DaemonTransport) (off : Nat) (writes : List Bytes)
      (state : BackendState) (hstate : b.state = .ready) (hpos : 0 < data.length)
      (hlen : data.length ≤ kMaxRfPayload) (hnext : state = .txWriting ∨ state = .txPending)
      (hsteps : Polls (b.holdTx data, none)
        ({ (b.holdTx data).wrote transport off writes with state := state }, none)) :
      SubmittedTx data b
        (true, { (b.holdTx data).wrote transport off writes with state := state })

/-- Every request to transmit ends in one of these. -/
theorem submitTx_cases (data : Bytes) (b : LorahamBackend) :
    SubmittedTx data b (b.submitTx data) := by
  unfold submitTx
  split <;> rename_i hready
  · exact .refused (by tauto)
  · split <;> rename_i hlen
    · exact .refused (by tauto)
    · have hstate : b.state = .ready := by tauto
      have hpos : 0 < data.length := by omega
      have hle : data.length ≤ kMaxRfPayload := by omega
      rw [encodeTxPacket, if_neg (by omega), if_neg (by omega)]
      have hheld : { b with
          txOut := framedBytes .txPacket data
          txOutOff := 0
          txEpoch := b.txEpoch + 1
          pendingEpoch := b.txEpoch + 1
          state := .txWriting
          trace := b.trace ++ [Event.submitted data] } = b.holdTx data := rfl
      obtain ⟨transport, off, writes, hframe⟩ :=
        pumpTxWrite_frame (b.holdTx data) b.transport.dataSendSome
      have hleft : (b.holdTx data).txOutOff < (b.holdTx data).txOut.length := by
        simp only [holdTx, framedBytes_length]
        omega
      rcases pumpTxWrite_steps (b.holdTx data) b.transport.dataSendSome rfl hleft with
        ⟨c, hc, hwrite⟩ | ⟨flush, c, hc, hflush, hwrite, -⟩
      · rw [hc] at hframe
        change c = _ at hframe
        subst hframe
        simp only
        rw [hheld, hc]
        exact .accepted transport off writes .txPending hstate hpos hle (Or.inr rfl) hwrite
      · have hanswer : flush = .failed →
            ∃ taken, b.transport.dataSendSome = taken ++ .failed :: c.transport.dataSendSome := by
          rintro rfl
          exact failed_of_pumpTxWrite hc
        rw [hc] at hframe
        change c = _ at hframe
        subst hframe
        simp only
        rw [hheld, hc]
        cases flush with
        | complete => contradiction
        | partly =>
            exact .accepted transport off writes .txWriting hstate hpos hle (Or.inl rfl) hwrite
        | failed =>
            exact .failed transport off writes hstate hpos hle (hanswer rfl) hwrite

/-! ## The operations of the session as steps -/

/-- A request to configure, as steps. -/
theorem beginConfigure_micro (requested : RadioConfig) (b : LorahamBackend) :
    Micros (b, none) ((b.beginConfigure requested).2, none) := by
  have hcase := beginConfigure_cases requested b
  generalize b.beginConfigure requested = r at hcase
  cases hcase with
  | refused => exact .refl
  | unreachable band transport hstate =>
      exact .head (.poll (.quiet (.answers b none transport))) (.single (.connectRefused _ band hstate))
  | opened band setCmd transport hstate hband hcmd =>
      exact .head (.poll (.quiet (.answers b none transport)))
        (.single (.openLink _ requested band setCmd hstate hband hcmd))

/-- A request to transmit, as steps. -/
theorem submitTx_micro (data : Bytes) (b : LorahamBackend) :
    Micros (b, none) ((b.submitTx data).2, none) := by
  have hcase := submitTx_cases data b
  generalize b.submitTx data = r at hcase
  cases hcase with
  | refused => exact .refl
  | failed transport off writes hstate hpos hlen hanswer hsteps =>
      refine .head (.holdTx b data hstate hpos hlen) (hsteps.micros.tail (.reset _ ?_))
      exact ⟨by simp [wrote, holdTx], by simp [wrote, holdTx], by simp [wrote, holdTx]⟩
  | accepted transport off writes state hstate hpos hlen hnext hsteps =>
      exact .head (.holdTx b data hstate hpos hlen) hsteps.micros

/-- Giving a transmission up, as steps. -/
theorem abandonPendingTx_micro (b : LorahamBackend) :
    Micros (b, none) (b.abandonPendingTx, none) := by
  unfold abandonPendingTx
  split <;> rename_i hstate
  · exact .single (.abandon b hstate)
  · exact .single (.reset b (by simp [hstate]))
  · exact .refl

/-- A transmission given up is no longer in flight. -/
theorem abandonPendingTx_state (b : LorahamBackend) :
    b.abandonPendingTx.state ≠ .txPending ∧ b.abandonPendingTx.state ≠ .txWriting := by
  unfold abandonPendingTx
  split
  · simp
  · simp [resetLinkUnconfigured]
  · rename_i hpending hwriting
    exact ⟨hpending, hwriting⟩

/-- The teardown of a connection: give up its transmission, detach, stop. -/
theorem teardown_micro (b : LorahamBackend) :
    Micros (b, none) ((b.abandonPendingTx.setSink none).stop, none) := by
  have hstate := (abandonPendingTx_state b).1
  have habandon := abandonPendingTx_micro b
  generalize b.abandonPendingTx = c at habandon hstate
  unfold stop
  split <;> rename_i h
  · exact habandon.tail (.attach c none false)
  · refine (habandon.tail (.reset c ?_)).tail (.attach _ none false)
    simp only [setSink] at h
    tauto

/-! ## Invariants -/

/-- Every step keeps the offset within the held frame. -/
theorem Micro.txHeld {x y : Snapshot} (h : Micro x y) (hx : x.1.TxHeld) :
    y.1.TxHeld := by
  cases h with
  | poll h => exact Polls.txHeld (.single h) hx
  | holdTx b data =>
      intro _
      simp only [LorahamBackend.holdTx, framedBytes_length, kFramedHeaderLen]
      omega
  | openLink | abandon | reset => exact fun hstate => by cases hstate
  | environment | attach | connectRefused => exact hx

/-- What every step keeps, all of them keep. -/
theorem Micros.keep {I : Snapshot → Prop}
    (hstep : ∀ x y, Micro x y → I x → I y) {x y : Snapshot} (h : Micros x y) (hx : I x) :
    I y := by
  induction h with
  | refl => exact hx
  | tail _ hstep' ih => exact hstep _ _ hstep' ih

end LorahamBackend
end LorahamBridge
