import LorahamBridge.Backend.FakeBackend
import LorahamBridge.Bridge.Offers
import LorahamBridge.Loraham.Configure

/-!
# The bridge with the fake backend

The fake backend hands its events to whichever session is attached when it is polled, keeps
packets and stale completions across clients, and is told what to do in the middle of a run.
Nothing of that confuses the sessions.

Main results:

- Definition `fakeKeeper`: the invariant of session, backend and books.
- Theorem `FakeBackend.results_promised`: no request is refused, and the results of a
  session are the outcomes settled for its own requests, in order.
- Theorem `FakeBackend.packets_conserved`: every scripted packet is delivered to one session,
  once and in order, or still waits.
- Theorem `FakeBackend.configuration_resolved`: a poll ends a configuration.
-/

namespace LorahamBridge
namespace FakeBackend

open Foundation Extradio XrSession

/-! ## The books of a session -/

/-- What a session has exchanged with its backend, and the results it has sent. -/
structure Books where
  accepted : List (UInt16 × Bytes)
  refused : List (UInt16 × Bytes)
  packets : List RxEvent
  results : List Frame

/-- What an event adds to the books. -/
def Books.note (k : Books) : SessionEvent → Books
  | .submitCalled seq payload true => { k with accepted := k.accepted ++ [(seq, payload)] }
  | .submitCalled seq payload false => { k with refused := k.refused ++ [(seq, payload)] }
  | .callback (.onRx rx) => { k with packets := k.packets ++ [rx] }
  | .emitted f => if f.type = .txResult then { k with results := k.results ++ [f] } else k
  | _ => k

/-- The books kept along a history. -/
def books (log : List SessionEvent) : Books :=
  log.foldl Books.note ⟨[], [], [], []⟩

@[simp]
theorem books_append (log events : List SessionEvent) :
    books (log ++ events) = events.foldl Books.note (books log) :=
  List.foldl_append

/-! ## Promises -/

/-- The results that tell the outcomes of some requests: the number of the request, and
one byte for its outcome. -/
def answers (requests : List (UInt16 × Bytes)) (outcomes : List TxOutcome) : List Frame :=
  List.zipWith (fun request outcome => ⟨.txResult, request.1,
    match outcome with
    | .success => [0x00]
    | .channelBusy => [0x01]
    | .timeout => [0x02]
    | .radioError => [0x03]⟩) requests outcomes

/-- One more request with its outcome is one more answer. -/
theorem answers_concat {requests : List (UInt16 × Bytes)} {outcomes : List TxOutcome}
    (h : requests.length = outcomes.length) (request : UInt16 × Bytes) (outcome : TxOutcome) :
    answers (requests ++ [request]) (outcomes ++ [outcome]) =
      answers requests outcomes ++ [txResultFrame request.1 outcome] := by
  unfold answers
  rw [List.zipWith_append h]
  cases outcome <;> rfl

/-- The packets of a script. -/
def scriptedPackets (scripts : List Script) : List RxEvent :=
  scripts.filterMap fun
    | .rx e => some e
    | _ => none

/-- The outcomes settled for the requests of one session. -/
def promisedTo (id : Nat) (b : FakeBackend) : List TxOutcome :=
  (b.promised.filter fun p => p.1 == id).map Prod.snd

/-- No request of a session was refused, each has an outcome, and the results are those
outcomes, as far as they were sent. -/
structure Settled (s : XrSession) (b : FakeBackend) : Prop where
  refused : (books s.log).refused = []
  promised : (books s.log).accepted.length = (b.promisedTo s.id).length
  results : (books s.log).results <+: answers (books s.log).accepted (b.promisedTo s.id)

/-- What is true of all sessions together. -/
structure Kept (sessions : List XrSession) (b : FakeBackend) : Prop where
  numbered : Numbered sessions
  settled : ∀ s ∈ sessions, Settled s b
  owners : ∀ p ∈ b.promised, p.1 < sessions.length
  packets : sessions.flatMap (fun s => (books s.log).packets) ++ b.rxQueue =
    scriptedPackets b.scripts
  next : ∀ outcome, b.nextTxOutcome = some outcome → Script.txOutcome outcome ∈ b.scripts
  outcomes : ∀ p ∈ b.promised, p.2 = .success ∨ Script.txOutcome p.2 ∈ b.scripts

/-- Session and backend of an active connection. -/
structure Coupled (s : XrSession) (b : FakeBackend) : Prop where
  sink : b.sink = some s.id
  started : b.started = true
  inReady : s.txInFlight = true → s.phase = .ready
  armed : b.txPending = b.pendingTxResult.isSome
  pending : s.phase ≠ .closed → b.txPending = s.txInFlight
  configuring : s.phase = .configuring → b.configPending = true ∧
    b.configToken = s.configOpToken ∧ b.pendingRequested = s.requestedCfg
  ready : s.phase = .ready → b.configured = true ∧ b.configPending = false
  idle : s.phase ≠ .closed → s.txInFlight = false →
    (books s.log).results = answers (books s.log).accepted (b.promisedTo s.id)
  flight : s.txInFlight = true → ∃ earlier payload outcomes outcome,
    (books s.log).accepted = earlier ++ [(s.txSeq, payload)] ∧
      b.promisedTo s.id = outcomes ++ [outcome] ∧ b.pendingTxResult = some outcome ∧
      (books s.log).results = answers earlier outcomes

/-- A backend without a client. -/
structure Detached (b : FakeBackend) : Prop where
  sink : b.sink = none
  txPending : b.txPending = false
  pendingTxResult : b.pendingTxResult = none

/-! ## Steps of the books -/

section Steps

variable {past : List XrSession} {s s' : XrSession} {b b' : FakeBackend}

/-- The books of the outside are as they were. -/
structure Unmoved (b b' : FakeBackend) : Prop where
  promised : b'.promised = b.promised
  nextTxOutcome : b'.nextTxOutcome = b.nextTxOutcome
  scripts : b'.scripts = b.scripts

/-- The promises stay while the backend is unmoved. -/
theorem Unmoved.promisedTo (h : Unmoved b b') (id : Nat) : b'.promisedTo id = b.promisedTo id := by
  rw [FakeBackend.promisedTo, h.promised, FakeBackend.promisedTo]

/-- What touches neither requests nor promises keeps them settled. -/
theorem Settled.unmoved (h : Settled s b) (hid : s'.id = s.id) {packets : List RxEvent}
    (hbooks : books s'.log = { books s.log with packets := packets })
    (hpromised : b'.promisedTo s.id = b.promisedTo s.id) : Settled s' b' where
  refused := by rw [hbooks, h.refused]
  promised := by rw [hbooks, hid, hpromised, h.promised]
  results := by rw [hbooks, hid, hpromised]; exact h.results

/-- The last session has the last number. -/
theorem Kept.id_eq (h : Kept (past ++ [s]) b) : s.id = past.length := by
  have heq := h.numbered.eq
  rw [List.map_append, List.length_append, List.length_singleton, List.range_succ] at heq
  simpa using (List.append_inj' heq rfl).2

/-- The last session moves on, and the backend with it. -/
theorem Kept.update (h : Kept (past ++ [s]) b) (hid : s'.id = s.id) (hsettled : Settled s' b')
    (hpackets : (books s'.log).packets ++ b'.rxQueue = (books s.log).packets ++ b.rxQueue)
    (hb : Unmoved b b') : Kept (past ++ [s']) b' where
  numbered := ⟨by simpa [hid] using h.numbered.eq⟩
  settled := by
    intro t ht
    rcases List.mem_append.mp ht with ht | ht
    · exact (h.settled t (List.mem_append_left _ ht)).unmoved rfl rfl (hb.promisedTo _)
    · obtain rfl := List.mem_singleton.mp ht
      exact hsettled
  owners := by
    rw [hb.promised]
    simpa using h.owners
  packets := by
    have hkept := h.packets
    rw [List.flatMap_append, List.append_assoc, List.flatMap_singleton] at hkept ⊢
    rw [hpackets, hb.scripts, hkept]
  next := by rw [hb.nextTxOutcome, hb.scripts]; exact h.next
  outcomes := by rw [hb.promised, hb.scripts]; exact h.outcomes

/-- A closed session is coupled to any backend that is started for it. -/
theorem Coupled.of_closed (hclosed : s.phase = .closed) (hflight : s.txInFlight = false)
    (hsink : b.sink = some s.id) (hstarted : b.started = true)
    (harmed : b.txPending = b.pendingTxResult.isSome) : Coupled s b where
  sink := hsink
  started := hstarted
  inReady := by simp [hflight]
  armed := harmed
  pending h := absurd hclosed h
  configuring := by simp [hclosed]
  ready := by simp [hclosed]
  idle h := absurd hclosed h
  flight := by simp [hflight]

/-- Nothing is in flight before a session is ready. -/
theorem Coupled.not_inFlight (h : Coupled s b) (hphase : s.phase ≠ .ready) :
    s.txInFlight = false := by
  simpa using mt h.inReady hphase

/-- With nothing in flight all requests have their results. -/
theorem Coupled.results_eq (h : Coupled s b) (hopen : s.phase ≠ .closed)
    (hidle : s.txInFlight = false) {log : List SessionEvent} (hbooks : books log = books s.log) :
    (books log).results = answers (books log).accepted (b.promisedTo s.id) := by
  rw [hbooks]
  exact h.idle hopen hidle

/-- What a script can change does not matter to the coupling. -/
theorem Coupled.outside (h : Coupled s b) (mode : ConfigMode) (eff : RadioConfig)
    (next : Option TxOutcome) (stale : List TxOutcome) (rx : List RxEvent) (fail : Bool)
    (scripts : List Script) :
    Coupled s { b with
      configMode := mode
      forcedEffective := eff
      nextTxOutcome := next
      staleCompletions := stale
      rxQueue := rx
      failPending := fail
      scripts := scripts } :=
  ⟨h.sink, h.started, h.inReady, h.armed, h.pending, h.configuring, h.ready, h.idle, h.flight⟩

/-- Session and backend, with the sessions of the past. -/
structure Active (past : List XrSession) (s : XrSession) (b : FakeBackend) : Prop where
  kept : Kept (past ++ [s]) b
  coupled : Coupled s b

/-- The requests of the present session are settled. -/
theorem Active.settled (h : Active past s b) : Settled s b :=
  h.kept.settled s (by simp)

/-- A step in which no request is made or answered. -/
theorem Active.move (h : Active past s b) (hid : s'.id = s.id) {packets : List RxEvent}
    (hbooks : books s'.log = { books s.log with packets := packets })
    (hpackets : packets ++ b'.rxQueue = (books s.log).packets ++ b.rxQueue) (hb : Unmoved b b')
    (hcoupled : Coupled s' b') : Active past s' b' :=
  ⟨h.kept.update hid (h.settled.unmoved hid hbooks (hb.promisedTo _)) (by rw [hbooks, hpackets])
    hb, hcoupled⟩

/-- A step the books do not note. -/
theorem Active.quiet (h : Active past s b) (hid : s'.id = s.id)
    (hbooks : books s'.log = books s.log) (hb : Unmoved b b') (hqueue : b'.rxQueue = b.rxQueue)
    (hcoupled : Coupled s' b') : Active past s' b' := by
  have heta : books s'.log = { books s.log with packets := (books s.log).packets } := hbooks
  exact h.move hid heta (by rw [hqueue]) hb hcoupled

/-- The session is closed. -/
theorem Active.close (h : Active past s b) (hid : s'.id = s.id)
    (hbooks : books s'.log = books s.log) (hclosed : s'.phase = .closed)
    (hflight : s'.txInFlight = false) : Active past s' b :=
  h.quiet hid hbooks ⟨rfl, rfl, rfl⟩ rfl
    (.of_closed hclosed hflight (hid ▸ h.coupled.sink) h.coupled.started h.coupled.armed)

/-- The session goes on by itself: it stays in its phase, or takes a step of the handshake. -/
theorem Coupled.advance (h : Coupled s b) (hid : s'.id = s.id) {packets : List RxEvent}
    (hbooks : books s'.log = { books s.log with packets := packets })
    (hflight : s'.txInFlight = s.txInFlight) (hseq : s'.txSeq = s.txSeq)
    (hphase : s'.phase = s.phase ∨
      s.phase ≠ .closed ∧ s.phase ≠ .ready ∧ s'.phase ≠ .configuring ∧ s'.phase ≠ .ready)
    (htoken : s'.configOpToken = s.configOpToken) (hcfg : s'.requestedCfg = s.requestedCfg) :
    Coupled s' b := by
  have hopen : s'.phase ≠ .closed → s.phase ≠ .closed := by
    rcases hphase with heq | ⟨hopen, -⟩
    · rw [heq]
      exact id
    · exact fun _ => hopen
  refine ⟨hid ▸ h.sink, h.started, ?_, h.armed, ?_, ?_, ?_, ?_, ?_⟩
  · intro hin
    rw [hflight] at hin
    rcases hphase with heq | ⟨-, hnot, -⟩
    · rw [heq, h.inReady hin]
    · exact absurd (h.inReady hin) hnot
  · intro hopen'
    rw [hflight, h.pending (hopen hopen')]
  · intro hconfiguring
    rcases hphase with heq | ⟨-, -, hnot, -⟩
    · rw [htoken, hcfg]
      exact h.configuring (heq ▸ hconfiguring)
    · exact absurd hconfiguring hnot
  · intro hready
    rcases hphase with heq | ⟨-, -, -, hnot⟩
    · exact h.ready (heq ▸ hready)
    · exact absurd hready hnot
  · intro hopen' hidle
    rw [hbooks, hid]
    exact h.idle (hopen hopen') (hflight ▸ hidle)
  · intro hin
    rw [hbooks, hid, hseq]
    exact h.flight (hflight ▸ hin)

/-- A step of the handshake before a configuration is asked for. -/
theorem Active.advance (h : Active past s b) (hid : s'.id = s.id)
    (hbooks : books s'.log = books s.log) (hflight : s'.txInFlight = s.txInFlight)
    (hseq : s'.txSeq = s.txSeq)
    (hphase : s'.phase = s.phase ∨
      s.phase ≠ .closed ∧ s.phase ≠ .ready ∧ s'.phase ≠ .configuring ∧ s'.phase ≠ .ready)
    (htoken : s'.configOpToken = s.configOpToken) (hcfg : s'.requestedCfg = s.requestedCfg) :
    Active past s' b := by
  have heta : books s'.log = { books s.log with packets := (books s.log).packets } := hbooks
  exact h.quiet hid hbooks ⟨rfl, rfl, rfl⟩ rfl
    (h.coupled.advance hid heta hflight hseq hphase htoken hcfg)

/-! ## Frames and ticks -/

/-- The backend after it has settled on an outcome for a request of session `id`. -/
def promise (id : Nat) (b : FakeBackend) : FakeBackend :=
  { b with
    txPending := true
    submitCount := (b.submitCount + 1) % 2 ^ 64
    pendingTxResult := some (b.nextTxOutcome.getD .success)
    nextTxOutcome := none
    promised := b.promised ++ [(id, b.nextTxOutcome.getD .success)] }

/-- A promise is made to one session. -/
theorem promisedTo_promise (id k : Nat) (b : FakeBackend) :
    (b.promise id).promisedTo k =
      b.promisedTo k ++ if id = k then [b.nextTxOutcome.getD .success] else [] := by
  unfold promisedTo promise
  by_cases h : id = k <;> simp [h]

/-- A ready session with nothing in flight is never refused. -/
theorem Coupled.submitTx (h : Coupled s b) (hphase : s.phase = .ready)
    (hidle : s.txInFlight = false) {f : Frame} (htype : f.type = .txRequest)
    (hvalid : validate f = .none) : b.submitTx f.payload = (true, b.promise s.id) := by
  have hlen : f.payload.length ≤ kMaxLoraPayload := by
    by_contra hlong
    simp [validate, htype, hlong] at hvalid
    split at hvalid <;> simp at hvalid
  have hpending : b.txPending = false := by rw [h.pending (by simp [hphase]), hidle]
  simp [FakeBackend.submitTx, FakeBackend.ready, h.started, (h.ready hphase).1, hpending, hlen,
    promise, h.sink]

/-- A request is accepted and noted on both sides. -/
theorem Active.submit (h : Active past s b) (hphase : s.phase = .ready)
    (hidle : s.txInFlight = false) (seq : UInt16) (payload : Bytes) (hid : s'.id = s.id)
    (hbooks : books s'.log = (books s.log).note (.submitCalled seq payload true))
    (hphase' : s'.phase = .ready) (hflight' : s'.txInFlight = true) (hseq : s'.txSeq = seq) :
    Active past s' (b.promise s.id) := by
  have hopen : s.phase ≠ .closed := by simp [hphase]
  have hresults := h.coupled.idle hopen hidle
  have hlength := h.settled.promised
  have hpromised : (b.promise s.id).promisedTo s.id =
      b.promisedTo s.id ++ [b.nextTxOutcome.getD .success] := by
    rw [promisedTo_promise, if_pos rfl]
  refine ⟨⟨⟨by simpa [hid] using h.kept.numbered.eq⟩, ?_, ?_, ?_, by simp [promise], ?_⟩, ?_⟩
  · intro t ht
    rcases List.mem_append.mp ht with ht | ht
    · have hne : s.id ≠ t.id := by
        have hlt := List.mem_map_of_mem (f := XrSession.id) ht
        have hrange := h.kept.numbered.eq
        rw [List.map_append, List.length_append, List.length_singleton, List.range_succ] at hrange
        rw [(List.append_inj' hrange rfl).1, List.mem_range] at hlt
        rw [h.kept.id_eq]
        omega
      refine (h.kept.settled t (List.mem_append_left _ ht)).unmoved rfl rfl ?_
      rw [promisedTo_promise, if_neg hne, List.append_nil]
    · obtain rfl := List.mem_singleton.mp ht
      refine ⟨?_, ?_, ?_⟩
      · rw [hbooks]
        exact h.settled.refused
      · rw [hbooks, hid, hpromised]
        simpa [Books.note] using hlength
      · rw [hbooks, hid, hpromised]
        simp only [Books.note]
        rw [answers_concat hlength, hresults]
        exact List.prefix_append _ _
  · intro p hp
    rcases List.mem_append.mp hp with hp | hp
    · simpa using h.kept.owners p hp
    · simp [List.mem_singleton.mp hp, h.kept.id_eq]
  · have hpackets := h.kept.packets
    simpa [hbooks, Books.note, promise] using hpackets
  · intro p hp
    rcases List.mem_append.mp hp with hp | hp
    · exact h.kept.outcomes p hp
    · obtain rfl := List.mem_singleton.mp hp
      cases hnext : b.nextTxOutcome with
      | none => exact Or.inl rfl
      | some outcome => exact Or.inr (h.kept.next outcome hnext)
  · refine ⟨by rw [hid]; exact h.coupled.sink, h.coupled.started, fun _ => hphase', rfl,
      fun _ => by rw [hflight']; rfl, by simp [hphase'], fun _ => h.coupled.ready hphase,
      by simp [hflight'], fun _ => ?_⟩
    refine ⟨(books s.log).accepted, payload, b.promisedTo s.id, _, ?_, ?_, rfl, ?_⟩
    · rw [hbooks, hseq]
      rfl
    · rw [hid, hpromised]
    · rw [hbooks]
      exact hresults

/-- Handling a frame keeps session and backend coupled. -/
theorem Active.frame {env : XrEnv} {now : Nat} {f : Frame} (h : Active past s b)
    (hopen : s.phase ≠ .closed)
    (hout : FrameOutcome fakeServed.toRadioBackend env now f s b (s', b')) : Active past s' b' := by
  cases hout with
  | submitRefused _ hphase htype hvalid hidle hbackend =>
      have haccepted := h.coupled.submitTx hphase hidle htype hvalid
      change b.submitTx f.payload = _ at hbackend
      rw [haccepted] at hbackend
      cases hbackend
  | submitted _ hphase htype hvalid hidle hbackend =>
      have haccepted := h.coupled.submitTx hphase hidle htype hvalid
      change b.submitTx f.payload = _ at hbackend
      rw [haccepted] at hbackend
      cases hbackend
      exact h.submit hphase hidle f.seq f.payload rfl (by simp [record, Books.note]) hphase rfl rfl
  | configStarted requested token _ hphase _ _ hbackend =>
      have hidle := h.coupled.not_inFlight (by simp [hphase])
      cases hbackend
      have hb : books ((s.record (.received f)).record
          (.configureCalled requested (b.nextToken + 1))).log = books s.log := by
        simp [record, Books.note]
      refine h.quiet rfl hb ⟨rfl, rfl, rfl⟩ rfl ?_
      exact
        { sink := h.coupled.sink
          started := h.coupled.started
          inReady := fun hin => absurd (hidle.symm.trans hin) (by simp)
          armed := h.coupled.armed
          pending := fun _ => h.coupled.pending hopen
          configuring := fun _ => ⟨rfl, rfl, rfl⟩
          ready := fun hready => Phase.noConfusion hready
          idle := fun _ _ => h.coupled.results_eq hopen hidle hb
          flight := fun hin => absurd (hidle.symm.trans hin) (by simp) }
  | configRefused _ _ _ requested _ _ _ hbackend hframes =>
      obtain rfl : (b.beginConfigure requested).2 = _ := congrArg Prod.snd hbackend
      rcases hframes with rfl | rfl <;>
        exact h.quiet rfl (by simp [shut, queue, record, Books.note]) ⟨rfl, rfl, rfl⟩ rfl
          (.of_closed rfl rfl h.coupled.sink h.coupled.started h.coupled.armed)
  | challenged _ _ hphase | helloOpen _ hphase | authenticated _ hphase =>
      refine h.advance rfl ?_ rfl rfl (Or.inr ⟨hopen, by simp [hphase], ?_, ?_⟩) rfl rfl
      · simp [arm, queue, record, Books.note]
      all_goals simp [arm]
  | ponged =>
      exact h.advance rfl (by simp [acceptPong, record, Books.note]) rfl rfl (Or.inl rfl) rfl rfl
  | helloFailed _ _ _ _ _ hframes | configInvalid _ _ _ _ hframes =>
      rcases hframes with rfl | rfl <;>
        exact h.close rfl (by simp [shut, queue, record, Books.note]) rfl rfl
  | authClosed _ _ _ _ _ _ _ hframes =>
      rcases hframes with rfl | ⟨-, rfl⟩ <;>
        exact h.close rfl (by simp [shut, queue, record, Books.note]) rfl rfl
  | rejected => exact h.close rfl (by simp [shut, record, Books.note]) rfl rfl

theorem Active.tick {env : XrEnv} {now : Nat} (h : Active past s b)
    (hout : TickOutcome fakeServed.toRadioBackend env now s b (s', b')) : Active past s' b' := by
  cases hout with
  | quiet => exact h
  | expired => exact h.close rfl (by simp [shut, Books.note]) rfl rfl
  | abandoned hphase =>
      refine h.quiet rfl (by simp [shut, record, Books.note]) ⟨rfl, rfl, rfl⟩ rfl ?_
      exact .of_closed rfl rfl h.coupled.sink h.coupled.started rfl
  | pinged =>
      exact h.advance rfl (by simp [queue, Books.note]) rfl rfl (Or.inl rfl) rfl rfl

/-! ## Callbacks -/

section Callbacks

variable (env : XrEnv) (now : Nat)

/-- A packet goes from the queue to the session. -/
theorem Active.received (h : Active past s b) {e : RxEvent} {rest : List RxEvent}
    (hqueue : b.rxQueue = e :: rest) :
    Active past (s.onCall env now (.onRx e)) { b with rxQueue := rest } := by
  have hpackets : ((books s.log).packets ++ [e]) ++ rest = (books s.log).packets ++ b.rxQueue := by
    simp [hqueue]
  have hout := onCall_cases env now (.onRx e) h.coupled.inReady
  generalize s.onCall env now (.onRx e) = s' at hout
  have hid := hout.id
  have hbooks : books s'.log =
      { books s.log with packets := (books s.log).packets ++ [e] } := by
    cases hout <;> simp [shut, queue, record, rxFrame, Books.note]
  have hb : Unmoved b { b with rxQueue := rest } := ⟨rfl, rfl, rfl⟩
  have hcoupled : Coupled s { b with rxQueue := rest } := h.coupled.outside _ _ _ _ _ _ _
  refine h.move hid hbooks hpackets hb ?_
  cases hout with
  | ignored | forwarded => exact hcoupled.advance hid hbooks rfl rfl (Or.inl rfl) rfl rfl
  | rxOverflow => exact .of_closed rfl rfl hcoupled.sink hcoupled.started hcoupled.armed

/-- A completion without a transmission is ignored. -/
theorem Active.stale (h : Active past s b) (hidle : b.txPending = false) (outcome : TxOutcome) :
    Active past (s.onCall env now (.onTxComplete outcome)) b := by
  have hnot : s.txInFlight = false := by
    by_contra hin
    have hready := h.coupled.inReady (by simpa using hin)
    have hpending := h.coupled.pending (by simp [hready])
    simp [hidle] at hpending
    exact hin hpending
  have hout := onCall_cases env now (.onTxComplete outcome) h.coupled.inReady
  generalize s.onCall env now (.onTxComplete outcome) = s' at hout
  cases hout with
  | ignored =>
      exact h.advance rfl (by simp [record, Books.note]) rfl rfl (Or.inl rfl) rfl rfl
  | completed _ _ _ hflight | completeOverflow _ _ hflight =>
      exact absurd (hnot.symm.trans hflight) (by simp)

/-- The outcome settled for the request in flight is told, once. -/
theorem Active.completed (h : Active past s b) {outcome : TxOutcome}
    (hresult : b.pendingTxResult = some outcome) :
    Active past (s.onCall env now (.onTxComplete outcome))
      { b with txPending := false, pendingTxResult := none } := by
  have hpending : b.txPending = true := by rw [h.coupled.armed, hresult]; rfl
  have hb : Unmoved b { b with txPending := false, pendingTxResult := none } := ⟨rfl, rfl, rfl⟩
  have hout := onCall_cases env now (.onTxComplete outcome) h.coupled.inReady
  generalize s.onCall env now (.onTxComplete outcome) = s' at hout
  cases hout with
  | ignored _ hignores =>
      have hnot : s.txInFlight = false := by simpa [ignores] using hignores
      have hclosed : s.phase = .closed := by
        by_contra hopen
        have heq := h.coupled.pending hopen
        simp [hpending, hnot] at heq
      exact h.quiet rfl (by simp [record, Books.note]) hb rfl
        (.of_closed hclosed hnot h.coupled.sink h.coupled.started rfl)
  | completed _ outbox hphase hflight =>
      obtain ⟨earlier, payload, outcomes, o, haccepted, hpromised, ho, hresults⟩ :=
        h.coupled.flight hflight
      obtain rfl : outcome = o := Option.some.inj (hresult.symm.trans ho)
      have hlength : earlier.length = outcomes.length := by
        have hall := h.settled.promised
        rw [haccepted, hpromised] at hall
        simpa using hall
      have hlog : books
          ((s.record (.callback (.onTxComplete outcome))).queue outbox
            [txResultFrame s.txSeq outcome]).log =
          { books s.log with
            results := (books s.log).results ++ [txResultFrame s.txSeq outcome] } := by
        simp [queue, record, Books.note, txResultFrame]
      have hall : (books s.log).results ++ [txResultFrame s.txSeq outcome] =
          answers (books s.log).accepted (b.promisedTo s.id) := by
        rw [haccepted, hpromised, answers_concat hlength, hresults]
      have hsettled : Settled
          { (s.record (.callback (.onTxComplete outcome))).queue outbox
              [txResultFrame s.txSeq outcome] with txInFlight := false }
          { b with txPending := false, pendingTxResult := none } := by
        refine ⟨?_, ?_, ?_⟩
        · exact (congrArg Books.refused hlog).trans h.settled.refused
        · exact (congrArg (fun k => k.accepted.length) hlog).trans h.settled.promised
        · change (books (queue outbox [txResultFrame s.txSeq outcome]
            (s.record (.callback (.onTxComplete outcome)))).log).results <+: answers _ _
          rw [hlog, hall]
          exact List.prefix_rfl
      refine ⟨h.kept.update rfl hsettled ?_ hb, ?_⟩
      · exact congrArg (fun k => k.packets ++ b.rxQueue) hlog
      · exact
          { sink := h.coupled.sink
            started := h.coupled.started
            inReady := fun hin => Bool.noConfusion hin
            armed := rfl
            pending := fun _ => rfl
            configuring := fun hconfiguring => absurd (hphase.symm.trans hconfiguring) (by simp)
            ready := fun _ => h.coupled.ready hphase
            idle := fun _ _ => (congrArg Books.results hlog).trans
              (hall.trans (congrArg (fun k => answers k.accepted (b.promisedTo s.id)) hlog.symm))
            flight := fun hin => Bool.noConfusion hin }
  | completeOverflow =>
      exact h.quiet rfl (by simp [shut, record, Books.note]) hb rfl
        (.of_closed rfl rfl h.coupled.sink h.coupled.started rfl)

/-- A failure closes the session and forgets the transmission. -/
theorem Active.failed (h : Active past s b) :
    Active past (s.onCall env now .onBackendFailure)
      { b with failPending := false, txPending := false, pendingTxResult := none } := by
  have hout := onCall_cases env now .onBackendFailure h.coupled.inReady
  generalize s.onCall env now .onBackendFailure = s' at hout
  cases hout with
  | ignored _ hignores =>
      have hclosed : s.phase = .closed := by simpa [ignores] using hignores
      exact h.quiet rfl (by simp [record, Books.note]) ⟨rfl, rfl, rfl⟩ rfl
        (.of_closed hclosed (h.coupled.not_inFlight (by simp [hclosed])) h.coupled.sink
          h.coupled.started rfl)
  | failed =>
      exact h.quiet rfl (by simp [shut, record, Books.note]) ⟨rfl, rfl, rfl⟩ rfl
        (.of_closed rfl rfl h.coupled.sink h.coupled.started rfl)

/-- The result of a configuration reaches the session that asked for it, or nobody. -/
theorem Active.configured (h : Active past s b) (res : ConfigureResult)
    (hpending : b.configPending = true) :
    Active past (s.onCall env now (.onConfigureComplete b.configToken res))
      { b with configPending := false, configured := res.applied } := by
  have hb : Unmoved b { b with configPending := false, configured := res.applied } :=
    ⟨rfl, rfl, rfl⟩
  have hready : s.phase ≠ .ready := by
    intro hphase
    have hnone := (h.coupled.ready hphase).2
    simp [hpending] at hnone
  have hidle := h.coupled.not_inFlight hready
  have hout := onCall_cases env now (.onConfigureComplete b.configToken res) h.coupled.inReady
  generalize s.onCall env now (.onConfigureComplete b.configToken res) = s' at hout
  cases hout with
  | ignored _ hignores =>
      have hphase : s.phase ≠ .configuring := by
        intro hphase
        simp [ignores, hphase, (h.coupled.configuring hphase).2.1] at hignores
      have hbooks : books (s.record (.callback (.onConfigureComplete b.configToken res))).log =
          books s.log := by
        simp [record, Books.note]
      refine h.quiet rfl hbooks hb rfl ?_
      exact
        { sink := h.coupled.sink
          started := h.coupled.started
          inReady := h.coupled.inReady
          armed := h.coupled.armed
          pending := h.coupled.pending
          configuring := fun hconfiguring => absurd hconfiguring hphase
          ready := fun hin => absurd hin hready
          idle := fun hopen hnot => h.coupled.results_eq hopen hnot hbooks
          flight := fun hin => absurd (hidle.symm.trans hin) (by simp) }
  | configured _ _ outbox hphase _ happlied =>
      have hopen : s.phase ≠ .closed := by simp [hphase]
      have hbooks : books ((s.record (.callback (.onConfigureComplete b.configToken res))).queue
          outbox [configOkFrame res.effective]).log = books s.log := by
        simp [queue, record, configOkFrame, Books.note]
      refine h.quiet rfl hbooks hb rfl ?_
      exact
        { sink := h.coupled.sink
          started := h.coupled.started
          inReady := fun _ => rfl
          armed := h.coupled.armed
          pending := fun _ => h.coupled.pending hopen
          configuring := fun hconfiguring => Phase.noConfusion hconfiguring
          ready := fun _ => ⟨happlied, rfl⟩
          idle := fun _ _ => h.coupled.results_eq hopen hidle hbooks
          flight := fun hin => absurd (hidle.symm.trans hin) (by simp) }
  | configOverflow =>
      exact h.quiet rfl (by simp [shut, record, Books.note]) hb rfl
        (.of_closed rfl rfl h.coupled.sink h.coupled.started h.coupled.armed)
  | configFailed _ _ _ _ _ _ _ hframes =>
      rcases hframes with rfl | rfl <;>
        exact h.quiet rfl (by simp [shut, queue, record, Books.note]) hb rfl
          (.of_closed rfl rfl h.coupled.sink h.coupled.started h.coupled.armed)

/-! ## Polls -/

/-- The first callback of a poll, if it is meant for the session. -/
theorem runCalls_cons {s : XrSession} {id : Nat} (hid : id = s.id) (call : SinkCall)
    (calls : List (Nat × SinkCall)) :
    s.runCalls env now ((id, call) :: calls) = (s.onCall env now call).runCalls env now calls := by
  rw [runCalls, List.foldl_cons, if_pos hid]
  rfl

/-- The whole queue of packets is delivered. -/
theorem Active.receivedAll (packets : List RxEvent) (h : Active past s b)
    (hqueue : b.rxQueue = packets) :
    Active past
      (s.runCalls env now (packets.map fun e => (past.length, SinkCall.onRx e)))
      { b with rxQueue := [] } := by
  induction packets generalizing s b with
  | nil =>
      have hsame : { b with rxQueue := [] } = b := by rw [← hqueue]
      rw [hsame]
      exact h
  | cons e packets ih =>
      have hrest := ih (h.received env now hqueue) rfl
      rw [List.map_cons, runCalls_cons env now h.kept.id_eq.symm]
      exact hrest

/-- All the stale completions are ignored. -/
theorem Active.staleAll (outcomes : List TxOutcome) (h : Active past s b)
    (hidle : b.txPending = false) :
    Active past
      (s.runCalls env now (outcomes.map fun o => (past.length, SinkCall.onTxComplete o))) b := by
  induction outcomes generalizing s with
  | nil => exact h
  | cons outcome outcomes ih =>
      rw [List.map_cons, runCalls_cons env now h.kept.id_eq.symm]
      exact ih (h.stale env now hidle outcome)

/-- Taking a result does not look at the queued packets. -/
theorem takeTxResult_rxQueue (b : FakeBackend) (packets : List RxEvent) :
    ({ b with rxQueue := packets } : FakeBackend).takeTxResult =
      (b.takeTxResult.1, { b.takeTxResult.2 with rxQueue := packets }) := by
  unfold takeTxResult
  simp only
  split <;> rfl

/-- The result in flight is delivered, if there is one. -/
theorem Active.takeTxResult (h : Active past s b) :
    Active past
      (s.runCalls env now (b.takeTxResult.1.map fun call => (past.length, call)))
      b.takeTxResult.2 ∧ b.takeTxResult.2.txPending = false := by
  have harmed := h.coupled.armed
  unfold FakeBackend.takeTxResult
  split
  · rename_i outcome _ hresult
    rw [List.map_singleton, runCalls_cons env now h.kept.id_eq.symm]
    exact ⟨h.completed env now hresult, rfl⟩
  · rename_i hnone
    refine ⟨h, ?_⟩
    cases hpending : b.txPending with
    | false => rfl
    | true =>
        obtain ⟨outcome, houtcome⟩ := Option.isSome_iff_exists.mp (harmed.symm.trans hpending)
        exact absurd houtcome (hnone outcome hpending)

/-- A poll keeps session and backend coupled. -/
theorem Active.poll (h : Active past s b) :
    Active past (s.runCalls env now b.poll.1) b.poll.2 := by
  have hid := h.kept.id_eq
  have hsink := h.coupled.sink
  have hout := poll_cases b
  generalize b.poll = r at hout
  cases hout with
  | detached hnone => simp [hsink] at hnone
  | configured id hsome hpending =>
      obtain rfl : s.id = id := Option.some.inj (hsink.symm.trans hsome)
      rw [runCalls_cons env now rfl]
      exact h.configured env now _ hpending
  | failed id hsome =>
      obtain rfl : s.id = id := Option.some.inj (hsink.symm.trans hsome)
      rw [runCalls_cons env now rfl]
      exact h.failed env now
  | delivered id hsome =>
      obtain rfl : s.id = id := Option.some.inj (hsink.symm.trans hsome)
      have hfirst := h.receivedAll env now b.rxQueue rfl
      obtain ⟨hsecond, hidle⟩ := hfirst.takeTxResult env now
      rw [takeTxResult_rxQueue] at hsecond hidle
      have hthird := hsecond.staleAll env now b.staleCompletions hidle
      have hcalls : s.runCalls env now
          ((b.rxQueue.map SinkCall.onRx ++ (b.takeTxResult.1 ++
            b.staleCompletions.map SinkCall.onTxComplete)).map fun call => (s.id, call)) =
          ((s.runCalls env now (b.rxQueue.map fun e => (past.length, SinkCall.onRx e))).runCalls
            env now (b.takeTxResult.1.map fun call => (past.length, call))).runCalls
            env now (b.staleCompletions.map fun o => (past.length, SinkCall.onTxComplete o)) := by
        simp only [hid, runCalls, List.map_append, List.map_map, List.foldl_append]
        rfl
      rw [hcalls]
      exact hthird.quiet rfl rfl ⟨rfl, rfl, rfl⟩ rfl (hthird.coupled.outside _ _ _ _ _ _ _)

end Callbacks

/-! ## Scripts, clients coming and going -/

/-- The packets of one more script. -/
theorem scriptedPackets_concat (scripts : List Script) (e : Script) :
    scriptedPackets (scripts ++ [e]) = scriptedPackets scripts ++ scriptedPackets [e] :=
  List.filterMap_append

/-- A script moves nothing but what it is about. -/
theorem Kept.script {sessions : List XrSession} (h : Kept sessions b) (e : Script) :
    Kept sessions (b.script e) := by
  have hmono : ∀ {e'}, e' ∈ b.scripts → e' ∈ b.scripts ++ [e] := fun he =>
    List.mem_append_left _ he
  have houtcomes : ∀ p ∈ b.promised, p.2 = .success ∨ Script.txOutcome p.2 ∈ b.scripts ++ [e] :=
    fun p hp => (h.outcomes p hp).imp id hmono
  have hnext : ∀ outcome, b.nextTxOutcome = some outcome →
      Script.txOutcome outcome ∈ b.scripts ++ [e] := fun outcome ho => hmono (h.next outcome ho)
  have hsettled : ∀ t ∈ sessions, Settled t (b.script e) := by
    intro t ht
    cases e <;> exact (h.settled t ht).unmoved rfl rfl rfl
  cases e with
  | rx packet =>
      refine ⟨h.numbered, hsettled, h.owners, ?_, hnext, houtcomes⟩
      change _ ++ (b.rxQueue ++ [packet]) = scriptedPackets (b.scripts ++ [.rx packet])
      rw [scriptedPackets_concat, ← List.append_assoc, h.packets]
      rfl
  | txOutcome outcome =>
      refine ⟨h.numbered, hsettled, h.owners, ?_, ?_, houtcomes⟩
      · change _ ++ b.rxQueue = scriptedPackets (b.scripts ++ [.txOutcome outcome])
        rw [scriptedPackets_concat, h.packets]
        exact (List.append_nil _).symm
      · rintro _ ⟨⟩
        exact List.mem_append_right _ (List.mem_singleton_self _)
  | configFailure | configEffective | configExact | staleTxComplete | backendFailure =>
      refine ⟨h.numbered, hsettled, h.owners, ?_, hnext, houtcomes⟩
      change _ ++ b.rxQueue = scriptedPackets (b.scripts ++ [_])
      rw [scriptedPackets_concat, h.packets]
      exact (List.append_nil _).symm

theorem Active.script (h : Active past s b) (e : Script) : Active past s (b.script e) := by
  refine ⟨h.kept.script e, ?_⟩
  cases e <;> exact h.coupled.outside _ _ _ _ _ _ _

/-- A script keeps the backend detached. -/
theorem Detached.script (h : Detached b) (e : Script) : Detached (b.script e) := by
  cases e <;> exact ⟨h.sink, h.txPending, h.pendingTxResult⟩

/-- The next client finds nothing of the last one. -/
theorem Kept.accept {env : XrEnv} {now : Nat} {entropy : Option Nonce} (h : Kept past b)
    (hdetached : Detached b) :
    Active past
      ((XrSession.new env past.length entropy).openSession fakeServed.toRadioBackend env now b).1
      (b.setSink (some past.length)).start := by
  have hnone : b.promisedTo past.length = [] := by
    have hfilter : b.promised.filter (fun p => p.1 == past.length) = [] := by
      rw [List.filter_eq_nil_iff]
      intro p hp
      have hlt := h.owners p hp
      simp only [beq_iff_eq]
      omega
    rw [promisedTo, hfilter, List.map_nil]
  refine ⟨⟨⟨?_⟩, ?_, ?_, ?_, h.next, h.outcomes⟩, ?_⟩
  · rw [List.map_append, h.numbered.eq, List.length_append, List.length_singleton,
      List.range_succ]
    rfl
  · intro t ht
    rcases List.mem_append.mp ht with ht | ht
    · exact (h.settled t ht).unmoved rfl rfl rfl
    · obtain rfl := List.mem_singleton.mp ht
      exact ⟨rfl, (congrArg List.length hnone).symm, List.nil_prefix⟩
  · intro p hp
    have hlt := h.owners p hp
    simp only [List.length_append, List.length_singleton]
    omega
  · rw [List.flatMap_append]
    exact (congrArg (· ++ b.rxQueue) (List.append_nil _)).trans h.packets
  · exact
      { sink := rfl
        started := rfl
        inReady := fun hin => Bool.noConfusion hin
        armed := by
          change b.txPending = b.pendingTxResult.isSome
          rw [hdetached.txPending, hdetached.pendingTxResult]
          rfl
        pending := fun _ => hdetached.txPending
        configuring := fun hphase => Phase.noConfusion hphase
        ready := fun hphase => Phase.noConfusion hphase
        idle := fun _ _ => (congrArg (answers []) hnone).symm
        flight := fun hin => Bool.noConfusion hin }

end Steps

/-! ## The history of scripts -/

/-- Taking a result leaves the scripts of the past alone. -/
theorem scripts_takeTxResult (b : FakeBackend) : b.takeTxResult.2.scripts = b.scripts := by
  unfold takeTxResult
  split <;> rfl

theorem scripts_poll (b : FakeBackend) : b.poll.2.scripts = b.scripts := by
  have hout := poll_cases b
  generalize b.poll = r at hout
  cases hout with
  | delivered => exact scripts_takeTxResult b
  | _ => rfl

theorem scripts_submitTx (data : Bytes) (b : FakeBackend) :
    (b.submitTx data).2.scripts = b.scripts := by
  unfold submitTx
  split
  · rfl
  · split
    · rfl
    · split <;> rfl

/-- The world adds its scripts in order. -/
theorem scripts_fakeWorld (scripts : List Script) (b : FakeBackend) :
    (fakeWorld scripts b).scripts = b.scripts ++ scripts := by
  unfold fakeWorld
  induction scripts generalizing b with
  | nil => simp
  | cons e scripts ih =>
      rw [List.foldl_cons, ih]
      cases e <;> simp [script]

/-! ## The invariant -/

/-- Books and coupling over every run of the server. -/
def fakeKeeper (env : XrEnv) : ServedInvariant fakeServed env fakeWorld {} where
  idle past b := Kept past b ∧ Detached b
  active past s b := Active past s b
  initial := ⟨⟨⟨rfl⟩, by simp, by simp, rfl, by simp, by simp⟩, ⟨rfl, rfl, rfl⟩⟩
  idle_world scripts h := by
    unfold fakeWorld
    induction scripts using List.reverseRecOn with
    | nil => exact h
    | append_singleton scripts e ih =>
        rw [List.foldl_append]
        exact ⟨ih.1.script e, ih.2.script e⟩
  active_world scripts h := by
    unfold fakeWorld
    induction scripts using List.reverseRecOn with
    | nil => exact h
    | append_singleton scripts e ih =>
        rw [List.foldl_append]
        exact ih.script e
  idle_poll {past b} h := by
    have hquiet : b.poll = ([], b) := by
      unfold FakeBackend.poll
      rw [h.2.sink]
    change Kept past b.poll.2 ∧ Detached b.poll.2
    rw [hquiet]
    exact h
  active_poll now h := h.poll env now
  accept now entropy h := h.1.accept h.2
  parser buf h := h.advance rfl rfl rfl rfl (Or.inl rfl) rfl rfl
  parserError h _ := h.close rfl (by simp [shut, Books.note]) rfl rfl
  frame h hopen hout := h.frame hopen hout
  tick h hout := h.tick hout
  consume n h := h.advance rfl rfl rfl rfl (Or.inl rfl) rfl rfl
  teardown h :=
    ⟨⟨h.kept.numbered, fun t ht => (h.kept.settled t ht).unmoved rfl rfl rfl, h.kept.owners,
      h.kept.packets, h.kept.next, h.kept.outcomes⟩, ⟨rfl, rfl, rfl⟩⟩

/-! ## Main results -/

/-- The server with the fake backend after a run of operations and scripts. -/
def bridge (env : XrEnv) (ops : List (Served.Op (List Script))) : Served FakeBackend :=
  Served.run fakeServed env fakeWorld {} ops

/-- The server does not script. -/
def scriptsKept (env : XrEnv) (scripts : List Script) : ServedRule fakeServed env where
  idle _ b := b.scripts = scripts
  active _ _ b := b.scripts = scripts
  idle_poll h := (scripts_poll _).trans h
  active_poll _ h := (scripts_poll _).trans h
  accept _ _ h := h
  parser _ h := h
  parserError h _ := h
  frame {_ _ b _ f _ _} h _ hout := by
    cases hout with
    | configRefused _ _ _ requested _ _ _ hbackend | configStarted requested _ _ _ _ _ hbackend =>
        have hkeep : (b.beginConfigure requested).2.scripts = b.scripts := rfl
        change b.beginConfigure requested = _ at hbackend
        rw [hbackend] at hkeep
        exact hkeep.trans h
    | submitRefused _ _ _ _ _ hbackend | submitted _ _ _ _ _ hbackend =>
        have hkeep := scripts_submitTx f.payload b
        change b.submitTx f.payload = _ at hbackend
        rw [hbackend] at hkeep
        exact hkeep.trans h
    | _ => exact h
  tick h hout := by
    cases hout <;> exact h
  consume _ h := h
  teardown h := h

/-- The history of scripts is what was scripted in the run. -/
theorem bridge_scripts (env : XrEnv) (ops : List (Served.Op (List Script))) :
    (bridge env ops).backend.scripts = ops.flatMap Served.Op.meanwhile := by
  induction ops using List.reverseRecOn with
  | nil => rfl
  | append_singleton ops op ih =>
      rw [List.flatMap_append, List.flatMap_singleton, ← ih]
      unfold bridge
      rw [Served.run_append_singleton]
      generalize Served.run fakeServed env fakeWorld {} ops = sv
      have hworld : (fakeWorld op.meanwhile sv.backend).scripts =
          sv.backend.scripts ++ op.meanwhile := scripts_fakeWorld _ _
      have hbefore : (scriptsKept env (sv.backend.scripts ++ op.meanwhile)).holds
          { sv with
            now := min (sv.now + op.elapsed) uint64Max
            backend := fakeWorld op.meanwhile sv.backend } := by
        unfold ServedRule.holds
        split <;> exact hworld
      have hact := ServedRule.holds_act _ op.action hbefore
      unfold ServedRule.holds at hact
      split at hact <;> exact hact

/-- The sessions of every run are kept. -/
theorem bridge_kept (env : XrEnv) (ops : List (Served.Op (List Script))) :
    Kept (bridge env ops).sessions (bridge env ops).backend := by
  have h := (fakeKeeper env).run ops
  unfold ServedRule.holds at h
  unfold bridge Served.sessions
  cases hconn : (Served.run fakeServed env fakeWorld {} ops).conn with
  | none =>
      rw [hconn] at h
      rw [Option.map_none, Option.toList_none, List.append_nil]
      exact h.1
  | some c =>
      rw [hconn] at h
      exact h.kept

/-- The present session of every run is active. -/
theorem bridge_active {env : XrEnv} {ops : List (Served.Op (List Script))} {c : XrConnection}
    (hconn : (bridge env ops).conn = some c) :
    Active (bridge env ops).past c.session (bridge env ops).backend := by
  have h := (fakeKeeper env).run ops
  unfold ServedRule.holds at h
  unfold bridge at hconn ⊢
  rw [hconn] at h
  exact h

/-- Whatever is scripted, the fake backend refuses no request, and the results a client is
sent are the outcomes settled for its own requests, in order; a stale completion is never one
of them.  An outcome is a success unless it was scripted. -/
theorem results_promised (env : XrEnv) (ops : List (Served.Op (List Script))) :
    ∀ s ∈ (bridge env ops).sessions,
      (books s.log).refused = [] ∧
      (books s.log).accepted.length = ((bridge env ops).backend.promisedTo s.id).length ∧
      (books s.log).results <+:
        answers (books s.log).accepted ((bridge env ops).backend.promisedTo s.id) ∧
      ∀ outcome ∈ (bridge env ops).backend.promisedTo s.id,
        outcome = .success ∨ Script.txOutcome outcome ∈ ops.flatMap Served.Op.meanwhile := by
  intro s hs
  have hkept := bridge_kept env ops
  obtain ⟨hrefused, hpromised, hresults⟩ := hkept.settled s hs
  refine ⟨hrefused, hpromised, hresults, ?_⟩
  intro outcome houtcome
  obtain ⟨p, hp, rfl⟩ := List.mem_map.mp houtcome
  rw [← bridge_scripts env ops]
  exact hkept.outcomes p (List.mem_filter.mp hp).1

/-- A client in open mode that asks for a configuration. -/
def configures : List (Served.Op (List Script)) :=
  [⟨0, [], .accept none⟩,
    ⟨1, [], .feed (frameBytes ⟨.hello, 0, [kVersion]⟩ ++
      frameBytes ⟨.configure, 0, packConfig LorahamBackend.meshConfig⟩)⟩]

/-- The client gets its configuration and transmits a packet to a busy channel; stale
completions are scripted before its request and behind its result. -/
def transmits : List (Served.Op (List Script)) :=
  configures ++
    [⟨1, [.staleTxComplete .radioError], .poll⟩,
      ⟨1, [.txOutcome .channelBusy], .feed (frameBytes ⟨.txRequest, 7, [1, 2, 3]⟩)⟩,
      ⟨1, [], .poll⟩,
      ⟨1, [.staleTxComplete .timeout], .poll⟩]

/-- The one result it gets is the outcome settled for its request. -/
theorem results_promised_busy :
    let env : XrEnv := ⟨⟨[]⟩, fun _ _ => none, defaultTimeouts, 65536, fun _ n => n⟩
    ∃ s ∈ (bridge env transmits).sessions,
      (books s.log).results = [⟨.txResult, 7, [0x01]⟩] ∧
      (books s.log).results <+:
        answers (books s.log).accepted ((bridge env transmits).backend.promisedTo s.id) := by
  intro env
  have hresults : (bridge env transmits).sessions.map (fun s => (books s.log).results) =
      [[⟨.txResult, 7, [0x01]⟩]] := by decide +kernel
  obtain ⟨s, hsessions, hs⟩ := List.map_eq_singleton_iff.mp hresults
  have hmem : s ∈ (bridge env transmits).sessions := by
    rw [hsessions]
    exact List.mem_singleton_self s
  exact ⟨s, hmem, hs, (results_promised env transmits s hmem).2.2.1⟩

/-- The packets handed to the sessions, one session after the other, and those still queued
are the scripted ones, in order: none is lost between two clients, and none comes twice. -/
theorem packets_conserved (env : XrEnv) (ops : List (Served.Op (List Script))) :
    (bridge env ops).sessions.flatMap (fun s => (books s.log).packets) ++
        (bridge env ops).backend.rxQueue =
      scriptedPackets (ops.flatMap Served.Op.meanwhile) := by
  rw [← bridge_scripts env ops]
  exact (bridge_kept env ops).packets

/-- The fake backend is set to honour this configuration. -/
def Honours (b : FakeBackend) (requested : RadioConfig) : Prop :=
  b.configMode = .exact ∨ b.configMode = .mismatch ∧ b.forcedEffective = requested

/-- The result of a configuration is exact if and only if the backend honours the request. -/
theorem resolveConfig_eq_iff {b : FakeBackend} {requested : RadioConfig}
    (h : b.pendingRequested = requested) :
    b.resolveConfig.1.applied = true ∧ b.resolveConfig.1.effective = requested ↔
      b.Honours requested := by
  unfold resolveConfig Honours
  cases b.configMode <;> simp [ConfigureResult.failed, h]

/-- The next poll ends a configuration: the session is ready with exactly what it asked for,
and only if the backend honours that, or it is closed, and if the backend would have honoured
it then only for want of room in the output queue. -/
theorem configuration_resolved (env : XrEnv) (ops : List (Served.Op (List Script)))
    {c : XrConnection} (hconn : (bridge env ops).conn = some c)
    (hphase : c.session.phase = .configuring) :
    ∃ c', ((bridge env ops).poll fakeServed env).conn = some c' ∧
      (c'.session.phase = .ready ∧ c'.session.appliedCfg = c.session.requestedCfg ∧
          (bridge env ops).backend.Honours c.session.requestedCfg ∨
        c'.session.phase = .closed ∧
          ((bridge env ops).backend.Honours c.session.requestedCfg →
            c'.session.closeReason = .outputOverflow)) := by
  have hactive := bridge_active hconn
  obtain ⟨hpending, htoken, hrequested⟩ := hactive.coupled.configuring hphase
  have hhonours := resolveConfig_eq_iff hrequested
  have hpoll : (bridge env ops).backend.poll.1 =
      [(c.session.id, .onConfigureComplete (bridge env ops).backend.configToken
        (bridge env ops).backend.resolveConfig.1)] := by
    unfold FakeBackend.poll
    rw [hactive.coupled.sink]
    simp only
    rw [if_pos hpending]
  have hout := onCall_cases env (bridge env ops).now
    (.onConfigureComplete (bridge env ops).backend.configToken
      (bridge env ops).backend.resolveConfig.1) hactive.coupled.inReady
  refine ⟨⟨c.session.runCalls env (bridge env ops).now (bridge env ops).backend.poll.1,
    c.socketError⟩, by rw [Served.poll, hconn]; rfl, ?_⟩
  simp only
  rw [hpoll, runCalls_cons env _ rfl]
  generalize c.session.onCall env (bridge env ops).now _ = s' at hout
  cases hout with
  | ignored _ hignores => simp [ignores, hphase, htoken] at hignores
  | configured _ _ _ _ _ happlied heffective =>
      exact Or.inl ⟨rfl, heffective, hhonours.mp ⟨happlied, heffective⟩⟩
  | configOverflow => exact Or.inr ⟨rfl, fun _ => rfl⟩
  | configFailed _ _ _ _ _ _ _ _ _ _ hres =>
      exact Or.inr ⟨rfl, fun h => absurd (hhonours.mpr h) hres⟩

/-- A client that waits for its configuration. -/
theorem configuration_resolved_exact :
    let env : XrEnv := ⟨⟨[]⟩, fun _ _ => none, defaultTimeouts, 65536, fun _ n => n⟩
    ∃ c c', (bridge env configures).conn = some c ∧ c.session.phase = .configuring ∧
      ((bridge env configures).poll fakeServed env).conn = some c' ∧
      c'.session.appliedCfg = c.session.requestedCfg := by
  intro env
  have hphase : (bridge env configures).conn.map (fun c => c.session.phase) =
      some .configuring := by decide +kernel
  have hready : ((bridge env configures).poll fakeServed env).conn.map
      (fun c => c.session.phase) = some .ready := by decide +kernel
  obtain ⟨c, hconn, hc⟩ := Option.map_eq_some_iff.mp hphase
  obtain ⟨c', hconn', hresolved⟩ := configuration_resolved env configures hconn hc
  rw [hconn', Option.map_some, Option.some.injEq] at hready
  rcases hresolved with ⟨-, happlied, -⟩ | ⟨hclosed, -⟩
  · exact ⟨c, c', hconn, hc, hconn', happlied⟩
  · exact absurd (hready.symm.trans hclosed) (by decide)

end FakeBackend

end LorahamBridge
