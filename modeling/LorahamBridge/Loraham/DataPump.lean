import LorahamBridge.Loraham.BackendRun
import LorahamBridge.Loraham.Codec
import LorahamBridge.Loraham.RxStream
import LorahamBridge.Loraham.Configure

/-!
# The DATA pump

The operational and the draining loop share one parser.  However the daemon's bytes
are cut into reads and polls, and whatever happens to the transmission in between,
the frames they dispatch are those of the whole stream.

The stream is described by its encoding alone (`BeginsWith`, `BadHeader`,
`Incomplete`).

Main results:

- Theorem `dataLoop_ends`: how the receive loop ends, by what it has received.
- Theorem `data_pump_exact`: what the pump does in every run.
-/

namespace LorahamBridge

open Foundation Loraham

namespace LorahamBackend

/-! ## The receive loop -/

/-- The two receive loops, by the states that stop them. -/
def loopHalted (draining : Bool) : BackendState → Bool :=
  if draining then drainHalted else operationalHalted

/-- The states in which a receive loop runs. -/
def inLoop (draining : Bool) (state : BackendState) : Prop :=
  if draining then state = .draining else rxOk state = true

/-- How the receive loop of a poll comes to its end: nothing more to read, a lost
link, a frame the parser rejects, a parser that takes no byte, or the terminal frame
that recovery has waited for. -/
inductive DataEnd where
  | idle
  | lost
  | unparsable
  | stuck
  | resolved
deriving DecidableEq

/-- The end of `dataLoop`, branch by branch. -/
def dataEnd (halted : BackendState → Bool) (b : LorahamBackend) :
    List (RecvAnswer kReadChunk) → DataEnd
  | [] => .idle
  | .failed :: _ => .lost
  | .data chunk :: answers =>
      let b := b.answered fun t => { t with dataRecv := answers }
      if chunk.bytes = [] then .idle
      else
        let r := driveData halted chunk.bytes (b.record (.dataReceived chunk.bytes))
        match r.exit with
        | .halted => .resolved
        | .malformed _ => .unparsable
        | .stuck => .stuck
        | .drained =>
            if chunk.bytes.length < kReadChunk then .idle
            else dataEnd halted (r.state.withParser r.buf) answers

/-- Within the loop there is a link. -/
theorem inLoop_onLink {draining : Bool} {state : BackendState} (h : inLoop draining state) :
    onLink state = true ∧ loopHalted draining state = false := by
  cases draining with
  | false => exact operationalHalted_of_rxOk h
  | true =>
      have hstate : state = .draining := h
      subst hstate
      exact ⟨rfl, rfl⟩

theorem loopHalted_disconnected (draining : Bool) : loopHalted draining .disconnected = true := by
  cases draining <;> rfl

/-- A dispatched frame leaves the loop running, or it is the terminal frame that
recovery has waited for. -/
theorem dispatch_inLoop (f : Loraham.Frame) {b : LorahamBackend} {draining : Bool}
    (h : inLoop draining b.state) :
    (inLoop draining (dispatch f b).state ∧ (draining = true → answer? f = none)) ∨
      (draining = true ∧ (answer? f).isSome ∧ (dispatch f b).state = .disconnected) := by
  have hcase := dispatch_cases f b
  generalize dispatch f b = b' at hcase
  cases draining with
  | false =>
      left
      refine ⟨?_, by simp⟩
      cases hcase with
      | ignored | heard | forwarded => exact h
      | completed | fenced => exact rfl
      | cleared _ _ hstate => simp [inLoop, hstate, rxOk] at h
  | true =>
      have hdrain : b.state = .draining := h
      cases hcase with
      | ignored hrx hanswer => exact Or.inl ⟨h, fun _ => hanswer.resolve_right fun hne => hne.2 hdrain⟩
      | heard rx hrx | forwarded rx hrx => exact Or.inl ⟨h, fun _ => answer?_of_decodeRx hrx⟩
      | completed _ _ hstate | fenced _ _ hstate => simp [hdrain] at hstate
      | cleared outcome hanswer => exact Or.inr ⟨rfl, by simp [hanswer], rfl⟩

/-- A dispatched frame joins the frames of the link, which received nothing else. -/
theorem dispatch_link (f : Loraham.Frame) (b : LorahamBackend) :
    (link (dispatch f b).trace).frames = (link b.trace).frames ++ [f] ∧
      (link (dispatch f b).trace).received = (link b.trace).received := by
  have hcase := dispatch_cases f b
  generalize dispatch f b = b' at hcase
  cases hcase with
  | ignored | completed | fenced | cleared => simp [Link.step]
  | heard | forwarded => simp [link_append, Link.step]

/-- Behind the frames `old`, nothing was dispatched that recovery waits for. -/
def Passed (draining : Bool) (old : List Loraham.Frame) (b : LorahamBackend) : Prop :=
  ∃ new, (link b.trace).frames = old ++ new ∧ (draining = true → ∀ f ∈ new, answer? f = none)

/-- The link while the read that `stream` ends with is being parsed: `unread` is the
rest the parser has not been given. -/
structure Pumping (draining : Bool) (stream : Bytes) (old : List Loraham.Frame)
    (buf unread : Bytes) (b : LorahamBackend) : Prop where
  state : inLoop draining b.state
  received : (link b.trace).received = stream
  parsed : ∃ consumed, stream = consumed ++ unread ∧ (b.withParser buf).Consumed consumed
  passed : Passed draining old b

/-- The link after the terminal frame that recovery has waited for. -/
structure Resolved (draining : Bool) (stream : Bytes) (old : List Loraham.Frame)
    (b : LorahamBackend) : Prop where
  draining : draining = true
  state : b.state = .disconnected
  received : (link b.trace).received = stream
  parsed : (link b.trace).frames <+: (daemonFormat.parse stream).1
  answered : ∃ new f, (link b.trace).frames = old ++ new ++ [f] ∧ (answer? f).isSome = true

variable {draining : Bool} {stream buf unread rest : Bytes} {old : List Loraham.Frame}
  {b : LorahamBackend} {f : Loraham.Frame}

/-- A frame off the parser. -/
theorem Pumping.pop (h : Pumping draining stream old buf unread b)
    (hpop : daemonFormat.pop buf = .gotFrame f rest) :
    Pumping draining stream old rest unread (dispatch f (b.withParser rest)) ∨
      Resolved draining stream old (dispatch f (b.withParser rest)) := by
  obtain ⟨consumed, hstream, hconsumed⟩ := h.parsed
  obtain ⟨new, hnew, hpassed⟩ := h.passed
  obtain ⟨hframes, hreceived⟩ := dispatch_link f (b.withParser rest)
  have hsplit : (link (dispatch f (b.withParser rest)).trace).frames = old ++ new ++ [f] := by
    rw [hframes, ← hnew]
    rfl
  have hnext : ((dispatch f (b.withParser rest)).withParser rest).Consumed consumed :=
    hconsumed.pop hpop rfl hframes
  rcases dispatch_inLoop (b := b.withParser rest) f h.state with
    ⟨hstate, hanswer⟩ | ⟨hdrain, hanswer, hstate⟩
  · refine Or.inl ⟨hstate, hreceived.trans h.received, ⟨consumed, hstream, hnext⟩,
      new ++ [f], by simp [hsplit], ?_⟩
    intro hdrain g hg
    rw [List.mem_append, List.mem_singleton] at hg
    rcases hg with hg | rfl
    · exact hpassed hdrain g hg
    · exact hanswer hdrain
  · refine Or.inr ⟨hdrain, hstate, hreceived.trans h.received, ?_, new, f, hsplit, hanswer⟩
    unfold Consumed at hnext
    rw [hstream]
    refine List.IsPrefix.trans ?_ (daemonFormat.parse_prefix_append consumed unread)
    rw [hnext]
    exact List.prefix_append _ _

/-- More bytes for the parser. -/
theorem Pumping.push (h : Pumping draining stream old buf unread b)
    (hpop : daemonFormat.pop buf = .needMore) (k : Nat) :
    Pumping draining stream old (buf ++ unread.take k) (unread.drop k) b := by
  obtain ⟨consumed, hstream, hconsumed⟩ := h.parsed
  refine ⟨h.state, h.received, ⟨consumed ++ unread.take k, ?_, ?_⟩, h.passed⟩
  · rw [hstream, List.append_assoc, List.take_append_drop]
  · exact hconsumed.push (b := b.withParser buf) hpop (unread.take k)

/-- The loop over one read. -/
theorem Pumping.drive (h : Pumping draining stream old b.parser unread b) :
    ∃ exit buf' unread' b', driveData (loopHalted draining) unread b = ⟨exit, buf', b'⟩ ∧
      match exit with
      | .halted => Resolved draining stream old b'
      | .malformed _ => Pumping draining stream old buf' unread' b' ∧ daemonFormat.pop buf' = .error ()
      | .stuck => False
      | .drained => Pumping draining stream old buf' [] b' ∧ daemonFormat.pop buf' = .needMore := by
  obtain ⟨exit, buf', unread', b', heq, hinv, hexit⟩ := daemonFormat.drive_rule
    (fun f rest b => dispatch f (b.withParser rest)) (fun b => loopHalted draining b.state)
    (fun buf unread b => Pumping draining stream old buf unread b ∨ Resolved draining stream old b)
    (by
      rintro buf data s f rest (hs | hs) hrun hpop
      · exact hs.pop hpop
      · simp [hs.state, loopHalted_disconnected] at hrun)
    (by
      rintro buf data s k (hs | hs) hrun hpop
      · exact Or.inl (hs.push hpop k)
      · simp [hs.state, loopHalted_disconnected] at hrun)
    b.parser unread b (Or.inl h) (inLoop_onLink h.state).2
  refine ⟨exit, buf', unread', b', heq, ?_⟩
  rcases hinv with hs | hs
  · have hrun := (inLoop_onLink hs.state).2
    cases exit with
    | halted => simp [hrun] at hexit
    | malformed e => exact ⟨hs, hexit.1⟩
    | stuck => exact hexit
    | drained => exact ⟨hexit.1 ▸ hs, hexit.2.1⟩
  · cases exit with
    | halted => exact hs
    | malformed e => simp [hs.state, loopHalted_disconnected] at hexit
    | stuck => exact hexit
    | drained => simp [hs.state, loopHalted_disconnected] at hexit

/-- The buffer of a read that is done is the parser again. -/
theorem Pumping.withParser (h : Pumping draining stream old buf unread b) :
    Pumping draining stream old (b.withParser buf).parser unread (b.withParser buf) :=
  ⟨h.state, h.received, h.parsed, h.passed⟩

/-- The next read. -/
theorem Pumping.read (h : Pumping draining stream old b.parser [] b)
    (update : DaemonTransport → DaemonTransport) (chunk : Bytes) :
    Pumping draining (stream ++ chunk) old ((b.answered update).record (.dataReceived chunk)).parser
      chunk ((b.answered update).record (.dataReceived chunk)) := by
  obtain ⟨consumed, hstream, hconsumed⟩ := h.parsed
  have hlink : link ((b.answered update).record (.dataReceived chunk)).trace =
      (link b.trace).step (.dataReceived chunk) := by simp [answered]
  refine ⟨h.state, ?_, ⟨consumed, by simp [hstream], ?_⟩, ?_⟩
  · rw [hlink, ← h.received]
    rfl
  · unfold Consumed LorahamBackend.withParser at hconsumed ⊢
    simp only [hlink]
    exact hconsumed
  · rw [Passed, hlink]
    exact h.passed

/-- What each end of the receive loop says about the stream received. -/
def Ends (draining : Bool) (old : List Loraham.Frame) (b : LorahamBackend) :
    DataEnd → Prop
  | .idle | .lost =>
      Passed draining old b ∧
        ∃ tail, daemonFormat.parse (link b.trace).received = ((link b.trace).frames, .pending tail)
  | .unparsable =>
      onLink b.state = false ∧ Passed draining old b ∧
        daemonFormat.parse (link b.trace).received = ((link b.trace).frames, .malformed ())
  | .stuck => False
  | .resolved => Resolved draining (link b.trace).received old b

/-- A read taken off the socket to its end. -/
theorem Pumping.parse (h : Pumping draining stream old buf [] b) :
    daemonFormat.parse stream =
      ((link b.trace).frames ++ (daemonFormat.parse buf).1, (daemonFormat.parse buf).2) := by
  obtain ⟨consumed, hstream, hconsumed⟩ := h.parsed
  rw [hstream, List.append_nil]
  exact hconsumed

/-- The loop ends with an incomplete frame in the buffer. -/
theorem Pumping.ends_pending {b' : LorahamBackend} {e : DataEnd}
    (h : Pumping draining stream old buf [] b) (hpop : daemonFormat.pop buf = .needMore)
    (hframes : (link b'.trace).frames = (link b.trace).frames)
    (hreceived : (link b'.trace).received = (link b.trace).received)
    (he : e = .idle ∨ e = .lost) : Ends draining old b' e := by
  have hends : Passed draining old b' ∧ ∃ tail,
      daemonFormat.parse (link b'.trace).received = ((link b'.trace).frames, .pending tail) := by
    refine ⟨by rw [Passed, hframes]; exact h.passed, buf, ?_⟩
    rw [hreceived, hframes, h.received, h.parse, daemonFormat.parse_of_needMore hpop]
    simp
  rcases he with rfl | rfl <;> exact hends

/-- The parser rejects what follows the frames dispatched so far. -/
theorem Pumping.ends_unparsable (h : Pumping draining stream old buf unread b)
    (hpop : daemonFormat.pop buf = .error ()) :
    Ends draining old (b.withParser buf).handleDisconnect .unparsable := by
  obtain ⟨consumed, hstream, hconsumed⟩ := h.parsed
  have hlink : link (b.withParser buf).handleDisconnect.trace = (link b.trace).step .closed :=
    link_handleDisconnect _
  refine ⟨?_, ?_, ?_⟩
  · rcases handleDisconnect_state (b.withParser buf) with hs | hs <;> rw [hs] <;> rfl
  · rw [Passed, hlink]
    exact h.passed
  · unfold Consumed LorahamBackend.withParser at hconsumed
    rw [daemonFormat.parse_of_error hpop] at hconsumed
    rw [hlink]
    change daemonFormat.parse (link b.trace).received = ((link b.trace).frames, .malformed ())
    rw [h.received, hstream]
    simpa using daemonFormat.parse_append_malformed hconsumed unread

/-- How the receive loop ends. -/
theorem dataLoop_ends (answers : List (RecvAnswer kReadChunk))
    (h : Pumping draining stream old b.parser [] b) (hpop : daemonFormat.pop b.parser = .needMore) :
    Ends draining old (b.dataLoop (loopHalted draining) answers)
      (b.dataEnd (loopHalted draining) answers) := by
  induction answers generalizing b stream with
  | nil => exact h.ends_pending hpop rfl rfl (Or.inl rfl)
  | cons answer answers ih =>
      cases answer with
      | failed =>
          refine h.ends_pending hpop ?_ ?_ (Or.inr rfl)
          · simp [dataLoop, answered, Link.step]
          · simp [dataLoop, answered, Link.step]
      | data chunk =>
          unfold dataLoop dataEnd
          simp only
          split
          · exact h.ends_pending hpop rfl rfl (Or.inl rfl)
          · have hread := h.read (fun t => { t with dataRecv := answers }) chunk.bytes
            obtain ⟨exit, buf', unread', b', heq, hexit⟩ := hread.drive
            rw [heq]
            cases exit with
            | halted =>
                have hresolved : Resolved draining (stream ++ chunk.bytes) old b' := hexit
                change Resolved draining (link b'.trace).received old b'
                rwa [hresolved.received]
            | malformed e => exact hexit.1.ends_unparsable hexit.2
            | stuck => exact hexit.elim
            | drained =>
                simp only
                split
                · exact hexit.1.ends_pending hexit.2 rfl rfl (Or.inl rfl)
                · exact ih (b := b'.withParser buf') hexit.1.withParser hexit.2

/-! ## The pump of a poll -/

/-- The backend at the moment a poll begins to read DATA input; `none` if the poll
does not come to it. -/
def dataInput (b : LorahamBackend) : Option LorahamBackend :=
  if rxOk b.state then
    match b.pumpConf false b.transport.confRecv with
    | (.fatal, _) => none
    | (_, b) =>
        if b.state = .txWriting then
          match b.pumpTxWrite b.transport.dataSendSome with
          | (.failed, _) => none
          | (.complete, b) => some { b with state := .txPending }
          | (.partly, b) => some b
        else some b
  else if b.state = .draining ∧ b.now < b.drainDeadlineAt then
    some (b.drainConfInput b.transport.confRecv)
  else none

/-- How the receive loop of a poll ends, if the poll comes to it. -/
def pollDataEnd (b : LorahamBackend) : Option DataEnd :=
  b.dataInput.map fun c =>
    c.dataEnd (loopHalted (b.state == .draining)) c.transport.dataRecv

/-- The DATA input of the link is the same. -/
structure SameInput (b b' : LorahamBackend) : Prop where
  frames : (link b'.trace).frames = (link b.trace).frames
  received : (link b'.trace).received = (link b.trace).received

/-- Steps without input compose. -/
theorem SameInput.trans {b b' b'' : LorahamBackend} (h : SameInput b b') (h' : SameInput b' b'') :
    SameInput b b'' :=
  ⟨h'.frames.trans h.frames, h'.received.trans h.received⟩

/-- A disconnect takes no input. -/
theorem sameInput_handleDisconnect (b : LorahamBackend) : SameInput b b.handleDisconnect := by
  constructor <;> simp [Link.step]

/-- CONF input touches neither DATA input nor the state. -/
theorem pumpConf_sameInput (awaiting : Bool) (b : LorahamBackend)
    (answers : List (RecvAnswer kReadChunk)) :
    SameInput b (b.pumpConf awaiting answers).2 ∧
      (b.pumpConf awaiting answers).2.parser = b.parser ∧
      (b.pumpConf awaiting answers).2.state = b.state := by
  induction answers generalizing b with
  | nil => exact ⟨⟨rfl, rfl⟩, rfl, rfl⟩
  | cons answer answers ih =>
      cases answer with
      | failed => exact ⟨⟨rfl, rfl⟩, rfl, rfl⟩
      | data chunk =>
          have htaken : ∀ line, SameInput b (LorahamBackend.takeConf chunk.bytes line
              (b.answered fun t => { t with confRecv := answers })) := by
            intro line
            constructor <;> simp [answered, Link.step]
          unfold pumpConf
          simp only
          split
          · exact ⟨⟨rfl, rfl⟩, rfl, rfl⟩
          · split
            · exact ⟨htaken _, rfl, rfl⟩
            · split
              · rename_i rest _
                split
                · exact ⟨htaken _, rfl, rfl⟩
                · obtain ⟨hsame, hparser, hstate⟩ := ih (LorahamBackend.takeConf chunk.bytes rest
                    (b.answered fun t => { t with confRecv := answers }))
                  exact ⟨(htaken rest).trans hsame, hparser, hstate⟩
              · exact ⟨htaken _, rfl, rfl⟩

theorem drainConfInput_sameInput (b : LorahamBackend) (answers : List (RecvAnswer kReadChunk)) :
    SameInput b (b.drainConfInput answers) ∧ (b.drainConfInput answers).parser = b.parser ∧
      (b.drainConfInput answers).state = b.state := by
  induction answers generalizing b with
  | nil => exact ⟨⟨rfl, rfl⟩, rfl, rfl⟩
  | cons answer answers ih =>
      cases answer with
      | failed => exact ⟨⟨rfl, rfl⟩, rfl, rfl⟩
      | data chunk =>
          have hread : SameInput b (LorahamBackend.record (.confReceived chunk.bytes)
              (b.answered fun t => { t with confRecv := answers })) := by
            constructor <;> simp [answered, Link.step]
          unfold drainConfInput
          simp only
          split
          · exact ⟨⟨rfl, rfl⟩, rfl, rfl⟩
          · split
            · exact ⟨hread, rfl, rfl⟩
            · obtain ⟨hsame, hparser, hstate⟩ := ih (LorahamBackend.record
                (.confReceived chunk.bytes) (b.answered fun t => { t with confRecv := answers }))
              exact ⟨hread.trans hsame, hparser, hstate⟩

theorem wrote_sameInput (transport : DaemonTransport) (off : Nat) (writes : List Bytes)
    (b : LorahamBackend) : SameInput b (b.wrote transport off writes) := by
  constructor <;> simp [Link.step]

/-- A poll of an established link comes to its receive loop, or it has read no DATA. -/
theorem poll_dataInput (hlink : onLink b.state = true) :
    (∃ c, b.dataInput = some c ∧
        b.poll = c.dataLoop (loopHalted (b.state == .draining)) c.transport.dataRecv ∧
        inLoop (b.state == .draining) c.state ∧ c.parser = b.parser ∧ SameInput b c) ∨
      (b.dataInput = none ∧ SameInput b b.poll) := by
  by_cases hdrain : b.state = .draining
  · have hpoll : b.poll = b.advanceDrain := by simp [poll, hdrain]
    obtain ⟨hsame, hparser, hstate⟩ := drainConfInput_sameInput b b.transport.confRecv
    rw [hpoll]
    unfold dataInput advanceDrain
    rw [if_neg (by simp [hdrain, rxOk])]
    by_cases hdeadline : b.drainDeadlineAt ≤ b.now
    · rw [if_neg (by omega), if_pos hdeadline]
      refine Or.inr ⟨rfl, ?_⟩
      constructor <;> simp [Link.step]
    · rw [if_pos ⟨hdrain, by omega⟩, if_neg hdeadline]
      refine Or.inl ⟨_, rfl, ?_, ?_, hparser, hsame⟩
      · simp [hdrain, loopHalted]
      · simp [inLoop, hstate, hdrain]
  · have hrx : rxOk b.state = true := by simpa [onLink, hdrain] using hlink
    have hoperational : (b.state == .draining) = false := by simpa using hdrain
    have hpoll : b.poll = b.advanceOperational := by
      unfold poll
      cases hs : b.state <;> simp_all [rxOk]
    rw [hpoll, hoperational]
    unfold dataInput advanceOperational
    rw [if_pos hrx]
    obtain ⟨hsame, hparser, hstate⟩ := pumpConf_sameInput false b b.transport.confRecv
    generalize b.pumpConf false b.transport.confRecv = r at hsame hparser hstate
    obtain ⟨outcome, c⟩ := r
    have hc : rxOk c.state = true := by
      rw [show c.state = b.state from hstate]
      exact hrx
    cases outcome with
    | fatal => exact Or.inr ⟨rfl, hsame.trans (sameInput_handleDisconnect c)⟩
    | quiet | status =>
        simp only
        split <;> rename_i hwriting
        · obtain ⟨transport, off, writes, hframe⟩ := pumpTxWrite_frame c c.transport.dataSendSome
          generalize c.pumpTxWrite c.transport.dataSendSome = w at hframe
          obtain ⟨flush, d⟩ := w
          change d = c.wrote transport off writes at hframe
          subst hframe
          have hwrote := hsame.trans (wrote_sameInput transport off writes c)
          cases flush with
          | failed =>
              refine Or.inr ⟨rfl, hwrote.trans ?_⟩
              constructor <;> simp [Link.step]
          | complete => exact Or.inl ⟨_, rfl, rfl, rfl, hparser, hwrote.frames, hwrote.received⟩
          | partly => exact Or.inl ⟨_, rfl, rfl, hc, hparser, hwrote⟩
        · exact Or.inl ⟨c, rfl, rfl, hc, hparser, hsame⟩

/-- Between two calls the frames of an established link are those of its stream. -/
theorem runCalls_parsed (configTimeoutMs drainTimeoutMs : Nat) (calls : List Call) :
    Parsed (runCalls configTimeoutMs drainTimeoutMs calls, none) :=
  runCalls_rule configTimeoutMs drainTimeoutMs (parsed_of_closed (Or.inl rfl))
    (fun _ _ h hx => h.parsed hx) (fun _ _ _ => parsed_of_closed (Or.inl rfl)) calls

/-- A link between two polls, seen as the start of a receive loop. -/
theorem pumping_of_parsed {c : LorahamBackend} (h : Parsed (b, none))
    (hlink : onLink b.state = true) (hloop : inLoop draining c.state)
    (hparser : c.parser = b.parser) (hsame : SameInput b c) :
    Pumping draining (link b.trace).received (link b.trace).frames c.parser [] c := by
  obtain ⟨hpop, hconsumed⟩ := (parsed_none_iff hlink).mp h
  refine ⟨hloop, hsame.received, ⟨_, (List.append_nil _).symm, ?_⟩, [], by simp [hsame.frames],
    by simp⟩
  unfold Consumed LorahamBackend.withParser at *
  simpa only [hparser, hsame.frames] using hconsumed

/-- Every poll of an established link, by the end of its receive loop. -/
theorem poll_ends (h : Parsed (b, none)) (hlink : onLink b.state = true) :
    (b.pollDataEnd = none ∧ SameInput b b.poll) ∨
      ∃ e, b.pollDataEnd = some e ∧
        Ends (b.state == .draining) (link b.trace).frames b.poll e := by
  rcases poll_dataInput hlink with ⟨c, hc, hpoll, hloop, hparser, hsame⟩ | ⟨hnone, hsame⟩
  · right
    refine ⟨_, by rw [pollDataEnd, hc]; rfl, ?_⟩
    rw [hpoll]
    refine dataLoop_ends c.transport.dataRecv (pumping_of_parsed h hlink hloop hparser hsame) ?_
    rw [hparser]
    exact ((parsed_none_iff hlink).mp h).1
  · exact Or.inl ⟨by rw [pollDataEnd, hnone]; rfl, hsame⟩

/-! ## The pump over whole runs -/

/-- What the pump owes to the stream of its connection. -/
structure PumpExact (b : LorahamBackend) : Prop where
  /-- The frames dispatched so far are all whole frames received so far. -/
  dispatched : BeginsWith (link b.trace).received (link b.trace).frames b.parser ∧
    Incomplete b.parser
  neverStuck : b.pollDataEnd ≠ some .stuck
  /-- A poll gives up on the parser exactly when it reaches a header to reject. -/
  rejects : b.pollDataEnd = some .unparsable ↔ b.pollDataEnd ≠ some .resolved ∧
    ∃ tail, BeginsWith (link b.poll.trace).received (link b.poll.trace).frames tail ∧
      BadHeader tail
  /-- While draining, the first terminal frame of the stream ends recovery, wherever
  its bytes were received. -/
  resolves : b.pollDataEnd = some .resolved ↔ b.state = .draining ∧
    ∃ new f tail, BeginsWith (link b.poll.trace).received ((link b.trace).frames ++ new ++ [f]) tail ∧
      (answer? f).isSome = true
  drops : b.pollDataEnd = some .unparsable ∨ b.pollDataEnd = some .resolved →
    onLink b.poll.state = false

/-- A stream without an error is not rejected. -/
theorem not_badHeader_of_pending {frames : List Loraham.Frame} {rest : Bytes}
    (h : daemonFormat.parse stream = (frames, .pending rest)) :
    ¬∃ tail, BeginsWith stream frames tail ∧ BadHeader tail := by
  intro hbad
  simp [parse_eq_malformed_iff.mpr hbad] at h

/-- Once every frame of the stream has been passed, none of them resolves anything. -/
theorem not_answered_of_passed {b' : LorahamBackend} {e : Remainder Unit}
    (h : Passed (b.state == .draining) old b')
    (hparse : daemonFormat.parse stream = ((link b'.trace).frames, e)) :
    ¬(b.state = .draining ∧ ∃ new f tail, BeginsWith stream (old ++ new ++ [f]) tail ∧
      (answer? f).isSome = true) := by
  rintro ⟨hdrain, new, f, tail, hbegins, hanswer⟩
  obtain ⟨passed, hframes, hpassed⟩ := h
  have hmore := exists_beginsWith_iff.mp ⟨tail, hbegins⟩
  rw [hparse, hframes, List.append_assoc, List.prefix_append_right_inj] at hmore
  have hmem : f ∈ passed := hmore.subset (by simp)
  simp [hpassed (by simp [hdrain]) f hmem] at hanswer

/-- A backend whose buffer agrees with the link pumps exactly. -/
theorem pumpExact_of_parsed (h : Parsed (b, none)) (hlink : onLink b.state = true) :
    PumpExact b := by
  obtain ⟨hpop, hconsumed⟩ := (parsed_none_iff hlink).mp h
  have hparse : daemonFormat.parse (link b.trace).received =
      ((link b.trace).frames, .pending b.parser) := by
    unfold Consumed at hconsumed
    rw [hconsumed, daemonFormat.parse_of_needMore hpop]
    simp
  have hbefore := parse_eq_pending_iff.mp hparse
  rcases poll_ends h hlink with ⟨hend, hsame⟩ | ⟨e, hend, hends⟩
  · have hparse' : daemonFormat.parse (link b.poll.trace).received =
        ((link b.poll.trace).frames, .pending b.parser) := by
      rw [hsame.received, hsame.frames]
      exact hparse
    have hpassed : Passed (b.state == .draining) (link b.trace).frames b.poll :=
      ⟨[], by simp [hsame.frames], by simp⟩
    refine ⟨hbefore, by simp [hend], ?_, ?_, by simp [hend]⟩
    · simpa [hend] using not_badHeader_of_pending hparse'
    · simpa [hend] using not_answered_of_passed hpassed hparse'
  · cases e with
    | idle | lost =>
        obtain ⟨hpassed, tail, hparse'⟩ := hends
        refine ⟨hbefore, by simp [hend], ?_, ?_, by simp [hend]⟩
        · simpa [hend] using not_badHeader_of_pending hparse'
        · simpa [hend] using not_answered_of_passed hpassed hparse'
    | unparsable =>
        obtain ⟨hdown, hpassed, hparse'⟩ := hends
        refine ⟨hbefore, by simp [hend], ?_, ?_, fun _ => hdown⟩
        · simpa [hend] using parse_eq_malformed_iff.mp hparse'
        · simpa [hend] using not_answered_of_passed hpassed hparse'
    | stuck => exact hends.elim
    | resolved =>
        obtain ⟨new, f, hframes, hanswer⟩ := hends.answered
        obtain ⟨tail, hbegins⟩ := exists_beginsWith_iff.mpr hends.parsed
        refine ⟨hbefore, by simp [hend], by simp [hend], ?_, fun _ => ?_⟩
        · rw [hframes] at hbegins
          have hdrain : b.state = .draining := by simpa using hends.draining
          exact iff_of_true hend ⟨hdrain, new, f, tail, hbegins, hanswer⟩
        · rw [hends.state]
          rfl

/-- In every run, whatever is called in between and however the bytes are cut: the
frames dispatched on an established link are exactly those of the stream received so
far, and a poll drops the link for a parse reason exactly at a malformed header. -/
theorem data_pump_exact (configTimeoutMs drainTimeoutMs : Nat) (calls : List Call) (now : Nat)
    (transport : DaemonTransport)
    (hlink : onLink (runCalls configTimeoutMs drainTimeoutMs calls).state = true) :
    PumpExact ((runCalls configTimeoutMs drainTimeoutMs calls).enter now transport) := by
  have hparsed := runCalls_parsed configTimeoutMs drainTimeoutMs calls
  exact pumpExact_of_parsed (hparsed.same rfl rfl rfl rfl) hlink

/-- A packet whose `TX_RESULT` is cut by the session giving up on it: two bytes before,
the rest while draining. -/
def abandonedCalls : List Call :=
  configureCalls readyStatus ++
    [{ now := 2
       transport := { dataSendSome := [.took 16] }
       method := .submitTx [0x42] },
     { now := 3
       transport := { dataRecv := [.data ⟨[0x04, 0x04], by decide⟩] }
       method := .poll },
     { now := 4, method := .abandonPendingTx }]

/-- A poll with a frame that straddles two reads, while the backend drains. -/
theorem data_pump_exact_straddling :
    let b := (runCalls 2000 30000 abandonedCalls).enter 5
      { dataRecv := [.data ⟨[0x00, 0x00, 0x00, 0x00, 0x00], by decide⟩] }
    PumpExact b ∧ b.state = .draining ∧ b.pollDataEnd = some .resolved := by
  refine ⟨data_pump_exact 2000 30000 abandonedCalls 5 _ (by decide +kernel), ?_, ?_⟩ <;>
    decide +kernel

end LorahamBackend

end LorahamBridge
