import LorahamBridge.Loraham.Link

/-!
# The frames of a DATA connection

However the daemon's DATA bytes are cut into reads, the frames the backend takes
off them are those of the whole stream, in order and each once.

Main results:

- Theorem `Micro.parsed`: the dispatched frames and the parser always are the
  parse of the bytes consumed so far.
- Theorem `Micro.dispatches`: every dispatched frame was received before.
-/

namespace LorahamBridge

open Foundation Loraham

namespace LorahamBackend

/-- The bytes the parser has been given are parsed into the dispatched frames, the
frames still in the buffer, and the buffer's incomplete rest. -/
def Consumed (b : LorahamBackend) (stream : Bytes) : Prop :=
  daemonFormat.parse stream =
    ((link b.trace).frames ++ (daemonFormat.parse b.parser).1,
      (daemonFormat.parse b.parser).2)

/-- Parsing state of a connection, by backend state. -/
def Parsed (x : Snapshot) : Prop :=
  match x.1.state, x.2 with
  | .disconnected, _ | .faulted, _ => True
  | .connecting, _ | .configuring, _ =>
      x.1.parser = [] ∧ (link x.1.trace).received = [] ∧ (link x.1.trace).frames = []
  | _, none => daemonFormat.pop x.1.parser = .needMore ∧ x.1.Consumed (link x.1.trace).received
  | _, some unread => ∃ stream, (link x.1.trace).received = stream ++ unread ∧ x.1.Consumed stream

/-- A step that keeps state, parser and DATA input keeps the parsing state. -/
theorem Parsed.same {b b' : LorahamBackend} {unread : Option Bytes} (h : Parsed (b, unread))
    (hstate : b'.state = b.state) (hparser : b'.parser = b.parser)
    (hreceived : (link b'.trace).received = (link b.trace).received)
    (hframes : (link b'.trace).frames = (link b.trace).frames) : Parsed (b', unread) := by
  unfold Parsed Consumed at h ⊢
  simpa only [hstate, hparser, hreceived, hframes] using h

theorem parsed_of_closed {b : LorahamBackend} {unread : Option Bytes}
    (h : b.state = .disconnected ∨ b.state = .faulted) : Parsed (b, unread) := by
  unfold Parsed
  rcases h with hs | hs <;> simp [hs]

/-- On an established link the parsing state is the one of the stream. -/
theorem parsed_none_iff {b : LorahamBackend} (hlink : onLink b.state = true) :
    Parsed (b, none) ↔
      daemonFormat.pop b.parser = .needMore ∧ b.Consumed (link b.trace).received := by
  unfold Parsed
  cases hs : b.state <;> simp_all [onLink, rxOk]

theorem parsed_some_iff {b : LorahamBackend} {unread : Bytes} (hlink : onLink b.state = true) :
    Parsed (b, some unread) ↔
      ∃ stream, (link b.trace).received = stream ++ unread ∧ b.Consumed stream := by
  unfold Parsed
  cases hs : b.state <;> simp_all [onLink, rxOk]

/-- A move between states of the established link. -/
theorem Parsed.move {b b' : LorahamBackend} (h : Parsed (b, none)) (hlink : onLink b.state = true)
    (hlink' : onLink b'.state = true) (hparser : b'.parser = b.parser)
    (hreceived : (link b'.trace).received = (link b.trace).received)
    (hframes : (link b'.trace).frames = (link b.trace).frames) : Parsed (b', none) := by
  have h := (parsed_none_iff hlink).mp h
  refine (parsed_none_iff hlink').mpr ?_
  simpa only [Consumed, hparser, hreceived, hframes] using h

/-- More bytes for a buffer without a whole frame. -/
theorem Consumed.push {b : LorahamBackend} {stream : Bytes} (h : b.Consumed stream)
    (hpop : daemonFormat.pop b.parser = .needMore) (data : Bytes) :
    (b.withParser (b.parser ++ data)).Consumed (stream ++ data) := by
  unfold Consumed at h ⊢
  rw [daemonFormat.parse_of_needMore hpop, List.append_nil] at h
  exact daemonFormat.parse_append_pending h data

/-- A frame moves from the buffer to the dispatched ones. -/
theorem Consumed.pop {b b' : LorahamBackend} {stream rest : Bytes} {f : Loraham.Frame}
    (h : b.Consumed stream) (hpop : daemonFormat.pop b.parser = .gotFrame f rest)
    (hparser : b'.parser = rest)
    (hframes : (link b'.trace).frames = (link b.trace).frames ++ [f]) : b'.Consumed stream := by
  unfold Consumed at h ⊢
  rw [daemonFormat.parse_of_gotFrame hpop] at h
  rw [h, hparser, hframes]
  simp

/-- The step of every popped frame that leaves the link up. -/
theorem Parsed.pop {b b' : LorahamBackend} {unread rest : Bytes} {f : Loraham.Frame}
    (h : Parsed (b, some unread)) (hlink : onLink b.state = true)
    (hlink' : onLink b'.state = true) (hpop : daemonFormat.pop b.parser = .gotFrame f rest)
    (hparser : b'.parser = rest)
    (hview : link b'.trace = (link b.trace).step (.dispatched f)) : Parsed (b', some unread) := by
  obtain ⟨stream, hreceived, hconsumed⟩ := (parsed_some_iff hlink).mp h
  refine (parsed_some_iff hlink').mpr ⟨stream, ?_, hconsumed.pop hpop hparser ?_⟩
  · rw [hview]
    exact hreceived
  · rw [hview]
    rfl

/-- Every quiet step keeps the parser in agreement with the bytes received. -/
theorem QuietStep.parsed {x y : Snapshot} (h : QuietStep x y) (hx : Parsed x) : Parsed y := by
  cases h with
  | answers | confWritten => exact hx.same rfl rfl rfl rfl
  | connected b hstate =>
      unfold Parsed at hx ⊢
      simpa [hstate] using hx
  | confWrite | configQuiet | confQuiet | confDiscard =>
      exact hx.same rfl rfl (by simp [sendConf_eq, Link.step]) (by simp [sendConf_eq, Link.step])
  | dataWrite => exact hx.same rfl rfl (by simp [sendData_eq, Link.step]) (by simp [sendData_eq, Link.step])
  | dataWriteLast b n hstate =>
      exact hx.move (by simp [hstate, onLink, rxOk]) rfl rfl (by simp [sendData_eq, Link.step])
        (by simp [sendData_eq, Link.step])
  | dataRead b chunk hlink =>
      obtain ⟨hpop, hconsumed⟩ := (parsed_none_iff hlink).mp hx
      refine (parsed_some_iff (b := b.record (.dataReceived chunk)) hlink).mpr
        ⟨(link b.trace).received, by simp [Link.step], ?_⟩
      unfold Consumed at hconsumed ⊢
      rw [hconsumed]
      simp [record, Link.step]
  | dataPush b unread k hlink hpop =>
      obtain ⟨stream, hreceived, hconsumed⟩ := (parsed_some_iff hlink).mp hx
      refine (parsed_some_iff (b := b.withParser (b.parser ++ unread.take k)) hlink).mpr
        ⟨stream ++ unread.take k, ?_, hconsumed.push hpop _⟩
      simpa [withParser] using hreceived
  | dataDrained b hlink hpop =>
      obtain ⟨stream, hreceived, hconsumed⟩ := (parsed_some_iff hlink).mp hx
      refine (parsed_none_iff hlink).mpr ⟨hpop, ?_⟩
      rwa [hreceived, List.append_nil]
  | dataIgnored b unread f rest hlink hpop =>
      exact hx.pop hlink hlink hpop rfl (by simp)
  | dataHeard b unread f rest rx hstate hpop =>
      have hlink : onLink b.state = true := by simp [hstate, onLink]
      exact hx.pop hlink hlink hpop rfl (by simp [link_append, Link.step])
  | dataFenced b unread f rest outcome hstate hpop =>
      exact hx.pop (by simp [hstate, onLink, rxOk]) rfl hpop rfl (by simp)
  | dataCleared => exact parsed_of_closed (Or.inl rfl)
  | discard b unread hstate => exact parsed_of_closed (Or.inl hstate)
  | drainLost | drainExpired => exact parsed_of_closed (Or.inr rfl)

theorem CallStep.parsed {call : SinkCall} {x y : Snapshot} (h : CallStep call x y)
    (hx : Parsed x) : Parsed y := by
  cases h with
  | configSucceed b chunk rest hstate =>
      have h : b.parser = [] ∧ (link b.trace).received = [] ∧ (link b.trace).frames = [] := by
        unfold Parsed at hx
        simpa [hstate] using hx
      have hparser : (b.takeConf chunk rest).configSucceed.parser = [] := h.1
      refine (parsed_none_iff rfl).mpr ?_
      rw [Consumed, hparser]
      simp [Link.step, h, daemonFormat.pop_nil]
  | configFail => exact parsed_of_closed (Or.inl rfl)
  | lost b c =>
      exact parsed_of_closed (handleDisconnect_state c)
  | received b unread f rest rx hstate hpop =>
      have hlink := onLink_of_rxOk hstate
      exact hx.pop hlink hlink hpop rfl (by simp [link_append, Link.step])
  | completed b unread f rest outcome hstate hpop =>
      exact hx.pop (by simp [hstate, onLink, rxOk]) rfl hpop rfl (by simp)

/-- Every step keeps the parsing state. -/
theorem Micro.parsed {x y : Snapshot} (h : Micro x y) (hx : Parsed x) : Parsed y := by
  cases h with
  | poll h =>
      cases h with
      | quiet h => exact h.parsed hx
      | call h => exact h.parsed hx
  | environment | attach => exact hx.same rfl rfl rfl rfl
  | openLink => simp [Parsed, LorahamBackend.openLink, Link.step, Link.none]
  | connectRefused =>
      exact hx.same rfl rfl (by simp [Link.step]) (by simp [Link.step])
  | holdTx b data hstate =>
      exact hx.move (by simp [hstate, onLink, rxOk]) rfl rfl
        (by simp [LorahamBackend.holdTx, Link.step]) (by simp [LorahamBackend.holdTx, Link.step])
  | abandon b hstate => exact hx.move (by simp [hstate, onLink, rxOk]) rfl rfl rfl rfl
  | reset => exact parsed_of_closed (Or.inl rfl)

/-! ## Dispatched frames were received -/

/-- The dispatched frames stand at the front of the received stream. -/
def Dispatches (l : Link) : Prop :=
  l.frames <+: (daemonFormat.parse l.received).1

/-- The frame at the front of the parser was received. -/
theorem Parsed.received {b : LorahamBackend} {unread rest : Bytes} {f : Loraham.Frame}
    (h : Parsed (b, some unread)) (hlink : onLink b.state = true)
    (hpop : daemonFormat.pop b.parser = .gotFrame f rest) :
    Dispatches ((link b.trace).step (.dispatched f)) := by
  obtain ⟨stream, hreceived, hconsumed⟩ := (parsed_some_iff hlink).mp h
  change (link b.trace).frames ++ [f] <+: (daemonFormat.parse (link b.trace).received).1
  rw [hreceived]
  refine List.IsPrefix.trans ?_ (daemonFormat.parse_prefix_append stream unread)
  rw [hconsumed, daemonFormat.parse_of_gotFrame hpop]
  simp

/-- Every quiet step dispatches the frames in the order of the bytes. -/
theorem QuietStep.dispatches {x y : Snapshot} (h : QuietStep x y) (hparsed : Parsed x)
    (hx : Dispatches (link x.1.trace)) : Dispatches (link y.1.trace) := by
  cases h with
  | answers | connected | confWritten | dataPush | dataDrained | discard => exact hx
  | confWrite | configQuiet | confQuiet | dataWrite | dataWriteLast | confDiscard =>
      simpa [sendConf_eq, sendData_eq, Dispatches, Link.step] using hx
  | dataRead b chunk =>
      rw [link_record]
      exact hx.trans (daemonFormat.parse_prefix_append _ chunk)
  | dataIgnored b unread f rest hlink hpop => simpa using hparsed.received hlink hpop
  | dataHeard b unread f rest rx hstate hpop =>
      have h := hparsed.received (by simp [hstate, onLink]) hpop
      simpa [link_append, Link.step] using h
  | dataFenced b unread f rest outcome hstate hpop =>
      simpa using hparsed.received (by simp [hstate, onLink, rxOk]) hpop
  | dataCleared b unread f rest outcome hstate hpop =>
      have h := hparsed.received (by simp [hstate, onLink]) hpop
      simpa [Dispatches, Link.step] using h
  | drainLost | drainExpired => simpa [Dispatches, Link.step] using hx

theorem CallStep.dispatches {call : SinkCall} {x y : Snapshot} (h : CallStep call x y)
    (hparsed : Parsed x) (hx : Dispatches (link x.1.trace)) : Dispatches (link y.1.trace) := by
  cases h with
  | configSucceed => simpa [Dispatches, Link.step] using hx
  | configFail b c hc | lost b c _ hc =>
      rcases hc with rfl | ⟨chunk, line, rfl⟩ <;> simpa [Dispatches, Link.step] using hx
  | received b unread f rest rx hstate hpop =>
      have h := hparsed.received (onLink_of_rxOk hstate) hpop
      simpa [link_append, Link.step] using h
  | completed b unread f rest outcome hstate hpop =>
      simpa using hparsed.received (by simp [hstate, onLink, rxOk]) hpop

theorem Micro.dispatches {x y : Snapshot} (h : Micro x y) (hparsed : Parsed x)
    (hx : Dispatches (link x.1.trace)) : Dispatches (link y.1.trace) := by
  cases h with
  | poll h =>
      cases h with
      | quiet h => exact h.dispatches hparsed hx
      | call h => exact h.dispatches hparsed hx
  | environment | attach | abandon => exact hx
  | openLink => simp [LorahamBackend.openLink, Dispatches, Link.step, Link.none]
  | connectRefused | holdTx | reset =>
      simpa [LorahamBackend.holdTx, Dispatches, Link.step] using hx

end LorahamBackend

end LorahamBridge
