import LorahamBridge.Xr.SessionRun
import LorahamBridge.Xr.SessionView

/-!
# Client bytes in any pieces

A client's bytes reach the session in reads of any size.  The session is the same
afterwards however they were cut: it has handled the frames of the whole stream, up
to a malformed header or the frame that closed it.

Main results:

- Theorem `feed_parse`: one read as a fold over its parsed frames.
- Theorem `feedAll_parse`: any number of reads as a fold over the parsed stream.
- Theorem `feed_fragmentation`: the same outcome for every way of cutting.
-/

namespace LorahamBridge

open Foundation Extradio

namespace XrSession

/-! ## No handler looks at the parser -/

section Parser

variable {β : Type} (R : RadioBackend β) (env : XrEnv) (now : Nat) (buf : Bytes)

/-- The last buffer counts. -/
@[simp]
theorem withParser_withParser (buf' : Bytes) (s : XrSession) :
    (s.withParser buf).withParser buf' = s.withParser buf' :=
  rfl

/-- Closing does not look at the unparsed bytes, which stay as they are. -/
theorem close_withParser (reason : CloseReason) (s : XrSession) :
    (s.withParser buf).close reason = (s.close reason).withParser buf := by
  unfold close
  change (if s.phase = .closed then _ else _) = _
  split <;> rfl

theorem emit_withParser (type : MsgType) (seq : UInt16) (payload : Bytes) (s : XrSession) :
    (s.withParser buf).emit env type seq payload =
      ((s.emit env type seq payload).1, (s.emit env type seq payload).2.withParser buf) := by
  have houtbox : (s.withParser buf).outbox = s.outbox := rfl
  unfold emit
  cases encode kMaxFrame type seq payload with
  | none => simp only [close_withParser]
  | some bytes =>
      simp only [houtbox]
      cases s.outbox.append env.grow bytes with
      | none => simp only [close_withParser]
      | some outbox => rfl

theorem emitAndClose_withParser (type : MsgType) (payload : Bytes) (reason : CloseReason)
    (s : XrSession) :
    (s.withParser buf).emitAndClose env type payload reason =
      (s.emitAndClose env type payload reason).withParser buf := by
  unfold emitAndClose
  rw [emit_withParser, close_withParser]

/-- The challenge of `handleHello`. -/
theorem challenge_withParser (nonce : Nonce) (s : XrSession) :
    (match emit env .authChallenge 0 nonce.bytes
        { s.withParser buf with nonce := nonce.bytes } with
      | (false, s) => s
      | (true, s) => arm now env.timeouts.authMs .authTimeout { s with phase := .waitAuth }) =
    (match emit env .authChallenge 0 nonce.bytes { s with nonce := nonce.bytes } with
      | (false, s) => s
      | (true, s) =>
          arm now env.timeouts.authMs .authTimeout { s with phase := .waitAuth }).withParser
      buf := by
  have hemit : emit env .authChallenge 0 nonce.bytes
      { s.withParser buf with nonce := nonce.bytes } = _ :=
    emit_withParser env buf .authChallenge 0 nonce.bytes { s with nonce := nonce.bytes }
  rw [hemit]
  generalize emit env .authChallenge 0 nonce.bytes { s with nonce := nonce.bytes } = r
  obtain ⟨sent, s⟩ := r
  cases sent <;> rfl

/-- The handler of `HELLO` does not look at the unparsed bytes. -/
theorem handleHello_withParser (s : XrSession) :
    (s.withParser buf).handleHello env now = (s.handleHello env now).withParser buf := by
  unfold handleHello
  rw [emit_withParser]
  generalize s.emit env .helloAck 0 [kVersion] = r
  obtain ⟨sent, s⟩ := r
  cases sent with
  | false => rfl
  | true =>
      simp only
      split
      · cases s with
        | mk id entropy =>
          cases entropy with
          | none => exact close_withParser buf _ _
          | some nonce => exact challenge_withParser env now buf nonce _
      · rw [emit_withParser]
        generalize s.emit env .authResult 0 [authOk] = r
        obtain ⟨sent, s⟩ := r
        cases sent <;> rfl

theorem handleAuthResponse_withParser (f : Frame) (s : XrSession) :
    (s.withParser buf).handleAuthResponse env now f =
      (s.handleAuthResponse env now f).withParser buf := by
  unfold handleAuthResponse
  have hnonce : (s.withParser buf).nonce = s.nonce := rfl
  simp only [hnonce]
  have hrecord : ∀ e, (s.withParser buf).record e = (s.record e).withParser buf := fun _ => rfl
  rw [hrecord]
  generalize s.record _ = s
  split
  · rw [emit_withParser]
    generalize s.emit env .authResult 0 [authOk] = r
    obtain ⟨sent, s⟩ := r
    cases sent <;> rfl
  · exact emitAndClose_withParser env buf _ _ _ s

theorem handleConfigure_withParser (f : Frame) (s : XrSession) (b : β) :
    handleConfigure R env now f (s.withParser buf) b =
      ((handleConfigure R env now f s b).1.withParser buf, (handleConfigure R env now f s b).2) := by
  unfold handleConfigure
  cases (decodeConfig f).filter radioConfigValid with
  | none => simp only [emitAndClose_withParser]
  | some requested =>
      simp only
      generalize R.beginConfigure requested b = r
      obtain ⟨token, b⟩ := r
      have hrecord : ∀ e, (s.withParser buf).record e = (s.record e).withParser buf := fun _ => rfl
      split
      · rw [hrecord, emitAndClose_withParser]
      · rfl

theorem handleReadyFrame_withParser (f : Frame) (s : XrSession) (b : β) :
    handleReadyFrame R env now f (s.withParser buf) b =
      ((handleReadyFrame R env now f s b).1.withParser buf,
        (handleReadyFrame R env now f s b).2) := by
  unfold handleReadyFrame submitRequest
  have hpong : (s.withParser buf).awaitingPong = s.awaitingPong := rfl
  have hflight : (s.withParser buf).txInFlight = s.txInFlight := rfl
  simp only [hpong, hflight, close_withParser]
  split
  · split <;> rfl
  · split
    · rfl
    · generalize R.submitTx f.payload b = r
      obtain ⟨accepted, b⟩ := r
      cases accepted with
      | true => rfl
      | false =>
          exact Prod.ext (close_withParser buf _ (record (.submitCalled f.seq f.payload false)
            { s with txSeq := f.seq })) rfl
  · rfl

/-- Handling a frame neither reads nor changes the buffered bytes. -/
theorem handleFrame_withParser (f : Frame) (s : XrSession) (b : β) :
    handleFrame R env now f (s.withParser buf) b =
      ((handleFrame R env now f s b).1.withParser buf, (handleFrame R env now f s b).2) := by
  unfold handleFrame
  have hrecord : (s.withParser buf).record (.received f) =
      (s.record (.received f)).withParser buf := rfl
  have hphase : ∀ s : XrSession, (s.withParser buf).phase = s.phase := fun _ => rfl
  simp only [hrecord, hphase, close_withParser, handleHello_withParser,
    handleAuthResponse_withParser, handleConfigure_withParser, handleReadyFrame_withParser]
  generalize s.record (.received f) = s
  repeat' split
  all_goals rfl

end Parser

/-! ## A stream of frames -/

section Feed

variable {β : Type} (R : RadioBackend β) (env : XrEnv) (now : Nat)

/-- A session without its buffered bytes, and its backend. -/
def bare (q : XrSession × β) : XrSession × β :=
  (q.1.withParser [], q.2)

/-- Handle frames one after the other until the session closes. -/
def handleFrames (frames : List Frame) (q : XrSession × β) : XrSession × β :=
  FrameFormat.consume (fun f q => handleFrame R env now f q.1 q.2)
    (fun q => q.1.phase == .closed) frames q

/-- Handle the frames of a parsed stream, and close on a malformed header behind them. -/
def digest (parsed : List Frame × Remainder ErrorCode) (q : XrSession × β) : XrSession × β :=
  let r := handleFrames R env now parsed.1 q
  if r.1.phase = .closed then r
  else
    match parsed.2 with
    | .pending _ => r
    | .malformed _ => (r.1.close .parserError, r.2)

/-- How the loop of `feed` ends. -/
def feedExit (data : Bytes) (s : XrSession) (b : β) : DriveExit ErrorCode :=
  (xrFormat.drive (fun f rest p => handleFrame R env now f (p.1.withParser rest) p.2)
    (fun p => p.1.phase == .closed) s.parser data (s, b)).exit

/-- Several reads, one after the other. -/
def feedAll (reads : List Bytes) (q : XrSession × β) : XrSession × β :=
  reads.foldl (fun q data => feed R env now data q.1 q.2) q

variable {R env now}

/-- Frames are handled one after the other. -/
theorem handleFrames_append (frames more : List Frame) (q : XrSession × β) :
    handleFrames R env now (frames ++ more) q =
      handleFrames R env now more (handleFrames R env now frames q) :=
  FrameFormat.consume_append _ _ frames more q

/-- A closed session handles none. -/
theorem handleFrames_of_closed {q : XrSession × β} (h : q.1.phase = .closed)
    (frames : List Frame) : handleFrames R env now frames q = q :=
  FrameFormat.consume_of_stop _ _ (by simp [h]) frames

/-- An open session handles the first one first. -/
theorem handleFrames_cons {q : XrSession × β} (h : q.1.phase ≠ .closed) (f : Frame)
    (frames : List Frame) :
    handleFrames R env now (f :: frames) q =
      handleFrames R env now frames (handleFrame R env now f q.1 q.2) := by
  simp [handleFrames, FrameFormat.consume, h]

/-- A closed session ignores what it is fed. -/
theorem feed_of_closed {s : XrSession} (h : s.phase = .closed) (data : Bytes) (b : β) :
    feed R env now data s b = (s, b) := by
  rw [feed, if_pos h]

/-- A closed session ignores all reads. -/
theorem feedAll_of_closed {q : XrSession × β} (h : q.1.phase = .closed) (reads : List Bytes) :
    feedAll R env now reads q = q := by
  induction reads with
  | nil => rfl
  | cons data reads ih =>
      rw [feedAll, List.foldl_cons, feed_of_closed h]
      exact ih

variable (R env now) in
/-- One read handles the frames of the buffered bytes and the read. -/
theorem feed_parse (data : Bytes) {s : XrSession} (b : β) (hopen : s.phase ≠ .closed) :
    bare (feed R env now data s b) =
        digest R env now (xrFormat.parse (s.parser ++ data)) (bare (s, b)) ∧
      ((feed R env now data s b).1.phase ≠ .closed →
        (xrFormat.parse (s.parser ++ data)).2 = .pending (feed R env now data s b).1.parser) ∧
      feedExit R env now data s b ≠ .stuck := by
  obtain ⟨hview, hexit⟩ := xrFormat.drive_parse
    (fun f rest (p : XrSession × β) => handleFrame R env now f (p.1.withParser rest) p.2)
    (fun p => p.1.phase == .closed)
    (fun f q => handleFrame R env now f q.1 q.2) (fun q => q.1.phase == .closed) bare
    (fun f rest p => by
      have hbare := handleFrame_withParser R env now [] f p.1 p.2
      simp only [bare]
      rw [handleFrame_withParser, hbare]
      rfl)
    (fun _ => rfl) s.parser data (s, b) (by simpa using hopen)
  unfold feed feedExit digest handleFrames
  rw [if_neg hopen, ← hview]
  simp only
  generalize xrFormat.drive _ _ s.parser data (s, b) = r at hexit
  obtain ⟨exit, buf, s', b'⟩ := r
  simp only [beq_iff_eq, beq_eq_false_iff_ne] at hexit
  have hphase : (bare (s', b')).1.phase = s'.phase := rfl
  rcases hexit with ⟨rfl, hclosed⟩ | ⟨hrun, ⟨e, rfl, hrest⟩ | ⟨rfl, hrest⟩⟩
  · rw [hphase, if_pos hclosed]
    exact ⟨rfl, fun hnot => absurd hclosed hnot, by simp⟩
  · rw [hphase, if_neg hrun, hrest]
    refine ⟨?_, ?_, by simp⟩
    · simp only [bare, close_withParser]
      rfl
    · intro hnot
      simp [close_of_open (s := s'.withParser buf) .parserError hrun, shut] at hnot
  · rw [hphase, if_neg hrun, hrest]
    exact ⟨rfl, fun _ => rfl, by simp⟩

/-- Digesting whole frames is handling them. -/
theorem digest_pending (frames : List Frame) (rest : Bytes) (q : XrSession × β) :
    digest R env now (frames, .pending rest) q = handleFrames R env now frames q := by
  simp only [digest]
  split <;> rfl

theorem digest_nil (rest : Bytes) (q : XrSession × β) :
    digest R env now ([], .pending rest) q = q :=
  digest_pending [] rest q

/-- A closed session digests nothing. -/
theorem digest_of_closed {q : XrSession × β} (h : q.1.phase = .closed)
    (parsed : List Frame × Remainder ErrorCode) : digest R env now parsed q = q := by
  simp only [digest, handleFrames_of_closed h, if_pos h]

/-- An incomplete stream is continued by what follows it. -/
theorem digest_append {stream rest : Bytes} {frames : List Frame}
    (hparse : xrFormat.parse stream = (frames, .pending rest)) (more : Bytes)
    (q : XrSession × β) :
    digest R env now (xrFormat.parse (stream ++ more)) q =
      digest R env now (xrFormat.parse (rest ++ more))
        (digest R env now (frames, .pending rest) q) := by
  rw [xrFormat.parse_append_pending hparse, digest_pending]
  simp only [digest, handleFrames_append]

/-- What follows a stream that closed the session makes no difference. -/
theorem digest_append_of_closed {stream : Bytes} {q : XrSession × β}
    (h : (digest R env now (xrFormat.parse stream) q).1.phase = .closed) (more : Bytes) :
    digest R env now (xrFormat.parse (stream ++ more)) q =
      digest R env now (xrFormat.parse stream) q := by
  cases hparse : xrFormat.parse stream with
  | mk frames rest =>
      rw [hparse] at h
      cases rest with
      | malformed e => rw [xrFormat.parse_append_malformed hparse]
      | pending rest => rw [digest_append hparse, digest_of_closed h]

variable (R env now) in
/-- Any number of reads handle the frames of the whole stream. -/
theorem feedAll_parse (reads : List Bytes) {s : XrSession} (b : β) (hopen : s.phase ≠ .closed)
    (hpending : xrFormat.pop s.parser = .needMore) :
    let r := feedAll R env now reads (s, b)
    let parsed := xrFormat.parse (s.parser ++ reads.flatten)
    bare r = digest R env now parsed (bare (s, b)) ∧
      (r.1.phase ≠ .closed → parsed.2 = .pending r.1.parser) := by
  induction reads generalizing s b with
  | nil =>
      simp only [feedAll, List.foldl_nil, List.flatten_nil, List.append_nil,
        xrFormat.parse_of_needMore hpending]
      exact ⟨(digest_nil s.parser (bare (s, b))).symm, fun _ => trivial⟩
  | cons data reads ih =>
      obtain ⟨hview, hparser, -⟩ := feed_parse R env now data b hopen
      have hcons : feedAll R env now (data :: reads) (s, b) =
          feedAll R env now reads (feed R env now data s b) := rfl
      simp only [hcons, List.flatten_cons, ← List.append_assoc]
      generalize feed R env now data s b = q at hview hparser
      by_cases hclosed : q.1.phase = .closed
      · rw [feedAll_of_closed hclosed]
        refine ⟨?_, fun hnot => absurd hclosed hnot⟩
        have hdigest : (digest R env now (xrFormat.parse (s.parser ++ data))
            (bare (s, b))).1.phase = .closed := by
          rw [← hview]
          exact hclosed
        rw [digest_append_of_closed hdigest, hview]
      · have hrest := hparser hclosed
        have hparse : xrFormat.parse (s.parser ++ data) =
            ((xrFormat.parse (s.parser ++ data)).1, .pending q.1.parser) := Prod.ext rfl hrest
        have hpop := xrFormat.pop_of_parse_pending hparse
        obtain ⟨hih, hih'⟩ := ih q.2 hclosed hpop
        rw [hparse] at hview
        refine ⟨?_, ?_⟩
        · rw [digest_append hparse, ← hview]
          exact hih
        · intro hnot
          rw [xrFormat.parse_append_pending hparse]
          exact hih' hnot

/-! ## The frames handled -/

theorem receivedFrames_emitted (frames : List Frame) :
    receivedFrames (frames.map SessionEvent.emitted) = [] := by
  simp [receivedFrames, List.filterMap_map]

/-- A handled frame is the next one received. -/
theorem FrameOutcome.received {f : Frame} {s s' : XrSession} {b b' : β}
    (h : FrameOutcome R env now f s b (s', b')) :
    receivedFrames s'.log = receivedFrames s.log ++ [f] := by
  cases h <;>
    simp only [shut, arm, queue, record, acceptPong, receivedFrames_append,
      receivedFrames_emitted] <;>
    simp [receivedFrames]

/-- Handling a frame records it as received. -/
theorem handleFrame_received (f : Frame) {q : XrSession × β} (hopen : q.1.phase ≠ .closed) :
    receivedFrames (handleFrame R env now f q.1 q.2).1.log = receivedFrames q.1.log ++ [f] :=
  (handleFrame_cases R env now f q.2 hopen).received

/-- The frames are handled in order, up to the one that closes the session. -/
theorem handleFrames_received (frames : List Frame) (q : XrSession × β) :
    ∃ k ≤ frames.length,
      receivedFrames (handleFrames R env now frames q).1.log =
        receivedFrames q.1.log ++ frames.take k ∧
      (∀ j < k, (handleFrames R env now (frames.take j) q).1.phase ≠ .closed) ∧
      (k < frames.length → (handleFrames R env now (frames.take k) q).1.phase = .closed) := by
  induction frames generalizing q with
  | nil => exact ⟨0, by simp, by simp [handleFrames, FrameFormat.consume], by simp, by simp⟩
  | cons f frames ih =>
      by_cases hclosed : q.1.phase = .closed
      · refine ⟨0, by simp, by simp [handleFrames_of_closed hclosed], by simp, fun _ => ?_⟩
        simpa [handleFrames_of_closed hclosed] using hclosed
      · obtain ⟨k, hk, hreceived, hbefore, hafter⟩ := ih (handleFrame R env now f q.1 q.2)
        refine ⟨k + 1, by simpa using hk, ?_, ?_, ?_⟩
        · rw [handleFrames_cons hclosed, hreceived, handleFrame_received f hclosed]
          simp
        · intro j hj
          cases j with
          | zero => exact hclosed
          | succ j =>
              rw [List.take_succ_cons, handleFrames_cons hclosed]
              exact hbefore j (by omega)
        · intro hlt
          rw [List.take_succ_cons, handleFrames_cons hclosed]
          exact hafter (by simpa using hlt)

/-- A parse error behind the frames is not received. -/
theorem digest_received (parsed : List Frame × Remainder ErrorCode) (q : XrSession × β) :
    receivedFrames (digest R env now parsed q).1.log =
      receivedFrames (handleFrames R env now parsed.1 q).1.log := by
  simp only [digest]
  split
  · rfl
  · rename_i hopen
    split
    · rfl
    · rw [close_of_open _ hopen]
      simp only [shut, receivedFrames_append]
      simp [receivedFrames]

variable (R env now) in
/-- What any number of reads leave unhandled, and why. -/
theorem feedAll_handled (reads : List Bytes) {s : XrSession} (b : β)
    (hpending : s.phase ≠ .closed → xrFormat.pop s.parser = .needMore) :
    let r := feedAll R env now reads (s, b)
    let parsed := xrFormat.parse (s.parser ++ reads.flatten)
    ∃ k ≤ parsed.1.length,
      receivedFrames r.1.log = receivedFrames s.log ++ parsed.1.take k ∧
      (∀ j < k, (handleFrames R env now (parsed.1.take j) (bare (s, b))).1.phase ≠ .closed) ∧
      (k < parsed.1.length →
        (handleFrames R env now (parsed.1.take k) (bare (s, b))).1.phase = .closed) ∧
      (r.1.phase ≠ .closed → parsed.2 = .pending r.1.parser) ∧
      (r.1.phase = .closed →
        (handleFrames R env now (parsed.1.take k) (bare (s, b))).1.phase = .closed ∨
        (k = parsed.1.length ∧ (∃ e, parsed.2 = .malformed e) ∧
          r.1.closeReason = .parserError)) := by
  intro r parsed
  by_cases hclosed : s.phase = .closed
  · have hr : r = (s, b) := feedAll_of_closed hclosed reads
    have hstart : (handleFrames R env now (parsed.1.take 0) (bare (s, b))).1.phase = .closed :=
      hclosed
    refine ⟨0, by simp, by simp [hr], by simp, fun _ => hstart, ?_, fun _ => Or.inl hstart⟩
    rw [hr]
    exact fun hopen => absurd hclosed hopen
  · obtain ⟨k, hk, hreceived, hbefore, hafter⟩ :=
      handleFrames_received (R := R) parsed.1 (bare (s, b))
    obtain ⟨hview, hparser⟩ := feedAll_parse R env now reads b hclosed (hpending hclosed)
    refine ⟨k, hk, ?_, hbefore, hafter, hparser, ?_⟩
    · have hlog : receivedFrames r.1.log = receivedFrames (bare r).1.log := rfl
      rw [hlog, hview, digest_received]
      exact hreceived
    · intro hdown
      have hlast : k = parsed.1.length ∨ k < parsed.1.length := by omega
      rcases hlast with hlast | hlt
      · rw [hlast, List.take_length]
        by_cases hopen : (handleFrames R env now parsed.1 (bare (s, b))).1.phase = .closed
        · exact Or.inl hopen
        · right
          change bare r = digest R env now parsed (bare (s, b)) at hview
          have hreason : r.1.closeReason = (bare r).1.closeReason := rfl
          have hphase : r.1.phase = (bare r).1.phase := rfl
          rw [hphase, hview] at hdown
          rw [hreason, hview]
          simp only [digest, if_neg hopen] at hdown ⊢
          cases hrest : parsed.2 with
          | pending rest =>
              rw [hrest] at hdown
              exact absurd hdown hopen
          | malformed e => simp [close_of_open _ hopen, shut]
      · exact Or.inl (hafter hlt)

end Feed

end XrSession

/-! ## Every reachable session -/

section Reachable

variable {β : Type} {R : RadioBackend β} {env : XrEnv}

/-- A tick leaves the unparsed bytes of a session that stays open. -/
theorem XrSession.TickOutcome.parser {now : Nat} {s s' : XrSession} {b b' : β}
    (h : XrSession.TickOutcome R env now s b (s', b')) (hopen : s'.phase ≠ .closed) :
    s.phase ≠ .closed ∧ s'.parser = s.parser := by
  cases h with
  | quiet => exact ⟨hopen, rfl⟩
  | pinged _ hphase => exact ⟨by simp [hphase], rfl⟩
  | expired | abandoned => simp [XrSession.shut] at hopen

theorem XrSession.CallOutcome.parser {now : Nat} {s s' : XrSession} {call : SinkCall}
    (h : XrSession.CallOutcome env now s call s') (hopen : s'.phase ≠ .closed) :
    s.phase ≠ .closed ∧ s'.parser = s.parser := by
  cases h with
  | ignored => exact ⟨hopen, rfl⟩
  | forwarded _ _ hphase | completed _ _ hphase | configured _ _ _ hphase =>
      exact ⟨by simp [hphase], rfl⟩
  | failed | rxOverflow | completeOverflow | configOverflow | configFailed =>
      simp [XrSession.shut] at hopen

/-- A flush touches neither the unparsed bytes nor the phase. -/
theorem XrConnection.flush_buffered (answers : List SendAnswer) (c : XrConnection) :
    (c.flush answers).session.parser = c.session.parser ∧
      (c.flush answers).session.phase = c.session.phase := by
  induction answers generalizing c with
  | nil => exact ⟨rfl, rfl⟩
  | cons answer answers ih =>
      unfold XrConnection.flush
      split
      · exact ⟨rfl, rfl⟩
      · cases answer with
        | failed => exact ⟨rfl, rfl⟩
        | took n =>
            simp only
            split
            · exact ⟨rfl, rfl⟩
            · exact ih _

/-- Between two operations an open session buffers less than a frame. -/
theorem run_buffered (o : XrConnection.Opening β) (ops : List (XrConnection.Op β)) :
    (XrConnection.run R env o ops).1.session.phase ≠ .closed →
      xrFormat.pop (XrConnection.run R env o ops).1.session.parser = .needMore := by
  induction ops using List.reverseRecOn with
  | nil => exact fun _ => xrFormat.pop_nil
  | append_singleton ops op ih =>
      have hflight := (SessionInvariant.inFlight R env).run o ops trivial (by simp)
      rw [XrConnection.run_append_singleton]
      generalize XrConnection.run R env o ops = p at ih hflight
      unfold XrConnection.step
      split
      · rename_i data _
        intro hopen
        by_cases hclosed : p.1.session.phase = .closed
        · rw [XrSession.feed_of_closed hclosed] at hopen
          exact absurd hclosed hopen
        · have hparse := (XrSession.feed_parse R env op.now data p.2 hclosed).2.1 hopen
          exact xrFormat.pop_of_parse_pending (Prod.ext rfl hparse)
      · intro hopen
        have h := (XrSession.tick_cases R env op.now p.1.session p.2).parser hopen
        exact h.2 ▸ ih h.1
      · rename_i call _
        intro hopen
        have h := (XrSession.onCall_cases env op.now call hflight).parser hopen
        exact h.2 ▸ ih h.1
      · rename_i answers _
        intro hopen
        obtain ⟨hparser, hphase⟩ := XrConnection.flush_buffered answers p.1
        rw [hphase] at hopen
        rw [hparser]
        exact ih hopen
      · exact ih

end Reachable

/-- The sessions cannot be told apart: they agree in everything but the bytes
buffered by a closed one, and so do their backends. -/
def Indistinguishable {β : Type} (q q' : XrSession × β) : Prop :=
  XrSession.bare q = XrSession.bare q' ∧ (q.1.phase ≠ .closed → q.1.parser = q'.1.parser)

open XrSession in
/-- In every reachable state, bytes fed in any pieces have one outcome.  The frames
handled are those of the whole stream, up to a malformed header or the frame that
closes the session, and the loop never stops on a parser that takes no byte. -/
theorem feed_fragmentation {β : Type} (R : RadioBackend β) (env : XrEnv)
    (o : XrConnection.Opening β) (ops : List (XrConnection.Op β)) (now : Nat) :
    let s := (XrConnection.run R env o ops).1.session
    let b := (XrConnection.run R env o ops).2
    (∀ reads reads' : List Bytes, reads.flatten = reads'.flatten →
      Indistinguishable (feedAll R env now reads (s, b)) (feedAll R env now reads' (s, b))) ∧
    (∀ reads : List Bytes,
      let r := feedAll R env now reads (s, b)
      let parsed := xrFormat.parse (s.parser ++ reads.flatten)
      ∃ k ≤ parsed.1.length,
        receivedFrames r.1.log = receivedFrames s.log ++ parsed.1.take k ∧
        (∀ j < k, (handleFrames R env now (parsed.1.take j) (bare (s, b))).1.phase ≠ .closed) ∧
        (k < parsed.1.length →
          (handleFrames R env now (parsed.1.take k) (bare (s, b))).1.phase = .closed) ∧
        (r.1.phase ≠ .closed → parsed.2 = .pending r.1.parser) ∧
        (r.1.phase = .closed →
          (handleFrames R env now (parsed.1.take k) (bare (s, b))).1.phase = .closed ∨
          (k = parsed.1.length ∧ (∃ e, parsed.2 = .malformed e) ∧
            r.1.closeReason = .parserError))) ∧
    ∀ (reads : List Bytes) (data : Bytes),
      let r := feedAll R env now reads (s, b)
      r.1.phase ≠ .closed → feedExit R env now data r.1 r.2 ≠ .stuck := by
  intro s b
  have hpending : s.phase ≠ .closed → xrFormat.pop s.parser = .needMore := run_buffered o ops
  refine ⟨?_, ?_, ?_⟩
  · intro reads reads' hflat
    by_cases hclosed : s.phase = .closed
    · rw [feedAll_of_closed hclosed, feedAll_of_closed hclosed]
      exact ⟨rfl, fun _ => rfl⟩
    · obtain ⟨hview, hparser⟩ := feedAll_parse R env now reads b hclosed (hpending hclosed)
      obtain ⟨hview', hparser'⟩ := feedAll_parse R env now reads' b hclosed (hpending hclosed)
      rw [← hflat] at hview' hparser'
      have hsame := hview.trans hview'.symm
      refine ⟨hsame, fun hopen => ?_⟩
      have hphase : (feedAll R env now reads (s, b)).1.phase =
          (feedAll R env now reads' (s, b)).1.phase := congrArg (fun q => q.1.phase) hsame
      have hrest := (hparser hopen).symm.trans (hparser' (hphase ▸ hopen))
      exact Remainder.pending.inj hrest
  · exact fun reads => feedAll_handled R env now reads b hpending
  · intro reads data r hopen
    exact (feed_parse R env now data r.2 hopen).2.2

end LorahamBridge
