import LorahamBridge.Foundation.ByteOrder

/-!
# Length-prefixed frame streams

A frame on a byte stream is a header of fixed length, which announces the length
of the payload or is malformed, followed by that payload.  Bytes arrive in
arbitrary pieces, so a receiver keeps a buffer that holds at most one frame of
maximal size and alternates between popping whole frames off the buffer and
pushing further bytes into it.

Main results:

- Theorem `FrameFormat.pop_needMore_lt_capacity`: a buffer that yields neither a
  frame nor an error always has room for one more byte.
- Theorem `FrameFormat.parse_append_pending`: parsing a stream piece by piece
  agrees with parsing the concatenation.
- Theorem `FrameFormat.parse_flatMap_append`: a concatenation of encoded frames
  parses back to exactly those frames.
- Theorem `FrameFormat.drive_rule`: the invariant rule of the pop-and-push loop.
- Theorem `FrameFormat.drive_parse`: the loop as a fold over the parsed frames.
- Theorem `FrameFormat.collect_eq_some_iff`: a stream cut into reads gives the frames
  and the remainder of the whole stream.
-/

namespace Foundation

/-- A length-prefixed frame format.  The header either announces the length of
the payload that follows or is rejected with a reason. -/
structure FrameFormat (ε φ : Type) where
  headerLen : Nat
  maxPayload : Nat
  payloadLen : Bytes → Except ε Nat
  build : Bytes → Bytes → φ
  headerLen_pos : 0 < headerLen
  payloadLen_le : ∀ header n, payloadLen header = .ok n → n ≤ maxPayload

/-- Outcome of one attempt to take a frame off the front of a buffer. -/
inductive PopResult (ε φ : Type) where
  | needMore
  | gotFrame (frame : φ) (rest : Bytes)
  | error (reason : ε)
deriving DecidableEq

/-- What is left of a stream behind its whole frames. -/
inductive Remainder (ε : Type) where
  | pending (rest : Bytes)
  | malformed (reason : ε)
deriving DecidableEq

/-- How the pop-and-push loop over one read came to its end. -/
inductive DriveExit (ε : Type) where
  | halted
  | malformed (reason : ε)
  | stuck
  | drained
deriving DecidableEq

/-- Result of the pop-and-push loop: the exit taken, the buffered bytes, and the
state of the frame handler. -/
structure Driven (ε σ : Type) where
  exit : DriveExit ε
  buf : Bytes
  state : σ

namespace FrameFormat

variable {ε φ σ : Type} (F : FrameFormat ε φ)

/-- Size of the receive buffer: one frame of maximal size. -/
def capacity : Nat :=
  F.headerLen + F.maxPayload

/-- Take one frame off the front of a buffer. -/
def pop (buf : Bytes) : PopResult ε φ :=
  if buf.length < F.headerLen then .needMore
  else
    match F.payloadLen (buf.take F.headerLen) with
    | .error e => .error e
    | .ok n =>
        if buf.length < F.headerLen + n then .needMore
        else
          .gotFrame (F.build (buf.take F.headerLen) ((buf.drop F.headerLen).take n))
            (buf.drop (F.headerLen + n))

/-- Append as many leading bytes as fit; the second component is their number. -/
def push (buf data : Bytes) : Bytes × Nat :=
  let take := min data.length (F.capacity - buf.length)
  (buf ++ data.take take, take)

/-! ## Popping -/

/-- Inversion of a successful pop. -/
theorem pop_eq_gotFrame_iff {buf : Bytes} {f : φ} {rest : Bytes} :
    F.pop buf = .gotFrame f rest ↔
      ∃ n, F.payloadLen (buf.take F.headerLen) = .ok n ∧ F.headerLen + n ≤ buf.length ∧
        f = F.build (buf.take F.headerLen) ((buf.drop F.headerLen).take n) ∧
        rest = buf.drop (F.headerLen + n) := by
  unfold pop
  constructor
  · intro h
    split at h
    · contradiction
    · split at h
      · contradiction
      · rename_i n hn
        split at h <;> rename_i hlen
        · contradiction
        · simp only [PopResult.gotFrame.injEq] at h
          exact ⟨n, hn, by omega, h.1.symm, h.2.symm⟩
  · rintro ⟨n, hn, hlen, rfl, rfl⟩
    rw [if_neg (by omega), hn]
    simp only
    rw [if_neg (by omega)]

/-- A popped frame leaves a strictly shorter buffer. -/
theorem pop_rest_length_lt {buf : Bytes} {f : φ} {rest : Bytes}
    (h : F.pop buf = .gotFrame f rest) : rest.length < buf.length := by
  obtain ⟨n, -, hlen, -, rfl⟩ := F.pop_eq_gotFrame_iff.mp h
  have hpos := F.headerLen_pos
  simp only [List.length_drop]
  omega

/-- Further bytes behind a whole frame do not change the frame. -/
theorem pop_gotFrame_append {buf : Bytes} {f : φ} {rest : Bytes}
    (h : F.pop buf = .gotFrame f rest) (more : Bytes) :
    F.pop (buf ++ more) = .gotFrame f (rest ++ more) := by
  obtain ⟨n, hn, hlen, rfl, rfl⟩ := F.pop_eq_gotFrame_iff.mp h
  apply F.pop_eq_gotFrame_iff.mpr
  have htake : (buf ++ more).take F.headerLen = buf.take F.headerLen :=
    List.take_append_of_le_length (by omega)
  have hpayload : ((buf ++ more).drop F.headerLen).take n = (buf.drop F.headerLen).take n := by
    rw [List.drop_append_of_le_length (by omega)]
    exact List.take_append_of_le_length (by simp only [List.length_drop]; omega)
  refine ⟨n, by rw [htake, hn], by simp only [List.length_append]; omega, ?_, ?_⟩
  · rw [htake, hpayload]
  · rw [List.drop_append_of_le_length hlen]

/-- A malformed header stays malformed whatever follows it. -/
theorem pop_error_append {buf : Bytes} {e : ε} (h : F.pop buf = .error e) (more : Bytes) :
    F.pop (buf ++ more) = .error e := by
  unfold pop at h ⊢
  split at h
  · contradiction
  · rename_i hlen
    have htake : (buf ++ more).take F.headerLen = buf.take F.headerLen :=
      List.take_append_of_le_length (by omega)
    rw [if_neg (by simp only [List.length_append]; omega), htake]
    split at h
    · exact h
    · split at h <;> contradiction

/-- A buffer that needs more bytes is not full. -/
theorem pop_needMore_lt_capacity {buf : Bytes} (h : F.pop buf = .needMore) :
    buf.length < F.capacity := by
  have hpos := F.headerLen_pos
  unfold pop at h
  unfold capacity
  split at h
  · omega
  · split at h <;> rename_i hn
    · contradiction
    · have hle := F.payloadLen_le _ _ hn
      split at h
      · omega
      · contradiction

/-- The empty buffer holds no frame. -/
theorem pop_nil : F.pop [] = .needMore := by
  have hpos := F.headerLen_pos
  simp [pop, hpos]

/-! ## Parsing a whole stream -/

/-- The whole frames at the front of a stream, and what is left behind them. -/
def parse (stream : Bytes) : List φ × Remainder ε :=
  match _h : F.pop stream with
  | .needMore => ([], .pending stream)
  | .error e => ([], .malformed e)
  | .gotFrame f rest => (f :: (parse rest).1, (parse rest).2)
termination_by stream.length
decreasing_by all_goals exact F.pop_rest_length_lt _h

/-- A stream that ends within a frame. -/
theorem parse_of_needMore {stream : Bytes} (h : F.pop stream = .needMore) :
    F.parse stream = ([], .pending stream) := by
  unfold parse
  split <;> simp_all

/-- A stream with a bad header. -/
theorem parse_of_error {stream : Bytes} {e : ε} (h : F.pop stream = .error e) :
    F.parse stream = ([], .malformed e) := by
  unfold parse
  split <;> simp_all

/-- A stream that begins with a frame. -/
theorem parse_of_gotFrame {stream : Bytes} {f : φ} {rest : Bytes}
    (h : F.pop stream = .gotFrame f rest) :
    F.parse stream = (f :: (F.parse rest).1, (F.parse rest).2) := by
  rw [parse]
  split <;> simp_all

@[simp]
theorem parse_nil : F.parse [] = ([], .pending []) :=
  F.parse_of_needMore F.pop_nil

/-- Parsing a stream and then its continuation agrees with parsing both at once. -/
theorem parse_append_pending {stream : Bytes} {frames : List φ} {rest : Bytes}
    (h : F.parse stream = (frames, .pending rest)) (more : Bytes) :
    F.parse (stream ++ more) =
      (frames ++ (F.parse (rest ++ more)).1, (F.parse (rest ++ more)).2) := by
  induction hn : stream.length using Nat.strong_induction_on generalizing stream frames with
  | _ n ih =>
      cases hpop : F.pop stream with
      | needMore =>
          rw [F.parse_of_needMore hpop] at h
          simp only [Prod.mk.injEq, Remainder.pending.injEq] at h
          obtain ⟨rfl, rfl⟩ := h
          simp
      | error e =>
          rw [F.parse_of_error hpop] at h
          simp at h
      | gotFrame f tail =>
          have hlt := F.pop_rest_length_lt hpop
          rw [F.parse_of_gotFrame hpop] at h
          simp only [Prod.mk.injEq] at h
          have hih := ih tail.length (by omega) (Prod.ext rfl h.2) rfl
          rw [F.parse_of_gotFrame (F.pop_gotFrame_append hpop more), hih, ← h.1]
          simp

/-- Nothing is parsed behind a malformed header. -/
theorem parse_append_malformed {stream : Bytes} {frames : List φ} {e : ε}
    (h : F.parse stream = (frames, .malformed e)) (more : Bytes) :
    F.parse (stream ++ more) = (frames, .malformed e) := by
  induction hn : stream.length using Nat.strong_induction_on generalizing stream frames with
  | _ n ih =>
      cases hpop : F.pop stream with
      | needMore =>
          rw [F.parse_of_needMore hpop] at h
          simp at h
      | error e' =>
          rw [F.parse_of_error hpop] at h
          rwa [F.parse_of_error (F.pop_error_append hpop more)]
      | gotFrame f tail =>
          have hlt := F.pop_rest_length_lt hpop
          rw [F.parse_of_gotFrame hpop] at h
          simp only [Prod.mk.injEq] at h
          have hih := ih tail.length (by omega) (Prod.ext rfl h.2) rfl
          rw [F.parse_of_gotFrame (F.pop_gotFrame_append hpop more), hih, ← h.1]

/-- More bytes only add frames. -/
theorem parse_prefix_append (stream more : Bytes) :
    (F.parse stream).1 <+: (F.parse (stream ++ more)).1 := by
  induction hn : stream.length using Nat.strong_induction_on generalizing stream with
  | _ n ih =>
      cases hpop : F.pop stream with
      | needMore => simp [F.parse_of_needMore hpop]
      | error e => simp [F.parse_of_error hpop]
      | gotFrame f tail =>
          have hlt := F.pop_rest_length_lt hpop
          rw [F.parse_of_gotFrame hpop, F.parse_of_gotFrame (F.pop_gotFrame_append hpop more)]
          exact (List.prefix_cons_inj f).mpr (ih tail.length (by omega) tail rfl)

/-- What a parse leaves pending is an incomplete frame. -/
theorem pop_of_parse_pending {stream : Bytes} {frames : List φ} {rest : Bytes}
    (h : F.parse stream = (frames, .pending rest)) : F.pop rest = .needMore := by
  induction hn : stream.length using Nat.strong_induction_on generalizing stream frames with
  | _ n ih =>
      cases hpop : F.pop stream with
      | needMore =>
          rw [F.parse_of_needMore hpop] at h
          simp only [Prod.mk.injEq, Remainder.pending.injEq] at h
          exact h.2 ▸ hpop
      | error e =>
          rw [F.parse_of_error hpop] at h
          simp at h
      | gotFrame f tail =>
          rw [F.parse_of_gotFrame hpop] at h
          simp only [Prod.mk.injEq] at h
          exact ih tail.length (hn ▸ F.pop_rest_length_lt hpop) (Prod.ext rfl h.2) rfl

/-- Encoded frames in front of a stream are its first parsed frames, provided
the encoding of every frame pops off as that frame. -/
theorem parse_flatMap_append {encode : φ → Bytes} {frames : List φ}
    (hpop : ∀ f ∈ frames, ∀ more, F.pop (encode f ++ more) = .gotFrame f more) (tail : Bytes) :
    F.parse (frames.flatMap encode ++ tail) =
      (frames ++ (F.parse tail).1, (F.parse tail).2) := by
  induction frames with
  | nil => simp
  | cons f fs ih =>
      have hhead := hpop f (by simp) (fs.flatMap encode ++ tail)
      have htail := ih fun g hg => hpop g (by simp [hg])
      rw [List.flatMap_cons, List.append_assoc, F.parse_of_gotFrame hhead, htail]
      simp

/-- The front of a stream of encoded frames parses into the first of them; what it
leaves goes on with the others. -/
theorem parse_of_append_eq_flatMap {encode : φ → Bytes} {frames : List φ}
    (hpop : ∀ f ∈ frames, ∀ more, F.pop (encode f ++ more) = .gotFrame f more)
    {front back : Bytes} (h : front ++ back = frames.flatMap encode) :
    ∃ parsed others rest, frames = parsed ++ others ∧ F.parse front = (parsed, .pending rest) ∧
      rest ++ back = others.flatMap encode := by
  induction frames generalizing front with
  | nil =>
      rw [List.flatMap_nil, List.append_eq_nil_iff] at h
      obtain ⟨rfl, rfl⟩ := h
      exact ⟨[], [], [], rfl, F.parse_nil, rfl⟩
  | cons f frames ih =>
      rw [List.flatMap_cons] at h
      have hhead := hpop f (by simp) (frames.flatMap encode)
      rw [← h] at hhead
      cases hfront : F.pop front with
      | needMore => exact ⟨[], f :: frames, front, rfl, F.parse_of_needMore hfront, by simpa using h⟩
      | error e =>
          rw [F.pop_error_append hfront back] at hhead
          cases hhead
      | gotFrame g tail =>
          rw [F.pop_gotFrame_append hfront back, PopResult.gotFrame.injEq] at hhead
          obtain ⟨rfl, htail⟩ := hhead
          obtain ⟨parsed, others, rest, rfl, hparse, hrest⟩ :=
            ih (fun f' hf' => hpop f' (by simp [hf'])) htail
          exact ⟨g :: parsed, others, rest, rfl, by rw [F.parse_of_gotFrame hfront, hparse], hrest⟩

/-- The bytes a parse leaves behind the whole frames. -/
def Leaves (tail : Bytes) : Remainder ε → Prop
  | .pending rest => tail = rest ∧ F.pop tail = .needMore
  | .malformed e => F.pop tail = .error e

/-- A stream is the encoding of its whole frames and a tail that holds none, provided
every frame that pops off was encoded at the front. -/
theorem eq_flatMap_of_parse {encode : φ → Bytes}
    (hencode : ∀ buf f rest, F.pop buf = .gotFrame f rest → buf = encode f ++ rest)
    (stream : Bytes) :
    ∃ tail, stream = (F.parse stream).1.flatMap encode ++ tail ∧
      F.Leaves tail (F.parse stream).2 := by
  induction hn : stream.length using Nat.strong_induction_on generalizing stream with
  | _ n ih =>
      cases hpop : F.pop stream with
      | needMore =>
          rw [F.parse_of_needMore hpop]
          exact ⟨stream, by simp, rfl, hpop⟩
      | error e =>
          rw [F.parse_of_error hpop]
          exact ⟨stream, by simp, hpop⟩
      | gotFrame f rest =>
          have hlt := F.pop_rest_length_lt hpop
          obtain ⟨tail, hstream, htail⟩ := ih rest.length (by omega) rest rfl
          rw [F.parse_of_gotFrame hpop]
          refine ⟨tail, ?_, htail⟩
          rw [List.flatMap_cons, List.append_assoc, ← hstream]
          exact hencode stream f rest hpop

/-- What holds of every frame that pops off holds of every parsed frame. -/
theorem forall_parse {P : φ → Prop} (hpop : ∀ buf f rest, F.pop buf = .gotFrame f rest → P f)
    (stream : Bytes) : ∀ f ∈ (F.parse stream).1, P f := by
  induction hn : stream.length using Nat.strong_induction_on generalizing stream with
  | _ n ih =>
      cases h : F.pop stream with
      | needMore => simp [F.parse_of_needMore h]
      | error e => simp [F.parse_of_error h]
      | gotFrame f rest =>
          have hlt := F.pop_rest_length_lt h
          rw [F.parse_of_gotFrame h]
          simp only [List.mem_cons, forall_eq_or_imp]
          exact ⟨hpop stream f rest h, ih rest.length (by omega) rest rfl⟩

/-! ## The pop-and-push loop -/

variable (handle : φ → Bytes → σ → σ) (halted : σ → Bool)

/-- Run the receive loop over one read: pop every whole frame, handing it to
`handle` together with the bytes left in the buffer, and push further bytes of
the read whenever the buffer runs dry.  A halted handler ends the loop. -/
def drive (buf data : Bytes) (s : σ) : Driven ε σ :=
  match _h : F.pop buf with
  | .gotFrame f rest =>
      if halted (handle f rest s) then ⟨.halted, rest, handle f rest s⟩
      else drive rest data (handle f rest s)
  | .error e => ⟨.malformed e, buf, s⟩
  | .needMore =>
      if data = [] then ⟨.drained, buf, s⟩
      else if (F.push buf data).2 = 0 then ⟨.stuck, buf, s⟩
      else drive (F.push buf data).1 (data.drop (F.push buf data).2) s
termination_by 2 * data.length + buf.length
decreasing_by
  · have := F.pop_rest_length_lt _h
    omega
  · rename_i hdata htook
    simp only [push, List.length_append, List.length_take, List.length_drop] at htook ⊢
    have : 0 < data.length := List.length_pos_iff.mpr hdata
    omega

/-- The push of a loop iteration moves at least one byte. -/
theorem push_pos {buf data : Bytes} (h : F.pop buf = .needMore) (hdata : data ≠ []) :
    (F.push buf data).2 ≠ 0 := by
  have hlt := F.pop_needMore_lt_capacity h
  have hpos : 0 < data.length := List.length_pos_iff.mpr hdata
  simp only [push]
  omega

/-- Invariant rule of the receive loop.  `I buf data s` speaks about the buffered
bytes, the bytes of the read still to be pushed, and the handler's state.  It has
to survive a popped frame and a push; it then holds at the exit, where the exit
taken says what stopped the loop.  The loop is never stuck. -/
theorem drive_rule (I : Bytes → Bytes → σ → Prop)
    (hpop : ∀ buf data s f rest, I buf data s → halted s = false →
      F.pop buf = .gotFrame f rest → I rest data (handle f rest s))
    (hpush : ∀ buf data s k, I buf data s → halted s = false →
      F.pop buf = .needMore → I (buf ++ data.take k) (data.drop k) s)
    (buf data : Bytes) (s : σ) (hI : I buf data s) (hs : halted s = false) :
    ∃ exit buf' unread s', F.drive handle halted buf data s = ⟨exit, buf', s'⟩ ∧
      I buf' unread s' ∧
      match exit with
      | .halted => halted s' = true
      | .malformed e => F.pop buf' = .error e ∧ halted s' = false
      | .stuck => False
      | .drained => unread = [] ∧ F.pop buf' = .needMore ∧ halted s' = false := by
  induction hn : 2 * data.length + buf.length using Nat.strong_induction_on
    generalizing buf data s with
  | _ n ih =>
      rw [drive]
      split
      · rename_i f rest hgot
        have hnext := hpop buf data s f rest hI hs hgot
        split <;> rename_i hstop
        · exact ⟨.halted, rest, data, _, rfl, hnext, hstop⟩
        · have hlt := F.pop_rest_length_lt hgot
          exact ih _ (by omega) _ _ _ hnext (by simpa using hstop) rfl
      · rename_i e herr
        exact ⟨.malformed e, buf, data, s, rfl, hI, herr, hs⟩
      · rename_i hneed
        split <;> rename_i hdata
        · exact ⟨.drained, buf, data, s, rfl, hI, hdata, hneed, hs⟩
        · have htook := F.push_pos hneed hdata
          rw [if_neg htook]
          have hnext := hpush buf data s (F.push buf data).2 hI hs hneed
          have hpos : 0 < data.length := List.length_pos_iff.mpr hdata
          refine ih _ ?_ _ _ _ hnext hs rfl
          simp only [push, List.length_append, List.length_take, List.length_drop] at htook ⊢
          omega

/-! ## The loop as a fold over the parsed frames -/

variable {τ : Type} (step : φ → τ → τ) (stop : τ → Bool)

/-- Handle frames one after the other until the handler stops. -/
def consume : List φ → τ → τ
  | [], t => t
  | f :: frames, t => if stop t then t else consume frames (step f t)

/-- Nothing is consumed once it is stopped. -/
theorem consume_of_stop {t : τ} (h : stop t = true) (frames : List φ) :
    consume step stop frames t = t := by
  cases frames <;> simp [consume, h]

/-- Frames are consumed one after the other. -/
theorem consume_append (frames more : List φ) (t : τ) :
    consume step stop (frames ++ more) t =
      consume step stop more (consume step stop frames t) := by
  induction frames generalizing t with
  | nil => rfl
  | cons f frames ih =>
      simp only [List.cons_append, consume]
      split <;> rename_i hstop
      · rw [consume_of_stop step stop hstop]
      · exact ih (step f t)

/-- A handler that ignores the buffer sees the parsed frames of the buffered bytes
and the read, however they are divided between the two.  It stops the loop, or the
loop ends with what the parse leaves. -/
theorem drive_parse (view : σ → τ)
    (hstep : ∀ f rest s, view (handle f rest s) = step f (view s))
    (hstop : ∀ s, halted s = stop (view s)) (buf data : Bytes) (s : σ)
    (hs : halted s = false) :
    let r := F.drive handle halted buf data s
    let p := F.parse (buf ++ data)
    view r.state = consume step stop p.1 (view s) ∧
      ((r.exit = .halted ∧ halted r.state = true) ∨
        (halted r.state = false ∧
          ((∃ e, r.exit = .malformed e ∧ p.2 = .malformed e) ∨
            (r.exit = .drained ∧ p.2 = .pending r.buf)))) := by
  obtain ⟨exit, buf', unread, s', heq, ⟨hconsume, hrest⟩, hexit⟩ := F.drive_rule handle halted
    (fun buf' unread s' =>
      consume step stop (F.parse (buf ++ data)).1 (view s) =
          consume step stop (F.parse (buf' ++ unread)).1 (view s') ∧
        (halted s' = false → (F.parse (buf ++ data)).2 = (F.parse (buf' ++ unread)).2))
    (by
      rintro buf' unread s' f rest ⟨hconsume, hrest⟩ hrun hpop
      rw [F.parse_of_gotFrame (F.pop_gotFrame_append hpop unread)] at hconsume hrest
      rw [hstop] at hrun
      rw [consume, hrun, if_neg (by simp), ← hstep f rest] at hconsume
      exact ⟨hconsume, fun _ => hrest (by rw [hstop]; exact hrun)⟩)
    (by
      rintro buf' unread s' k h - -
      rwa [List.append_assoc, List.take_append_drop])
    buf data s ⟨rfl, fun _ => rfl⟩ hs
  simp only
  rw [heq]
  cases exit with
  | halted =>
      have hhalt : halted s' = true := hexit
      rw [hconsume, consume_of_stop step stop (by rw [← hstop]; exact hhalt)]
      exact ⟨rfl, Or.inl ⟨rfl, hhalt⟩⟩
  | malformed e =>
      obtain ⟨hpop, hrun⟩ := hexit
      rw [F.parse_of_error (F.pop_error_append hpop unread)] at hconsume hrest
      exact ⟨hconsume.symm, Or.inr ⟨hrun, Or.inl ⟨e, rfl, hrest hrun⟩⟩⟩
  | stuck => exact hexit.elim
  | drained =>
      obtain ⟨rfl, hpop, hrun⟩ := hexit
      rw [List.append_nil, F.parse_of_needMore hpop] at hconsume hrest
      exact ⟨hconsume.symm, Or.inr ⟨hrun, Or.inr ⟨rfl, hrest hrun⟩⟩⟩

/-! ## A stream cut into reads -/

/-- Run the receive loop over one more read, keeping the frames in their order.
The result is the buffer and the frames; there is none behind a malformed header. -/
def collectRead (s : Option (Bytes × List φ)) (read : Bytes) : Option (Bytes × List φ) :=
  s.bind fun s =>
    let r := F.drive (fun f _ frames => frames ++ [f]) (fun _ => false) s.1 read s.2
    match r.exit with
    | .drained => some (r.buf, r.state)
    | _ => none

/-- The buffer and the frames after all reads of a stream. -/
def collect (reads : List Bytes) : Option (Bytes × List φ) :=
  reads.foldl F.collectRead (some ([], []))

theorem consume_append_singleton (frames before : List φ) :
    consume (fun f frames => frames ++ [f]) (fun _ => false) frames before = before ++ frames := by
  induction frames generalizing before with
  | nil => simp [consume]
  | cons f frames ih => simp [consume, ih]

/-- One read adds its frames and leaves what the parse leaves. -/
theorem collectRead_of_parse {buf read rest : Bytes} {frames : List φ}
    (h : F.parse (buf ++ read) = (frames, .pending rest)) (before : List φ) :
    F.collectRead (some (buf, before)) read = some (rest, before ++ frames) := by
  have hdrive := F.drive_parse (fun f _ frames => frames ++ [f]) (fun _ => false)
    (fun f frames => frames ++ [f]) (fun _ => false) id (fun _ _ _ => rfl) (fun _ => rfl)
    buf read before rfl
  simp only [h, id, consume_append_singleton] at hdrive
  obtain ⟨hstate, ⟨-, hhalt⟩ | ⟨-, ⟨e, -, he⟩ | ⟨hexit, hbuf⟩⟩⟩ := hdrive
  · contradiction
  · contradiction
  · simp only [Remainder.pending.injEq] at hbuf
    simp only [collectRead, Option.bind_some, hexit, hstate, hbuf]

/-- The reads of a stream, from any buffer on, collect the frames of the stream. -/
theorem foldl_collectRead_of_parse {reads : List Bytes} {buf rest : Bytes} {frames : List φ}
    (hbuf : F.pop buf = .needMore)
    (h : F.parse (buf ++ reads.flatten) = (frames, .pending rest)) (before : List φ) :
    reads.foldl F.collectRead (some (buf, before)) = some (rest, before ++ frames) := by
  induction reads generalizing buf frames before with
  | nil =>
      rw [List.flatten_nil, List.append_nil, F.parse_of_needMore hbuf] at h
      simp only [Prod.mk.injEq, Remainder.pending.injEq] at h
      obtain ⟨rfl, rfl⟩ := h
      simp
  | cons read reads ih =>
      rw [List.flatten_cons, ← List.append_assoc] at h
      rcases hread : F.parse (buf ++ read) with ⟨first, pending | e⟩
      · rw [F.parse_append_pending hread] at h
        simp only [Prod.mk.injEq] at h
        rw [List.foldl_cons, F.collectRead_of_parse hread,
          ih (F.pop_of_parse_pending hread) (Prod.ext rfl h.2), ← h.1]
        simp
      · rw [F.parse_append_malformed hread] at h
        simp at h

/-- However a stream is cut into reads, the loop collects the frames of the whole
stream and is left with what the parse leaves. -/
theorem collect_eq_of_parse {reads : List Bytes} {rest : Bytes} {frames : List φ}
    (h : F.parse reads.flatten = (frames, .pending rest)) : F.collect reads = some (rest, frames) :=
  F.foldl_collectRead_of_parse F.pop_nil h []

/-- A read that reaches a malformed header ends the loop. -/
theorem collectRead_of_malformed {buf read : Bytes} {frames : List φ} {e : ε}
    (h : F.parse (buf ++ read) = (frames, .malformed e)) (before : List φ) :
    F.collectRead (some (buf, before)) read = none := by
  have hdrive := F.drive_parse (fun f _ frames => frames ++ [f]) (fun _ => false)
    (fun f frames => frames ++ [f]) (fun _ => false) id (fun _ _ _ => rfl) (fun _ => rfl)
    buf read before rfl
  simp only [h] at hdrive
  obtain ⟨-, ⟨-, hhalt⟩ | ⟨-, ⟨e', hexit, -⟩ | ⟨-, hbuf⟩⟩⟩ := hdrive
  · contradiction
  · simp only [collectRead, Option.bind_some, hexit]
  · contradiction

/-- After an error nothing is collected. -/
theorem foldl_collectRead_none (reads : List Bytes) : reads.foldl F.collectRead none = none := by
  induction reads with
  | nil => rfl
  | cons read reads ih => exact ih

/-- The reads of a malformed stream end in an error, however they are cut. -/
theorem foldl_collectRead_of_malformed {reads : List Bytes} {buf : Bytes} {frames : List φ} {e : ε}
    (hbuf : F.pop buf = .needMore)
    (h : F.parse (buf ++ reads.flatten) = (frames, .malformed e)) (before : List φ) :
    reads.foldl F.collectRead (some (buf, before)) = none := by
  induction reads generalizing buf frames before with
  | nil =>
      rw [List.flatten_nil, List.append_nil, F.parse_of_needMore hbuf] at h
      simp at h
  | cons read reads ih =>
      rw [List.flatten_cons, ← List.append_assoc] at h
      rcases hread : F.parse (buf ++ read) with ⟨first, pending | e'⟩
      · rw [F.parse_append_pending hread] at h
        simp only [Prod.mk.injEq] at h
        rw [List.foldl_cons, F.collectRead_of_parse hread]
        exact ih (F.pop_of_parse_pending hread) (Prod.ext rfl h.2) _
      · rw [List.foldl_cons, F.collectRead_of_malformed hread, F.foldl_collectRead_none]

/-- The loop over the reads computes the parse of the stream. -/
theorem collect_eq_some_iff {reads : List Bytes} {rest : Bytes} {frames : List φ} :
    F.collect reads = some (rest, frames) ↔
      F.parse reads.flatten = (frames, .pending rest) := by
  refine ⟨fun h => ?_, F.collect_eq_of_parse⟩
  rcases hparse : F.parse reads.flatten with ⟨parsed, left | e⟩
  · rw [F.collect_eq_of_parse hparse] at h
    cases h
    rfl
  · rw [collect, F.foldl_collectRead_of_malformed F.pop_nil hparse []] at h
    contradiction

end FrameFormat

end Foundation
