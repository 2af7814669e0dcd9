import LorahamBridge.Foundation.Lines
import LorahamBridge.Loraham.Framing

/-!
# The daemon codec over streams

A stream is described here by its encoding alone: whole inbound frames, followed by
a tail that begins with a malformed header or does not hold a whole frame yet.  The
messages in the frames are packets from the air and transmission results; encoders
and decoders of both are inverse to each other, on single frames and over streams cut
into reads.

Main results:

- Theorems `parse_eq_pending_iff` and `parse_eq_malformed_iff`: the parser computes
  this description.
- Theorems `decodeMessage_frame`, `eq_frame_of_decodeRx` and `eq_frame_of_decodeTxResult`:
  the frame of a message decodes to it, and only that frame does.
- Theorem `framing_round_trip`: the codec over lists of messages, over popped frames,
  and the conditions under which an encoder fails.
-/

namespace LorahamBridge
namespace Loraham

open Foundation

/-! ## The frames of a stream -/

/-- The frames a daemon sends to its client. -/
def Inbound (f : Frame) : Prop :=
  f.type ≠ .txPacket ∧ f.payload.length ≤ kRxPayloadMax

/-- The bytes of a frame. -/
def frameBytes (f : Frame) : Bytes :=
  framedBytes f.type f.payload

/-- A stream begins with the given frames; the tail is what follows them. -/
def BeginsWith (stream : Bytes) (frames : List Frame) (tail : Bytes) : Prop :=
  stream = frames.flatMap frameBytes ++ tail ∧ ∀ f ∈ frames, Inbound f

/-- A complete header with a type other than 1, 3 and 4, or with a length above 259. -/
def BadHeader (tail : Bytes) : Prop :=
  ∃ type lo hi rest, tail = type :: lo :: hi :: rest ∧
    ((type ≠ 1 ∧ type ≠ 3 ∧ type ≠ 4) ∨ 259 < lo.toNat + 256 * hi.toNat)

/-- Neither a whole frame nor a header to reject. -/
def Incomplete (tail : Bytes) : Prop :=
  ¬BadHeader tail ∧ ∀ f rest, Inbound f → tail ≠ frameBytes f ++ rest

/-- The inbound types are all but `TX_PACKET`, each under its code. -/
theorem ofInbound?_eq_some_iff {code : UInt8} {type : FramedType} :
    FramedType.ofInbound? code = some type ↔ type ≠ .txPacket ∧ type.toByte = code := by
  unfold FramedType.ofInbound?
  constructor
  · intro h
    repeat' split at h
    all_goals simp_all [FramedType.toByte]
    all_goals subst h; simp
  · rintro ⟨htype, rfl⟩
    cases type <;> simp_all [FramedType.toByte]

/-- The codes of no inbound type. -/
theorem ofInbound?_eq_none_iff {code : UInt8} :
    FramedType.ofInbound? code = none ↔ code ≠ 1 ∧ code ≠ 3 ∧ code ≠ 4 := by
  unfold FramedType.ofInbound?
  repeat' split
  all_goals simp_all

/-- A frame that pops off stood encoded at the front. -/
theorem eq_frameBytes_of_pop {buf rest : Bytes} {f : Frame}
    (h : daemonFormat.pop buf = .gotFrame f rest) : Inbound f ∧ buf = frameBytes f ++ rest := by
  obtain ⟨n, hheader, hlen, rfl, rfl⟩ := daemonFormat.pop_eq_gotFrame_iff.mp h
  have hle := daemonFormat.payloadLen_le _ _ hheader
  match buf with
  | [] | [_] | [_, _] =>
      simp only [daemonFormat, kFramedHeaderLen, List.length_cons, List.length_nil] at hlen
      omega
  | code :: lo :: hi :: body =>
    simp only [daemonFormat, kFramedHeaderLen, List.take_succ_cons, List.take_zero,
      headerPayloadLen, List.getD_cons_zero, List.getD_cons_succ, List.length_cons] at hheader hlen
    split at hheader
    · contradiction
    · rename_i hcode
      split at hheader
      · contradiction
      · obtain ⟨type, htype⟩ := Option.ne_none_iff_exists'.mp (by simpa using hcode)
        obtain ⟨hnottx, hbyte⟩ := ofInbound?_eq_some_iff.mp htype
        simp only [Except.ok.injEq] at hheader
        have htake : (body.take n).length = n := by
          rw [List.length_take]
          omega
        have hput : putLE16 n.toUInt16 = [lo, hi] := by
          rw [← putLE16_getLE16 lo hi, ← hheader]
          simp
        refine ⟨?_, ?_⟩
        · simpa [daemonFormat, Inbound, kFramedHeaderLen, htype, htake, hnottx] using hle
        · simp only [daemonFormat, frameBytes, framedBytes, kFramedHeaderLen, List.take_succ_cons,
            List.take_zero, List.drop_succ_cons, List.drop_zero, List.getD_cons_zero, htype,
            Option.getD_some, hbyte, htake, hput, List.cons_append, List.nil_append,
            Nat.add_comm 3 n]
          simp

/-- An inbound frame is popped whole. -/
theorem pop_frameBytes {f : Frame} (h : Inbound f) (more : Bytes) :
    daemonFormat.pop (frameBytes f ++ more) = .gotFrame f more :=
  pop_framedBytes h.1 h.2 more

/-- The parser fails on a bad header only. -/
theorem pop_eq_error_iff {tail : Bytes} : daemonFormat.pop tail = .error () ↔ BadHeader tail := by
  match tail with
  | [] | [_] | [_, _] => simp [FrameFormat.pop, daemonFormat, kFramedHeaderLen, BadHeader]
  | code :: lo :: hi :: body =>
    have hlen : (getLE16 lo hi).toNat = lo.toNat + 256 * hi.toNat := by
      rw [getLE16, getBE16_toNat]
      omega
    have hbad : BadHeader (code :: lo :: hi :: body) ↔
        FramedType.ofInbound? code = none ∨ kRxPayloadMax < (getLE16 lo hi).toNat := by
      rw [ofInbound?_eq_none_iff, hlen]
      constructor
      · rintro ⟨_, _, _, _, heq, h⟩
        simp only [List.cons.injEq] at heq
        obtain ⟨rfl, rfl, rfl, rfl⟩ := heq
        exact h
      · exact fun h => ⟨code, lo, hi, body, rfl, h⟩
    rw [hbad]
    simp only [FrameFormat.pop, daemonFormat, kFramedHeaderLen, List.take_succ_cons,
      List.take_zero, headerPayloadLen, List.getD_cons_zero, List.getD_cons_succ,
      List.length_cons]
    rw [if_neg (by omega)]
    by_cases hcode : FramedType.ofInbound? code = none
    · simp [hcode]
    · by_cases hbound : kRxPayloadMax < (getLE16 lo hi).toNat
      · simp [hcode, hbound]
      · simp only [hcode, hbound, Option.isNone_iff_eq_none, if_false, or_self, iff_false]
        split <;> simp

/-- The parser waits for the rest of an incomplete frame only. -/
theorem pop_eq_needMore_iff {tail : Bytes} :
    daemonFormat.pop tail = .needMore ↔ Incomplete tail := by
  constructor
  · intro h
    refine ⟨fun hbad => ?_, ?_⟩
    · simp [pop_eq_error_iff.mpr hbad] at h
    · rintro f rest hf rfl
      simp [pop_frameBytes hf] at h
  · rintro ⟨hgood, hnone⟩
    cases hpop : daemonFormat.pop tail with
    | needMore => rfl
    | error e => exact (hgood (pop_eq_error_iff.mp hpop)).elim
    | gotFrame f rest =>
        obtain ⟨hf, heq⟩ := eq_frameBytes_of_pop hpop
        exact (hnone f rest hf heq).elim

/-- Frames at the front of a stream are the first ones parsed from it. -/
theorem BeginsWith.parse {stream tail : Bytes} {frames : List Frame}
    (h : BeginsWith stream frames tail) :
    daemonFormat.parse stream =
      (frames ++ (daemonFormat.parse tail).1, (daemonFormat.parse tail).2) := by
  rw [h.1]
  exact daemonFormat.parse_flatMap_append (fun f hf => pop_frameBytes (h.2 f hf)) tail

/-- The parsed frames begin the stream; the tail behind them holds none. -/
theorem beginsWith_parse (stream : Bytes) :
    ∃ tail, BeginsWith stream (daemonFormat.parse stream).1 tail ∧
      daemonFormat.Leaves tail (daemonFormat.parse stream).2 := by
  obtain ⟨tail, hstream, htail⟩ := daemonFormat.eq_flatMap_of_parse
    (fun _ _ _ h => (eq_frameBytes_of_pop h).2) stream
  exact ⟨tail, ⟨hstream, fun f hf => daemonFormat.forall_parse
    (fun _ _ _ h => (eq_frameBytes_of_pop h).1) stream f hf⟩, htail⟩

/-- A parse without an error: whole frames and the beginning of another one. -/
theorem parse_eq_pending_iff {stream tail : Bytes} {frames : List Frame} :
    daemonFormat.parse stream = (frames, .pending tail) ↔
      BeginsWith stream frames tail ∧ Incomplete tail := by
  constructor
  · intro h
    obtain ⟨tail', hbegins, htail⟩ := beginsWith_parse stream
    rw [h] at hbegins htail
    obtain ⟨rfl, hpop⟩ := htail
    exact ⟨hbegins, pop_eq_needMore_iff.mp hpop⟩
  · rintro ⟨hbegins, hincomplete⟩
    rw [hbegins.parse, daemonFormat.parse_of_needMore (pop_eq_needMore_iff.mpr hincomplete)]
    simp

/-- A parse that ends in an error: whole frames and a header to reject. -/
theorem parse_eq_malformed_iff {stream : Bytes} {frames : List Frame} :
    daemonFormat.parse stream = (frames, .malformed ()) ↔
      ∃ tail, BeginsWith stream frames tail ∧ BadHeader tail := by
  constructor
  · intro h
    obtain ⟨tail, hbegins, htail⟩ := beginsWith_parse stream
    rw [h] at hbegins htail
    exact ⟨tail, hbegins, pop_eq_error_iff.mp htail⟩
  · rintro ⟨tail, hbegins, hbad⟩
    rw [hbegins.parse, daemonFormat.parse_of_error (pop_eq_error_iff.mpr hbad)]
    simp

/-- Some frames begin a stream exactly if they are the first ones parsed from it. -/
theorem exists_beginsWith_iff {stream : Bytes} {frames : List Frame} :
    (∃ tail, BeginsWith stream frames tail) ↔ frames <+: (daemonFormat.parse stream).1 := by
  constructor
  · rintro ⟨tail, h⟩
    rw [h.parse]
    exact List.prefix_append _ _
  · rintro ⟨more, hmore⟩
    obtain ⟨tail, ⟨hstream, hinbound⟩, -⟩ := beginsWith_parse stream
    rw [← hmore] at hstream hinbound
    refine ⟨more.flatMap frameBytes ++ tail, ?_, fun f hf => hinbound f (by simp [hf])⟩
    rw [hstream]
    simp

/-! ## Encoder arguments -/

/-- The arguments `rf` and `rf_len` of an encoder: a null pointer, or a pointer to
exactly that many bytes. -/
structure RfArg where
  rfLen : UInt16
  rf : Option Bytes
  rf_length : ∀ data, rf = some data → data.length = rfLen.toNat

namespace RfArg

/-- The bytes an encoder copies. -/
def data (arg : RfArg) : Bytes :=
  arg.rf.getD []

/-- A null pointer where bytes are announced. -/
def isMissing (arg : RfArg) : Bool :=
  0 < arg.rfLen && arg.rf.isNone

theorem data_length {arg : RfArg} (h : arg.isMissing = false) :
    arg.data.length = arg.rfLen.toNat := by
  unfold data
  cases hrf : arg.rf with
  | none =>
      have hzero : arg.rfLen = 0 := by
        simpa [isMissing, hrf] using h
      simp [hzero]
  | some data => exact arg.rf_length data hrf

end RfArg

/-- `encode_tx_packet` with its pointer checks; `out` says whether the buffer is not
null. -/
def encodeTxPacketArgs (out : Bool) (cap : Nat) (arg : RfArg) : Option Bytes :=
  if !out || arg.isMissing then none else encodeTxPacket cap arg.data

/-- `encode_rx_packet` with its pointer checks. -/
def encodeRxPacketArgs (out : Bool) (cap : Nat) (rssiCdbm snrCdb : Int16) (arg : RfArg) :
    Option Bytes :=
  if !out || arg.isMissing then none else encodeRxPacket cap rssiCdbm snrCdb arg.data

/-- `encode_tx_result` with its pointer check. -/
def encodeTxResultArgs (out : Bool) (cap : Nat) (status flags : UInt8) (seq : UInt16) :
    Option Bytes :=
  if !out then none else encodeTxResult cap status flags seq

/-- An encoder gives nothing in exactly the stated case, and the whole frame
otherwise. -/
def EncodesUnless (fails : Prop) (type : FramedType) (payload : Bytes)
    (result : Option Bytes) : Prop :=
  (result = none ↔ fails) ∧ ∀ wire, result = some wire → wire = framedBytes type payload

/-- The pointer checks of an encoder in front of its length and capacity checks. -/
theorem encodesUnless_args (out : Bool) {cap extra : Nat} {arg : RfArg} {type : FramedType}
    {payload : Bytes} {result : Option Bytes}
    (h : arg.isMissing = false → EncodesUnless
      (kMaxRfPayload < arg.data.length ∨ cap < kFramedHeaderLen + (extra + arg.data.length))
      type payload result) :
    EncodesUnless
      (kMaxRfPayload < arg.rfLen.toNat ∨ cap < kFramedHeaderLen + (extra + arg.rfLen.toNat) ∨
        out = false ∨ (0 < arg.rfLen ∧ arg.rf = none))
      type payload (if !out || arg.isMissing then none else result) := by
  have hmissing : arg.isMissing = true ↔ 0 < arg.rfLen ∧ arg.rf = none := by
    simp [RfArg.isMissing]
  cases hm : arg.isMissing with
  | true => exact ⟨by simp [hmissing.mp hm], by simp⟩
  | false =>
      have hpresent : ¬ (0 < arg.rfLen ∧ arg.rf = none) := by
        rw [← hmissing, hm]
        simp
      obtain ⟨hnone, hsome⟩ := h hm
      rw [RfArg.data_length hm] at hnone
      cases out with
      | false => exact ⟨by simp, by simp⟩
      | true => exact ⟨by simpa [hpresent] using hnone, by simpa using hsome⟩

/-- The encoder of `TX_PACKET`, with its failures. -/
theorem encodeTxPacket_encodes (cap : Nat) (rf : Bytes) :
    EncodesUnless (kMaxRfPayload < rf.length ∨ cap < kFramedHeaderLen + (0 + rf.length))
      .txPacket rf (encodeTxPacket cap rf) := by
  unfold encodeTxPacket
  refine ⟨?_, ?_⟩
  · rw [Nat.zero_add]
    split <;> simp_all
  · intro wire h
    split at h
    · contradiction
    · split at h
      · contradiction
      · exact (Option.some.inj h).symm

/-- The encoder of `RX_PACKET`, with its failures. -/
theorem encodeRxPacket_encodes (cap : Nat) (rssiCdbm snrCdb : Int16) (rf : Bytes) :
    EncodesUnless (kMaxRfPayload < rf.length ∨ cap < kFramedHeaderLen + (kRxMetaLen + rf.length))
      .rxPacket (putLE16 rssiCdbm.toUInt16 ++ putLE16 snrCdb.toUInt16 ++ rf)
      (encodeRxPacket cap rssiCdbm snrCdb rf) := by
  unfold encodeRxPacket
  refine ⟨?_, ?_⟩
  · split <;> simp_all
  · intro wire h
    split at h
    · contradiction
    · split at h
      · contradiction
      · exact (Option.some.inj h).symm

/-- The encoder of `TX_RESULT`, with its failures. -/
theorem encodeTxResultArgs_encodes (out : Bool) (cap : Nat) (status flags : UInt8) (seq : UInt16) :
    EncodesUnless (cap < kFramedHeaderLen + kTxResultPayloadLen ∨ out = false) .txResult
      ([status, flags] ++ putLE16 seq) (encodeTxResultArgs out cap status flags seq) := by
  unfold encodeTxResultArgs encodeTxResult
  cases out with
  | false => exact ⟨by simp, by simp⟩
  | true =>
      refine ⟨by simp, ?_⟩
      intro wire h
      simp only [Bool.not_true, Bool.false_eq_true, if_false] at h
      split at h
      · contradiction
      · exact (Option.some.inj h).symm

/-! ## Messages -/

/-- What the daemon tells its client. -/
inductive Message where
  | rx (event : RxEvent)
  | txResult (result : TxResult)
deriving DecidableEq

namespace Message

/-- The frame that carries a message. -/
def frame : Message → Frame
  | .rx e => ⟨.rxPacket, putLE16 e.rssiCdbm.toUInt16 ++ putLE16 e.snrCdb.toUInt16 ++ e.data⟩
  | .txResult r => ⟨.txResult, [r.status, r.flags] ++ putLE16 r.seq⟩

/-- The encoder of a message. -/
def encode (cap : Nat) : Message → Option Bytes
  | .rx e => encodeRxPacket cap e.rssiCdbm e.snrCdb e.data
  | .txResult r => encodeTxResult cap r.status r.flags r.seq

/-- An RF payload that the daemon can carry. -/
def Legal : Message → Prop
  | .rx e => e.data.length ≤ kMaxRfPayload
  | .txResult _ => True

@[simp]
theorem frame_rx_length (e : RxEvent) :
    (frame (.rx e)).payload.length = kRxMetaLen + e.data.length := by
  simp [frame, kRxMetaLen]
  omega

@[simp]
theorem frame_txResult_length (r : TxResult) :
    (frame (.txResult r)).payload.length = kTxResultPayloadLen := by
  simp [frame, kTxResultPayloadLen]

/-- The frame of a legal message is an inbound one. -/
theorem inbound_frame {m : Message} (h : m.Legal) : Inbound m.frame := by
  cases m with
  | rx e =>
      refine ⟨by simp [frame], ?_⟩
      rw [frame_rx_length, kRxPayloadMax]
      exact Nat.add_le_add_left h _
  | txResult r => exact ⟨by simp [frame], by rw [frame_txResult_length]; decide⟩

/-- A buffer that holds the frame of a message gets exactly that frame. -/
theorem encode_eq {m : Message} (h : m.Legal) {cap : Nat}
    (hcap : (frameBytes m.frame).length ≤ cap) : m.encode cap = some (frameBytes m.frame) := by
  rw [frameBytes, framedBytes_length] at hcap
  cases m with
  | rx e =>
      rw [frame_rx_length] at hcap
      rw [encode, encodeRxPacket, if_neg (Nat.not_lt.mpr h), if_neg (Nat.not_lt.mpr hcap)]
      rfl
  | txResult r =>
      rw [frame_txResult_length] at hcap
      rw [encode, encodeTxResult, if_neg (Nat.not_lt.mpr hcap)]
      rfl

end Message

/-- Decode a frame by the decoder of its type. -/
def decodeMessage (f : Frame) : Option Message :=
  ((decodeRx f).map .rx).or ((decodeTxResult f).map .txResult)

/-- The frame of a message decodes to it. -/
theorem decodeMessage_frame {m : Message} (h : m.Legal) : decodeMessage m.frame = some m := by
  cases m with
  | rx e =>
      have hlen : ¬ kMaxRfPayload < kRxMetaLen + e.data.length - kRxMetaLen := by
        rw [Nat.add_sub_cancel_left]
        exact Nat.not_lt.mpr h
      have hdecode : decodeRx (Message.rx e).frame = some e := by
        rw [decodeRx, Message.frame_rx_length, if_neg (by simp [Message.frame]),
          if_neg (by omega), if_neg hlen]
        simp [Message.frame, putLE16, getLE16_putLE16, kRxMetaLen]
      simp [decodeMessage, hdecode]
  | txResult r =>
      have hdecode : decodeTxResult (Message.txResult r).frame = some r := by
        rw [decodeTxResult, Message.frame_txResult_length, if_neg (by simp [Message.frame]),
          if_neg (by simp)]
        simp [Message.frame, putLE16, getLE16_putLE16]
      have hother : decodeRx (Message.txResult r).frame = none := by
        simp [decodeRx, Message.frame]
      simp [decodeMessage, hdecode, hother]

/-- Only the frame of a packet decodes to the packet. -/
theorem eq_frame_of_decodeRx {f : Frame} {e : RxEvent} (h : decodeRx f = some e) :
    (Message.rx e).Legal ∧ f = (Message.rx e).frame := by
  obtain ⟨type, payload⟩ := f
  unfold decodeRx at h
  simp only at h
  split at h
  · contradiction
  rename_i htype
  split at h
  · contradiction
  rename_i hlong
  split at h
  · contradiction
  rename_i hshort
  match payload with
  | [] | [_] | [_, _] | [_, _, _] => simp [kRxMetaLen] at hlong
  | a :: b :: c :: d :: data =>
    simp only [Option.some.injEq] at h
    subst h
    simp only [kRxMetaLen, List.length_cons] at hshort
    refine ⟨?_, ?_⟩
    · simpa [Message.Legal, kRxMetaLen] using hshort
    · simp_all [Message.frame, putLE16_getLE16, kRxMetaLen]

/-- Only the frame of a result decodes to the result. -/
theorem eq_frame_of_decodeTxResult {f : Frame} {r : TxResult} (h : decodeTxResult f = some r) :
    f = (Message.txResult r).frame := by
  obtain ⟨type, payload⟩ := f
  unfold decodeTxResult at h
  simp only at h
  split at h
  · contradiction
  rename_i htype
  split at h
  · contradiction
  rename_i hlen
  simp only [ne_eq, not_not] at htype hlen
  obtain ⟨a, b, c, d, rfl⟩ := List.length_eq_four.mp hlen
  simp only [Option.some.injEq] at h
  subst h
  simp [Message.frame, htype, putLE16_getLE16]

/-! ## Round trips -/

/-- A popped frame that decodes to a message stood on the wire as the encoding of that
message. -/
theorem reencode_of_pop {buf rest : Bytes} {f : Frame} {m : Message}
    (hpop : daemonFormat.pop buf = .gotFrame f rest) (hlegal : m.Legal) (hframe : f = m.frame) :
    ∃ wire, buf = wire ++ rest ∧ ∀ cap, wire.length ≤ cap → m.encode cap = some wire := by
  obtain ⟨-, hbuf⟩ := eq_frameBytes_of_pop hpop
  subst hframe
  exact ⟨frameBytes m.frame, hbuf, fun cap hcap => Message.encode_eq hlegal hcap⟩

/-- Messages encoded one behind the other are received as those messages, however the
stream is cut into reads. -/
theorem collect_messages {messages : List Message} (hlegal : ∀ m ∈ messages, m.Legal)
    {reads : List Bytes} (hreads : reads.flatten = messages.flatMap fun m => frameBytes m.frame) :
    daemonFormat.collect reads = some ([], messages.map Message.frame) := by
  apply daemonFormat.collect_eq_of_parse
  have hbegins : BeginsWith reads.flatten (messages.map Message.frame) [] := by
    refine ⟨?_, ?_⟩
    · rw [hreads, List.flatMap_map, List.append_nil]
    · intro f hf
      obtain ⟨m, hm, rfl⟩ := List.mem_map.mp hf
      exact Message.inbound_frame (hlegal m hm)
  rw [hbegins.parse]
  simp

/-- The codec of the DATA socket.  Messages encoded into large enough buffers are
received exactly, however their bytes are cut into reads, and leave the parser empty.
A frame that pops off and decodes is re-encoded to its bytes on the wire.  An encoder
gives nothing exactly for a payload above 255 bytes, a small buffer or a null pointer
that is needed, and the whole frame otherwise. -/
theorem framing_round_trip :
    (∀ (messages : List Message) (cap : Nat),
      (∀ m ∈ messages, m.Legal ∧ kFramedHeaderLen + m.frame.payload.length ≤ cap) →
      ∃ wires, messages.mapM (Message.encode cap) = some wires ∧
        ∀ reads : List Bytes, reads.flatten = wires.flatten →
          ∃ frames, daemonFormat.collect reads = some ([], frames) ∧
            frames.map decodeMessage = messages.map some) ∧
    (∀ buf f rest, daemonFormat.pop buf = .gotFrame f rest →
      (∀ e, decodeRx f = some e → ∃ wire, buf = wire ++ rest ∧ ∀ cap, wire.length ≤ cap →
        encodeRxPacket cap e.rssiCdbm e.snrCdb e.data = some wire) ∧
      (∀ r, decodeTxResult f = some r → ∃ wire, buf = wire ++ rest ∧ ∀ cap, wire.length ≤ cap →
        encodeTxResult cap r.status r.flags r.seq = some wire)) ∧
    ∀ (out : Bool) (cap : Nat),
      (∀ arg : RfArg, EncodesUnless
        (kMaxRfPayload < arg.rfLen.toNat ∨ cap < kFramedHeaderLen + arg.rfLen.toNat ∨
          out = false ∨ (0 < arg.rfLen ∧ arg.rf = none))
        .txPacket arg.data (encodeTxPacketArgs out cap arg)) ∧
      (∀ (rssiCdbm snrCdb : Int16) (arg : RfArg), EncodesUnless
        (kMaxRfPayload < arg.rfLen.toNat ∨
          cap < kFramedHeaderLen + (kRxMetaLen + arg.rfLen.toNat) ∨
          out = false ∨ (0 < arg.rfLen ∧ arg.rf = none))
        .rxPacket (putLE16 rssiCdbm.toUInt16 ++ putLE16 snrCdb.toUInt16 ++ arg.data)
        (encodeRxPacketArgs out cap rssiCdbm snrCdb arg)) ∧
      ∀ (status flags : UInt8) (seq : UInt16), EncodesUnless
        (cap < kFramedHeaderLen + kTxResultPayloadLen ∨ out = false)
        .txResult ([status, flags] ++ putLE16 seq)
        (encodeTxResultArgs out cap status flags seq) := by
  refine ⟨?_, ?_, ?_⟩
  · intro messages cap hfits
    have hencode : ∀ m ∈ messages, m.encode cap = some (frameBytes m.frame) := fun m hm =>
      Message.encode_eq (hfits m hm).1
        ((framedBytes_length _ _).trans_le (hfits m hm).2)
    refine ⟨messages.map fun m => frameBytes m.frame, mapM_eq_some_map hencode, ?_⟩
    intro reads hreads
    refine ⟨messages.map Message.frame,
      collect_messages (fun m hm => (hfits m hm).1) (by rw [hreads, List.flatMap_def]), ?_⟩
    rw [List.map_map]
    exact List.map_congr_left fun m hm => decodeMessage_frame (hfits m hm).1
  · intro buf f rest hpop
    refine ⟨fun e he => ?_, fun r hr => ?_⟩
    · obtain ⟨hlegal, hframe⟩ := eq_frame_of_decodeRx he
      exact reencode_of_pop hpop hlegal hframe
    · exact reencode_of_pop (m := .txResult r) hpop trivial (eq_frame_of_decodeTxResult hr)
  · intro out cap
    refine ⟨fun arg => ?_, fun rssiCdbm snrCdb arg => ?_, encodeTxResultArgs_encodes out cap⟩
    · have h := encodesUnless_args out fun _ => encodeTxPacket_encodes cap arg.data
      rwa [Nat.zero_add] at h
    · exact encodesUnless_args out fun _ => encodeRxPacket_encodes cap rssiCdbm snrCdb arg.data

end Loraham
end LorahamBridge
