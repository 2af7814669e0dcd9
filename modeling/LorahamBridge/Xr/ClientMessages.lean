import LorahamBridge.Loraham.Codec
import LorahamBridge.Xr.Session

/-!
# The client's messages

What a client sends goes through five encoders, each with its own refusals; what the
bridge receives goes through the streaming parser, `validate` and `is_client_message`.
Both ends agree on every byte: the streams that the bridge reads as client messages are
exactly those that the encoders write, however they are cut into reads.  `ERROR` is legal
from a client too, but there is no encoder for it.

Main results:

- Theorem `eq_frameBytes_of_pop`: a frame that pops off stood encoded at the front.
- Theorems `Encoded.reads` and `encoded_of_readMessage`: an encoder writes the frames that
  read as its message, and no others.
- Theorem `client_stream_iff`: the same over streams cut into reads.
-/

namespace LorahamBridge
namespace Extradio

open Foundation
open Loraham (RfArg)

/-! ## Encoders -/

/-- The bytes behind a pointer to an HMAC. -/
abbrev Digest := { hmac : Bytes // hmac.length = kAuthResponseSize }

/-- The client's `HELLO`. -/
def encodeHello (outCap : Nat) : Option Bytes :=
  encode outCap .hello 0 [kVersion]

/-- `none` is the null pointer. -/
def encodeAuthResponse (outCap : Nat) (hmac32 : Option Digest) : Option Bytes :=
  match hmac32 with
  | none => none
  | some hmac => encode outCap .authResponse 0 hmac.1

/-- The client's `CONFIGURE`, for a valid configuration. -/
def encodeConfigure (outCap : Nat) (cfg : RadioConfig) : Option Bytes :=
  if !radioConfigValid cfg then none
  else encode outCap .configure 0 (packConfig cfg)

/-- The client's `TX_REQUEST`, with a number that is not zero. -/
def encodeTxRequest (outCap : Nat) (seq : UInt16) (arg : RfArg) : Option Bytes :=
  if seq == 0 then none
  else if kMaxLoraPayload < arg.rfLen.toNat then none
  else if arg.isMissing then none
  else encode outCap .txRequest seq arg.data

/-- The client's `PONG`. -/
def encodePong (outCap : Nat) : Option Bytes :=
  encode outCap .pong 0 []

/-! ## Messages -/

/-- What a client can say. -/
inductive ClientMessage where
  | hello
  | authResponse (hmac : Bytes)
  | configure (cfg : RadioConfig)
  | txRequest (seq : UInt16) (data : Bytes)
  | pong
deriving DecidableEq

/-- The bytes an encoder has written for a message, from arguments and into a buffer that it
did not refuse. -/
inductive Encoded : ClientMessage → Bytes → Prop
  | hello {outCap : Nat} {wire : Bytes} (h : encodeHello outCap = some wire) :
      Encoded .hello wire
  | authResponse {outCap : Nat} {hmac : Digest} {wire : Bytes}
      (h : encodeAuthResponse outCap (some hmac) = some wire) : Encoded (.authResponse hmac.1) wire
  | configure {outCap : Nat} {cfg : RadioConfig} {wire : Bytes}
      (h : encodeConfigure outCap cfg = some wire) : Encoded (.configure cfg) wire
  | txRequest {outCap : Nat} {seq : UInt16} {arg : RfArg} {wire : Bytes}
      (h : encodeTxRequest outCap seq arg = some wire) : Encoded (.txRequest seq arg.data) wire
  | pong {outCap : Nat} {wire : Bytes} (h : encodePong outCap = some wire) : Encoded .pong wire

/-- What the bridge makes of a frame once it has passed `validate` and
`is_client_message`. -/
def readMessage (f : Frame) : Option ClientMessage :=
  if validate f ≠ .none then none
  else if !isClientMessage f.type then none
  else
    match f.type with
    | .hello => some .hello
    | .authResponse => some (.authResponse f.payload)
    | .configure => (decodeConfig f).map .configure
    | .txRequest => some (.txRequest f.seq f.payload)
    | .pong => some .pong
    | _ => none

/-! ## One frame -/

/-- What is encoded is the frame. -/
theorem frameBytes_of_encode {outCap : Nat} {type : MsgType} {seq : UInt16} {payload wire : Bytes}
    (h : encode outCap type seq payload = some wire) : wire = frameBytes ⟨type, seq, payload⟩ := by
  unfold encode at h
  repeat' split at h
  all_goals cases h
  rfl

/-- Every message is a valid frame. -/
theorem valid_of_readMessage {f : Frame} {m : ClientMessage} (h : readMessage f = some m) :
    validate f = .none := by
  unfold readMessage at h
  split at h <;> rename_i hvalid
  · cases h
  · exact not_not.mp hvalid

/-- A frame an encoder has written reads as its message. -/
theorem Encoded.reads {m : ClientMessage} {wire : Bytes} (h : Encoded m wire) :
    ∃ f, wire = frameBytes f ∧ readMessage f = some m := by
  cases h with
  | hello h => exact ⟨_, frameBytes_of_encode h, rfl⟩
  | pong h => exact ⟨_, frameBytes_of_encode h, rfl⟩
  | @authResponse _ hmac _ h =>
      refine ⟨_, frameBytes_of_encode h, ?_⟩
      simp [readMessage, validate, isClientMessage, hmac.2]
  | @configure _ cfg _ h =>
      unfold encodeConfigure at h
      split at h <;> rename_i hcfg
      · cases h
      · have hcfg : radioConfigValid cfg = true := by simpa using hcfg
        refine ⟨_, frameBytes_of_encode h, ?_⟩
        simp [readMessage, validate_configure hcfg, isClientMessage, decodeConfig,
          unpackConfig_packConfig hcfg]
  | @txRequest _ seq arg _ h =>
      unfold encodeTxRequest at h
      split at h <;> rename_i hseq
      · cases h
      · split at h <;> rename_i hlen
        · cases h
        · split at h <;> rename_i hmissing
          · cases h
          · rw [Bool.not_eq_true] at hmissing
            have hdata : arg.data.length ≤ kMaxLoraPayload := by
              rw [RfArg.data_length hmissing]
              omega
            have hseq : seq ≠ 0 := by simpa using hseq
            refine ⟨_, frameBytes_of_encode h, ?_⟩
            simp [readMessage, validate, isClientMessage, hseq, hdata]

/-- The arguments `data` and `len` for given bytes. -/
def requestArg (data : Bytes) (h : data.length ≤ kMaxLoraPayload) : RfArg where
  rfLen := data.length.toUInt16
  rf := some data
  rf_length := by
    rintro _ ⟨⟩
    rw [toNat_toUInt16_of_lt (by simp only [kMaxLoraPayload] at h; omega)]

/-- Only transmissions are numbered, and those are never numbered zero. -/
theorem seq_of_validate {f : Frame} (h : validate f = .none) :
    (f.seq = 0 ↔ f.type ≠ .txRequest ∧ f.type ≠ .txResult) := by
  unfold validate at h
  simp only at h
  split at h <;> rename_i hzero
  · cases h
  · split at h <;> rename_i hnumbered
    · cases h
    · by_cases hseq : f.seq = 0 <;> simp_all

theorem payload_of_validate_hello {seq : UInt16} {payload : Bytes}
    (h : validate ⟨.hello, seq, payload⟩ = .none) : payload = [kVersion] := by
  obtain rfl : seq = 0 := (seq_of_validate h).mpr ⟨by simp, by simp⟩
  have h : (if payload.length ≠ 1 then ErrorCode.badLength
    else if payload.getD 0 0 ≠ kVersion then .badVersion else .none) = .none := h
  split at h <;> rename_i hlen
  · cases h
  · obtain ⟨version, rfl⟩ := List.length_eq_one_iff.mp (not_not.mp hlen)
    split at h <;> rename_i hversion
    · cases h
    · simpa using hversion

/-- A frame that reads as a message is written by its encoder. -/
theorem encoded_of_readMessage {f : Frame} {m : ClientMessage} (h : readMessage f = some m) :
    Encoded m (frameBytes f) := by
  obtain ⟨type, seq, payload⟩ := f
  have hvalid := valid_of_readMessage h
  have hseq := seq_of_validate hvalid
  have hencode : encode kMaxFrame type seq payload = some (frameBytes ⟨type, seq, payload⟩) :=
    encode_kMaxFrame (payload_length_le_of_validate hvalid)
  simp only [readMessage, hvalid] at h
  cases type with
  | hello =>
      cases h
      obtain rfl := payload_of_validate_hello hvalid
      obtain rfl : seq = 0 := hseq.mpr (by simp)
      exact .hello hencode
  | authResponse =>
      cases h
      obtain rfl : seq = 0 := hseq.mpr (by simp)
      have hlen : payload.length = kAuthResponseSize := by simpa [validate] using hvalid
      exact @Encoded.authResponse kMaxFrame ⟨payload, hlen⟩ _ hencode
  | configure =>
      obtain rfl : seq = 0 := hseq.mpr (by simp)
      obtain ⟨cfg, hdecode, rfl⟩ := Option.map_eq_some_iff.mp h
      unfold decodeConfig at hdecode
      split at hdecode <;> rename_i hlen
      · cases hdecode
      · simp only [ne_eq, not_true_eq_false, false_or, not_not] at hlen
        obtain rfl := packConfig_of_unpackConfig hlen hdecode
        refine @Encoded.configure kMaxFrame cfg _ ?_
        rw [encodeConfigure, radioConfigValid_of_unpackConfig hdecode]
        exact hencode
  | txRequest =>
      cases h
      have hnumbered : seq ≠ 0 := fun hzero => (hseq.mp hzero).1 rfl
      have hlen : payload.length ≤ kMaxLoraPayload := by
        simpa [validate, hnumbered] using hvalid
      refine @Encoded.txRequest kMaxFrame seq (requestArg payload hlen) _ ?_
      have hsmall : (requestArg payload hlen).rfLen.toNat = payload.length :=
        ((requestArg payload hlen).rf_length payload rfl).symm
      rw [encodeTxRequest, if_neg (by simpa using hnumbered), if_neg (by omega),
        if_neg (by simp [RfArg.isMissing, requestArg])]
      exact hencode
  | pong =>
      cases h
      obtain rfl : seq = 0 := hseq.mpr (by simp)
      obtain rfl : payload = [] := by simpa [validate] using hvalid
      exact .pong hencode
  | _ => simp [isClientMessage] at h

/-! ## Streams -/

theorem MsgType.toByte_of_ofByte? {code : UInt8} {t : MsgType} (h : MsgType.ofByte? code = some t) :
    t.toByte = code := by
  unfold MsgType.ofByte? at h
  split at h
  all_goals rename_i hcode
  all_goals cases h
  all_goals exact (UInt8.toNat_inj.mp hcode).symm

/-- A frame that pops off stood encoded at the front. -/
theorem eq_frameBytes_of_pop {buf rest : Bytes} {f : Frame}
    (h : xrFormat.pop buf = .gotFrame f rest) : buf = frameBytes f ++ rest := by
  obtain ⟨n, hheader, hlen, rfl, rfl⟩ := xrFormat.pop_eq_gotFrame_iff.mp h
  match buf with
  | [] | [_] | [_, _] | [_, _, _] | [_, _, _, _] | [_, _, _, _, _] | [_, _, _, _, _, _]
  | [_, _, _, _, _, _, _] =>
      simp only [xrFormat, kHeaderSize, List.length_cons, List.length_nil] at hlen
      omega
  | b0 :: b1 :: b2 :: b3 :: b4 :: b5 :: b6 :: b7 :: body =>
    simp only [xrFormat, kHeaderSize, List.take_succ_cons, List.take_zero, headerPayloadLen,
      List.getD_cons_zero, List.getD_cons_succ, List.length_cons] at hheader hlen
    split at hheader <;> rename_i hmagic
    · cases hheader
    · split at hheader <;> rename_i hversion
      · cases hheader
      · split at hheader <;> rename_i htype
        · cases hheader
        · split at hheader
          · cases hheader
          · obtain ⟨type, htype⟩ := Option.ne_none_iff_exists'.mp (by simpa using htype)
            simp only [Except.ok.injEq] at hheader
            push Not at hmagic hversion
            have htake : (body.take n).length = n := by
              rw [List.length_take]
              omega
            have hput : putBE16 n.toUInt16 = [b4, b5] := by
              rw [← putBE16_getBE16 b4 b5, ← hheader]
              simp
            simp only [xrFormat, frameBytes, kHeaderSize, List.take_succ_cons, List.take_zero,
              List.drop_succ_cons, List.drop_zero, List.getD_cons_zero, List.getD_cons_succ, htype,
              Option.getD_some, MsgType.toByte_of_ofByte? htype, htake, hput, putBE16_getBE16,
              List.cons_append, List.nil_append, Nat.add_comm 8 n, hmagic.1, hmagic.2, hversion]
            simp

/-- Message by message, the encoders write the frames that read as the messages. -/
theorem forall₂_encoded_iff {messages : List ClientMessage} {wires : List Bytes} :
    List.Forall₂ Encoded messages wires ↔
      ∃ frames : List Frame, wires = frames.map frameBytes ∧
        frames.map readMessage = messages.map some := by
  constructor
  · intro h
    induction h with
    | nil => exact ⟨[], rfl, rfl⟩
    | cons hhead _ ih =>
        obtain ⟨f, rfl, hf⟩ := hhead.reads
        obtain ⟨frames, rfl, hframes⟩ := ih
        exact ⟨f :: frames, rfl, by rw [List.map_cons, List.map_cons, hf, hframes]⟩
  · rintro ⟨frames, rfl, hread⟩
    induction frames generalizing messages with
    | nil =>
        obtain rfl : messages = [] := by simpa using hread.symm
        exact .nil
    | cons f frames ih =>
        cases messages with
        | nil => simp at hread
        | cons m messages =>
            obtain ⟨hf, hframes⟩ := List.cons.inj hread
            exact .cons (encoded_of_readMessage hf) (ih hframes)

/-- The streams that the bridge reads as the given client messages, one after the other and
with nothing left over, are exactly those that the client's encoders write for these
messages, however the stream is cut into reads. -/
theorem client_stream_iff (reads : List Bytes) (messages : List ClientMessage) :
    (∃ frames, xrFormat.collect reads = some ([], frames) ∧
        frames.map readMessage = messages.map some) ↔
      ∃ wires, List.Forall₂ Encoded messages wires ∧ reads.flatten = wires.flatten := by
  constructor
  · rintro ⟨frames, hcollect, hread⟩
    have hparse := xrFormat.collect_eq_some_iff.mp hcollect
    obtain ⟨tail, hstream, htail⟩ := xrFormat.eq_flatMap_of_parse
      (fun _ _ _ => eq_frameBytes_of_pop) reads.flatten
    rw [hparse] at hstream htail
    obtain ⟨rfl, -⟩ := htail
    refine ⟨frames.map frameBytes, forall₂_encoded_iff.mpr ⟨frames, rfl, hread⟩, ?_⟩
    rw [hstream, List.append_nil, List.flatMap_def]
  · rintro ⟨wires, hencoded, hstream⟩
    obtain ⟨frames, rfl, hread⟩ := forall₂_encoded_iff.mp hencoded
    refine ⟨frames, xrFormat.collect_eq_of_parse ?_, hread⟩
    have hpop : ∀ f ∈ frames, ∀ more, xrFormat.pop (frameBytes f ++ more) = .gotFrame f more := by
      intro f hf more
      have hmem : readMessage f ∈ messages.map some := hread ▸ List.mem_map_of_mem hf
      obtain ⟨m, -, hm⟩ := List.mem_map.mp hmem
      exact pop_frameBytes (payload_length_le_of_validate (valid_of_readMessage hm.symm)) more
    have hparse := xrFormat.parse_flatMap_append hpop []
    rw [List.append_nil, xrFormat.parse_nil, List.append_nil] at hparse
    rw [hstream, ← List.flatMap_def]
    exact hparse

end Extradio
end LorahamBridge
