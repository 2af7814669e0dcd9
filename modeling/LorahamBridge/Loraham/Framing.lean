import LorahamBridge.Backend.RadioBackend

/-!
# Framed DATA protocol of the LoRaHAM daemon

The daemon speaks little-endian frames on its DATA socket: one type byte, a
16-bit payload length, and the payload.  This file embeds `loraham_framing` and
the frame constants of `loraham_protocol.h`.

Main results:

- Theorem `pop_framedBytes`: the client-side parser takes an encoded daemon frame
  off a stream as that frame.
- Theorem `parse_txPackets`: the daemon's reading of a concatenation of whole
  `TX_PACKET` frames and a strict prefix of another one.
-/

namespace LorahamBridge
namespace Loraham

open Foundation

/-! ## Frame layout and limits -/

def kFramedHeaderLen : Nat := 3
def kMaxRfPayload : Nat := 255
def kRxMetaLen : Nat := 4
def kRxPayloadMax : Nat := kRxMetaLen + kMaxRfPayload
def kTxResultPayloadLen : Nat := 4

/-- Frame types of the DATA socket. -/
inductive FramedType where
  | rxPacket
  | txPacket
  | error
  | txResult
deriving DecidableEq

/-- The code of a type on the wire. -/
def FramedType.toByte : FramedType → UInt8
  | .rxPacket => 0x01
  | .txPacket => 0x02
  | .error => 0x03
  | .txResult => 0x04

/-- The daemon-to-client frame types, the only ones the parser expects. -/
def FramedType.ofInbound? (code : UInt8) : Option FramedType :=
  if code = 0x01 then some .rxPacket
  else if code = 0x04 then some .txResult
  else if code = 0x03 then some .error
  else none

/-- `TX_RESULT` status codes that the bridge tells apart. -/
def txStatusOk : UInt8 := 0
def txStatusChannelBusy : UInt8 := 2

/-- One decoded daemon frame. -/
structure Frame where
  type : FramedType
  payload : Bytes
deriving DecidableEq

/-- Byte layout of a framed message. -/
def framedBytes (type : FramedType) (payload : Bytes) : Bytes :=
  [type.toByte] ++ putLE16 payload.length.toUInt16 ++ payload

@[simp]
theorem framedBytes_length (type : FramedType) (payload : Bytes) :
    (framedBytes type payload).length = kFramedHeaderLen + payload.length := by
  simp only [framedBytes, kFramedHeaderLen, List.length_append, List.length_cons,
    List.length_nil, putLE16_length]

/-! ## Encoders -/

/-- The frame of a packet to be sent, if it fits. -/
def encodeTxPacket (cap : Nat) (rf : Bytes) : Option Bytes :=
  if kMaxRfPayload < rf.length then none
  else if cap < kFramedHeaderLen + rf.length then none
  else some (framedBytes .txPacket rf)

/-- The frame of a received packet with its signal levels, if it fits. -/
def encodeRxPacket (cap : Nat) (rssiCdbm snrCdb : Int16) (rf : Bytes) : Option Bytes :=
  if kMaxRfPayload < rf.length then none
  else if cap < kFramedHeaderLen + (kRxMetaLen + rf.length) then none
  else some (framedBytes .rxPacket (putLE16 rssiCdbm.toUInt16 ++ putLE16 snrCdb.toUInt16 ++ rf))

/-- The frame of a result, if it fits. -/
def encodeTxResult (cap : Nat) (status flags : UInt8) (seq : UInt16) : Option Bytes :=
  if cap < kFramedHeaderLen + kTxResultPayloadLen then none
  else some (framedBytes .txResult ([status, flags] ++ putLE16 seq))

/-! ## Bounded streaming parser -/

/-- Header checks of `parser_pop`: expected type, then bounded length. -/
def headerPayloadLen (h : Bytes) : Except Unit Nat :=
  let len := (getLE16 (h.getD 1 0) (h.getD 2 0)).toNat
  if (FramedType.ofInbound? (h.getD 0 0)).isNone then .error ()
  else if kRxPayloadMax < len then .error ()
  else .ok len

/-- A header that is accepted announces a payload within the limit. -/
theorem headerPayloadLen_le (h : Bytes) (n : Nat) (hn : headerPayloadLen h = .ok n) :
    n ≤ kRxPayloadMax := by
  unfold headerPayloadLen at hn
  simp only at hn
  repeat
    split at hn
    · contradiction
  rename_i hle
  simp only [Except.ok.injEq] at hn
  omega

/-- The inbound frame format: `parser_pop` and `parser_push` are its pop and push. -/
def daemonFormat : FrameFormat Unit Frame where
  headerLen := kFramedHeaderLen
  maxPayload := kRxPayloadMax
  payloadLen := headerPayloadLen
  build h p := ⟨(FramedType.ofInbound? (h.getD 0 0)).getD .error, p⟩
  headerLen_pos := by decide
  payloadLen_le := headerPayloadLen_le

/-! ## Payload decoders -/

/-- The packet of an `RX_PACKET`: the signal levels and at most 255 bytes. -/
def decodeRx (f : Frame) : Option RxEvent :=
  if f.type ≠ .rxPacket then none
  else if f.payload.length < kRxMetaLen then none
  else if kMaxRfPayload < f.payload.length - kRxMetaLen then none
  else some
    { rssiCdbm := (getLE16 (f.payload.getD 0 0) (f.payload.getD 1 0)).toInt16
      snrCdb := (getLE16 (f.payload.getD 2 0) (f.payload.getD 3 0)).toInt16
      data := f.payload.drop kRxMetaLen }

/-- Status, flags and daemon sequence of a `TX_RESULT`. -/
structure TxResult where
  status : UInt8
  flags : UInt8
  seq : UInt16
deriving DecidableEq

/-- The result of a `TX_RESULT` with a payload of four bytes. -/
def decodeTxResult (f : Frame) : Option TxResult :=
  if f.type ≠ .txResult then none
  else if f.payload.length ≠ kTxResultPayloadLen then none
  else some
    { status := f.payload.getD 0 0
      flags := f.payload.getD 1 0
      seq := getLE16 (f.payload.getD 2 0) (f.payload.getD 3 0) }

/-- Only `OK` is success and only `CHANNEL_BUSY` is retry-eligible. -/
def mapTxStatus (status : UInt8) : TxOutcome :=
  if status = txStatusOk then .success
  else if status = txStatusChannelBusy then .channelBusy
  else .radioError

/-! ## Status lines -/

/-- What follows the first occurrence of `key` in a text. -/
def afterFirst (key : Bytes) : Bytes → Option Bytes
  | [] => if key.isPrefixOf [] then some [] else none
  | c :: rest =>
      if key.isPrefixOf (c :: rest) then some ((c :: rest).drop key.length)
      else afterFirst key rest

/-- The bytes that end a status field: space, tab, CR and LF. -/
def isFieldEnd (c : UInt8) : Bool :=
  c == 0x20 || c == 0x09 || c == 0x0D || c == 0x0A

/-- A `GET STATUS` reply is ready when the text behind its first `RADIO=` is
`READY` up to the next blank. -/
def statusLineRadioReady (line : Bytes) : Bool :=
  match afterFirst (ascii "RADIO=") line with
  | none => false
  | some value => value.takeWhile (fun c => !isFieldEnd c) == ascii "READY"

/-! ## What crosses the DATA socket -/

/-- The parser takes an encoded daemon frame off a stream as that frame. -/
theorem pop_framedBytes {type : FramedType} {payload : Bytes} (htype : type ≠ .txPacket)
    (hlen : payload.length ≤ kRxPayloadMax) (more : Bytes) :
    daemonFormat.pop (framedBytes type payload ++ more) = .gotFrame ⟨type, payload⟩ more := by
  have hnat : payload.length.toUInt16.toNat = payload.length :=
    toNat_toUInt16_of_lt (by simp only [kRxPayloadMax, kRxMetaLen, kMaxRfPayload] at hlen; omega)
  have hget := getLE16_putLE16 payload.length.toUInt16
  have hcode : FramedType.ofInbound? type.toByte = some type := by
    cases type <;> simp_all [FramedType.ofInbound?, FramedType.toByte]
  apply daemonFormat.pop_eq_gotFrame_iff.mpr
  have htake : (framedBytes type payload ++ more).take daemonFormat.headerLen =
      [type.toByte] ++ putLE16 payload.length.toUInt16 := by
    simp [framedBytes, daemonFormat, kFramedHeaderLen, putLE16]
  have hdrop : (framedBytes type payload ++ more).drop daemonFormat.headerLen =
      payload ++ more := by
    simp [framedBytes, daemonFormat, kFramedHeaderLen, putLE16]
  refine ⟨payload.length, ?_, ?_, ?_, ?_⟩
  · rw [htake]
    simp only [daemonFormat, headerPayloadLen, putLE16, List.cons_append, List.nil_append,
      List.getD_cons_zero, List.getD_cons_succ, hget, hnat, hcode]
    simp
    omega
  · simp only [List.length_append, framedBytes_length, daemonFormat]
    omega
  · rw [htake, hdrop]
    simp [daemonFormat, putLE16, hcode]
  · rw [← List.drop_drop, hdrop]
    simp

/-- The daemon's reading of the bridge's DATA bytes: `TX_PACKET` frames only,
each delivering its RF payload. -/
def txFormat : FrameFormat Unit Bytes where
  headerLen := kFramedHeaderLen
  maxPayload := 65535
  payloadLen h :=
    if h.getD 0 0 ≠ FramedType.toByte .txPacket then .error ()
    else .ok (getLE16 (h.getD 1 0) (h.getD 2 0)).toNat
  build _ p := p
  headerLen_pos := by decide
  payloadLen_le := by
    intro h n hn
    split at hn
    · contradiction
    · simp only [Except.ok.injEq] at hn
      have := (getLE16 (h.getD 1 0) (h.getD 2 0)).toNat_lt
      omega

/-- The complete packets among the bytes accepted on a DATA connection. -/
def txPackets (sent : Bytes) : List Bytes :=
  (txFormat.parse sent).1

/-- A whole `TX_PACKET` frame is read as its payload. -/
theorem pop_txPacket {rf : Bytes} (hlen : rf.length ≤ kMaxRfPayload) (more : Bytes) :
    txFormat.pop (framedBytes .txPacket rf ++ more) = .gotFrame rf more := by
  have hnat : rf.length.toUInt16.toNat = rf.length :=
    toNat_toUInt16_of_lt (by simp only [kMaxRfPayload] at hlen; omega)
  have hget := getLE16_putLE16 rf.length.toUInt16
  apply txFormat.pop_eq_gotFrame_iff.mpr
  have htake : (framedBytes .txPacket rf ++ more).take txFormat.headerLen =
      [FramedType.toByte .txPacket] ++ putLE16 rf.length.toUInt16 := by
    simp [framedBytes, txFormat, kFramedHeaderLen, putLE16]
  have hdrop : (framedBytes .txPacket rf ++ more).drop txFormat.headerLen = rf ++ more := by
    simp [framedBytes, txFormat, kFramedHeaderLen, putLE16]
  refine ⟨rf.length, ?_, ?_, ?_, ?_⟩
  · rw [htake]
    simp only [txFormat, putLE16, List.cons_append, List.nil_append, List.getD_cons_zero,
      List.getD_cons_succ, hget, hnat]
    simp
  · simp only [List.length_append, framedBytes_length, txFormat]
    omega
  · rw [hdrop]
    simp [txFormat]
  · rw [← List.drop_drop, hdrop]
    simp

/-- A strict prefix of a `TX_PACKET` frame holds no complete packet. -/
theorem pop_txPacket_incomplete {rf pre tail : Bytes} (hlen : rf.length ≤ kMaxRfPayload)
    (hsplit : pre ++ tail = framedBytes .txPacket rf) (htail : tail ≠ []) :
    txFormat.pop pre = .needMore := by
  have hpos : 0 < tail.length := List.length_pos_iff.mpr htail
  have hwhole := pop_txPacket hlen []
  rw [List.append_nil, ← hsplit] at hwhole
  cases hpop : txFormat.pop pre with
  | needMore => rfl
  | error e =>
      rw [txFormat.pop_error_append hpop tail] at hwhole
      contradiction
  | gotFrame g rest =>
      rw [txFormat.pop_gotFrame_append hpop tail] at hwhole
      simp only [PopResult.gotFrame.injEq, List.append_eq_nil_iff] at hwhole
      exact (htail hwhole.2.2).elim

/-- Whole packets followed by a strict prefix of another one. -/
theorem parse_txPackets {packets : List Bytes} {rf pre tail : Bytes}
    (hpackets : ∀ p ∈ packets, p.length ≤ kMaxRfPayload) (hlen : rf.length ≤ kMaxRfPayload)
    (hsplit : pre ++ tail = framedBytes .txPacket rf) (htail : tail ≠ []) :
    txPackets (packets.flatMap (framedBytes .txPacket) ++ pre) = packets := by
  rw [txPackets, txFormat.parse_flatMap_append fun p hp more => pop_txPacket (hpackets p hp) more,
    txFormat.parse_of_needMore (pop_txPacket_incomplete hlen hsplit htail)]
  simp

end Loraham
end LorahamBridge
