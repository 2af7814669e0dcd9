import LorahamBridge.Foundation.FrameStream

/-!
# The external-radio wire protocol

The bridge and the firmware talk the external-radio (XR) protocol: big-endian
frames with an eight-byte header, a strict per-message validation, and a bounded
streaming parser.  This file embeds the codec of `external_radio_protocol`.

Main results:

- Theorem `pop_frameBytes`: the parser takes an encoded frame off a stream as the
  frame it was encoded from.
- Theorems `packConfig_of_unpackConfig` and `unpackConfig_packConfig`: the
  seventeen configuration bytes and the configuration determine each other.
- Theorem `configEqual_iff`: the field-by-field comparison is equality.
-/

namespace LorahamBridge
namespace Extradio

open Foundation

/-! ## Wire constants -/

def kMagic0 : UInt8 := 0x58
def kMagic1 : UInt8 := 0x52
def kVersion : UInt8 := 0x01
def kHeaderSize : Nat := 8
def kMaxLoraPayload : Nat := 255
def kMaxPayload : Nat := 300
def kMaxFrame : Nat := kHeaderSize + kMaxPayload
def kAuthNonceSize : Nat := 16
def kAuthResponseSize : Nat := 32
def kConfigPayloadSize : Nat := 17

/-- Message types of protocol version 1, contiguous from `0x01` to `0x0D`. -/
inductive MsgType where
  | hello
  | helloAck
  | authChallenge
  | authResponse
  | authResult
  | configure
  | configResult
  | rxPacket
  | txRequest
  | txResult
  | ping
  | pong
  | error
deriving DecidableEq

/-- Wire code of a message type. -/
def MsgType.toByte : MsgType → UInt8
  | .hello => 0x01
  | .helloAck => 0x02
  | .authChallenge => 0x03
  | .authResponse => 0x04
  | .authResult => 0x05
  | .configure => 0x06
  | .configResult => 0x07
  | .rxPacket => 0x08
  | .txRequest => 0x09
  | .txResult => 0x0A
  | .ping => 0x0B
  | .pong => 0x0C
  | .error => 0x0D

/-- The message type with a given wire code; `none` for the codes that the
parser rejects as unknown. -/
def MsgType.ofByte? (code : UInt8) : Option MsgType :=
  match code.toNat with
  | 0x01 => some .hello
  | 0x02 => some .helloAck
  | 0x03 => some .authChallenge
  | 0x04 => some .authResponse
  | 0x05 => some .authResult
  | 0x06 => some .configure
  | 0x07 => some .configResult
  | 0x08 => some .rxPacket
  | 0x09 => some .txRequest
  | 0x0A => some .txResult
  | 0x0B => some .ping
  | 0x0C => some .pong
  | 0x0D => some .error
  | _ => none

/-- The code of a type is read back as the type. -/
@[simp]
theorem MsgType.ofByte?_toByte (t : MsgType) : MsgType.ofByte? t.toByte = some t := by
  cases t <;> rfl

/-- `AUTH_RESULT` payload bytes. -/
def authOk : UInt8 := 0x00
def authFail : UInt8 := 0x01

/-- `CONFIG_RESULT` status bytes: zero is success, anything else a failure. -/
def cfgOk : UInt8 := 0x00
def cfgUnsupported : UInt8 := 0x01
def cfgInvalid : UInt8 := 0x02

/-- `TX_RESULT` codes. -/
def txrSuccess : UInt8 := 0x00
def txrChannelBusy : UInt8 := 0x01
def txrTimeout : UInt8 := 0x02
def txrRadioError : UInt8 := 0x03
def kTxResultMax : UInt8 := txrRadioError

/-- Largest code an `ERROR` frame may carry. -/
def kWireErrorMax : UInt8 := 0x03

/-- Reasons surfaced by validation and by the client session. -/
inductive ErrorCode where
  | none
  | nullArg
  | badMagic
  | badVersion
  | badLength
  | unknownType
  | badSeq
  | badField
  | badState
  | auth
  | config
  | remote
  | timeout
deriving DecidableEq

/-! ## Radio configuration -/

/-- Normalized radio configuration. -/
@[ext]
structure RadioConfig where
  freqHz : UInt32
  bwHz : UInt32
  sf : UInt8
  crDenom : UInt8
  syncWord : UInt16
  preamble : UInt16
  txPowerDbm : Int8
  crc : UInt8
  ldro : UInt8
deriving DecidableEq

/-- The all-zero configuration that value-initializes a record. -/
def RadioConfig.zero : RadioConfig :=
  ⟨0, 0, 0, 0, 0, 0, 0, 0, 0⟩

def isBool (v : UInt8) : Bool :=
  v == 0 || v == 1

/-- Configurations are compared field by field. -/
def configEqual (a b : RadioConfig) : Bool :=
  a.freqHz == b.freqHz && a.bwHz == b.bwHz && a.sf == b.sf &&
    a.crDenom == b.crDenom && a.syncWord == b.syncWord &&
    a.preamble == b.preamble && a.txPowerDbm == b.txPowerDbm &&
    a.crc == b.crc && a.ldro == b.ldro

/-- The field-by-field comparison decides equality of configurations. -/
theorem configEqual_iff (a b : RadioConfig) : configEqual a b = true ↔ a = b := by
  simp only [configEqual, Bool.and_eq_true, beq_iff_eq, RadioConfig.ext_iff, and_assoc]

/-- `crc` and `ldro` are booleans: only 0 and 1 are valid. -/
def radioConfigValid (c : RadioConfig) : Bool :=
  isBool c.crc && isBool c.ldro

/-- Serialize a configuration into seventeen big-endian bytes. -/
def packConfig (c : RadioConfig) : Bytes :=
  putBE32 c.freqHz ++ putBE32 c.bwHz ++ [c.sf, c.crDenom] ++ putBE16 c.syncWord ++
    putBE16 c.preamble ++ [c.txPowerDbm.toUInt8, c.crc, c.ldro]

/-- Parse a seventeen-byte configuration; non-boolean flag bytes are rejected. -/
def unpackConfig (p : Bytes) : Option RadioConfig :=
  if ¬ isBool (p.getD 15 0) ∨ ¬ isBool (p.getD 16 0) then none
  else some
    { freqHz := getBE32 (p.getD 0 0) (p.getD 1 0) (p.getD 2 0) (p.getD 3 0)
      bwHz := getBE32 (p.getD 4 0) (p.getD 5 0) (p.getD 6 0) (p.getD 7 0)
      sf := p.getD 8 0
      crDenom := p.getD 9 0
      syncWord := getBE16 (p.getD 10 0) (p.getD 11 0)
      preamble := getBE16 (p.getD 12 0) (p.getD 13 0)
      txPowerDbm := (p.getD 14 0).toInt8
      crc := p.getD 15 0
      ldro := p.getD 16 0 }

@[simp]
theorem packConfig_length (c : RadioConfig) : (packConfig c).length = kConfigPayloadSize :=
  rfl

/-- Packing an unpacked configuration gives back the bytes it was read from. -/
theorem packConfig_of_unpackConfig {p : Bytes} {c : RadioConfig}
    (hlen : p.length = kConfigPayloadSize) (h : unpackConfig p = some c) :
    packConfig c = p := by
  match p, hlen with
  | [p0, p1, p2, p3, p4, p5, p6, p7, p8, p9, p10, p11, p12, p13, p14, p15, p16], _ =>
      simp only [unpackConfig, List.getD_cons_zero, List.getD_cons_succ] at h
      split at h
      · contradiction
      · simp only [Option.some.injEq] at h
        subst h
        simp [packConfig, putBE32_getBE32, putBE16_getBE16]

/-- A valid configuration survives packing and unpacking. -/
theorem unpackConfig_packConfig {c : RadioConfig} (h : radioConfigValid c = true) :
    unpackConfig (packConfig c) = some c := by
  simp only [radioConfigValid, Bool.and_eq_true] at h
  simp [unpackConfig, packConfig, putBE32, putBE16, h.1, h.2, getBE32_putBE32,
    getBE16_putBE16]

/-- An unpacked configuration has boolean flags. -/
theorem radioConfigValid_of_unpackConfig {p : Bytes} {c : RadioConfig}
    (h : unpackConfig p = some c) : radioConfigValid c = true := by
  unfold unpackConfig at h
  split at h <;> rename_i hflags
  · contradiction
  · simp only [Option.some.injEq] at h
    subst h
    simpa [radioConfigValid] using hflags

/-! ## Frames -/

/-- One decoded frame.  The payload length is the length of the list. -/
structure Frame where
  type : MsgType
  seq : UInt16
  payload : Bytes
deriving DecidableEq

/-- Strict structural validation of a frame.  The parser has already rejected
unknown type codes. -/
def validate (f : Frame) : ErrorCode :=
  let isTx := f.type == .txRequest || f.type == .txResult
  if isTx && f.seq == 0 then .badSeq
  else if !isTx && f.seq != 0 then .badSeq
  else
    match f.type with
    | .hello | .helloAck =>
        if f.payload.length ≠ 1 then .badLength
        else if f.payload.getD 0 0 ≠ kVersion then .badVersion
        else .none
    | .authChallenge => if f.payload.length = kAuthNonceSize then .none else .badLength
    | .authResponse => if f.payload.length = kAuthResponseSize then .none else .badLength
    | .authResult =>
        if f.payload.length ≠ 1 then .badLength
        else if f.payload.getD 0 0 ≠ authOk ∧ f.payload.getD 0 0 ≠ authFail then .badField
        else .none
    | .configure =>
        if f.payload.length ≠ kConfigPayloadSize then .badLength
        else if ¬ isBool (f.payload.getD 15 0) ∨ ¬ isBool (f.payload.getD 16 0) then .badField
        else .none
    | .configResult =>
        if f.payload.length = 1 then
          if f.payload.getD 0 0 ≠ cfgOk then .none else .badLength
        else if f.payload.length = 1 + kConfigPayloadSize then
          if f.payload.getD 0 0 ≠ cfgOk then .badField
          else if ¬ isBool (f.payload.getD 16 0) ∨ ¬ isBool (f.payload.getD 17 0) then .badField
          else .none
        else .badLength
    | .rxPacket =>
        let dlen := (getBE16 (f.payload.getD 4 0) (f.payload.getD 5 0)).toNat
        if f.payload.length < 6 then .badLength
        else if kMaxLoraPayload < dlen then .badLength
        else if f.payload.length ≠ 6 + dlen then .badLength
        else .none
    | .txRequest => if f.payload.length ≤ kMaxLoraPayload then .none else .badLength
    | .txResult =>
        if f.payload.length ≠ 1 then .badLength
        else if kTxResultMax < f.payload.getD 0 0 then .badField
        else .none
    | .ping | .pong => if f.payload.length = 0 then .none else .badLength
    | .error =>
        if f.payload.length ≠ 1 then .badLength
        else if kWireErrorMax < f.payload.getD 0 0 then .badField
        else .none

/-- A valid configuration makes a valid request. -/
theorem validate_configure {cfg : RadioConfig} (h : radioConfigValid cfg = true) :
    validate ⟨.configure, 0, packConfig cfg⟩ = .none := by
  simp only [radioConfigValid, Bool.and_eq_true] at h
  simp [validate, packConfig, putBE32, putBE16, kConfigPayloadSize, h.1, h.2]

/-- A valid payload fits into a frame. -/
theorem payload_length_le_of_validate {f : Frame} (h : validate f = .none) :
    f.payload.length ≤ kMaxPayload := by
  have hsizes : kAuthNonceSize = 16 ∧ kAuthResponseSize = 32 ∧ kConfigPayloadSize = 17 ∧
      kMaxLoraPayload = 255 ∧ kMaxPayload = 300 := by decide
  unfold validate at h
  simp only at h
  repeat' split at h
  all_goals first | contradiction | omega

/-! ## Encoding -/

/-- Byte layout of a frame: magic, version, type, length, sequence, payload. -/
def frameBytes (f : Frame) : Bytes :=
  [kMagic0, kMagic1, kVersion, f.type.toByte] ++ putBE16 f.payload.length.toUInt16 ++
    putBE16 f.seq ++ f.payload

/-- Encode a frame into a buffer of the given capacity; `none` is the zero return
for an oversized payload or a buffer that is too small. -/
def encode (outCap : Nat) (type : MsgType) (seq : UInt16) (payload : Bytes) : Option Bytes :=
  if kMaxPayload < payload.length then none
  else if outCap < kHeaderSize + payload.length then none
  else some (frameBytes ⟨type, seq, payload⟩)

@[simp]
theorem frameBytes_length (f : Frame) :
    (frameBytes f).length = kHeaderSize + f.payload.length := by
  simp only [frameBytes, kHeaderSize, List.length_append, List.length_cons, List.length_nil,
    putBE16_length]

/-- A full-size buffer takes every legal payload. -/
theorem encode_kMaxFrame {type : MsgType} {seq : UInt16} {payload : Bytes}
    (h : payload.length ≤ kMaxPayload) :
    encode kMaxFrame type seq payload = some (frameBytes ⟨type, seq, payload⟩) := by
  rw [encode, if_neg (by omega), if_neg (by simp only [kMaxFrame]; omega)]

/-! ## Payload decoders -/

/-- The configuration a `CONFIGURE` asks for. -/
def decodeConfig (f : Frame) : Option RadioConfig :=
  if f.type ≠ .configure ∨ f.payload.length ≠ kConfigPayloadSize then none
  else unpackConfig f.payload

/-- Decode the configuration echoed by a successful `CONFIG_RESULT`. -/
def decodeConfigEcho (f : Frame) : Option RadioConfig :=
  if f.type ≠ .configResult then none
  else if f.payload.length ≠ 1 + kConfigPayloadSize then none
  else if f.payload.getD 0 0 ≠ cfgOk then none
  else unpackConfig (f.payload.drop 1)

/-- A decoded echo was sent as the status and the packed configuration. -/
theorem eq_of_decodeConfigEcho {f : Frame} {cfg : RadioConfig}
    (h : decodeConfigEcho f = some cfg) :
    f.type = .configResult ∧ f.payload = cfgOk :: packConfig cfg := by
  unfold decodeConfigEcho at h
  split at h <;> rename_i htype
  · cases h
  · split at h <;> rename_i hlength
    · cases h
    · split at h <;> rename_i hstatus
      · cases h
      · refine ⟨not_not.mp htype, ?_⟩
        cases hpayload : f.payload with
        | nil => simp [hpayload, kConfigPayloadSize] at hlength
        | cons status echo =>
            simp only [hpayload, List.length_cons, List.getD_cons_zero, List.drop_succ_cons,
              List.drop_zero, ne_eq, not_not] at hlength hstatus h
            rw [hstatus, packConfig_of_unpackConfig (by omega) h]

/-- A received packet decoded from `RX_PACKET`. -/
structure RxPacket where
  rssi : Int16
  snr : Int16
  data : Bytes
deriving DecidableEq

/-- The packet of an `RX_PACKET`, with its signal levels. -/
def decodeRxPacket (f : Frame) : Option RxPacket :=
  let dlen := (getBE16 (f.payload.getD 4 0) (f.payload.getD 5 0)).toNat
  if f.type ≠ .rxPacket ∨ f.payload.length < 6 then none
  else if kMaxLoraPayload < dlen then none
  else if f.payload.length ≠ 6 + dlen then none
  else some
    { rssi := (getBE16 (f.payload.getD 0 0) (f.payload.getD 1 0)).toInt16
      snr := (getBE16 (f.payload.getD 2 0) (f.payload.getD 3 0)).toInt16
      data := (f.payload.drop 6).take dlen }

/-- A received payload is deliverable when it is nonempty and within the bound. -/
def rxPayloadAcceptable (len : Nat) : Bool :=
  0 < len && len ≤ kMaxLoraPayload

/-- The packets that may be forwarded. -/
theorem rxPayloadAcceptable_iff (len : Nat) :
    rxPayloadAcceptable len = true ↔ 0 < len ∧ len ≤ kMaxLoraPayload := by
  simp [rxPayloadAcceptable]

/-! ## Streaming parser -/

/-- Header checks of `parser_pop`, in the order the parser makes them. -/
def headerPayloadLen (h : Bytes) : Except ErrorCode Nat :=
  let len := (getBE16 (h.getD 4 0) (h.getD 5 0)).toNat
  if h.getD 0 0 ≠ kMagic0 ∨ h.getD 1 0 ≠ kMagic1 then .error .badMagic
  else if h.getD 2 0 ≠ kVersion then .error .badVersion
  else if (MsgType.ofByte? (h.getD 3 0)).isNone then .error .unknownType
  else if kMaxPayload < len then .error .badLength
  else .ok len

/-- A header that is accepted announces a payload within the limit. -/
theorem headerPayloadLen_le (h : Bytes) (n : Nat) (hn : headerPayloadLen h = .ok n) :
    n ≤ kMaxPayload := by
  unfold headerPayloadLen at hn
  simp only at hn
  repeat
    split at hn
    · contradiction
  rename_i hle
  simp only [Except.ok.injEq] at hn
  omega

/-- The XR frame format: `parser_pop` and `parser_push` are its pop and push. -/
def xrFormat : FrameFormat ErrorCode Frame where
  headerLen := kHeaderSize
  maxPayload := kMaxPayload
  payloadLen := headerPayloadLen
  build h p :=
    { type := (MsgType.ofByte? (h.getD 3 0)).getD .error
      seq := getBE16 (h.getD 6 0) (h.getD 7 0)
      payload := p }
  headerLen_pos := by decide
  payloadLen_le := headerPayloadLen_le

/-- The parser takes an encoded frame off a stream as that frame. -/
theorem pop_frameBytes {f : Frame} (h : f.payload.length ≤ kMaxPayload) (more : Bytes) :
    xrFormat.pop (frameBytes f ++ more) = .gotFrame f more := by
  obtain ⟨t, s, p⟩ := f
  simp only at h
  have hlen : p.length.toUInt16.toNat = p.length :=
    toNat_toUInt16_of_lt (by simp only [kMaxPayload] at h; omega)
  have hget := getBE16_putBE16 p.length.toUInt16
  have hseq := getBE16_putBE16 s
  apply xrFormat.pop_eq_gotFrame_iff.mpr
  have htake : (frameBytes ⟨t, s, p⟩ ++ more).take xrFormat.headerLen =
      [kMagic0, kMagic1, kVersion, t.toByte] ++ putBE16 p.length.toUInt16 ++ putBE16 s := by
    simp [frameBytes, xrFormat, kHeaderSize, putBE16]
  have hdrop : (frameBytes ⟨t, s, p⟩ ++ more).drop xrFormat.headerLen = p ++ more := by
    simp [frameBytes, xrFormat, kHeaderSize, putBE16]
  refine ⟨p.length, ?_, ?_, ?_, ?_⟩
  · rw [htake]
    simp only [xrFormat, headerPayloadLen, putBE16, List.cons_append, List.nil_append,
      List.getD_cons_zero, List.getD_cons_succ, hget, hlen, MsgType.ofByte?_toByte]
    simp
    omega
  · simp only [List.length_append, frameBytes_length, xrFormat]
    omega
  · rw [htake, hdrop]
    simp [xrFormat, putBE16, hseq]
  · rw [← List.drop_drop, hdrop]
    simp

end Extradio
end LorahamBridge
