import LorahamBridge.Foundation.CharBuffer
import LorahamBridge.Foundation.Lines
import LorahamBridge.Foundation.Printing

/-!
# Lines of the RF log

A record of the RF log is composed in a buffer on the stack: the printed fields, the
payload as hexadecimal digits and as printable characters, and a newline.  A record
that does not fit is cut off but keeps its newline.  This file embeds `put`,
`append_payload`, `format_rx` and `format_tx` of `rflog`.  The buffer is not null, and
`%.2f` of a number of hundredths is taken to print its exact value.

Main results:

- Theorem `appendPayload_stages`: what the payload stages leave in the buffer.
- Theorem `readRecord_record`: a whole record reads back as its payload.
- Theorem `rf_records_bounded`: every record is one terminated line within its buffer,
  and a record that fits is lossless.
-/

namespace LorahamBridge
namespace RfLog

open Foundation

/-! ## Printing into the buffer -/

/-- Print a text at the running position. -/
def put (out : Bytes) (cap pos : Nat) (text : Bytes) : Option (Bytes × Nat) :=
  (snprintf out pos (if pos < cap then cap - pos else 0) text).map fun r => (r.1, pos + r.2)

/-- A lower-case hexadecimal digit. -/
def lowerHexDigit (d : Nat) : UInt8 :=
  if d < 10 then digitByte d else (0x61 + (d - 10)).toUInt8

/-- The two digits of a payload byte. -/
def hexChars (c : UInt8) : Bytes :=
  [lowerHexDigit (c.toNat / 16), lowerHexDigit (c.toNat % 16)]

/-- A printable character that does not disturb the quoting stands for itself, every
other byte for a dot. -/
def asciiChars (c : UInt8) : Bytes :=
  [if 0x20 ≤ c ∧ c < 0x7F ∧ c ≠ 0x22 ∧ c ≠ 0x5C then c else 0x2E]

/-- The end of the record at its final position: a terminator, and in front of it a
newline in place of the last character if the record was cut off. -/
def endRecord (out : Bytes) (cap pos : Nat) : Option (Bytes × Nat) :=
  if cap ≤ pos then
    ((store out (cap - 2) 0x0A).bind fun out => store out (cap - 1) 0).map fun out =>
      (out, cap - 1)
  else (store out pos 0).map fun out => (out, pos)

/-- The payload fields and the end of the record. -/
def appendPayload (out : Bytes) (cap pos : Nat) (rf : Bytes) : Option (Bytes × Nat) := do
  let (out, pos) ← put out cap pos (ascii " hex=")
  let (out, pos) ← storeLoop 2 hexChars cap rf (out, pos)
  let (out, pos) ← put out cap pos (ascii " ascii=\"")
  let (out, pos) ← storeLoop 1 asciiChars cap rf (out, pos)
  let (out, pos) ← put out cap pos (ascii "\"\n")
  endRecord out cap pos

/-- `%.2f` of a number of hundredths. -/
def hundredths (v : Int16) : Bytes :=
  (if v.toInt < 0 then ascii "-" else []) ++ decimal (v.toInt.natAbs / 100) ++ ascii "." ++
    fixedDecimal 2 (v.toInt.natAbs % 100)

/-- A string argument; a null pointer prints as a dash. -/
def orDash (text : Option Bytes) : Bytes :=
  text.getD (ascii "-")

/-- The fields in front of the payload of a received packet. -/
def rxHeader (utc : Option Bytes) (rssiCdbm snrCdb : Int16) (len : Nat) : Bytes :=
  orDash utc ++ ascii " RX rssi=" ++ hundredths rssiCdbm ++ ascii " snr=" ++ hundredths snrCdb ++
    ascii " len=" ++ decimal len

/-- The fields in front of the payload of a transmitted packet. -/
def txHeader (utc outcome : Option Bytes) (len : Nat) : Bytes :=
  orDash utc ++ ascii " TX rssi=- snr=- len=" ++ decimal len ++ ascii " outcome=" ++ orDash outcome

/-- Print the header, then the payload behind what of it fits. -/
def formatRecord (out : Bytes) (cap : Nat) (header rf : Bytes) : Option (Bytes × Nat) :=
  if cap < 8 then some (out, 0)
  else
    (snprintf out 0 cap header).bind fun r =>
      appendPayload r.1 cap (if r.2 < cap then r.2 else cap - 1) rf

/-- The record of a received packet. -/
def formatRx (out : Bytes) (cap : Nat) (utc : Option Bytes) (rssiCdbm snrCdb : Int16)
    (rf : Bytes) : Option (Bytes × Nat) :=
  formatRecord out cap (rxHeader utc rssiCdbm snrCdb rf.length) rf

/-- The record of a transmitted packet. -/
def formatTx (out : Bytes) (cap : Nat) (utc outcome : Option Bytes) (rf : Bytes) :
    Option (Bytes × Nat) :=
  formatRecord out cap (txHeader utc outcome rf.length) rf

/-! ## What stands in the buffer -/

/-- The payload fields up to the closing quote. -/
def payloadText (hexed quoted : Bytes) : Bytes :=
  ascii " hex=" ++ hexed.flatMap hexChars ++ ascii " ascii=\"" ++ quoted.flatMap asciiChars ++
    [0x22]

/-- The whole record. -/
def record (header rf : Bytes) : Bytes :=
  header ++ payloadText rf rf ++ [0x0A]

/-- A text that is neither ended nor terminated. -/
def Plain (text : Bytes) : Prop :=
  (0 : UInt8) ∉ text ∧ (0x0A : UInt8) ∉ text

/-- A terminated line of `n` characters stands in the buffer. -/
structure OneLine (out : Bytes) (n : Nat) : Prop where
  bounded : n < out.length
  terminated : out[n]? = some 0
  line : ∃ text, out.take n = text ++ [0x0A] ∧ Plain text

/-- Printing appends to the text in the buffer. -/
theorem put_holds {cap : Nat} {out text : Bytes} (h : HoldsText cap out text) (chars : Bytes) :
    ∃ out', put out cap text.length chars = some (out', (text ++ chars).length) ∧
      HoldsText cap out' (text ++ chars) := by
  obtain ⟨out', hprint, hheld⟩ := snprintf_holds h chars
  exact ⟨out', by simp [put, hprint], hheld⟩

theorem hexChars_length (c : UInt8) : (hexChars c).length = 2 :=
  rfl

theorem asciiChars_length (c : UInt8) : (asciiChars c).length = 1 :=
  rfl

theorem flatMap_hexChars_length (rf : Bytes) : (rf.flatMap hexChars).length = 2 * rf.length := by
  induction rf with
  | nil => rfl
  | cons c rf ih =>
      rw [List.flatMap_cons, List.length_append, hexChars_length, ih, List.length_cons]
      omega

theorem flatMap_asciiChars_length (rf : Bytes) : (rf.flatMap asciiChars).length = rf.length := by
  induction rf with
  | nil => rfl
  | cons c rf ih =>
      rw [List.flatMap_cons, List.length_append, asciiChars_length, ih, List.length_cons]
      omega

/-- The payload takes three characters a byte. -/
theorem payloadText_length (hexed quoted : Bytes) :
    (payloadText hexed quoted).length = 14 + 2 * hexed.length + quoted.length := by
  have hfirst : (ascii " hex=").length = 5 := by simp [ascii]
  have hsecond : (ascii " ascii=\"").length = 8 := by simp [ascii]
  simp only [payloadText, List.length_append, flatMap_hexChars_length, flatMap_asciiChars_length,
    hfirst, hsecond, List.length_singleton]
  omega

/-! ### Plain texts -/

/-- Plain texts one after the other. -/
theorem Plain.append {text more : Bytes} (h : Plain text) (hmore : Plain more) :
    Plain (text ++ more) := by
  refine ⟨fun hmem => ?_, fun hmem => ?_⟩
  · rcases List.mem_append.mp hmem with hmem | hmem
    · exact h.1 hmem
    · exact hmore.1 hmem
  · rcases List.mem_append.mp hmem with hmem | hmem
    · exact h.2 hmem
    · exact hmore.2 hmem

theorem Plain.take {text : Bytes} (h : Plain text) (n : Nat) : Plain (text.take n) :=
  ⟨fun hmem => h.1 (List.mem_of_mem_take hmem), fun hmem => h.2 (List.mem_of_mem_take hmem)⟩

theorem plain_flatMap {chars : UInt8 → Bytes} (h : ∀ c, Plain (chars c)) (input : Bytes) :
    Plain (input.flatMap chars) := by
  refine ⟨fun hmem => ?_, fun hmem => ?_⟩
  · obtain ⟨c, -, hc⟩ := List.mem_flatMap.mp hmem
    exact (h c).1 hc
  · obtain ⟨c, -, hc⟩ := List.mem_flatMap.mp hmem
    exact (h c).2 hc

theorem plain_of_digits {text : Bytes} (h : ∀ c ∈ text, isDigit c = true) : Plain text := by
  refine ⟨fun hmem => ?_, fun hmem => ?_⟩
  · simpa [isDigit] using h _ hmem
  · simpa [isDigit] using h _ hmem

theorem plain_decimal (n : Nat) : Plain (decimal n) :=
  plain_of_digits (isDigit_of_mem_decimal n)

/-- A printed level is plain. -/
theorem plain_hundredths (v : Int16) : Plain (hundredths v) := by
  have hsign : Plain (if v.toInt < 0 then ascii "-" else []) := by
    split <;> simp [Plain, ascii]
  have hdot : Plain (ascii ".") := by simp [Plain, ascii]
  exact ((hsign.append (plain_decimal _)).append hdot).append
    (plain_of_digits (isDigit_of_mem_fixedDecimal _ _))

theorem hexValue_lowerHexDigit {d : Nat} (h : d < 16) : hexValue (lowerHexDigit d) = some d := by
  interval_cases d <;> decide +kernel

theorem plain_hexChars (c : UInt8) : Plain (hexChars c) := by
  have hc := c.toNat_lt
  have hdigit : ∀ d < 16, Plain [lowerHexDigit d] := by
    intro d hd
    have hvalue := hexValue_lowerHexDigit hd
    refine ⟨fun hmem => ?_, fun hmem => ?_⟩
    all_goals
      rw [← List.mem_singleton.mp hmem] at hvalue
      simp [hexValue] at hvalue
  exact (hdigit _ (by omega)).append (hdigit (c.toNat % 16) (by omega))

theorem plain_asciiChars (c : UInt8) : Plain (asciiChars c) := by
  unfold asciiChars
  split
  · rename_i h
    refine ⟨fun hmem => ?_, fun hmem => ?_⟩
    all_goals
      rw [← List.mem_singleton.mp hmem] at h
      simp at h
  · simp [Plain]

/-- A printed payload is plain, whatever its bytes are. -/
theorem plain_payloadText (hexed quoted : Bytes) : Plain (payloadText hexed quoted) := by
  have hfirst : Plain (ascii " hex=") := by simp [Plain, ascii]
  have hsecond : Plain (ascii " ascii=\"") := by simp [Plain, ascii]
  have hquote : Plain [0x22] := by simp [Plain]
  exact (((hfirst.append (plain_flatMap plain_hexChars hexed)).append hsecond).append
    (plain_flatMap plain_asciiChars quoted)).append hquote

theorem plain_orDash {text : Option Bytes} (h : ∀ t, text = some t → Plain t) :
    Plain (orDash text) := by
  cases text with
  | none => simp [orDash, Plain, ascii]
  | some t => exact h t rfl

/-- The fields of a received packet are plain. -/
theorem plain_rxHeader {utc : Option Bytes} (h : ∀ t, utc = some t → Plain t)
    (rssiCdbm snrCdb : Int16) (len : Nat) : Plain (rxHeader utc rssiCdbm snrCdb len) := by
  have hrssi : Plain (ascii " RX rssi=") := by simp [Plain, ascii]
  have hsnr : Plain (ascii " snr=") := by simp [Plain, ascii]
  have hlen : Plain (ascii " len=") := by simp [Plain, ascii]
  exact ((((((plain_orDash h).append hrssi).append (plain_hundredths _)).append hsnr).append
    (plain_hundredths _)).append hlen).append (plain_decimal _)

/-- The fields of a transmitted packet are plain. -/
theorem plain_txHeader {utc outcome : Option Bytes} (h : ∀ t, utc = some t → Plain t)
    (houtcome : ∀ t, outcome = some t → Plain t) (len : Nat) :
    Plain (txHeader utc outcome len) := by
  have hlen : Plain (ascii " TX rssi=- snr=- len=") := by simp [Plain, ascii]
  have hresult : Plain (ascii " outcome=") := by simp [Plain, ascii]
  exact ((((plain_orDash h).append hlen).append (plain_decimal _)).append hresult).append
    (plain_orDash houtcome)

/-! ### The end of the record -/

/-- A record that fits is terminated behind its newline. -/
theorem endRecord_of_fits {cap : Nat} {out body : Bytes} (h : HoldsText cap out (body ++ [0x0A]))
    (hplain : Plain body) (hfit : (body ++ [0x0A]).length < cap) :
    ∃ out' n, endRecord out cap (body ++ [0x0A]).length = some (out', n) ∧ out'.length = cap ∧
      OneLine out' n ∧ out'.take n = body ++ [0x0A] := by
  have hlen := h.length
  have htake := List.prefix_iff_eq_take.mp (h.prefix_of_lt hfit)
  have htext : (out.set (body ++ [0x0A]).length 0).take (body ++ [0x0A]).length =
      body ++ [0x0A] := by
    rw [List.take_set_of_le le_rfl, ← htake]
  refine ⟨out.set (body ++ [0x0A]).length 0, (body ++ [0x0A]).length, ?_, ?_,
    ⟨?_, ?_, body, htext, hplain⟩, htext⟩
  · rw [endRecord, if_neg (by omega), store, if_pos (by omega)]
    rfl
  · rw [List.length_set, hlen]
  · rw [List.length_set]
    omega
  · rw [List.getElem?_set_self (by omega)]

/-- A record that does not fit is cut off in front of its newline. -/
theorem endRecord_of_truncated {cap : Nat} {out body : Bytes}
    (h : HoldsText cap out (body ++ [0x0A])) (hplain : Plain body) (hcap : 2 ≤ cap)
    (hlong : cap ≤ (body ++ [0x0A]).length) :
    ∃ out' n, endRecord out cap (body ++ [0x0A]).length = some (out', n) ∧ out'.length = cap ∧
      OneLine out' n := by
  have hlen := h.length
  have hbody : out.take (cap - 2) = body.take (cap - 2) := by
    rw [List.length_append, List.length_singleton] at hlong
    have htwo := congrArg (List.take (cap - 2)) (List.prefix_iff_eq_take.mp h.text)
    rw [List.take_take, List.take_take, List.length_take, List.length_append, List.length_singleton,
      Nat.min_eq_left (by omega : cap - 2 ≤ cap - 1), Nat.min_eq_left (by omega),
      List.take_append_of_le_length (by omega)] at htwo
    exact htwo.symm
  have hset : (out.set (cap - 2) 0x0A).length = cap := by rw [List.length_set, hlen]
  have htext : ((out.set (cap - 2) 0x0A).set (cap - 1) 0).take (cap - 1) =
      body.take (cap - 2) ++ [0x0A] := by
    have hsucc : cap - 1 = cap - 2 + 1 := by omega
    rw [List.take_set_of_le le_rfl, hsucc, List.take_add_one, List.take_set_of_le le_rfl, hbody,
      List.getElem?_set_self (by omega)]
    rfl
  refine ⟨(out.set (cap - 2) 0x0A).set (cap - 1) 0, cap - 1, ?_, ?_,
    ⟨?_, ?_, _, htext, hplain.take _⟩⟩
  · rw [endRecord, if_pos hlong, store, if_pos (by omega), Option.bind_some, store,
      if_pos (by omega)]
    rfl
  · rw [List.length_set, hset]
  · rw [List.length_set]
    omega
  · rw [List.getElem?_set_self (by omega)]

/-- The stages in front of the end: as much of the payload as fits, and all of it if the
record fits. -/
theorem appendPayload_stages {cap : Nat} {out header : Bytes} (h : HoldsText cap out header)
    (rf : Bytes) :
    ∃ out' hexed quoted,
      appendPayload out cap header.length rf =
        endRecord out' cap (header ++ payloadText hexed quoted ++ [0x0A]).length ∧
      HoldsText cap out' (header ++ payloadText hexed quoted ++ [0x0A]) ∧
      hexed.length ≤ rf.length ∧ quoted.length ≤ rf.length ∧
      ((header ++ payloadText hexed quoted ++ [0x0A]).length < cap → hexed = rf ∧ quoted = rf) := by
  obtain ⟨out₁, hput₁, hheld₁⟩ := put_holds h (ascii " hex=")
  obtain ⟨out₂, hexed, hexRest, hloop₂, hheld₂, hhexed, hexEnd⟩ :=
    storeLoop_holds hexChars_length rf hheld₁
  obtain ⟨out₃, hput₃, hheld₃⟩ := put_holds hheld₂ (ascii " ascii=\"")
  obtain ⟨out₄, quoted, quotedRest, hloop₄, hheld₄, hquoted, quotedEnd⟩ :=
    storeLoop_holds asciiChars_length rf hheld₃
  obtain ⟨out₅, hput₅, hheld₅⟩ := put_holds hheld₄ (ascii "\"\n")
  have hend : ascii "\"\n" = [0x22, 0x0A] := by simp [ascii]
  have htext : header ++ ascii " hex=" ++ hexed.flatMap hexChars ++ ascii " ascii=\"" ++
      quoted.flatMap asciiChars ++ ascii "\"\n" = header ++ payloadText hexed quoted ++ [0x0A] := by
    simp [payloadText, hend]
  rw [htext] at hput₅ hheld₅
  refine ⟨out₅, hexed, quoted, ?_, hheld₅, ?_, ?_, ?_⟩
  · simp only [appendPayload, hput₁, hloop₂, hput₃, hloop₄, hput₅, Option.bind_eq_bind,
      Option.bind_some]
  · simp [hhexed]
  · simp [hquoted]
  · intro hfit
    -- A loop that stopped early left no room for the text behind it.
    have hfirst : (ascii " hex=").length = 5 := by simp [ascii]
    have hsecond : (ascii " ascii=\"").length = 8 := by simp [ascii]
    simp only [List.length_append, payloadText_length, flatMap_hexChars_length,
      flatMap_asciiChars_length, hfirst, hsecond, List.length_singleton] at hfit hexEnd quotedEnd
    refine ⟨?_, ?_⟩
    · rcases hexEnd with hrest | hfull
      · rw [hhexed, hrest, List.append_nil]
      · omega
    · rcases quotedEnd with hrest | hfull
      · rw [hquoted, hrest, List.append_nil]
      · omega

/-- A record leaves one line in its buffer, and stands there in full if it fits. -/
theorem formatRecord_sealed {cap : Nat} {out header : Bytes} (hout : out.length = cap)
    (hcap : 8 ≤ cap) (hplain : Plain header) (rf : Bytes) :
    ∃ out' n, formatRecord out cap header rf = some (out', n) ∧ out'.length = cap ∧
      OneLine out' n ∧ ((record header rf).length < cap → out'.take n = record header rf) := by
  obtain ⟨out₁, hprint, hheld⟩ := snprintf_holds (holds_nil hout) header
  rw [List.length_nil, if_pos (by omega), Nat.sub_zero] at hprint
  rw [List.nil_append] at hheld
  have hpos : (if header.length < cap then header.length else cap - 1) =
      (header.take (cap - 1)).length := by
    rw [List.length_take]
    split <;> omega
  obtain ⟨out₂, hexed, quoted, hstages, hheld₂, hhexed, hquoted, hfull⟩ :=
    appendPayload_stages hheld.take rf
  have hbody := (hplain.take (cap - 1)).append (plain_payloadText hexed quoted)
  have hformat : formatRecord out cap header rf = endRecord out₂ cap
      (header.take (cap - 1) ++ payloadText hexed quoted ++ [0x0A]).length := by
    rw [formatRecord, if_neg (by omega), hprint, Option.bind_some, hpos, hstages]
  rw [hformat]
  by_cases hfit : (header.take (cap - 1) ++ payloadText hexed quoted ++ [0x0A]).length < cap
  · obtain ⟨out', n, hend, hlen, hline, htext⟩ := endRecord_of_fits hheld₂ hbody hfit
    refine ⟨out', n, hend, hlen, hline, fun hrecord => ?_⟩
    obtain ⟨rfl, rfl⟩ := hfull hfit
    rw [htext, record, List.take_of_length_le]
    simp only [record, List.length_append] at hrecord
    omega
  · obtain ⟨out', n, hend, hlen, hline⟩ :=
      endRecord_of_truncated hheld₂ hbody (by omega) (by omega)
    refine ⟨out', n, hend, hlen, hline, fun hrecord => ?_⟩
    simp only [record, List.length_append, payloadText_length, List.length_take,
      List.length_singleton] at hrecord hfit
    omega

/-! ## Reading a record back -/

/-- What follows a given beginning of a text. -/
def strip (front text : Bytes) : Option Bytes :=
  if front.isPrefixOf text then some (text.drop front.length) else none

/-- Read the payload and the quoted characters of a record, from its end: the header
may hold anything. -/
def readRecord (line : Bytes) : Option (Bytes × Bytes) := do
  let text ← strip (ascii "\"\n").reverse line.reverse
  let quoted := text.takeWhile (· != 0x22)
  let text ← strip (ascii " ascii=\"").reverse (text.drop quoted.length)
  let digits := text.takeWhile fun c => (hexValue c).isSome
  let _ ← strip (ascii " hex=").reverse (text.drop digits.length)
  let payload ← readHex digits.reverse
  return (payload, quoted.reverse)

@[simp]
theorem strip_append (front rest : Bytes) : strip front (front ++ rest) = some rest := by
  rw [strip, if_pos (List.isPrefixOf_iff_prefix.mpr (List.prefix_append _ _)), List.drop_left]

/-- No quoted character disturbs the quoting. -/
theorem quoted_free {rf : Bytes} {c : UInt8} (h : c ∈ rf.flatMap asciiChars) :
    c ≠ 0x22 ∧ c ≠ 0x5C := by
  obtain ⟨b, -, hc⟩ := List.mem_flatMap.mp h
  unfold asciiChars at hc
  split at hc
  · rename_i hprintable
    rw [List.mem_singleton.mp hc]
    exact hprintable.2.2
  · rw [List.mem_singleton.mp hc]
    simp

theorem isSome_hexValue_of_mem {rf : Bytes} {c : UInt8} (h : c ∈ rf.flatMap hexChars) :
    (hexValue c).isSome = true := by
  obtain ⟨b, -, hc⟩ := List.mem_flatMap.mp h
  have hb := b.toNat_lt
  simp only [hexChars, List.mem_cons, List.not_mem_nil, or_false] at hc
  rcases hc with rfl | rfl
  · rw [hexValue_lowerHexDigit (by omega)]
    rfl
  · rw [hexValue_lowerHexDigit (by omega)]
    rfl

/-- A whole record reads back as its payload and one quoted character per byte. -/
theorem readRecord_record (header rf : Bytes) :
    readRecord (record header rf) = some (rf, rf.flatMap asciiChars) := by
  have hquoteEnd : (ascii "\"\n").reverse = [0x0A, 0x22] := by simp [ascii]
  have hascii : (ascii " ascii=\"").reverse = 0x22 :: (ascii " ascii=").reverse := by
    simp [ascii]
  have hhex : (ascii " hex=").reverse = 0x3D :: (ascii " hex").reverse := by simp [ascii]
  have hline : (record header rf).reverse = (ascii "\"\n").reverse ++
      ((rf.flatMap asciiChars).reverse ++ ((ascii " ascii=\"").reverse ++
        ((rf.flatMap hexChars).reverse ++ ((ascii " hex=").reverse ++ header.reverse)))) := by
    simp only [record, payloadText, List.reverse_append, hquoteEnd, List.append_assoc,
      List.cons_append, List.nil_append]
    rfl
  have hquoted : ((rf.flatMap asciiChars).reverse ++ ((ascii " ascii=\"").reverse ++
      ((rf.flatMap hexChars).reverse ++ ((ascii " hex=").reverse ++ header.reverse)))).takeWhile
        (· != 0x22) = (rf.flatMap asciiChars).reverse := by
    rw [hascii, List.cons_append]
    refine takeWhile_append_cons (fun c hc => ?_) (by simp) _
    simpa using (quoted_free (List.mem_reverse.mp hc)).1
  have hdigits : ((rf.flatMap hexChars).reverse ++ ((ascii " hex=").reverse ++
      header.reverse)).takeWhile (fun c => (hexValue c).isSome) =
        (rf.flatMap hexChars).reverse := by
    rw [hhex, List.cons_append]
    exact takeWhile_append_cons (fun c hc => isSome_hexValue_of_mem (List.mem_reverse.mp hc))
      (by simp [hexValue]) _
  have hread : readHex (rf.flatMap hexChars) = some rf :=
    readHex_flatMap (fun d hd => hexValue_lowerHexDigit hd) rf
  simp only [readRecord, hline, strip_append, hquoted, hdigits, List.drop_left,
    Option.bind_eq_bind, Option.bind_some, List.reverse_reverse, hread, Option.pure_def]

example : record (rxHeader (some (ascii "2026-09-12T16:03:47.412Z")) (-10450) 725 5)
    [0x41, 0x22, 0x5C, 0x7F, 0x00] =
    ascii ("2026-09-12T16:03:47.412Z RX rssi=-104.50 snr=7.25 len=5" ++
      " hex=41225c7f00 ascii=\"A....\"\n") := by
  decide +kernel

/-! ## Records of the bridge -/

/-- Size of a line buffer of the RF log. -/
def kLineMax : Nat := 1024

theorem hundredths_length_le (v : Int16) : (hundredths v).length ≤ 7 := by
  have hlow := v.le_toInt
  have hhigh := v.toInt_lt
  have hsign : (if v.toInt < 0 then ascii "-" else []).length ≤ 1 := by
    split <;> simp [ascii]
  have hwhole : (decimal (v.toInt.natAbs / 100)).length ≤ 2 + 1 :=
    decimal_length_le (by omega)
  have hdot : (ascii ".").length = 1 := by simp [ascii]
  simp only [hundredths, List.length_append, fixedDecimal_length]
  omega

/-- How long a record is. -/
theorem record_length (header rf : Bytes) :
    (record header rf).length = header.length + 15 + 3 * rf.length := by
  simp only [record, List.length_append, payloadText_length, List.length_singleton]
  omega

/-- The fields of a received packet are short. -/
theorem rxHeader_length_le (utc : Bytes) (rssiCdbm snrCdb : Int16) {len : Nat} (h : len ≤ 255) :
    (rxHeader (some utc) rssiCdbm snrCdb len).length ≤ utc.length + 36 := by
  have hrssi := hundredths_length_le rssiCdbm
  have hsnr := hundredths_length_le snrCdb
  have hlen : (decimal len).length ≤ 2 + 1 := decimal_length_le (by omega)
  have hfirst : (ascii " RX rssi=").length = 9 := by simp [ascii]
  have hsecond : (ascii " snr=").length = 5 := by simp [ascii]
  have hthird : (ascii " len=").length = 5 := by simp [ascii]
  simp only [rxHeader, orDash, Option.getD_some, List.length_append]
  omega

/-- The fields of a transmitted packet are short. -/
theorem txHeader_length_le (utc outcome : Bytes) {len : Nat} (h : len ≤ 255) :
    (txHeader (some utc) (some outcome) len).length ≤ utc.length + outcome.length + 33 := by
  have hlen : (decimal len).length ≤ 2 + 1 := decimal_length_le (by omega)
  have hfirst : (ascii " TX rssi=- snr=- len=").length = 21 := by simp [ascii]
  have hsecond : (ascii " outcome=").length = 9 := by simp [ascii]
  simp only [txHeader, orDash, Option.getD_some, List.length_append]
  omega

/-- A formatter stores within its buffer of `cap` bytes and leaves one terminated line
there.  If the whole record fits, it reads back as the payload, with one quoted
character per byte. -/
def Recorded (cap : Nat) (header rf : Bytes) (result : Option (Bytes × Nat)) : Prop :=
  ∃ out n, result = some (out, n) ∧ out.length = cap ∧ OneLine out n ∧
    ((record header rf).length < cap →
      ∃ quoted, readRecord (out.take n) = some (rf, quoted) ∧ quoted.length = rf.length ∧
        ∀ c ∈ quoted, c ≠ 0x22 ∧ c ≠ 0x5C)

/-- Every record that is formatted is sealed, and lossless if it fits. -/
theorem recorded_formatRecord {cap : Nat} {out header : Bytes} (hout : out.length = cap)
    (hcap : 8 ≤ cap) (hplain : Plain header) (rf : Bytes) :
    Recorded cap header rf (formatRecord out cap header rf) := by
  obtain ⟨out', n, hformat, hlen, hline, htext⟩ := formatRecord_sealed hout hcap hplain rf
  refine ⟨out', n, hformat, hlen, hline, fun hfit => ⟨rf.flatMap asciiChars, ?_, ?_, ?_⟩⟩
  · rw [htext hfit, readRecord_record]
  · exact flatMap_asciiChars_length rf
  · exact fun c hc => quoted_free hc

/-- Records of the RF log are bounded, one line each and, when they fit, lossless.  They
fit the buffers of the bridge for every packet a radio can carry. -/
theorem rf_records_bounded {cap : Nat} (hcap : 8 ≤ cap) {out : Bytes} (hout : out.length = cap)
    (utc outcome : Option Bytes) (hutc : ∀ t, utc = some t → Plain t)
    (houtcome : ∀ t, outcome = some t → Plain t) (rssiCdbm snrCdb : Int16) (rf : Bytes) :
    Recorded cap (rxHeader utc rssiCdbm snrCdb rf.length) rf
      (formatRx out cap utc rssiCdbm snrCdb rf) ∧
    Recorded cap (txHeader utc outcome rf.length) rf (formatTx out cap utc outcome rf) ∧
    ∀ stamp : Bytes, stamp.length = 24 → rf.length ≤ 255 →
      (record (rxHeader (some stamp) rssiCdbm snrCdb rf.length) rf).length < kLineMax ∧
      ∀ result ∈ [ascii "ok", ascii "unconfirmed"],
        (record (txHeader (some stamp) (some result) rf.length) rf).length < kLineMax := by
  refine ⟨recorded_formatRecord hout hcap (plain_rxHeader hutc _ _ _) rf,
    recorded_formatRecord hout hcap (plain_txHeader hutc houtcome _) rf, ?_⟩
  intro stamp hstamp hrf
  refine ⟨?_, ?_⟩
  · have hheader := rxHeader_length_le stamp rssiCdbm snrCdb hrf
    rw [record_length, kLineMax]
    omega
  · intro result hresult
    have hshort : result.length ≤ 11 := by
      have hall : ∀ text ∈ [ascii "ok", ascii "unconfirmed"], text.length ≤ 11 := by simp [ascii]
      exact hall result hresult
    have hheader := txHeader_length_le stamp result hrf
    rw [record_length, kLineMax]
    omega

/-- The smallest buffer still gets one line. -/
theorem rf_records_bounded_smallest :
    Recorded 8 (rxHeader (some (ascii "t")) (-10450) 725 1) [0x41]
      (formatRx (List.replicate 8 0) 8 (some (ascii "t")) (-10450) 725 [0x41]) :=
  (rf_records_bounded (le_refl 8) (by simp) (some (ascii "t")) none (by simp [Plain, ascii])
    (by simp) (-10450) 725 [0x41]).1

end RfLog
end LorahamBridge
