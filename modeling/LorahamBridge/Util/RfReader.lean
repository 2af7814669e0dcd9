import LorahamBridge.Foundation.Lines
import LorahamBridge.Loraham.Backend
import LorahamBridge.Util.RfLine
import LorahamBridge.Util.RfLog

/-!
# Reading the RF log

The header of `rflog` fixes how a line looks; whoever reads the two log files relies on that.
Here is such a reader, together with the calls that write a line: `rx` and `tx` of `rflog`,
which format it on the stack and hand it to `write_line`.

Main results:

- Theorem `readEntry_line`: a line reads back as what was logged, with its time.
- Theorem `follow_eq_writeLines`: every call formats its whole record and writes it.
- Theorem `writeLines_segments`: the two files always consist of whole lines.
- Theorem `readLog_follow`: the two files read back as the last entries.
-/

namespace LorahamBridge
namespace RfLog

open Foundation

/-! ## Entries -/

/-- What is logged. -/
inductive Logged where
  | rx (e : RxEvent)
  | tx (outcome : LoggedOutcome) (rf : Bytes)
deriving DecidableEq

/-- The outcome as it is printed. -/
def outcomeText : LoggedOutcome → Bytes
  | .ok => ascii "ok"
  | .unconfirmed => ascii "unconfirmed"

/-- A time as `utc_now` prints it, for years of four digits. -/
structure Stamp where
  text : Bytes
  plain : Plain text
  length : text.length = 24

/-- What one call of the log meets: the time, its line buffer on the stack, and the answers
of the system. -/
structure LogCall where
  stamp : Stamp
  buffer : Bytes
  size : buffer.length = kLineMax
  io : LogIo

/-- A record read from the log. -/
structure Entry where
  utc : Bytes
  what : Logged
deriving DecidableEq

/-! ## Writing -/

/-- Hand the formatted line to `write_line`; a store beyond the buffer has no result. -/
def writeFormatted (io : LogIo) (formatted : Option (Bytes × Nat)) (log : RfLog) : Option RfLog :=
  formatted.map fun r => log.writeLine io (r.1.take r.2)

/-- Log a received packet. -/
def rx (call : LogCall) (rssiCdbm snrCdb : Int16) (rf : Bytes) (log : RfLog) : Option RfLog :=
  log.writeFormatted call.io
    (formatRx call.buffer kLineMax (some call.stamp.text) rssiCdbm snrCdb rf)

/-- Log a transmitted packet with its outcome. -/
def tx (call : LogCall) (outcome rf : Bytes) (log : RfLog) : Option RfLog :=
  log.writeFormatted call.io
    (formatTx call.buffer kLineMax (some call.stamp.text) (some outcome) rf)

/-- Log an entry. -/
def note (log : RfLog) (entry : LogCall × Logged) : Option RfLog :=
  match entry.2 with
  | .rx e => log.rx entry.1 e.rssiCdbm e.snrCdb e.data
  | .tx outcome rf => log.tx entry.1 (outcomeText outcome) rf

/-- The log after a sequence of calls. -/
def follow (entries : List (LogCall × Logged)) (log : RfLog) : Option RfLog :=
  entries.foldlM note log

/-! ## Reading -/

/-- Read a number without sign and its two decimals at the beginning of a text, in
hundredths. -/
def readMagnitude (text : Bytes) : Option (Nat × Bytes) := do
  let whole := text.takeWhile isDigit
  let text ← strip (ascii ".") (text.drop whole.length)
  let n ← readDecimal whole
  let part ← readDecimal (text.take 2)
  return (100 * n + part, text.drop 2)

/-- Read a level in hundredths, with its sign. -/
def readHundredths (text : Bytes) : Option (Int × Bytes) :=
  if text.head? = some 0x2D then (readMagnitude text.tail).map fun r => (-(r.1 : Int), r.2)
  else (readMagnitude text).map fun r => ((r.1 : Int), r.2)

/-- Read a length field, which must be that of the payload. -/
def readLength (payload text : Bytes) : Option Bytes :=
  let digits := text.takeWhile isDigit
  if readDecimal digits = some payload.length then some (text.drop digits.length) else none

/-- Read the fields of a received packet. -/
def readRx (payload text : Bytes) : Option Logged := do
  let (rssi, text) ← readHundredths text
  let text ← strip (ascii " snr=") text
  let (snr, text) ← readHundredths text
  let text ← strip (ascii " len=") text
  let _ ← readLength payload text
  return .rx ⟨Int16.ofInt rssi, Int16.ofInt snr, payload⟩

/-- Read the fields of a transmitted packet. -/
def readTx (payload text : Bytes) : Option Logged := do
  let text ← readLength payload text
  let text ← strip (ascii " outcome=") text
  if (strip (ascii "ok ") text).isSome then return .tx .ok payload
  else if (strip (ascii "unconfirmed ") text).isSome then return .tx .unconfirmed payload
  else none

/-- Read one line of the log. -/
def readEntry (line : Bytes) : Option Entry := do
  let (payload, _) ← readRecord line
  let text := line.drop 24
  let what ←
    match strip (ascii " RX rssi=") text with
    | some text => readRx payload text
    | none => (strip (ascii " TX rssi=- snr=- len=") text).bind (readTx payload)
  return ⟨line.take 24, what⟩

/-- Read a log file. -/
def readLog (text : Bytes) : Option (List Entry) :=
  (splitLines text).bind fun lines => lines.mapM readEntry

/-! ## One line -/

theorem readDecimal_fixedDecimal {k n : Nat} (hk : 0 < k) (h : n < 10 ^ k) :
    readDecimal (fixedDecimal k n) = some n := by
  have hall : (fixedDecimal k n).all isDigit = true :=
    List.all_eq_true.mpr (isDigit_of_mem_fixedDecimal k n)
  have hne : fixedDecimal k n ≠ [] := by
    rw [← List.length_pos_iff, fixedDecimal_length]
    exact hk
  have hvalue := digitsValue_append_fixedDecimal [] h
  rw [readDecimal, if_pos ⟨hne, hall⟩]
  simpa [digitsValue] using hvalue

/-- A level without its sign reads back. -/
theorem readMagnitude_append (m : Nat) (rest : Bytes) :
    readMagnitude (decimal (m / 100) ++ (ascii "." ++ (fixedDecimal 2 (m % 100) ++ rest))) =
      some (m, rest) := by
  have hdot : ascii "." = [0x2E] := by decide +kernel
  have hwhole : (decimal (m / 100) ++ (ascii "." ++ (fixedDecimal 2 (m % 100) ++ rest))).takeWhile
      isDigit = decimal (m / 100) := by
    rw [hdot]
    exact takeWhile_append_cons (isDigit_of_mem_decimal _) (by decide) _
  have htake : (fixedDecimal 2 (m % 100) ++ rest).take 2 = fixedDecimal 2 (m % 100) :=
    List.take_left' (fixedDecimal_length 2 _)
  have hdrop : (fixedDecimal 2 (m % 100) ++ rest).drop 2 = rest :=
    List.drop_left' (fixedDecimal_length 2 _)
  have hpart : readDecimal (fixedDecimal 2 (m % 100)) = some (m % 100) :=
    readDecimal_fixedDecimal (by omega) (by omega)
  simp only [readMagnitude, hwhole, List.drop_left, strip_append, readDecimal_decimal, htake,
    hdrop, hpart, Option.bind_eq_bind, Option.bind_some, Option.pure_def, Nat.div_add_mod]

/-- A level reads back. -/
theorem readHundredths_append (v : Int16) (rest : Bytes) :
    readHundredths (hundredths v ++ rest) = some (v.toInt, rest) := by
  have hminus : ascii "-" = [0x2D] := by decide +kernel
  have htext : hundredths v ++ rest = (if v.toInt < 0 then ascii "-" else []) ++
      (decimal (v.toInt.natAbs / 100) ++ (ascii "." ++
        (fixedDecimal 2 (v.toInt.natAbs % 100) ++ rest))) := by
    simp [hundredths]
  rw [htext]
  by_cases hneg : v.toInt < 0
  · rw [if_pos hneg, hminus, List.singleton_append, readHundredths, if_pos List.head?_cons,
      List.tail_cons, readMagnitude_append, Option.map_some]
    simp only [Option.some.injEq, Prod.mk.injEq, and_true]
    omega
  · have hhead : (decimal (v.toInt.natAbs / 100) ++ (ascii "." ++
        (fixedDecimal 2 (v.toInt.natAbs % 100) ++ rest))).head? ≠ some 0x2D := by
      have hdigit := head_decimal_ne_sign (v.toInt.natAbs / 100)
      obtain ⟨c, digits, hcons⟩ := List.exists_cons_of_ne_nil
        (decimal_ne_nil (v.toInt.natAbs / 100))
      rw [hcons] at hdigit ⊢
      simpa using hdigit
    rw [if_neg hneg, List.nil_append, readHundredths, if_neg hhead, readMagnitude_append,
      Option.map_some]
    simp only [Option.some.injEq, Prod.mk.injEq, and_true]
    omega

/-- The length reads back. -/
theorem readLength_append {payload : Bytes} {c : UInt8} (hc : isDigit c = false) (rest : Bytes) :
    readLength payload (decimal payload.length ++ c :: rest) = some (c :: rest) := by
  have hdigits : (decimal payload.length ++ c :: rest).takeWhile isDigit =
      decimal payload.length :=
    takeWhile_append_cons (isDigit_of_mem_decimal _) hc _
  simp only [readLength, hdigits, readDecimal_decimal, List.drop_left]
  rfl

/-- The header of what is logged at a time. -/
def header (utc : Bytes) : Logged → Bytes
  | .rx e => rxHeader (some utc) e.rssiCdbm e.snrCdb e.data.length
  | .tx outcome rf => txHeader (some utc) (some (outcomeText outcome)) rf.length

/-- The packet of an entry. -/
def Logged.payload : Logged → Bytes
  | .rx e => e.data
  | .tx _ rf => rf

/-- The whole line of an entry. -/
def Entry.line (entry : Entry) : Bytes :=
  record (header entry.utc entry.what) entry.what.payload

/-- The fields behind the length of a record. -/
theorem payloadText_cons (rf : Bytes) :
    ∃ rest, payloadText rf rf ++ [0x0A] = 0x20 :: rest := by
  have hhex : ascii " hex=" = 0x20 :: ascii "hex=" := by decide +kernel
  exact ⟨_, by rw [payloadText, hhex]; rfl⟩

/-- The fields of a transmitted packet read back. -/
theorem readTx_append (outcome : LoggedOutcome) (rf rest : Bytes) :
    readTx rf (decimal rf.length ++ (ascii " outcome=" ++ (outcomeText outcome ++ 0x20 :: rest))) =
      some (.tx outcome rf) := by
  have hfield : ascii " outcome=" = 0x20 :: ascii "outcome=" := by decide +kernel
  have hlength : readLength rf (decimal rf.length ++ (ascii " outcome=" ++
      (outcomeText outcome ++ 0x20 :: rest))) =
      some (ascii " outcome=" ++ (outcomeText outcome ++ 0x20 :: rest)) := by
    rw [hfield, List.cons_append]
    exact readLength_append (by decide) _
  simp only [readTx, hlength, strip_append, Option.bind_eq_bind, Option.bind_some]
  cases outcome with
  | ok =>
      have hword : outcomeText .ok ++ 0x20 :: rest = ascii "ok " ++ rest := by
        have hok : ascii "ok " = ascii "ok" ++ [0x20] := by decide +kernel
        rw [hok, outcomeText, List.append_assoc]
        rfl
      rw [hword, strip_append]
      rfl
  | unconfirmed =>
      have hword : outcomeText .unconfirmed ++ 0x20 :: rest = ascii "unconfirmed " ++ rest := by
        have hunconfirmed : ascii "unconfirmed " = ascii "unconfirmed" ++ [0x20] := by
          decide +kernel
        rw [hunconfirmed, outcomeText, List.append_assoc]
        rfl
      have hnot : strip (ascii "ok ") (ascii "unconfirmed " ++ rest) = none := by
        have hok : ascii "ok " = 0x6F :: ascii "k " := by decide +kernel
        have hfirst : ascii "unconfirmed " = 0x75 :: ascii "nconfirmed " := by decide +kernel
        rw [strip, if_neg]
        simp [hok, hfirst, List.isPrefixOf]
      rw [hword, hnot, strip_append]
      rfl

/-- A line reads back as its entry. -/
theorem readEntry_line (entry : Entry) (h : entry.utc.length = 24) :
    readEntry entry.line = some entry := by
  obtain ⟨utc, what⟩ := entry
  simp only at h
  obtain ⟨rest, hrest⟩ := payloadText_cons what.payload
  have hspace : isDigit 0x20 = false := by decide
  have hrecord : readRecord (Entry.line ⟨utc, what⟩) =
      some (what.payload, what.payload.flatMap asciiChars) :=
    readRecord_record (header utc what) what.payload
  cases what with
  | rx e =>
      have htext : Entry.line ⟨utc, .rx e⟩ = utc ++ (ascii " RX rssi=" ++ (hundredths e.rssiCdbm ++
          (ascii " snr=" ++ (hundredths e.snrCdb ++ (ascii " len=" ++
            (decimal e.data.length ++ 0x20 :: rest)))))) := by
        rw [← hrest]
        simp [Entry.line, record, header, rxHeader, orDash, Logged.payload]
      simp only [readEntry, hrecord]
      rw [htext, List.drop_left' h, List.take_left' h]
      simp only [strip_append, readRx, readHundredths_append, Logged.payload,
        readLength_append hspace, Int16.ofInt_toInt, Option.bind_eq_bind, Option.bind_some,
        Option.pure_def]
  | tx outcome rf =>
      have htext : Entry.line ⟨utc, .tx outcome rf⟩ = utc ++ (ascii " TX rssi=- snr=- len=" ++
          (decimal rf.length ++ (ascii " outcome=" ++ (outcomeText outcome ++ 0x20 :: rest)))) := by
        rw [← hrest]
        simp [Entry.line, record, header, txHeader, orDash, Logged.payload]
      have hnotRx : ∀ tail, strip (ascii " RX rssi=") (ascii " TX rssi=- snr=- len=" ++ tail) =
          none := by
        intro tail
        have hrx : ascii " RX rssi=" = 0x20 :: 0x52 :: ascii "X rssi=" := by decide +kernel
        have htx : ascii " TX rssi=- snr=- len=" = 0x20 :: 0x54 :: ascii "X rssi=- snr=- len=" := by
          decide +kernel
        rw [strip, if_neg]
        rw [hrx, htx]
        simp [List.isPrefixOf]
      simp only [readEntry, hrecord]
      rw [htext, List.drop_left' h, List.take_left' h]
      simp only [hnotRx, strip_append, Logged.payload, readTx_append, Option.bind_eq_bind,
        Option.bind_some, Option.pure_def]

/-! ## The calls -/

/-- The entry a call writes. -/
def entryOf (entry : LogCall × Logged) : Entry :=
  ⟨entry.1.stamp.text, entry.2⟩

theorem plain_outcomeText (outcome : LoggedOutcome) : Plain (outcomeText outcome) := by
  cases outcome <;> simp [outcomeText, Plain, ascii]

/-- The fields of an entry are plain. -/
theorem plain_header (call : LogCall) (what : Logged) : Plain (header call.stamp.text what) := by
  have hstamp : ∀ t, some call.stamp.text = some t → Plain t := by
    rintro _ ⟨⟩
    exact call.stamp.plain
  cases what with
  | rx e => exact plain_rxHeader hstamp _ _ _
  | tx outcome rf =>
      refine plain_txHeader hstamp ?_ _
      rintro _ ⟨⟩
      exact plain_outcomeText outcome

/-- A record of the bridge fits its line buffer. -/
theorem line_length_lt (entry : LogCall × Logged) (h : entry.2.payload.length ≤ 255) :
    (entryOf entry).line.length < kLineMax := by
  obtain ⟨call, what⟩ := entry
  have hstamp := call.stamp.length
  unfold Entry.line entryOf
  rw [record_length, kLineMax]
  simp only at h ⊢
  cases what with
  | rx e =>
      have hheader := rxHeader_length_le call.stamp.text e.rssiCdbm e.snrCdb h
      simp only [header, Logged.payload] at hheader h ⊢
      omega
  | tx outcome rf =>
      have hword : (outcomeText outcome).length ≤ 11 := by
        cases outcome <;> simp [outcomeText, ascii]
      have hheader := txHeader_length_le call.stamp.text (outcomeText outcome) h
      simp only [header, Logged.payload] at hheader h ⊢
      omega

/-- Every call stores within its buffer and writes its whole record. -/
theorem note_eq (log : RfLog) (entry : LogCall × Logged) (h : entry.2.payload.length ≤ 255) :
    log.note entry = some (log.writeLine entry.1.io (entryOf entry).line) := by
  obtain ⟨out, n, hformat, -, -, htext⟩ := formatRecord_sealed entry.1.size (by decide)
    (plain_header entry.1 entry.2) entry.2.payload
  have hnote : log.note entry = log.writeFormatted entry.1.io (formatRecord entry.1.buffer kLineMax
      (header entry.1.stamp.text entry.2) entry.2.payload) := by
    obtain ⟨call, what⟩ := entry
    cases what <;> rfl
  rw [hnote, writeFormatted, hformat, Option.map_some, htext (line_length_lt entry h)]
  rfl

/-- Following the entries is writing their lines. -/
theorem follow_eq_writeLines (entries : List (LogCall × Logged)) (log : RfLog)
    (h : ∀ entry ∈ entries, entry.2.payload.length ≤ 255) :
    log.follow entries =
      some (log.writeLines (entries.map fun entry => (entry.1.io, (entryOf entry).line))) := by
  induction entries generalizing log with
  | nil => rfl
  | cons entry entries ih =>
      have hrest := ih (log.writeLine entry.1.io (entryOf entry).line)
        fun e he => h e (List.mem_cons_of_mem _ he)
      rw [follow, List.foldlM_cons, note_eq log entry (h entry List.mem_cons_self)]
      exact hrest

/-! ## The files -/

/-- The two files consist of whole lines: the last ones are in the live file, those before
them in the previous one, and lines are lost only from the second rollover on.  The previous
file is then filled up to a line. -/
structure Segments (maxBytes k : Nat) (log : RfLog) (lines : List Bytes) : Prop where
  limit : log.maxBytes = maxBytes
  bounded : log.live.length ≤ maxBytes
  split : ∃ lost previous last, lines = lost ++ (previous ++ last) ∧
    log.prev = previous.flatten ∧ log.live = last.flatten ∧
    (log.rolls = 0 → lost ++ previous = []) ∧ (log.rolls = 1 → lost = []) ∧
    (0 < log.rolls → maxBytes < log.prev.length + k)

/-- One line keeps both files within the last lines written. -/
theorem Segments.writeLine {maxBytes k : Nat} {log : RfLog} {lines : List Bytes}
    (h : Segments maxBytes k log lines) {io : LogIo} (hio : Faultless io) {line : Bytes}
    (hline : line.length ≤ k) (hk : k ≤ maxBytes) :
    Segments maxBytes k (log.writeLine io line) (lines ++ [line]) := by
  obtain ⟨hlimit, hbounded, lost, previous, last, hlines, hprev, hlive, hnone, hone, hfilled⟩ := h
  rw [hio.writeLine_eq, hlimit]
  split <;> rename_i hover
  · -- the live file becomes the previous one, and what that held is lost
    refine ⟨rfl, hline.trans hk, lost ++ previous, last, [line], ?_, hlive, by simp, ?_, ?_, ?_⟩
    · simp [hlines]
    · simp
    · intro hrolls
      exact hnone (by simpa using hrolls)
    · intro _
      simp only
      omega
  · refine ⟨rfl, ?_, lost, previous, last ++ [line], ?_, hprev, ?_, hnone, hone, hfilled⟩
    · simp only [List.length_append]
      omega
    · simp [hlines]
    · simp [hlive]

/-- The two files hold the last lines written. -/
theorem writeLines_segments {maxBytes k : Nat} (hk : k ≤ maxBytes)
    (writes : List (LogIo × Bytes)) (hio : ∀ w ∈ writes, Faultless w.1)
    (hlines : ∀ w ∈ writes, w.2.length ≤ k) :
    Segments maxBytes k (writeLines ⟨maxBytes, [], [], 0⟩ writes) (writes.map Prod.snd) := by
  induction writes using List.reverseRecOn with
  | nil =>
      exact ⟨rfl, Nat.zero_le _, [], [], [], rfl, rfl, rfl, by simp, by simp, by simp [writeLines]⟩
  | append_singleton writes w ih =>
      rw [writeLines_append, List.map_append]
      have hbefore := ih (fun v hv => hio v (List.mem_append_left _ hv))
        fun v hv => hlines v (List.mem_append_left _ hv)
      exact hbefore.writeLine (hio w (by simp)) (hlines w (by simp)) hk

theorem terminated_line (entry : LogCall × Logged) :
    Terminated 0x0A (entryOf entry).line := by
  refine ⟨header entry.1.stamp.text entry.2 ++
    payloadText entry.2.payload entry.2.payload, rfl, ?_⟩
  exact ((plain_header entry.1 entry.2).append (plain_payloadText _ _)).2

/-- The lines of entries read back as the entries. -/
theorem readLog_flatten (entries : List (LogCall × Logged)) :
    readLog (entries.map fun entry => (entryOf entry).line).flatten =
      some (entries.map entryOf) := by
  have hlines : ∀ line ∈ entries.map fun entry => (entryOf entry).line,
      Terminated 0x0A line := by
    intro line hline
    obtain ⟨entry, -, rfl⟩ := List.mem_map.mp hline
    exact terminated_line entry
  have hentries : (entries.map fun entry => (entryOf entry).line).mapM readEntry =
      some (entries.map entryOf) := by
    rw [List.mapM_map]
    exact mapM_eq_some_map fun entry _ => readEntry_line _ entry.1.stamp.length
  rw [readLog, splitLines_flatten hlines, Option.bind_some, hentries]

/-- As long as no call to the system fails, a new log reads back as the last entries: all of
them until the second rollover, and later at least as many as fill the previous file up to a
line. -/
theorem readLog_follow {maxBytes : Nat} (hmax : kLineMax ≤ maxBytes)
    (entries : List (LogCall × Logged)) (hio : ∀ entry ∈ entries, Faultless entry.1.io)
    (hlen : ∀ entry ∈ entries, entry.2.payload.length ≤ 255) :
    ∃ log lost kept, (⟨maxBytes, [], [], 0⟩ : RfLog).follow entries = some log ∧
      entries = lost ++ kept ∧ readLog (log.prev ++ log.live) = some (kept.map entryOf) ∧
      log.live.length ≤ maxBytes ∧
      (lost ≠ [] → 1 < log.rolls ∧ maxBytes < log.prev.length + kLineMax) := by
  have hshort : ∀ w ∈ entries.map fun entry => (entry.1.io, (entryOf entry).line),
      w.2.length ≤ kLineMax := by
    intro w hw
    obtain ⟨entry, hentry, rfl⟩ := List.mem_map.mp hw
    exact Nat.le_of_lt (line_length_lt entry (hlen entry hentry))
  have hfaultless : ∀ w ∈ entries.map fun entry => (entry.1.io, (entryOf entry).line),
      Faultless w.1 := by
    intro w hw
    obtain ⟨entry, hentry, rfl⟩ := List.mem_map.mp hw
    exact hio entry hentry
  have hsegments := writeLines_segments hmax _ hfaultless hshort
  obtain ⟨-, hbounded, lostLines, previous, last, hlines, hprev, hlive, hnone, hone, hfilled⟩ :=
    hsegments
  rw [List.map_map] at hlines
  obtain ⟨lost, kept, rfl, hlost, hkept⟩ := List.map_eq_append_iff.mp hlines
  refine ⟨_, lost, kept, follow_eq_writeLines _ _ hlen, rfl, ?_, hbounded, ?_⟩
  · rw [hprev, hlive, ← List.flatten_append, ← hkept]
    exact readLog_flatten kept
  · intro hsome
    have hgone : lostLines ≠ [] := by
      rw [← hlost]
      simpa using hsome
    have hrolls : 1 < (writeLines ⟨maxBytes, [], [], 0⟩
        ((lost ++ kept).map fun entry => (entry.1.io, (entryOf entry).line))).rolls := by
      by_contra hfew
      rcases Nat.lt_or_ge 0 (writeLines ⟨maxBytes, [], [], 0⟩
        ((lost ++ kept).map fun entry => (entry.1.io, (entryOf entry).line))).rolls with hpos | hzero
      · exact hgone (hone (by omega))
      · exact hgone (List.append_eq_nil_iff.mp (hnone (by omega))).1
    exact ⟨hrolls, hfilled (by omega)⟩

end RfLog
end LorahamBridge
