import LorahamBridge.Foundation.Lines
import LorahamBridge.Loraham.Configure

/-!
# The SET command of a configuration

A validated configuration reaches the daemon as one line of `key=value` tokens.  The
line is read back here by splitting it at its spaces and `=` signs, which shows that
it loses nothing of the configuration.

Main results:

- Theorem `parseSetCommand_setCommandText`: the line of an admissible configuration
  reads back as the configuration.
- Theorem `setCommandText_length_lt`: the line fits its print buffer.
- Theorem `set_command_lossless`: when a command is built, what it looks like, and the
  five lines `begin_configure` sends.
-/

namespace LorahamBridge

open Foundation Extradio

namespace Loraham

/-! ## Admissible configurations -/

/-- The bounds that validation leaves for the fields of a configuration. -/
structure Admissible (cfg : RadioConfig) : Prop where
  freqHz : cfg.freqHz.toNat < 10 ^ 9
  bwHz : ∃ token, bandwidthToken cfg.bwHz = some token
  sf : cfg.sf.toNat < 10 ^ 2
  crDenom : cfg.crDenom.toNat < 10 ^ 1
  syncWord : cfg.syncWord.toNat < 256
  txPowerDbm : 0 ≤ cfg.txPowerDbm.toInt ∧ cfg.txPowerDbm.toInt < 10 ^ 2
  crc : cfg.crc.toNat < 10 ^ 1
  ldro : cfg.ldro.toNat < 10 ^ 1

/-- Every frequency of a band has nine digits at most. -/
theorem freqHz_lt_of_selectBand {freqHz : UInt32} {band : Band}
    (h : selectBand freqHz = some band) : freqHz.toNat < 10 ^ 9 := by
  unfold selectBand at h
  simp only [k433Lo, k433Hi, k868Lo, k868Hi, UInt32.le_iff_toNat_le] at h
  split at h <;> rename_i hlow
  · have := hlow.2
    simp at this
    omega
  · split at h <;> rename_i hhigh
    · have := hhigh.2
      simp at this
      omega
    · contradiction

/-- What passes the code's check is admissible. -/
theorem admissible_of_validateConfig {cfg : RadioConfig} {band : Band}
    (h : validateConfig cfg = .ok band) : Admissible cfg := by
  unfold validateConfig at h
  split at h
  · contradiction
  rename_i hband
  simp only [UInt8.lt_iff_toNat_lt, UInt16.lt_iff_toNat_lt, Int8.lt_iff_toInt_lt] at h
  repeat
    split at h
    · contradiction
  rename_i hbw hsf hcr hsync hpre hpower hcrc hldro
  refine ⟨freqHz_lt_of_selectBand hband, Option.ne_none_iff_exists'.mp (by simpa using hbw), ?_, ?_,
    ?_, ?_, ?_, ?_⟩
  all_goals simp at *
  all_goals omega

/-! ## Tokens of the command -/

/-- A text without the bytes that separate tokens: space, `=` and newline. -/
def Word (text : Bytes) : Prop :=
  ∀ c ∈ text, c ≠ 0x20 ∧ c ≠ 0x3D ∧ c ≠ 0x0A

instance (text : Bytes) : Decidable (Word text) :=
  inferInstanceAs (Decidable (∀ c ∈ text, c ≠ 0x20 ∧ c ≠ 0x3D ∧ c ≠ 0x0A))

/-- Words one after the other. -/
theorem Word.append {text more : Bytes} (h : Word text) (hmore : Word more) :
    Word (text ++ more) := by
  intro c hc
  rcases List.mem_append.mp hc with hc | hc
  · exact h c hc
  · exact hmore c hc

/-- Digits make a word. -/
theorem word_of_digits {text : Bytes} (h : ∀ c ∈ text, isDigit c = true) : Word text := by
  intro c hc
  have hdigit := h c hc
  refine ⟨?_, ?_, ?_⟩
  all_goals
    rintro rfl
    simp [isDigit] at hdigit

theorem word_decimal (n : Nat) : Word (decimal n) :=
  word_of_digits (isDigit_of_mem_decimal n)

theorem word_signedDecimal (z : Int) : Word (signedDecimal z) := by
  unfold signedDecimal
  split
  · exact Word.append (by simp [ascii, Word]) (word_decimal _)
  · exact word_decimal _

theorem word_megahertz (freqHz : Nat) : Word (megahertz freqHz) :=
  ((word_decimal _).append (by simp [ascii, Word])).append
    (word_of_digits (isDigit_of_mem_fixedDecimal _ _))

theorem word_hex2 {n : Nat} (h : n < 256) : Word (hex2 n) := by
  have hdigit : ∀ d < 16, Word [hexDigit d] := by
    intro d hd c hc
    have hvalue := hexValue_hexDigit hd
    rw [← List.mem_singleton.mp hc] at hvalue
    refine ⟨?_, ?_, ?_⟩
    all_goals
      rintro rfl
      simp [hexValue] at hvalue
  exact (hdigit (n / 16) (by omega)).append (hdigit (n % 16) (by omega))

/-- The keys of the command, each with the text of its value. -/
def setFields (cfg : RadioConfig) (bw : Bytes) : List (Bytes × Bytes) :=
  [(ascii "MODE", ascii "LORA"), (ascii "FREQ", megahertz cfg.freqHz.toNat), (ascii "BW", bw),
    (ascii "SF", decimal cfg.sf.toNat), (ascii "CR", decimal cfg.crDenom.toNat),
    (ascii "CRC", decimal cfg.crc.toNat), (ascii "PREAMBLE", decimal cfg.preamble.toNat),
    (ascii "SYNC", ascii "0x" ++ hex2 (cfg.syncWord.toNat % 256)),
    (ascii "LDRO", decimal cfg.ldro.toNat), (ascii "POWER", signedDecimal cfg.txPowerDbm.toInt)]

/-- The tokens of the command, without its newline. -/
def setTokens (cfg : RadioConfig) (bw : Bytes) : List Bytes :=
  ascii "SET" :: (setFields cfg bw).map fun field => field.1 ++ 0x3D :: field.2

/-- The pieces of the format string, taken apart at the separators. -/
theorem formatPieces :
    ascii "SET MODE=LORA FREQ=" = ascii "SET" ++ 0x20 :: (ascii "MODE" ++ 0x3D ::
      (ascii "LORA" ++ 0x20 :: (ascii "FREQ" ++ [0x3D]))) ∧
    ascii " BW=" = 0x20 :: (ascii "BW" ++ [0x3D]) ∧
    ascii " SF=" = 0x20 :: (ascii "SF" ++ [0x3D]) ∧
    ascii " CR=" = 0x20 :: (ascii "CR" ++ [0x3D]) ∧
    ascii " CRC=" = 0x20 :: (ascii "CRC" ++ [0x3D]) ∧
    ascii " PREAMBLE=" = 0x20 :: (ascii "PREAMBLE" ++ [0x3D]) ∧
    ascii " SYNC=0x" = 0x20 :: (ascii "SYNC" ++ 0x3D :: ascii "0x") ∧
    ascii " LDRO=" = 0x20 :: (ascii "LDRO" ++ [0x3D]) ∧
    ascii " POWER=" = 0x20 :: (ascii "POWER" ++ [0x3D]) ∧ ascii "\n" = [0x0A] := by
  simp [ascii]

/-- The command is its tokens with blanks between them. -/
theorem setCommandText_eq (cfg : RadioConfig) (bw : Bytes) :
    setCommandText cfg bw = [0x20].intercalate (setTokens cfg bw) ++ [0x0A] := by
  obtain ⟨hset, hbw, hsf, hcr, hcrc, hpre, hsync, hldro, hpower, hend⟩ := formatPieces
  delta setCommandText
  simp only [setTokens, setFields, List.map, List.intercalate,
    List.intersperse_cons_cons, List.intersperse_singleton, List.flatten_cons, List.flatten_nil,
    hset, hbw, hsf, hcr, hcrc, hpre, hsync, hldro, hpower, hend,
    List.append_assoc, List.cons_append, List.nil_append, List.append_nil]

/-- Every bandwidth with a name is in the table. -/
theorem bandwidthToken_mem {bwHz : UInt32} {token : Bytes} (h : bandwidthToken bwHz = some token) :
    (bwHz, token) ∈ kBwTable := by
  unfold bandwidthToken at h
  simp only [Option.map_eq_some_iff] at h
  obtain ⟨entry, hfind, rfl⟩ := h
  have hkey := List.find?_some hfind
  rw [beq_iff_eq] at hkey
  exact hkey ▸ List.mem_of_find?_eq_some hfind

theorem kBwTable_words : ∀ entry ∈ kBwTable, Word entry.2 ∧ entry.2.length ≤ 5 := by
  simp [kBwTable, ascii, Word]

/-- Names and values of the fields are words. -/
theorem word_of_mem_setFields {cfg : RadioConfig} {bw : Bytes} (hbw : Word bw)
    {field : Bytes × Bytes} (h : field ∈ setFields cfg bw) : Word field.1 ∧ Word field.2 := by
  have hkeys : ∀ key ∈ [ascii "MODE", ascii "FREQ", ascii "BW", ascii "SF", ascii "CR", ascii "CRC",
      ascii "PREAMBLE", ascii "SYNC", ascii "LDRO", ascii "POWER"], Word key := by
    simp [ascii, Word]
  have hlora : Word (ascii "LORA") := by simp [ascii, Word]
  have hsync : Word (ascii "0x" ++ hex2 (cfg.syncWord.toNat % 256)) :=
    Word.append (by simp [ascii, Word]) (word_hex2 (by omega))
  refine ⟨hkeys _ ?_, ?_⟩
  · have hkey : field.1 ∈ (setFields cfg bw).map Prod.fst := List.mem_map_of_mem h
    exact hkey
  · simp only [setFields, List.mem_cons, List.not_mem_nil, or_false] at h
    rcases h with rfl | rfl | rfl | rfl | rfl | rfl | rfl | rfl | rfl | rfl
    · exact hlora
    · exact word_megahertz _
    · exact hbw
    · exact word_decimal _
    · exact word_decimal _
    · exact word_decimal _
    · exact word_decimal _
    · exact hsync
    · exact word_decimal _
    · exact word_signedDecimal _

/-- No token holds a space or a newline. -/
theorem setTokens_free (cfg : RadioConfig) {bw : Bytes} (hbw : Word bw) :
    ∀ token ∈ setTokens cfg bw, (0x20 : UInt8) ∉ token ∧ (0x0A : UInt8) ∉ token := by
  intro token htoken
  rcases List.mem_cons.mp htoken with rfl | htoken
  · simp [ascii]
  · obtain ⟨field, hfield, rfl⟩ := List.mem_map.mp htoken
    obtain ⟨hkey, hvalue⟩ := word_of_mem_setFields hbw hfield
    refine ⟨fun hmem => ?_, fun hmem => ?_⟩
    all_goals
      rcases List.mem_append.mp hmem with hmem | hmem
      · simpa using hkey _ hmem
      · rcases List.mem_cons.mp hmem with hmem | hmem
        · simp at hmem
        · simpa using hvalue _ hmem

/-! ## Reading the command back -/

/-- A command line split at its spaces, and each token at its `=` signs. -/
def splitCommand (text : Bytes) : List (List Bytes) :=
  ((text.takeWhile (· != 0x0A)).splitOn 0x20).map fun token => token.splitOn 0x3D

/-- A frequency in MHz with six places, as Hz. -/
def readMegahertz (text : Bytes) : Option Nat :=
  match text.splitOn 0x2E with
  | [whole, places] => if places.length = 6 then readDecimal (whole ++ places) else none
  | _ => none

/-- The bandwidth with a given token. -/
def readBandwidth (token : Bytes) : Option UInt32 :=
  (kBwTable.find? fun entry => entry.2 == token).map Prod.fst

/-- A byte behind `0x`. -/
def readSync (text : Bytes) : Option Nat :=
  if text.take 2 = ascii "0x" then
    (readHex (text.drop 2)).bind fun bytes => bytes.head?.map UInt8.toNat
  else none

/-- Key and value of a token with a single `=`. -/
def keyValue (token : List Bytes) : Option (Bytes × Bytes) :=
  match token with
  | [key, value] => some (key, value)
  | _ => none

/-- The nine fields of a configuration from their texts. -/
def readConfig (fields : List (Bytes × Bytes)) : Option RadioConfig := do
  let freqHz ← (fields.lookup (ascii "FREQ")).bind readMegahertz
  let bwHz ← (fields.lookup (ascii "BW")).bind readBandwidth
  let sf ← (fields.lookup (ascii "SF")).bind readDecimal
  let crDenom ← (fields.lookup (ascii "CR")).bind readDecimal
  let crc ← (fields.lookup (ascii "CRC")).bind readDecimal
  let preamble ← (fields.lookup (ascii "PREAMBLE")).bind readDecimal
  let syncWord ← (fields.lookup (ascii "SYNC")).bind readSync
  let ldro ← (fields.lookup (ascii "LDRO")).bind readDecimal
  let power ← (fields.lookup (ascii "POWER")).bind readSigned
  return { freqHz := freqHz.toUInt32, bwHz := bwHz, sf := sf.toUInt8
           crDenom := crDenom.toUInt8, syncWord := syncWord.toUInt16
           preamble := preamble.toUInt16, txPowerDbm := Int8.ofInt power
           crc := crc.toUInt8, ldro := ldro.toUInt8 }

/-- Read the configuration from a SET command. -/
def parseSetCommand (text : Bytes) : Option RadioConfig :=
  if (splitCommand text).head? = some [ascii "SET"] then
    ((splitCommand text).tail.mapM keyValue).bind readConfig
  else none

/-- The line of the command is its tokens with single spaces. -/
theorem takeWhile_setCommandText {cfg : RadioConfig} {bw : Bytes} (hbw : Word bw) :
    (setCommandText cfg bw).takeWhile (· != 0x0A) = [0x20].intercalate (setTokens cfg bw) := by
  have hnone := not_mem_intercalate (by decide : (0x0A : UInt8) ≠ 0x20) fun token htoken =>
    (setTokens_free cfg hbw token htoken).2
  rw [setCommandText_eq, List.takeWhile_append_of_pos]
  · simp
  · intro c hc
    simpa using fun h : c = 0x0A => hnone (h ▸ hc)

/-- The command splits into its fields again. -/
theorem splitCommand_setCommandText {cfg : RadioConfig} {bw : Bytes} (hbw : Word bw) :
    splitCommand (setCommandText cfg bw) =
      [ascii "SET"] :: (setFields cfg bw).map fun field => [field.1, field.2] := by
  have hset : (ascii "SET").splitOn 0x3D = [ascii "SET"] := by decide +kernel
  have hfields : ∀ field ∈ setFields cfg bw,
      (field.1 ++ 0x3D :: field.2).splitOn 0x3D = [field.1, field.2] := by
    intro field hfield
    obtain ⟨hkey, hvalue⟩ := word_of_mem_setFields hbw hfield
    exact splitOn_intercalate_pair (fun h => (hkey _ h).2.1 rfl) (fun h => (hvalue _ h).2.1 rfl)
  have hspaces := List.splitOn_intercalate 0x20
    (fun token h => (setTokens_free cfg hbw token h).1) (by simp [setTokens])
  rw [splitCommand, takeWhile_setCommandText hbw, hspaces, setTokens, List.map_cons, List.map_map,
    hset]
  exact congrArg _ (List.map_congr_left hfields)

/-- The frequency reads back. -/
theorem readMegahertz_megahertz (freqHz : Nat) : readMegahertz (megahertz freqHz) = some freqHz := by
  have hdot : ascii "." = [0x2E] := by simp [ascii]
  have hno : ∀ {text : Bytes}, (∀ c ∈ text, isDigit c = true) → (0x2E : UInt8) ∉ text := by
    intro text h hmem
    have := h _ hmem
    simp [isDigit] at this
  have hwhole := isDigit_of_mem_decimal (freqHz / 1000000)
  have hplaces := isDigit_of_mem_fixedDecimal 6 (freqHz % 1000000)
  have hall : (decimal (freqHz / 1000000) ++ fixedDecimal 6 (freqHz % 1000000)).all isDigit =
      true := by
    rw [List.all_append, List.all_eq_true.mpr hwhole, List.all_eq_true.mpr hplaces]
    rfl
  rw [readMegahertz, megahertz, hdot, List.append_assoc, List.singleton_append,
    splitOn_intercalate_pair (hno hwhole) (hno hplaces)]
  simp only [fixedDecimal_length, if_true]
  rw [readDecimal, if_pos ⟨by simp [decimal_ne_nil], hall⟩,
    digitsValue_append_fixedDecimal _ (by omega), digitsValue_decimal, Option.some.injEq]
  omega

/-- The bandwidth reads back. -/
theorem readBandwidth_bandwidthToken {bwHz : UInt32} {token : Bytes}
    (h : bandwidthToken bwHz = some token) : readBandwidth token = some bwHz := by
  have htable : ∀ entry ∈ kBwTable, readBandwidth entry.2 = some entry.1 := by
    simp [readBandwidth, kBwTable, ascii]
  exact htable _ (bandwidthToken_mem h)

/-- The sync word reads back. -/
theorem readSync_hex2 {n : Nat} (h : n < 256) : readSync (ascii "0x" ++ hex2 n) = some n := by
  have htwo : (ascii "0x").length = 2 := by simp [ascii]
  have hbyte : n.toUInt8.toNat = n := by
    simp
    omega
  have hread : readHex (hex2 n) = some [n.toUInt8] := by
    simpa [hex2, hbyte] using readHex_flatMap (fun d hd => hexValue_hexDigit hd) [n.toUInt8]
  rw [readSync, ← htwo, List.take_left, List.drop_left, if_pos rfl, hread]
  simp [hbyte]

/-- The texts of the fields of an admissible configuration read back as it. -/
theorem readConfig_setFields {cfg : RadioConfig} (h : Admissible cfg) {bw : Bytes}
    (hbw : bandwidthToken cfg.bwHz = some bw) : readConfig (setFields cfg bw) = some cfg := by
  have hsync := readSync_hex2 h.syncWord
  rw [← Nat.mod_eq_of_lt h.syncWord] at hsync
  have hfreq : (setFields cfg bw).lookup (ascii "FREQ") = some (megahertz cfg.freqHz.toNat) := rfl
  have hbwTok : (setFields cfg bw).lookup (ascii "BW") = some bw := rfl
  have hsf : (setFields cfg bw).lookup (ascii "SF") = some (decimal cfg.sf.toNat) := rfl
  have hcr : (setFields cfg bw).lookup (ascii "CR") = some (decimal cfg.crDenom.toNat) := rfl
  have hcrc : (setFields cfg bw).lookup (ascii "CRC") = some (decimal cfg.crc.toNat) := rfl
  have hpre : (setFields cfg bw).lookup (ascii "PREAMBLE") = some (decimal cfg.preamble.toNat) :=
    rfl
  have hsyncTok : (setFields cfg bw).lookup (ascii "SYNC") =
      some (ascii "0x" ++ hex2 (cfg.syncWord.toNat % 256)) := rfl
  have hldro : (setFields cfg bw).lookup (ascii "LDRO") = some (decimal cfg.ldro.toNat) := rfl
  have hpower : (setFields cfg bw).lookup (ascii "POWER") =
      some (signedDecimal cfg.txPowerDbm.toInt) := rfl
  simp only [readConfig, hfreq, hbwTok, hsf, hcr, hcrc, hpre, hsyncTok, hldro, hpower,
    Option.bind_some, readMegahertz_megahertz, readBandwidth_bandwidthToken hbw,
    readDecimal_decimal, hsync, readSigned_signedDecimal]
  simp [Nat.mod_eq_of_lt h.syncWord]

/-- The line of an admissible configuration reads back as the configuration. -/
theorem parseSetCommand_setCommandText {cfg : RadioConfig} (h : Admissible cfg) {bw : Bytes}
    (hbw : bandwidthToken cfg.bwHz = some bw) :
    parseSetCommand (setCommandText cfg bw) = some cfg := by
  have hword := (kBwTable_words _ (bandwidthToken_mem hbw)).1
  have hpairs : ((setFields cfg bw).map fun field => [field.1, field.2]).mapM keyValue =
      some (setFields cfg bw) := by
    rw [List.mapM_map]
    exact (mapM_eq_some_map fun _ _ => rfl).trans (by simp)
  rw [parseSetCommand, splitCommand_setCommandText hword, List.head?_cons, if_pos rfl,
    List.tail_cons, hpairs, Option.bind_some, readConfig_setFields h hbw]

/-! ## Length and lines -/

theorem megahertz_length_le {freqHz : Nat} (h : freqHz < 10 ^ 9) :
    (megahertz freqHz).length ≤ 10 := by
  have hwhole : (decimal (freqHz / 1000000)).length ≤ 2 + 1 := decimal_length_le (by omega)
  have hdot : (ascii ".").length = 1 := by simp [ascii]
  simp only [megahertz, List.length_append, fixedDecimal_length]
  omega

/-- Keys have at most eight bytes and values at most ten. -/
theorem length_le_of_mem_setFields {cfg : RadioConfig} (h : Admissible cfg) {bw : Bytes}
    (hbw : bw.length ≤ 5) {field : Bytes × Bytes} (hfield : field ∈ setFields cfg bw) :
    field.1.length ≤ 8 ∧ field.2.length ≤ 10 := by
  have hkeys : ∀ key ∈ [ascii "MODE", ascii "FREQ", ascii "BW", ascii "SF", ascii "CR", ascii "CRC",
      ascii "PREAMBLE", ascii "SYNC", ascii "LDRO", ascii "POWER"], key.length ≤ 8 := by
    simp [ascii]
  have hlora : (ascii "LORA").length ≤ 10 := by simp [ascii]
  have hdecimal : ∀ {n : Nat}, n < 10 ^ (4 + 1) → (decimal n).length ≤ 10 := fun hn =>
    (decimal_length_le hn).trans (by omega)
  refine ⟨hkeys _ ?_, ?_⟩
  · have hkey : field.1 ∈ (setFields cfg bw).map Prod.fst := List.mem_map_of_mem hfield
    exact hkey
  · simp only [setFields, List.mem_cons, List.not_mem_nil, or_false] at hfield
    rcases hfield with rfl | rfl | rfl | rfl | rfl | rfl | rfl | rfl | rfl | rfl
    · exact hlora
    · exact megahertz_length_le h.freqHz
    · exact hbw.trans (by omega)
    · exact hdecimal (by have := h.sf; omega)
    · exact hdecimal (by have := h.crDenom; omega)
    · exact hdecimal (by have := h.crc; omega)
    · exact hdecimal (by have := cfg.preamble.toNat_lt; omega)
    · simp [ascii, hex2]
    · exact hdecimal (by have := h.ldro; omega)
    · have hpower := h.txPowerDbm
      simp only [signedDecimal]
      rw [if_neg (by omega)]
      exact hdecimal (by omega)

/-- The line of an admissible configuration fits its print buffer: eleven tokens of at
most nineteen bytes with a byte between them. -/
theorem setCommandText_length_lt {cfg : RadioConfig} (h : Admissible cfg) {bw : Bytes}
    (hbw : bandwidthToken cfg.bwHz = some bw) :
    (setCommandText cfg bw).length < kSetCommandBuf := by
  have hbwLen := (kBwTable_words _ (bandwidthToken_mem hbw)).2
  have htokens : ∀ token ∈ setTokens cfg bw, token.length ≤ 19 := by
    intro token htoken
    rcases List.mem_cons.mp htoken with rfl | htoken
    · simp [ascii]
    · obtain ⟨field, hfield, rfl⟩ := List.mem_map.mp htoken
      obtain ⟨hkey, hvalue⟩ := length_le_of_mem_setFields h hbwLen hfield
      simp only [List.length_append, List.length_cons]
      omega
  have hline := intercalate_length_le 0x20 htokens
  have hcount : (setTokens cfg bw).length = 11 := rfl
  rw [hcount] at hline
  rw [setCommandText_eq, List.length_append, kSetCommandBuf, List.length_singleton]
  omega

/-- A command is built exactly for a valid configuration. -/
theorem buildSetCommand_eq_some_iff {cfg : RadioConfig} {text : Bytes} :
    buildSetCommand cfg = some text ↔
      ∃ band bw, validateConfig cfg = .ok band ∧ bandwidthToken cfg.bwHz = some bw ∧
        text = setCommandText cfg bw := by
  constructor
  · intro h
    obtain ⟨band, hband⟩ := validateConfig_of_buildSetCommand h
    obtain ⟨bw, hbw⟩ := (admissible_of_validateConfig hband).bwHz
    simp only [buildSetCommand, hband, hbw, Option.getD_some] at h
    split at h
    · cases h
    · exact ⟨band, bw, hband, hbw, (Option.some.inj h).symm⟩
  · rintro ⟨band, bw, hband, hbw, htext⟩
    have hlen := setCommandText_length_lt (admissible_of_validateConfig hband) hbw
    simp only [buildSetCommand, hband, hbw, Option.getD_some]
    rw [htext, if_neg (Nat.not_le.mpr hlen)]

/-- A command that was built reads back as its configuration. -/
theorem parseSetCommand_of_buildSetCommand {cfg : RadioConfig} {text : Bytes}
    (h : buildSetCommand cfg = some text) : parseSetCommand text = some cfg := by
  obtain ⟨band, bw, hband, hbw, htext⟩ := buildSetCommand_eq_some_iff.mp h
  rw [htext]
  exact parseSetCommand_setCommandText (admissible_of_validateConfig hband) hbw

/-- A command is one line. -/
theorem lines_setCommandText (cfg : RadioConfig) {bw : Bytes} (hbw : Word bw) :
    Lines [[0x20].intercalate (setTokens cfg bw)] (setCommandText cfg bw) := by
  refine ⟨by simp [setCommandText_eq], ?_⟩
  intro line hline
  rw [List.mem_singleton.mp hline]
  exact not_mem_intercalate (by decide) fun token htoken => (setTokens_free cfg hbw token htoken).2

/-- The CONF commands are the lines around the radio configuration. -/
theorem lines_confCommands {line setCmd : Bytes} (h : Lines [line] setCmd) :
    Lines [ascii "SET TXMODE=MANAGED", ascii "SET TXQUEUE=1", ascii "SET TXRESULT=1", line,
      ascii "GET STATUS"] (LorahamBackend.confCommands setCmd) := by
  have hmode : Lines [ascii "SET TXMODE=MANAGED"] _ := .single (by simp [ascii])
  have hqueue : Lines [ascii "SET TXQUEUE=1"] _ := .single (by simp [ascii])
  have hresult : Lines [ascii "SET TXRESULT=1"] _ := .single (by simp [ascii])
  have hstatus : Lines [ascii "GET STATUS"] _ := .single (by simp [ascii])
  exact (((hmode.append hqueue).append hresult).append h).append hstatus

/-- A configuration that starts has put its commands into the CONF output. -/
theorem confOut_of_starts {requested : RadioConfig} {b : LorahamBackend}
    (h : LorahamBackend.Starts requested b) :
    ∃ setCmd, buildSetCommand requested = some setCmd ∧
      (b.beginConfigure requested).2.confOut = LorahamBackend.confCommands setCmd := by
  obtain ⟨hbefore, hafter⟩ := h
  have hstart : (b.startConfigure requested).2.state = .connecting →
      ∃ setCmd, buildSetCommand requested = some setCmd ∧
        (b.startConfigure requested).2.confOut = LorahamBackend.confCommands setCmd := by
    unfold LorahamBackend.startConfigure
    split
    · exact fun hstate => (hbefore hstate).elim
    · split
      · exact fun hstate => (hbefore hstate).elim
      · rename_i setCmd hcmd
        split
        · rename_i hconnect
          intro hstate
          have hkeep := congrArg (fun r => r.2.state) hconnect
          exact (hbefore (hkeep.trans hstate)).elim
        · exact fun _ => ⟨setCmd, hcmd, rfl⟩
  unfold LorahamBackend.beginConfigure at hafter ⊢
  cases hs : b.state with
  | disconnected => simp only [hs] at hafter ⊢; exact hstart hafter
  | ready => simp only [hs] at hafter ⊢; exact hstart hafter
  | connecting => exact (hbefore hs).elim
  | _ => simp [hs] at hafter

/-! ## The command is lossless -/

/-- `build_set_command` with its out parameter, a null pointer or a string. -/
def buildSetCommandInto (cfg : RadioConfig) (out : Option Bytes) : Bool × Option Bytes :=
  if out.isNone then (false, out)
  else
    match buildSetCommand cfg with
    | none => (false, out)
    | some text => (true, some text)

/-- A configuration that is refused leaves the output alone. -/
theorem buildSetCommandInto_of_none {cfg : RadioConfig} (h : buildSetCommand cfg = none)
    (out : Bytes) : buildSetCommandInto cfg (some out) = (false, some out) := by
  simp [buildSetCommandInto, h]

/-- Otherwise the output is the command. -/
theorem buildSetCommandInto_of_some {cfg : RadioConfig} {text : Bytes}
    (h : buildSetCommand cfg = some text) (out : Bytes) :
    buildSetCommandInto cfg (some out) = (true, some text) := by
  simp [buildSetCommandInto, h]

/-- A command is built exactly for a valid configuration, and otherwise the string is
left as it was.  The command fits its buffer, is one line, and reads back as the whole
configuration, so that no other configuration has the same command.  What a started
configuration sends to the daemon is five lines. -/
theorem set_command_lossless (cfg : RadioConfig) (out : Bytes) :
    ((buildSetCommandInto cfg (some out)).1 = true ↔ ∃ band, validateConfig cfg = .ok band) ∧
    ((buildSetCommandInto cfg (some out)).1 = false →
      (buildSetCommandInto cfg (some out)).2 = some out) ∧
    ((buildSetCommandInto cfg (some out)).1 = true →
      ∃ text line, (buildSetCommandInto cfg (some out)).2 = some text ∧
        text.length < kSetCommandBuf ∧ Lines [line] text ∧ parseSetCommand text = some cfg ∧
        (∀ other, buildSetCommandInto other (some out) = (true, some text) → other = cfg) ∧
        ∀ b, LorahamBackend.Starts cfg b →
          Lines [ascii "SET TXMODE=MANAGED", ascii "SET TXQUEUE=1", ascii "SET TXRESULT=1", line,
            ascii "GET STATUS"] (b.beginConfigure cfg).2.confOut) := by
  cases hcmd : buildSetCommand cfg with
  | none =>
      rw [buildSetCommandInto_of_none hcmd]
      refine ⟨⟨by simp, ?_⟩, fun _ => rfl, by simp⟩
      rintro ⟨band, hband⟩
      obtain ⟨bw, hbw⟩ := (admissible_of_validateConfig hband).bwHz
      have hbuilt := buildSetCommand_eq_some_iff.mpr ⟨band, bw, hband, hbw, rfl⟩
      rw [hcmd] at hbuilt
      cases hbuilt
  | some text =>
      obtain ⟨band, bw, hband, hbw, htext⟩ := buildSetCommand_eq_some_iff.mp hcmd
      have hlength := setCommandText_length_lt (admissible_of_validateConfig hband) hbw
      have hlines := lines_setCommandText cfg (kBwTable_words _ (bandwidthToken_mem hbw)).1
      have hparse := parseSetCommand_of_buildSetCommand hcmd
      rw [← htext] at hlength hlines
      rw [buildSetCommandInto_of_some hcmd]
      refine ⟨⟨fun _ => ⟨band, hband⟩, fun _ => rfl⟩, by simp, fun _ => ?_⟩
      refine ⟨text, _, rfl, hlength, hlines, hparse, ?_, ?_⟩
      · intro other hother
        cases hcmd' : buildSetCommand other with
        | none =>
            rw [buildSetCommandInto_of_none hcmd'] at hother
            simp at hother
        | some text' =>
            rw [buildSetCommandInto_of_some hcmd'] at hother
            simp only [Prod.mk.injEq, Option.some.injEq, true_and] at hother
            have hparse' := parseSetCommand_of_buildSetCommand hcmd'
            rw [hother, hparse] at hparse'
            exact (Option.some.inj hparse').symm
      · intro b hstarts
        obtain ⟨setCmd, hset, hconf⟩ := confOut_of_starts hstarts
        rw [hcmd] at hset
        rw [hconf, ← Option.some.inj hset]
        exact lines_confCommands hlines

end Loraham
end LorahamBridge
