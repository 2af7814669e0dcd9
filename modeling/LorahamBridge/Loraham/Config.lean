import LorahamBridge.Foundation.Printing
import LorahamBridge.Loraham.Framing

/-!
# Daemon configuration commands

The bridge validates a requested configuration against the daemon's LoRa limits
and translates it into one CONF line.  This file embeds `loraham_config`.

The line is printed with `snprintf`.  Its `%.6f` of the frequency in MHz is taken
to print the exact decimal value, which six places can always hold.

Main results:

- Theorem `validateConfig_of_buildSetCommand`: a configuration with a CONF line
  passed validation.
-/

namespace LorahamBridge
namespace Loraham

open Foundation Extradio

/-- The two bands of the daemon. -/
inductive Band where
  | band433
  | band868
deriving DecidableEq

/-- Why a requested configuration cannot be applied by the daemon. -/
inductive ConfigError where
  | frequencyOutOfBand
  | bandwidthUnsupported
  | spreadingFactor
  | codingRate
  | syncWord
  | preamble
  | power
  | crc
  | ldro
deriving DecidableEq

/-- The lower band begins here. -/
def k433Lo : UInt32 := 137000000
/-- The lower band ends here. -/
def k433Hi : UInt32 := 525000000
/-- The upper band begins here. -/
def k868Lo : UInt32 := 779000000
/-- The upper band ends here. -/
def k868Hi : UInt32 := 960000000

/-- The daemon's bandwidths in Hz with their kHz tokens. -/
def kBwTable : List (UInt32 × Bytes) :=
  [(7800, ascii "7.8"), (10400, ascii "10.4"), (15600, ascii "15.6"), (20800, ascii "20.8"),
    (31250, ascii "31.25"), (41700, ascii "41.7"), (62500, ascii "62.5"), (125000, ascii "125"),
    (250000, ascii "250"), (500000, ascii "500")]

/-- The daemon band that serves a carrier frequency. -/
def selectBand (freqHz : UInt32) : Option Band :=
  if k433Lo ≤ freqHz ∧ freqHz ≤ k433Hi then some .band433
  else if k868Lo ≤ freqHz ∧ freqHz ≤ k868Hi then some .band868
  else none

/-- The daemon's name for a bandwidth. -/
def bandwidthToken (bwHz : UInt32) : Option Bytes :=
  (kBwTable.find? fun entry => entry.1 == bwHz).map Prod.snd

/-- Validate a configuration against the daemon limits; on success the band. -/
def validateConfig (cfg : RadioConfig) : Except ConfigError Band :=
  match selectBand cfg.freqHz with
  | none => .error .frequencyOutOfBand
  | some band =>
      if (bandwidthToken cfg.bwHz).isNone then .error .bandwidthUnsupported
      else if cfg.sf < 7 ∨ 12 < cfg.sf then .error .spreadingFactor
      else if cfg.crDenom < 5 ∨ 8 < cfg.crDenom then .error .codingRate
      else if 0xFF < cfg.syncWord then .error .syncWord
      else if cfg.preamble < 6 then .error .preamble
      else if cfg.txPowerDbm < 0 ∨ 20 < cfg.txPowerDbm then .error .power
      else if 1 < cfg.crc then .error .crc
      else if 1 < cfg.ldro then .error .ldro
      else .ok band

/-! ## Printing -/

/-- `%.6f` of a frequency in MHz. -/
def megahertz (freqHz : Nat) : Bytes :=
  decimal (freqHz / 1000000) ++ ascii "." ++ fixedDecimal 6 (freqHz % 1000000)

/-- Size of the print buffer, terminator included. -/
def kSetCommandBuf : Nat := 256

/-- The text printed for a configuration with the given bandwidth token. -/
def setCommandText (cfg : RadioConfig) (bw : Bytes) : Bytes :=
  ascii "SET MODE=LORA FREQ=" ++ megahertz cfg.freqHz.toNat ++ ascii " BW=" ++ bw ++
    ascii " SF=" ++ decimal cfg.sf.toNat ++ ascii " CR=" ++ decimal cfg.crDenom.toNat ++
    ascii " CRC=" ++ decimal cfg.crc.toNat ++ ascii " PREAMBLE=" ++ decimal cfg.preamble.toNat ++
    ascii " SYNC=0x" ++ hex2 (cfg.syncWord.toNat % 256) ++ ascii " LDRO=" ++
    decimal cfg.ldro.toNat ++ ascii " POWER=" ++ signedDecimal cfg.txPowerDbm.toInt ++ ascii "\n"

/-- The CONF line that applies a whole configuration; `none` if it is invalid or
does not fit the print buffer. -/
def buildSetCommand (cfg : RadioConfig) : Option Bytes :=
  match validateConfig cfg with
  | .error _ => none
  | .ok _ =>
      let text := setCommandText cfg ((bandwidthToken cfg.bwHz).getD [])
      if kSetCommandBuf ≤ text.length then none else some text

/-- A configuration that has a CONF line passed validation. -/
theorem validateConfig_of_buildSetCommand {cfg : RadioConfig} {cmd : Bytes}
    (h : buildSetCommand cfg = some cmd) : ∃ band, validateConfig cfg = .ok band := by
  unfold buildSetCommand at h
  split at h
  · contradiction
  · rename_i band hband
    exact ⟨band, hband⟩

example : buildSetCommand
    { freqHz := 433900000, bwHz := 125000, sf := 12, crDenom := 5, syncWord := 0x12,
      preamble := 8, txPowerDbm := 14, crc := 1, ldro := 1 } =
    some (ascii ("SET MODE=LORA FREQ=433.900000 BW=125 SF=12 CR=5 CRC=1 PREAMBLE=8 " ++
      "SYNC=0x12 LDRO=1 POWER=14\n")) := by
  decide +kernel

end Loraham
end LorahamBridge
