import LorahamBridge.Loraham.ConfStream
import LorahamBridge.Loraham.SetCommand
import LorahamBridge.Loraham.StatusLine

/-!
# What an applied configuration looks like on the wire

The CONF exchange of a configured connection, spelled out: the five command lines the
daemon was sent, and the reply on which the bridge has taken the radio for ready.
Nothing in these statements is computed by the bridge's own functions, except that the
line with the radio's parameters is the one `build_set_command` makes; that line reads
back as the configuration.

Main results:

- Theorem `Configured.commanded`: the commands.
- Theorem `Configured.reported`: the replies.
-/

namespace LorahamBridge

open Foundation Extradio Loraham

namespace LorahamBackend

/-! ## The commands -/

/-- The bytes are the five commands for a configuration, whole, in order and once. -/
def Commanded (cfg : RadioConfig) (sent : Bytes) : Prop :=
  ∃ setLine,
    Lines [ascii "SET TXMODE=MANAGED", ascii "SET TXQUEUE=1", ascii "SET TXRESULT=1", setLine,
      ascii "GET STATUS"] sent ∧
    buildSetCommand cfg = some (setLine ++ [0x0A]) ∧
    parseSetCommand (setLine ++ [0x0A]) = some cfg

/-- A connection that carried a configuration was sent its commands. -/
theorem Configured.commanded {l : Link} {cfg : RadioConfig} (h : Configured l cfg) :
    Commanded cfg l.confSent := by
  obtain ⟨setCmd, hset, hsent⟩ := h.command
  obtain ⟨band, bw, -, hbw, htext⟩ := buildSetCommand_eq_some_iff.mp hset
  have hlines := lines_setCommandText cfg (kBwTable_words _ (bandwidthToken_mem hbw)).1
  rw [← htext] at hlines
  have hline : setCmd = [0x20].intercalate (setTokens cfg bw) ++ [0x0A] := by
    simpa using hlines.1
  refine ⟨_, hsent ▸ lines_confCommands hlines, ?_, ?_⟩ <;> rw [← hline]
  · exact hset
  · exact parseSetCommand_of_buildSetCommand hset

/-! ## The replies -/

/-- In a CONF stream the first line that decides anything is, without the blanks at its
end, the text `core`: it begins with `STATUS` and says `RADIO=READY`.  The lines in
front of it are empty, broadcasts or `OK`, so none of them is an error. -/
structure RadioReported (received core : Bytes) : Prop where
  reply : ∃ ignored before line rest, received = before ++ (line ++ [0x0A]) ++ rest ∧
    Lines ignored before ∧ 0x0A ∉ line ∧ Trimmed line core ∧
    ∀ q ∈ ignored, ∃ text, Trimmed q text ∧ Undecided text ∧ ¬ascii "ERR" <+: text
  decides : ¬Undecided core
  status : ascii "STATUS" <+: core
  ready : RadioReady core

/-- A rejected command is never passed over. -/
theorem not_err_of_undecided {core : Bytes} (h : Undecided core) : ¬ascii "ERR" <+: core := by
  have herr : ascii "ERR" = [0x45, 0x52, 0x52] := by decide +kernel
  have htx : ascii "TX=" = [0x54, 0x58, 0x3D] := by decide +kernel
  have hcad : ascii "CAD=" = [0x43, 0x41, 0x44, 0x3D] := by decide +kernel
  have hrssi : ascii "RSSI=" = [0x52, 0x53, 0x53, 0x49, 0x3D] := by decide +kernel
  have hok : ascii "OK" = [0x4F, 0x4B] := by decide +kernel
  rintro ⟨rest, rfl⟩
  -- The first byte of an error starts none of the lines that are passed over.
  simp [Undecided, Broadcast, herr, htx, hcad, hrssi, hok, List.cons_prefix_cons] at h

/-- A connection that carried a configuration has heard of a ready radio. -/
theorem Configured.reported {l : Link} {cfg : RadioConfig} (h : Configured l cfg) :
    ∃ core, RadioReported l.confReceived core := by
  obtain ⟨rest, hstatus⟩ := h.status
  obtain ⟨ignored, before, line, htext, hlines, hfree, hignored, hdecides, hprefix, hready⟩ :=
    scanConf_eq_status hstatus
  refine ⟨trimLine line, ⟨ignored, before, line, rest, htext, hlines, hfree,
    trimmed_trimLine line, fun q hq => ?_⟩, ?_, List.isPrefixOf_iff_prefix.mp hprefix,
    (statusLineRadioReady_iff _).mp hready⟩
  · have hundecided := (ignorable_iff _).mp (hignored q hq)
    exact ⟨trimLine q, trimmed_trimLine q, hundecided, not_err_of_undecided hundecided⟩
  · rw [← ignorable_iff, hdecides]
    simp

end LorahamBackend

end LorahamBridge
