import LorahamBridge.Foundation.Lines
import LorahamBridge.Loraham.Link

/-!
# The CONF exchange of a connection

A configuration succeeds on the evidence of one connection: the command lines it
carried, and the first line of its replies that decides anything.  The evidence
does not depend on how writes and reads were cut, and nothing received later
changes it.

Main results:

- Theorem `trimmed_trimLine`: what `pump_conf` leaves of a line.
- Theorem `scanConf_eq_status`: what a positive verdict says about the lines of the
  stream.
- Theorem `Micro.confed`: the CONF exchange in every state of the backend.
-/

namespace LorahamBridge

open Foundation Extradio Loraham

namespace LorahamBackend

/-! ## Lines -/

/-- The complete lines of a text, without their newlines. -/
def confLines (text : Bytes) : List Bytes :=
  match _h : splitLine text with
  | none => []
  | some (line, rest) => line :: confLines rest
termination_by text.length
decreasing_by exact splitLine_length_lt _h

/-- What `pump_conf` passes over while the status reply is awaited. -/
def ignorable (line : Bytes) : Bool :=
  line.isEmpty || isBroadcastLine line || line == ascii "OK"

/-- A line, and what is left of it without the blanks at its end: CR, space and tab. -/
structure Trimmed (line core : Bytes) : Prop where
  blanks : ∃ tail, line = core ++ tail ∧ ∀ c ∈ tail, c = 0x0D ∨ c = 0x20 ∨ c = 0x09
  solid : ∀ c ∈ core.getLast?, c ≠ 0x0D ∧ c ≠ 0x20 ∧ c ≠ 0x09

/-- The characters removed at the end of a line. -/
theorem isLineTail_iff (c : UInt8) : isLineTail c = true ↔ c = 0x0D ∨ c = 0x20 ∨ c = 0x09 := by
  simp [isLineTail, or_assoc]

/-- `pump_conf` takes the blanks off the end of a line and nothing else. -/
theorem trimmed_trimLine (line : Bytes) : Trimmed line (trimLine line) where
  blanks := ⟨line.rtakeWhile isLineTail, List.rdropWhile_append_rtakeWhile.symm,
    fun c hc => (isLineTail_iff c).mp (List.mem_rtakeWhile_imp hc)⟩
  solid c hc := by
    obtain ⟨hne, rfl⟩ := List.mem_getLast?_eq_getLast hc
    have hlast : ¬isLineTail ((trimLine line).getLast hne) = true :=
      List.rdropWhile_last_not isLineTail line hne
    simpa [isLineTail_iff] using hlast

/-- What the daemon tells every client unasked. -/
def Broadcast (core : Bytes) : Prop :=
  ascii "TX=" <+: core ∨ ascii "CAD=" <+: core ∨ ascii "RSSI=" <+: core

/-- The code's test for a broadcast. -/
theorem isBroadcastLine_iff (core : Bytes) : isBroadcastLine core = true ↔ Broadcast core := by
  simp [isBroadcastLine, Broadcast, or_assoc]

/-- Trimmed lines that decide nothing while the status reply is awaited. -/
def Undecided (core : Bytes) : Prop :=
  core = [] ∨ Broadcast core ∨ core = ascii "OK"

/-- The code's test for a line that decides nothing. -/
theorem ignorable_iff (core : Bytes) : ignorable core = true ↔ Undecided core := by
  simp [ignorable, Undecided, isBroadcastLine_iff, or_assoc]

/-- The first line is the same with more behind it. -/
theorem splitLine_append {text line rest : Bytes} (h : splitLine text = some (line, rest))
    (more : Bytes) : splitLine (text ++ more) = some (line, rest ++ more) := by
  induction text generalizing line rest with
  | nil => simp [splitLine] at h
  | cons c tail ih =>
      simp only [List.cons_append, splitLine] at h ⊢
      split at h <;> rename_i hc
      · simp only [Option.some.injEq, Prod.mk.injEq] at h
        simp [hc, ← h.1, ← h.2]
      · simp only [Option.map_eq_some_iff, Prod.mk.injEq] at h
        obtain ⟨⟨l, r⟩, hsplit, rfl, rfl⟩ := h
        simp [hc, ih hsplit]

/-- A text is its first line, the newline and the rest. -/
theorem eq_of_splitLine {text line rest : Bytes} (h : splitLine text = some (line, rest)) :
    text = (line ++ [0x0A]) ++ rest ∧ 0x0A ∉ line := by
  induction text generalizing line with
  | nil => simp [splitLine] at h
  | cons c tail ih =>
      simp only [splitLine] at h
      split at h <;> rename_i hc
      · simp only [Option.some.injEq, Prod.mk.injEq] at h
        simp [hc, ← h.1, h.2]
      · simp only [Option.map_eq_some_iff, Prod.mk.injEq] at h
        obtain ⟨⟨l, r⟩, hsplit, rfl, rfl⟩ := h
        obtain ⟨htail, hfree⟩ := ih hsplit
        exact ⟨by simp [htail], by simpa [Ne.symm hc] using hfree⟩

/-- The first line and the others. -/
theorem confLines_of_splitLine {text line rest : Bytes}
    (h : splitLine text = some (line, rest)) : confLines text = line :: confLines rest := by
  rw [confLines]
  split <;> simp_all

/-- A scan judges the first line first. -/
theorem scanConf_of_splitLine {awaiting : Bool} {text line rest : Bytes}
    (h : splitLine text = some (line, rest)) :
    scanConf awaiting text =
      match judgeLine awaiting (trimLine line) with
      | .ignore => scanConf awaiting rest
      | .status r => (.status r, rest)
      | .fatal => (.fatal, rest) := by
  rw [scanConf]
  split <;> rename_i heq
  · simp [h] at heq
  · rw [h] at heq
    obtain ⟨rfl, rfl⟩ := Prod.mk.inj (Option.some.inj heq)
    rfl

/-- A scan stops at a line without its end. -/
theorem scanConf_of_incomplete {awaiting : Bool} {text : Bytes} (h : splitLine text = none) :
    scanConf awaiting text = (.quiet, text) := by
  rw [scanConf]
  split <;> simp_all

/-- The scan goes on where it stopped. -/
theorem scanConf_append_quiet {awaiting : Bool} {text rest : Bytes}
    (h : scanConf awaiting text = (.quiet, rest)) (more : Bytes) :
    scanConf awaiting (text ++ more) = scanConf awaiting (rest ++ more) := by
  induction hn : text.length using Nat.strong_induction_on generalizing text with
  | _ n ih =>
      cases hsplit : splitLine text with
      | none =>
          rw [scanConf_of_incomplete hsplit] at h
          simp only [Prod.mk.injEq, true_and] at h
          rw [h]
      | some p =>
          obtain ⟨line, tail⟩ := p
          have hlt := splitLine_length_lt hsplit
          rw [scanConf_of_splitLine hsplit] at h
          rw [scanConf_of_splitLine (splitLine_append hsplit more)]
          cases hjudge : judgeLine awaiting (trimLine line) with
          | ignore =>
              rw [hjudge] at h
              exact ih tail.length (by omega) h rfl
          | status r => simp [hjudge] at h
          | fatal => simp [hjudge] at h

/-- A verdict is final. -/
theorem scanConf_append_verdict {awaiting : Bool} {text rest : Bytes} {outcome : ConfOutcome}
    (h : scanConf awaiting text = (outcome, rest)) (hverdict : outcome ≠ .quiet) (more : Bytes) :
    scanConf awaiting (text ++ more) = (outcome, rest ++ more) := by
  induction hn : text.length using Nat.strong_induction_on generalizing text with
  | _ n ih =>
      cases hsplit : splitLine text with
      | none =>
          rw [scanConf_of_incomplete hsplit] at h
          exact absurd (congrArg Prod.fst h).symm hverdict
      | some p =>
          obtain ⟨line, tail⟩ := p
          have hlt := splitLine_length_lt hsplit
          rw [scanConf_of_splitLine hsplit] at h
          rw [scanConf_of_splitLine (splitLine_append hsplit more)]
          cases hjudge : judgeLine awaiting (trimLine line) with
          | ignore =>
              rw [hjudge] at h
              exact ih tail.length (by omega) h rfl
          | status r | fatal =>
              rw [hjudge] at h
              simp only [Prod.mk.injEq] at h
              simp [← h.1, h.2]

/-- A status that is found stays the one found. -/
theorem scanConf_append_status {awaiting ready : Bool} {text rest : Bytes}
    (h : scanConf awaiting text = (.status ready, rest)) (more : Bytes) :
    scanConf awaiting (text ++ more) = (.status ready, rest ++ more) :=
  scanConf_append_verdict h (by simp) more

/-- A line is ignored exactly if it is ignorable. -/
theorem judgeLine_true (line : Bytes) :
    judgeLine true line =
      if ignorable line then .ignore
      else if (ascii "ERR").isPrefixOf line then .fatal
      else if (ascii "STATUS").isPrefixOf line then .status (statusLineRadioReady line)
      else .fatal := by
  unfold judgeLine ignorable
  by_cases hempty : line.isEmpty = true
  · simp [hempty]
  · by_cases hbroadcast : isBroadcastLine line = true
    · simp [hempty, hbroadcast]
    · by_cases hok : (line == ascii "OK") = true
      · simp [hempty, hbroadcast, hok]
      · simp [hempty, hbroadcast, hok]

/-- A positive verdict: behind ignorable lines only, the first other line is the
status line of a ready radio. -/
theorem scanConf_eq_status {text rest : Bytes}
    (h : scanConf true text = (.status true, rest)) :
    ∃ ignored before line, text = before ++ (line ++ [0x0A]) ++ rest ∧ Lines ignored before ∧
      0x0A ∉ line ∧ (∀ l ∈ ignored, ignorable (trimLine l) = true) ∧
      ignorable (trimLine line) = false ∧
      (ascii "STATUS").isPrefixOf (trimLine line) = true ∧
      statusLineRadioReady (trimLine line) = true := by
  induction hn : text.length using Nat.strong_induction_on generalizing text with
  | _ n ih =>
      cases hsplit : splitLine text with
      | none => simp [scanConf_of_incomplete hsplit] at h
      | some p =>
          obtain ⟨line, tail⟩ := p
          have hlt := splitLine_length_lt hsplit
          obtain ⟨htext, hfree⟩ := eq_of_splitLine hsplit
          rw [scanConf_of_splitLine hsplit, judgeLine_true] at h
          by_cases hignore : ignorable (trimLine line) = true
          · simp only [hignore, if_true] at h
            obtain ⟨ignored, before, found, hrest, hlines, hfound, hignored, hstatus⟩ :=
              ih tail.length (by omega) h rfl
            refine ⟨[line] ++ ignored, (line ++ [0x0A]) ++ before, found, by simp [htext, hrest],
              (Lines.single hfree).append hlines, hfound, ?_, hstatus⟩
            intro l hl
            rcases List.mem_cons.mp hl with rfl | hl
            · exact hignore
            · exact hignored l hl
          · have hnot : ignorable (trimLine line) = false := by simpa using hignore
            simp only [hnot, Bool.false_eq_true, if_false] at h
            by_cases herr : (ascii "ERR").isPrefixOf (trimLine line) = true
            · simp [herr] at h
            · by_cases hstatus : (ascii "STATUS").isPrefixOf (trimLine line) = true
              · rw [if_neg herr, if_pos hstatus] at h
                simp only [Prod.mk.injEq, ConfOutcome.status.injEq] at h
                refine ⟨[], [], line, by simpa [h.2] using htext, Lines.nil, hfree, by simp, hnot,
                  hstatus, h.1⟩
              · simp [herr, hstatus] at h

/-! ## The exchange -/

/-- The evidence for an applied configuration. -/
structure Configured (l : Link) (cfg : RadioConfig) : Prop where
  command : ∃ setCmd, buildSetCommand cfg = some setCmd ∧ l.confSent = confCommands setCmd
  band : ∃ band, validateConfig cfg = .ok band ∧ l.band = some band
  status : ∃ rest, scanConf true l.confReceived = (.status true, rest)

/-- A configuration on its way: a part of the commands is out, and the replies
decide nothing yet. -/
structure Requested (b : LorahamBackend) : Prop where
  command : ∃ setCmd, buildSetCommand b.pendingCfg = some setCmd ∧ b.confOut = confCommands setCmd
  band : ∃ band, validateConfig b.pendingCfg = .ok band ∧ (link b.trace).band = some band
  off : b.confOutOff ≤ b.confOut.length
  sent : (link b.trace).confSent = b.confOut.take b.confOutOff
  before : b.awaitingStatus = false → (link b.trace).confReceived = [] ∧ b.confLine = []
  await : b.awaitingStatus = true → b.confOutOff = b.confOut.length ∧
    scanConf true (link b.trace).confReceived = (.quiet, b.confLine)

/-- The CONF exchange by backend state. -/
def Confed (b : LorahamBackend) : Prop :=
  match b.state with
  | .disconnected | .faulted => True
  | .connecting | .configuring => b.Requested
  | .ready | .txWriting | .txPending | .draining => Configured (link b.trace) b.pendingCfg

/-- The evidence survives whatever is received later. -/
theorem Configured.grow {l l' : Link} {cfg : RadioConfig} (h : Configured l cfg)
    (hsent : l'.confSent = l.confSent) (hband : l'.band = l.band)
    (hreceived : l.confReceived <+: l'.confReceived) : Configured l' cfg := by
  obtain ⟨more, hmore⟩ := hreceived
  obtain ⟨rest, hrest⟩ := h.status
  refine ⟨by rw [hsent]; exact h.command, by rw [hband]; exact h.band, rest ++ more, ?_⟩
  rw [← hmore]
  exact scanConf_append_status hrest more

/-- In operation the exchange is a whole configuration. -/
theorem confed_iff_configured {b : LorahamBackend} (hlink : onLink b.state = true) :
    b.Confed ↔ Configured (link b.trace) b.pendingCfg := by
  unfold Confed
  cases hs : b.state <;> simp_all [onLink, rxOk]

/-- Before that it is a request in progress. -/
theorem confed_iff_requested {b : LorahamBackend}
    (hstate : b.state = .connecting ∨ b.state = .configuring) : b.Confed ↔ b.Requested := by
  unfold Confed
  rcases hstate with hs | hs <;> rw [hs]

theorem confed_of_closed {b : LorahamBackend}
    (h : b.state = .disconnected ∨ b.state = .faulted) : b.Confed := by
  unfold Confed
  rcases h with hs | hs <;> simp [hs]

/-- A step that leaves state and CONF exchange alone. -/
theorem Confed.same {b b' : LorahamBackend} (h : b.Confed) (hstate : b'.state = b.state)
    (hcfg : b'.pendingCfg = b.pendingCfg) (hout : b'.confOut = b.confOut)
    (hoff : b'.confOutOff = b.confOutOff) (hawait : b'.awaitingStatus = b.awaitingStatus)
    (hline : b'.confLine = b.confLine) (hband : (link b'.trace).band = (link b.trace).band)
    (hsent : (link b'.trace).confSent = (link b.trace).confSent)
    (hreceived : (link b'.trace).confReceived = (link b.trace).confReceived) : b'.Confed := by
  have hconfigured : Configured (link b.trace) b.pendingCfg →
      Configured (link b'.trace) b'.pendingCfg := by
    intro h
    rw [hcfg]
    exact h.grow hsent hband (by rw [hreceived])
  have hrequested : b.Requested → b'.Requested := by
    rintro ⟨hcommand, hband', hle, hsent', hbefore, hafter⟩
    constructor
    · rwa [hcfg, hout]
    · rwa [hcfg, hband]
    · rwa [hoff, hout]
    · rwa [hsent, hout, hoff]
    · rwa [hawait, hreceived, hline]
    · rwa [hawait, hoff, hout, hreceived, hline]
  unfold Confed at h ⊢
  rw [hstate]
  cases hs : b.state <;> rw [hs] at h
  case disconnected | faulted => trivial
  case connecting | configuring => exact hrequested h
  case ready | txWriting | txPending | draining => exact hconfigured h

/-- A step on the established link that sends no commands. -/
theorem Confed.move {b b' : LorahamBackend} (h : b.Confed) (hlink : onLink b.state = true)
    (hlink' : onLink b'.state = true) (hcfg : b'.pendingCfg = b.pendingCfg)
    (hband : (link b'.trace).band = (link b.trace).band)
    (hsent : (link b'.trace).confSent = (link b.trace).confSent)
    (hreceived : (link b.trace).confReceived <+: (link b'.trace).confReceived) : b'.Confed := by
  refine (confed_iff_configured hlink').mpr ?_
  rw [hcfg]
  exact ((confed_iff_configured hlink).mp h).grow hsent hband hreceived

/-- Writing some of the command keeps the request in progress. -/
theorem Requested.write {b : LorahamBackend} (h : b.Requested) (n : Nat)
    (hleft : b.confOutOff < b.confOut.length) : (b.sendConf n).Requested where
  command := h.command
  band := by simpa [sendConf_eq, Link.step] using h.band
  off := by
    simp only [sendConf_eq, List.length_take, List.length_drop]
    omega
  sent := by simp [sendConf_eq, Link.step, h.sent, List.take_add]
  before := by simpa [sendConf_eq, Link.step] using h.before
  await hawait := by
    have := (h.await hawait).1
    omega

/-- With the command written the reply is awaited. -/
theorem Requested.written {b : LorahamBackend} (h : b.Requested)
    (hleft : b.confOut.length ≤ b.confOutOff) :
    ({ b with awaitingStatus := true } : LorahamBackend).Requested where
  command := h.command
  band := h.band
  off := h.off
  sent := h.sent
  before hawait := by cases hawait
  await _ := by
    refine ⟨Nat.le_antisymm h.off hleft, ?_⟩
    change scanConf true (link b.trace).confReceived = (.quiet, b.confLine)
    cases hawait : b.awaitingStatus with
    | true => exact (h.await hawait).2
    | false =>
        obtain ⟨hreceived, hline⟩ := h.before hawait
        rw [hreceived, hline]
        exact scanConf_of_incomplete rfl

/-- A read that decides nothing. -/
theorem Requested.read {b : LorahamBackend} {chunk rest : Bytes} (h : b.Requested)
    (hawait : b.awaitingStatus = true)
    (hscan : scanConf true (b.confLine ++ chunk) = (.quiet, rest)) :
    (b.takeConf chunk rest).Requested where
  command := h.command
  band := by simpa [Link.step, takeConf] using h.band
  off := h.off
  sent := by simpa [Link.step, takeConf] using h.sent
  before hfalse := by
    change b.awaitingStatus = false at hfalse
    simp [hawait] at hfalse
  await _ := by
    obtain ⟨hoff, hquiet⟩ := h.await hawait
    refine ⟨hoff, ?_⟩
    rw [link_takeConf]
    change scanConf true ((link b.trace).confReceived ++ chunk) = (.quiet, rest)
    rw [scanConf_append_quiet hquiet, hscan]

/-- The read that completes the evidence. -/
theorem Requested.configured {b : LorahamBackend} {chunk rest : Bytes} (h : b.Requested)
    (hawait : b.awaitingStatus = true)
    (hscan : scanConf true (b.confLine ++ chunk) = (.status true, rest)) :
    Configured ((link b.trace).step (.confReceived chunk)) b.pendingCfg := by
  obtain ⟨hoff, hquiet⟩ := h.await hawait
  obtain ⟨setCmd, hset, hout⟩ := h.command
  refine ⟨⟨setCmd, hset, ?_⟩, h.band, rest, ?_⟩
  · change (link b.trace).confSent = _
    rw [h.sent, hoff, List.take_length, hout]
  · change scanConf true ((link b.trace).confReceived ++ chunk) = _
    rw [scanConf_append_quiet hquiet, hscan]

/-- Every quiet step keeps the exchange in order. -/
theorem QuietStep.confed {x y : Snapshot} (h : QuietStep x y) (hx : x.1.Confed) :
    y.1.Confed := by
  cases h with
  | answers | dataPush | dataDrained | discard =>
      exact hx.same rfl rfl rfl rfl rfl rfl rfl rfl rfl
  | connected b hstate =>
      have h := (confed_iff_requested (Or.inl hstate)).mp hx
      exact (confed_iff_requested (Or.inr rfl)).mpr
        ⟨h.command, h.band, h.off, h.sent, h.before, h.await⟩
  | confWrite b n hstate hleft =>
      exact (confed_iff_requested (b := b.sendConf n) (Or.inr hstate)).mpr
        (((confed_iff_requested (Or.inr hstate)).mp hx).write n hleft)
  | confWritten b hstate hleft =>
      exact (confed_iff_requested (b := { b with awaitingStatus := true }) (Or.inr hstate)).mpr
        (((confed_iff_requested (Or.inr hstate)).mp hx).written hleft)
  | configQuiet b chunk rest hstate hawait hscan =>
      exact (confed_iff_requested (b := b.takeConf chunk rest) (Or.inr hstate)).mpr
        (((confed_iff_requested (Or.inr hstate)).mp hx).read hawait hscan)
  | confQuiet b chunk rest hstate =>
      have hlink := onLink_of_rxOk hstate
      exact hx.move hlink hlink rfl (by simp [Link.step]) (by simp [Link.step])
        (by simp [Link.step])
  | dataWrite b n hstate =>
      have hlink : onLink b.state = true := by simp [hstate, onLink, rxOk]
      exact hx.move hlink hlink rfl (by simp [sendData_eq, Link.step]) (by simp [sendData_eq, Link.step])
        (by simp [sendData_eq, Link.step])
  | dataWriteLast b n hstate =>
      exact hx.move (by simp [hstate, onLink, rxOk]) rfl rfl (by simp [sendData_eq, Link.step])
        (by simp [sendData_eq, Link.step]) (by simp [sendData_eq, Link.step])
  | dataRead b chunk hlink =>
      exact hx.move hlink hlink rfl (by simp [Link.step]) (by simp [Link.step])
        (by simp [Link.step])
  | dataIgnored b unread f rest hlink =>
      exact hx.move hlink hlink rfl (by simp [Link.step]) (by simp [Link.step])
        (by simp [Link.step])
  | dataHeard b unread f rest rx hstate =>
      have hlink : onLink b.state = true := by simp [hstate, onLink]
      exact hx.move hlink hlink rfl (by simp [link_append, Link.step])
        (by simp [link_append, Link.step]) (by simp [link_append, Link.step])
  | dataFenced b unread f rest outcome hstate =>
      exact hx.move (by simp [hstate, onLink, rxOk]) rfl rfl (by simp [Link.step])
        (by simp [Link.step]) (by simp [Link.step])
  | dataCleared => exact confed_of_closed (Or.inl rfl)
  | drainLost | drainExpired => exact confed_of_closed (Or.inr rfl)
  | confDiscard b chunk hstate =>
      have hlink : onLink b.state = true := by simp [hstate, onLink]
      exact hx.move hlink hlink rfl (by simp [Link.step]) (by simp [Link.step])
        (by simp [Link.step])

theorem CallStep.confed {call : SinkCall} {x y : Snapshot} (h : CallStep call x y)
    (hx : x.1.Confed) : y.1.Confed := by
  cases h with
  | configSucceed b chunk rest hstate hawait hscan =>
      have h := ((confed_iff_requested (Or.inr hstate)).mp hx).configured hawait hscan
      refine (confed_iff_configured rfl).mpr ?_
      rw [link_configSucceed, link_takeConf]
      exact h
  | configFail => exact confed_of_closed (Or.inl rfl)
  | lost b c => exact confed_of_closed (handleDisconnect_state c)
  | received b unread f rest rx hstate =>
      have hlink := onLink_of_rxOk hstate
      exact hx.move hlink hlink rfl (by simp [link_append, Link.step])
        (by simp [link_append, Link.step]) (by simp [link_append, Link.step])
  | completed b unread f rest outcome hstate =>
      exact hx.move (by simp [hstate, onLink, rxOk]) rfl rfl (by simp [Link.step])
        (by simp [Link.step]) (by simp [Link.step])

/-- Every step keeps the account of the CONF exchange. -/
theorem Micro.confed {x y : Snapshot} (h : Micro x y) (hx : x.1.Confed) : y.1.Confed := by
  cases h with
  | poll h =>
      cases h with
      | quiet h => exact h.confed hx
      | call h => exact h.confed hx
  | environment | attach => exact hx.same rfl rfl rfl rfl rfl rfl rfl rfl rfl
  | openLink b requested band setCmd hstate hband hcmd =>
      refine (confed_iff_requested (Or.inl rfl)).mpr ⟨⟨setCmd, hcmd, rfl⟩, ⟨band, hband, ?_⟩,
        Nat.zero_le _, ?_, ?_, fun hawait => by cases hawait⟩
      all_goals simp [LorahamBackend.openLink, Link.step, Link.none]
  | connectRefused b band =>
      exact hx.same rfl rfl rfl rfl rfl rfl (by simp [Link.step]) (by simp [Link.step])
        (by simp [Link.step])
  | holdTx b data hstate =>
      exact hx.move (by simp [hstate, onLink, rxOk]) rfl rfl
        (by simp [LorahamBackend.holdTx, Link.step]) (by simp [LorahamBackend.holdTx, Link.step])
        (by simp [LorahamBackend.holdTx, Link.step])
  | abandon b hstate =>
      exact hx.move (by simp [hstate, onLink, rxOk]) rfl rfl rfl rfl List.prefix_rfl
  | reset => exact confed_of_closed (Or.inl rfl)

end LorahamBackend

end LorahamBridge
