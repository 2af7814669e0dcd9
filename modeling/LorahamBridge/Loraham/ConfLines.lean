import LorahamBridge.Loraham.Configure
import LorahamBridge.Loraham.ConfStream
import Mathlib.Data.List.DropRight

/-!
# Reassembly of CONF lines

`pump_conf` appends each CONF read to the bytes it has kept and examines the complete
lines.  The line that ends the configuration also ends the examination, so that
complete lines behind it in the same read are kept unexamined until the next read.

Main results:

- Theorem `Micro.confKept`: the kept bytes are an end of the CONF stream, cut at a
  line end.
- Theorem `conf_strict_iff`: exactly when a poll leaves no line unexamined.
- Theorem `coalesced_error_unexamined`: a run in which one is left.
-/

namespace LorahamBridge

open Foundation Extradio Loraham

namespace LorahamBackend

/-! ## Cut texts -/

/-- The text stops at a line end, or is empty. -/
def LineStart (text : Bytes) : Prop :=
  text = [] ∨ ∃ lines, text = lines ++ [0x0A]

/-- Whole lines after whole lines. -/
theorem LineStart.append {text more : Bytes} (h : LineStart text) (h' : LineStart more) :
    LineStart (text ++ more) := by
  rcases h' with rfl | ⟨lines, rfl⟩
  · simpa using h
  · exact Or.inr ⟨text ++ lines, by simp⟩

/-- The bytes behind the last newline. -/
def unterminated (text : Bytes) : Bytes :=
  text.rtakeWhile (· != 0x0A)

/-- Only what follows the whole lines counts. -/
theorem unterminated_append {text : Bytes} (h : LineStart text) (more : Bytes) :
    unterminated (text ++ more) = unterminated more := by
  unfold unterminated
  induction more using List.reverseRecOn with
  | nil =>
      rcases h with rfl | ⟨lines, rfl⟩
      · rfl
      · simp
  | append_singleton more c ih =>
      rw [← List.append_assoc]
      by_cases hc : c = 0x0A
      · simp [hc]
      · rw [List.rtakeWhile_concat_pos _ _ _ (by simpa using hc),
          List.rtakeWhile_concat_pos _ _ _ (by simpa using hc), ih]

/-- A text without a line end is unterminated. -/
theorem unterminated_of_not_mem {text : Bytes} (h : 0x0A ∉ text) : unterminated text = text := by
  rw [unterminated, List.rtakeWhile_eq_self_iff]
  intro c hc
  simp only [bne_iff_ne, ne_eq]
  rintro rfl
  exact h hc

theorem length_unterminated_le (text : Bytes) : (unterminated text).length ≤ text.length :=
  (List.rtakeWhile_suffix _ text).length_le

/-- There is no line without a line end. -/
theorem splitLine_eq_none_iff {text : Bytes} : splitLine text = none ↔ 0x0A ∉ text := by
  induction text with
  | nil => simp [splitLine]
  | cons c rest ih =>
      by_cases hc : c = 0x0A
      · simp [splitLine, hc]
      · simp [splitLine, hc, ih, Ne.symm hc]

/-- The scan cuts the text at a line end; without a verdict no line is left. -/
theorem scanConf_cut {awaiting : Bool} {text rest : Bytes} {outcome : ConfOutcome}
    (h : scanConf awaiting text = (outcome, rest)) :
    ∃ lines, text = lines ++ rest ∧ LineStart lines ∧ (outcome = .quiet → 0x0A ∉ rest) ∧
      (outcome ≠ .quiet → lines ≠ []) := by
  induction hn : text.length using Nat.strong_induction_on generalizing text with
  | _ n ih =>
      cases hsplit : splitLine text with
      | none =>
          rw [scanConf_of_incomplete hsplit] at h
          simp only [Prod.mk.injEq] at h
          obtain ⟨rfl, rfl⟩ := h
          exact ⟨[], rfl, Or.inl rfl, fun _ => splitLine_eq_none_iff.mp hsplit, by simp⟩
      | some p =>
          obtain ⟨line, tail⟩ := p
          have hlt := splitLine_length_lt hsplit
          have htext := (eq_of_splitLine hsplit).1
          rw [scanConf_of_splitLine hsplit] at h
          cases hjudge : judgeLine awaiting (trimLine line) with
          | ignore =>
              rw [hjudge] at h
              obtain ⟨lines, rfl, hstart, hquiet, -⟩ := ih tail.length (by omega) h rfl
              refine ⟨(line ++ [0x0A]) ++ lines, by simp [htext], ?_, hquiet, by simp⟩
              exact LineStart.append (Or.inr ⟨line, rfl⟩) hstart
          | status r | fatal =>
              simp only [hjudge, Prod.mk.injEq] at h
              obtain ⟨rfl, rfl⟩ := h
              exact ⟨line ++ [0x0A], htext, Or.inr ⟨line, rfl⟩, by simp, by simp⟩

/-- A verdict on a read leaves less than the read behind. -/
theorem length_lt_of_verdict {awaiting : Bool} {line chunk rest : Bytes} {outcome : ConfOutcome}
    (hline : 0x0A ∉ line) (h : scanConf awaiting (line ++ chunk) = (outcome, rest))
    (hverdict : outcome ≠ .quiet) : rest.length < chunk.length := by
  obtain ⟨lines, htext, hstart, -, hne⟩ := scanConf_cut h
  rcases hstart with hnil | ⟨text, rfl⟩
  · exact absurd hnil (hne hverdict)
  · rcases List.append_eq_append_iff.mp htext with ⟨more, hlines, rfl⟩ | ⟨more, rfl, -⟩
    · cases more with
      | nil =>
          rw [List.append_nil] at hlines
          exact (hline (by simp [← hlines])).elim
      | cons c more =>
          simp only [List.length_append, List.length_cons]
          omega
    · exact (hline (by simp)).elim

/-! ## The kept bytes -/

/-- The kept bytes are an end of the CONF stream, cut at a line end. -/
def ConfCut (b : LorahamBackend) : Prop :=
  ∃ lines, (link b.trace).confReceived = lines ++ b.confLine ∧ LineStart lines

/-- Behind the accepted status line, everything up to the kept bytes was examined. -/
def Behind (b : LorahamBackend) : Prop :=
  ∃ text, scanConf true (link b.trace).confReceived = (.status true, text) ∧
    scanConf false text = scanConf false b.confLine

/-- The kept bytes by backend state.  Only a verdict leaves complete lines behind,
and then less than one read. -/
def ConfKept (b : LorahamBackend) : Prop :=
  match b.state with
  | .connecting | .configuring =>
      b.ConfCut ∧ b.confLine.length ≤ kMaxConfLine ∧ 0x0A ∉ b.confLine
  | .ready | .txWriting | .txPending =>
      b.ConfCut ∧ b.confLine.length ≤ kMaxConfLine ∧
        (0x0A ∉ b.confLine ∨ b.confLine.length < kReadChunk) ∧ b.Behind
  | .disconnected | .draining | .faulted => True

variable {b b' : LorahamBackend}

/-- What is kept in operation. -/
theorem confKept_iff_of_rxOk (hstate : rxOk b.state = true) :
    b.ConfKept ↔ b.ConfCut ∧ b.confLine.length ≤ kMaxConfLine ∧
      (0x0A ∉ b.confLine ∨ b.confLine.length < kReadChunk) ∧ b.Behind := by
  unfold ConfKept
  cases hs : b.state <;> simp_all [rxOk]

/-- What is kept during a configuration. -/
theorem confKept_iff_of_configuring
    (hstate : b.state = .connecting ∨ b.state = .configuring) :
    b.ConfKept ↔ b.ConfCut ∧ b.confLine.length ≤ kMaxConfLine ∧ 0x0A ∉ b.confLine := by
  unfold ConfKept
  rcases hstate with hs | hs <;> rw [hs]

theorem confKept_of_closed
    (h : b.state = .disconnected ∨ b.state = .draining ∨ b.state = .faulted) : b.ConfKept := by
  unfold ConfKept
  rcases h with hs | hs | hs <;> simp [hs]

/-- A step that leaves the state and the CONF input alone. -/
theorem ConfKept.same (h : b.ConfKept) (hstate : b'.state = b.state)
    (hline : b'.confLine = b.confLine)
    (hreceived : (link b'.trace).confReceived = (link b.trace).confReceived) : b'.ConfKept := by
  unfold ConfKept ConfCut Behind at h ⊢
  simpa only [hstate, hline, hreceived] using h

/-- A move between the states of the operational link. -/
theorem ConfKept.move (h : b.ConfKept) (hstate : rxOk b.state = true)
    (hstate' : rxOk b'.state = true) (hline : b'.confLine = b.confLine)
    (hreceived : (link b'.trace).confReceived = (link b.trace).confReceived) : b'.ConfKept := by
  have h := (confKept_iff_of_rxOk hstate).mp h
  refine (confKept_iff_of_rxOk hstate').mpr ?_
  unfold ConfCut Behind at h ⊢
  simpa only [hline, hreceived] using h

/-- A read cuts the longer stream at a line end again. -/
theorem ConfCut.read {awaiting : Bool} {chunk rest : Bytes} {outcome : ConfOutcome}
    (h : b.ConfCut) (hscan : scanConf awaiting (b.confLine ++ chunk) = (outcome, rest))
    (hline : b'.confLine = rest)
    (hreceived : (link b'.trace).confReceived = (link b.trace).confReceived ++ chunk) :
    b'.ConfCut := by
  obtain ⟨lines, heq, hstart⟩ := h
  obtain ⟨more, hmore, hstart', -⟩ := scanConf_cut hscan
  refine ⟨lines ++ more, ?_, hstart.append hstart'⟩
  rw [hreceived, heq, hline, List.append_assoc, hmore, List.append_assoc]

/-- A scan leaves no more than it was given. -/
theorem length_rest_le {awaiting : Bool} {text rest : Bytes} {outcome : ConfOutcome}
    (h : scanConf awaiting text = (outcome, rest)) : rest.length ≤ text.length := by
  obtain ⟨lines, rfl, -⟩ := scanConf_cut h
  simp

/-- A quiet read examines everything behind the status line. -/
theorem Behind.read {chunk rest : Bytes} (h : b.Behind)
    (hscan : scanConf false (b.confLine ++ chunk) = (.quiet, rest))
    (hline : b'.confLine = rest)
    (hreceived : (link b'.trace).confReceived = (link b.trace).confReceived ++ chunk) :
    b'.Behind := by
  obtain ⟨text, hstatus, hexamined⟩ := h
  refine ⟨text ++ chunk, by rw [hreceived]; exact scanConf_append_status hstatus chunk, ?_⟩
  obtain ⟨-, -, -, hrest, -⟩ := scanConf_cut hscan
  rw [hline, scanConf_of_incomplete (splitLine_eq_none_iff.mpr (hrest rfl)), ← hscan]
  cases hkept : scanConf false b.confLine with
  | mk outcome kept =>
      cases outcome with
      | quiet =>
          rw [scanConf_append_quiet (hexamined.trans hkept), scanConf_append_quiet hkept]
      | status ready => exact absurd hkept (scanConf_false _ _ _)
      | fatal =>
          have hfatal := scanConf_append_verdict hkept (by simp) chunk
          rw [hscan] at hfatal
          simp at hfatal

/-- Every quiet step keeps what is known about the kept bytes. -/
theorem QuietStep.confKept {x y : Snapshot} (h : QuietStep x y) (hx : x.1.ConfKept) :
    y.1.ConfKept := by
  cases h with
  | answers | confWritten | dataPush | dataDrained | discard => exact hx.same rfl rfl rfl
  | connected b hstate =>
      exact (confKept_iff_of_configuring (Or.inr rfl)).mpr
        ((confKept_iff_of_configuring (Or.inl hstate)).mp hx)
  | confWrite => exact hx.same rfl rfl (by simp [sendConf_eq, Link.step])
  | configQuiet b chunk rest hstate hawait hscan hbound =>
      obtain ⟨hcut, -, -⟩ := (confKept_iff_of_configuring (Or.inr hstate)).mp hx
      obtain ⟨-, -, -, hrest, -⟩ := scanConf_cut hscan
      exact (confKept_iff_of_configuring (b := b.takeConf chunk rest) (Or.inr hstate)).mpr
        ⟨hcut.read hscan rfl (by simp [Link.step]), (length_rest_le hscan).trans hbound, hrest rfl⟩
  | confQuiet b chunk rest hstate hscan hbound =>
      obtain ⟨hcut, -, -, hbehind⟩ := (confKept_iff_of_rxOk hstate).mp hx
      obtain ⟨-, -, -, hrest, -⟩ := scanConf_cut hscan
      exact (confKept_iff_of_rxOk (b := b.takeConf chunk rest) hstate).mpr
        ⟨hcut.read hscan rfl (by simp [Link.step]), (length_rest_le hscan).trans hbound,
          Or.inl (hrest rfl), hbehind.read hscan rfl (by simp [Link.step])⟩
  | dataWrite => exact hx.same rfl rfl (by simp [sendData_eq, Link.step])
  | dataWriteLast b n hstate =>
      exact hx.move (by simp [hstate, rxOk]) rfl rfl (by simp [sendData_eq, Link.step])
  | dataRead | dataIgnored => exact hx.same rfl rfl (by simp [Link.step])
  | dataHeard => exact hx.same rfl rfl (by simp [link_append, Link.step])
  | dataFenced b unread f rest outcome hstate =>
      exact hx.move (by simp [hstate, rxOk]) rfl rfl (by simp [Link.step])
  | dataCleared => exact confKept_of_closed (Or.inl rfl)
  | drainLost | drainExpired => exact confKept_of_closed (Or.inr (Or.inr rfl))
  | confDiscard b chunk hstate => exact confKept_of_closed (Or.inr (Or.inl hstate))

theorem CallStep.confKept {call : SinkCall} {x y : Snapshot} (h : CallStep call x y)
    (hconfed : x.1.Confed) (hx : x.1.ConfKept) : y.1.ConfKept := by
  cases h with
  | configSucceed b chunk rest hstate hawait hscan hbound hchunk =>
      obtain ⟨hcut, -, hline⟩ := (confKept_iff_of_configuring (Or.inr hstate)).mp hx
      have hquiet := (((confed_iff_requested (Or.inr hstate)).mp hconfed).await hawait).2
      have hshort := length_lt_of_verdict hline hscan (by simp)
      refine (confKept_iff_of_rxOk (b := (b.takeConf chunk rest).configSucceed) rfl).mpr
        ⟨hcut.read hscan rfl (by simp [Link.step]), (length_rest_le hscan).trans hbound,
          Or.inr (show rest.length < kReadChunk by omega), rest, ?_, rfl⟩
      simp only [link_configSucceed, link_takeConf, Link.step]
      rw [scanConf_append_quiet hquiet, hscan]
  | configFail => exact confKept_of_closed (Or.inl rfl)
  | lost b c =>
      rcases handleDisconnect_state c with h | h
      · exact confKept_of_closed (Or.inl h)
      · exact confKept_of_closed (Or.inr (Or.inr h))
  | received => exact hx.same rfl rfl (by simp [link_append, Link.step])
  | completed b unread f rest outcome hstate =>
      exact hx.move (by simp [hstate, rxOk]) rfl rfl (by simp [Link.step])

/-- Every step keeps what is known about the kept bytes. -/
theorem Micro.confKept {x y : Snapshot} (h : Micro x y) (hconfed : x.1.Confed)
    (hx : x.1.ConfKept) : y.1.ConfKept := by
  cases h with
  | poll h =>
      cases h with
      | quiet h => exact h.confKept hx
      | call h => exact h.confKept hconfed hx
  | environment | attach => exact hx.same rfl rfl rfl
  | openLink b requested band setCmd =>
      refine (confKept_iff_of_configuring (Or.inl rfl)).mpr ⟨⟨[], ?_, Or.inl rfl⟩, ?_, ?_⟩ <;>
        simp [LorahamBackend.openLink, Link.step, Link.none]
  | connectRefused => exact hx.same rfl rfl (by simp [Link.step])
  | holdTx b data hstate =>
      exact hx.move (by simp [hstate, rxOk]) rfl rfl
        (by simp [LorahamBackend.holdTx, Link.step])
  | abandon => exact confKept_of_closed (Or.inr (Or.inl rfl))
  | reset => exact confKept_of_closed (Or.inl rfl)

/-- It is known in every run. -/
theorem runCalls_confKept (configTimeoutMs drainTimeoutMs : Nat) (calls : List Call) :
    (runCalls configTimeoutMs drainTimeoutMs calls).ConfKept := by
  have h := runCalls_rule (P := fun x => x.1.Confed ∧ x.1.ConfKept) configTimeoutMs
    drainTimeoutMs ⟨confed_of_closed (Or.inl rfl), confKept_of_closed (Or.inl rfl)⟩
    (fun x y hstep hx => ⟨hstep.confed hx.1, hstep.confKept hx.1 hx.2⟩)
    (fun b _ _ => ⟨confed_of_closed (Or.inl rfl), confKept_of_closed (Or.inl rfl)⟩) calls
  exact h.2

/-! ## Strictness -/

/-- The next CONF read delivers something. -/
def readsConf (answers : List (RecvAnswer kReadChunk)) : Bool :=
  match answers with
  | .data chunk :: _ => chunk.bytes != []
  | _ => false

/-- Input without a verdict: a poll that reads leaves no complete line, and one that
does not read leaves the kept bytes alone. -/
theorem confLine_of_pumpConf {b c : LorahamBackend} {answers : List (RecvAnswer kReadChunk)}
    (h : b.pumpConf false answers = (.quiet, c)) :
    if readsConf answers then 0x0A ∉ c.confLine else c.confLine = b.confLine := by
  induction answers generalizing b with
  | nil =>
      cases h
      rfl
  | cons answer answers ih =>
      cases answer with
      | failed => simp [pumpConf] at h
      | data chunk =>
          unfold pumpConf at h
          simp only at h
          split at h <;> rename_i hempty
          · cases h
            simp [readsConf, hempty, answered]
          · rw [if_pos (by simpa [readsConf] using hempty)]
            split at h
            · simp at h
            · split at h <;> rename_i hscan
              · obtain ⟨-, -, -, hrest, -⟩ := scanConf_cut hscan
                split at h
                · cases h
                  exact hrest rfl
                · -- either a further read decides, or the rest of this one is what is kept
                  have hnext := ih h
                  split at hnext
                  · exact hnext
                  · rw [hnext]
                    exact hrest rfl
              · rename_i hquiet
                simp only [Prod.mk.injEq] at h
                exact absurd h.1 hquiet

/-- A dispatched frame leaves the kept CONF bytes of an operational link alone. -/
theorem dispatch_confLine (f : Loraham.Frame) {b : LorahamBackend} (h : rxOk b.state = true) :
    rxOk (dispatch f b).state = true ∧ (dispatch f b).confLine = b.confLine := by
  have hcase := dispatch_cases f b
  generalize dispatch f b = b' at hcase
  cases hcase with
  | ignored | heard | forwarded => exact ⟨h, rfl⟩
  | completed | fenced => exact ⟨rfl, rfl⟩
  | cleared _ _ hstate => simp [hstate, rxOk] at h

/-- After a disconnect no packet is received. -/
theorem rxOk_handleDisconnect (b : LorahamBackend) : rxOk b.handleDisconnect.state = false := by
  rcases handleDisconnect_state b with h | h <;> simp [h, rxOk]

/-- DATA input does not touch the kept CONF bytes of a link that stays up. -/
theorem dataLoop_confLine (b : LorahamBackend) (answers : List (RecvAnswer kReadChunk))
    (hstate : rxOk b.state = true)
    (h : rxOk (b.dataLoop operationalHalted answers).state = true) :
    (b.dataLoop operationalHalted answers).confLine = b.confLine := by
  induction answers generalizing b with
  | nil => rfl
  | cons answer answers ih =>
      cases answer with
      | failed => simp [dataLoop, rxOk_handleDisconnect] at h
      | data chunk =>
          unfold dataLoop at h ⊢
          simp only at h ⊢
          split at h
          · rename_i hempty
            rw [if_pos hempty]
            rfl
          · rename_i hempty
            rw [if_neg hempty]
            obtain ⟨exit, buf, unread, c, heq, hkept, hexit⟩ := daemonFormat.drive_rule
              (fun f rest c => dispatch f (c.withParser rest))
              (fun c => operationalHalted c.state)
              (fun _ _ c => rxOk c.state = true ∧ c.confLine = b.confLine)
              (fun _ _ c f rest hc _ _ => by
                obtain ⟨hrx, hline⟩ := dispatch_confLine (b := c.withParser rest) f hc.1
                exact ⟨hrx, hline.trans hc.2⟩)
              (fun _ _ _ _ hc _ _ => hc)
              b.parser chunk.bytes
              (LorahamBackend.record (.dataReceived chunk.bytes)
                (b.answered fun t => { t with dataRecv := answers }))
              ⟨hstate, rfl⟩ (operationalHalted_of_rxOk hstate).2
            have hdrive : driveData operationalHalted chunk.bytes
                (LorahamBackend.record (.dataReceived chunk.bytes)
                  (b.answered fun t => { t with dataRecv := answers })) = ⟨exit, buf, c⟩ := heq
            rw [hdrive] at h ⊢
            cases exit with
            | halted => exact hkept.2
            | malformed e => simp [rxOk_handleDisconnect] at h
            | stuck => exact hexit.elim
            | drained =>
                simp only at h ⊢
                split at h <;> rename_i hshort
                · rw [if_pos hshort]
                  exact hkept.2
                · rw [if_neg hshort]
                  exact (ih (c.withParser buf) hkept.1 h).trans hkept.2

/-- A poll that leaves the operational link up read its CONF input without a verdict,
and what that kept is kept by the rest of the poll. -/
theorem poll_confLine {b : LorahamBackend} (hstate : rxOk b.state = true)
    (h : rxOk b.poll.state = true) :
    ∃ c, b.pumpConf false b.transport.confRecv = (.quiet, c) ∧ b.poll.confLine = c.confLine := by
  have hpoll : b.poll = b.advanceOperational := by
    unfold poll
    cases hs : b.state <;> simp_all [rxOk]
  rw [hpoll] at h ⊢
  unfold advanceOperational at h ⊢
  rcases pumpConf_operational_steps b b.transport.confRecv hstate with
    ⟨c, heq, -⟩ | ⟨c, heq, -, hsame⟩
  · rw [heq] at h
    simp [rxOk_handleDisconnect] at h
  · rw [heq] at h ⊢
    refine ⟨c, rfl, ?_⟩
    have hc : rxOk c.state = true := by rw [hsame]; exact hstate
    simp only at h ⊢
    split at h <;> rename_i hwriting
    · rw [if_pos hwriting]
      obtain ⟨transport, off, writes, hframe⟩ := pumpTxWrite_frame c c.transport.dataSendSome
      generalize c.pumpTxWrite c.transport.dataSendSome = r at h hframe
      obtain ⟨flush, d⟩ := r
      change d = c.wrote transport off writes at hframe
      subst hframe
      cases flush with
      | complete =>
          exact dataLoop_confLine { c.wrote transport off writes with state := .txPending } _ rfl h
      | partly => exact dataLoop_confLine (c.wrote transport off writes) _ hc h
      | failed => simp [resetLinkUnconfigured, notify, rxOk] at h
    · rw [if_neg hwriting]
      exact dataLoop_confLine c _ hc h

/-- No line of the CONF stream is left unexamined, and behind the accepted status
line there was nothing but blank lines and broadcasts. -/
structure ConfExamined (b : LorahamBackend) : Prop where
  kept : 0x0A ∉ b.confLine
  lines : ∀ text, scanConf true (link b.trace).confReceived = (.status true, text) →
    ∀ line ∈ confLines text, ∃ core, Trimmed line core ∧ (core = [] ∨ Broadcast core)

/-- Outside of a configuration, the lines that are passed over. -/
theorem judgeLine_false {line : Bytes} (h : judgeLine false line = .ignore) :
    line = [] ∨ Broadcast line := by
  unfold judgeLine at h
  split at h <;> rename_i hempty
  · exact Or.inl (by simpa using hempty)
  · split at h <;> rename_i hbroadcast
    · exact Or.inr ((isBroadcastLine_iff line).mp hbroadcast)
    · simp only [Bool.false_and, Bool.false_eq_true, if_false] at h
      split at h <;> simp at h

/-- A quiet scan has ignored every line. -/
theorem ignored_of_scanConf {awaiting : Bool} {text rest : Bytes}
    (h : scanConf awaiting text = (.quiet, rest)) :
    ∀ line ∈ confLines text, judgeLine awaiting (trimLine line) = .ignore := by
  induction hn : text.length using Nat.strong_induction_on generalizing text with
  | _ n ih =>
      cases hsplit : splitLine text with
      | none =>
          rw [confLines]
          split <;> simp_all
      | some p =>
          obtain ⟨line, tail⟩ := p
          have hlt := splitLine_length_lt hsplit
          rw [confLines_of_splitLine hsplit]
          rw [scanConf_of_splitLine hsplit] at h
          cases hjudge : judgeLine awaiting (trimLine line) with
          | ignore =>
              rw [hjudge] at h
              intro l hl
              rcases List.mem_cons.mp hl with rfl | hl
              · exact hjudge
              · exact ih tail.length (by omega) h rfl l hl
          | status r | fatal => simp [hjudge] at h

/-- With no line end kept, every line received has been examined. -/
theorem Behind.examined {b : LorahamBackend} (h : b.Behind) (hline : 0x0A ∉ b.confLine) :
    b.ConfExamined := by
  refine ⟨hline, fun text htext line hmem => ?_⟩
  obtain ⟨text', hstatus, hexamined⟩ := h
  obtain rfl : text' = text := by simpa [hstatus] using htext
  rw [scanConf_of_incomplete (splitLine_eq_none_iff.mpr hline)] at hexamined
  exact ⟨trimLine line, trimmed_trimLine line,
    judgeLine_false (ignored_of_scanConf hexamined line hmem)⟩

/-- CONF input is strict: after a poll of the operational link that leaves it up, no
line is unexamined. -/
def ConfStrict (b : LorahamBackend) : Prop :=
  rxOk b.state = true → rxOk b.poll.state = true → b.poll.ConfExamined

/-- A poll leaves no line unexamined exactly if no complete line was kept before it,
or it has read some CONF input: lines kept behind the status line are examined with
the next read and not before. -/
theorem conf_strict_iff (configTimeoutMs drainTimeoutMs : Nat) (calls : List Call) (now : Nat)
    (transport : DaemonTransport) :
    let b := (runCalls configTimeoutMs drainTimeoutMs calls).enter now transport
    ConfStrict b ↔
      (rxOk b.state = true → rxOk b.poll.state = true →
        0x0A ∉ b.confLine ∨ readsConf transport.confRecv = true) := by
  intro b
  have hkept : b.poll.ConfKept := by
    have h := runCalls_confKept configTimeoutMs drainTimeoutMs
      (calls ++ [{ now := now, transport := transport, method := .poll }])
    rwa [runCalls_append_singleton] at h
  refine forall_congr' fun hstate => forall_congr' fun hup => ?_
  obtain ⟨c, hpump, hline⟩ := poll_confLine hstate hup
  have hread : if readsConf transport.confRecv = true then 0x0A ∉ c.confLine
      else c.confLine = b.confLine := confLine_of_pumpConf hpump
  constructor
  · intro h
    by_cases hreads : readsConf transport.confRecv = true
    · exact Or.inr hreads
    · rw [if_neg hreads] at hread
      rw [← hread, ← hline]
      exact Or.inl h.kept
  · intro h
    refine ((confKept_iff_of_rxOk hup).mp hkept).2.2.2.examined ?_
    rw [hline]
    split at hread
    · exact hread
    · rename_i hreads
      rw [hread]
      exact h.resolve_right hreads

/-- An error line in the same read as the status line, and a poll with nothing to
read: the link is up and the line unexamined. -/
theorem coalesced_error_unexamined :
    ¬ConfStrict
      ((runCalls 2000 30000
        (configureCalls ⟨ascii "STATUS RADIO=READY\nERR lost\n", by decide +kernel⟩)).enter 2
          {}) := by
  intro h
  have hkept := (h (by decide +kernel) (by decide +kernel)).kept
  exact hkept (by decide +kernel)

end LorahamBackend

end LorahamBridge
