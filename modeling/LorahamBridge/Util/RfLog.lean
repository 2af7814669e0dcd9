import LorahamBridge.Foundation.ByteOrder
import LorahamBridge.Foundation.ShortIo

/-!
# Retention of the RF log

The RF log is one growing file.  A line that would take it past its limit first
rolls it over: the file is copied to `<path>.1` and truncated in place.  This file
embeds `copy_to_previous` and `write_line` of `rflog`; how a line is formatted is
not part of it.

The history variable `rolls` counts the completed rollovers.  A file that does not
exist is empty here.

Main results:

- Theorem `copyLoop_file`: a copy is a beginning of the live file, and all of it on
  success.
- Theorem `copyLoop_ok_iff`: the copy fails exactly if it reaches a failing call.
- Theorem `rollover_safe_unless_copy_fails`: a rollover loses nothing unless its copy
  reaches a failing call, and what it leaves behind if it does.
- Theorem `retention_invariant`: what the two files hold after each line, as long as
  no call fails.
-/

namespace LorahamBridge

open Foundation

/-- Size of the copy buffer. -/
def kCopyChunk : Nat := 65536

/-- The answers of the system calls behind one line. -/
structure LogIo where
  fstatOk : Bool := true
  openOk : Bool := true
  reads : List IoAnswer := []
  writes : List IoAnswer := []
  ftruncateOk : Bool := true
  appends : List IoAnswer := []
deriving DecidableEq

/-- The RF log: the size at which it rolls over, its two files, and how often it has rolled
over. -/
structure RfLog where
  maxBytes : Nat
  live : Bytes
  prev : Bytes
  rolls : Nat
deriving DecidableEq

/-! ## The copy -/

/-- One read of the live file; it is empty only at the end of the file. -/
def preadChunk (live : Bytes) (off n : Nat) : Bytes :=
  (live.drop off).take (min (max n 1) kCopyChunk)

/-- A read delivers nothing only at the end of the file. -/
theorem preadChunk_eq_nil_iff (live : Bytes) (off n : Nat) :
    preadChunk live off n = [] ↔ live.length ≤ off := by
  simp [preadChunk, kCopyChunk, List.take_eq_nil_iff, List.drop_eq_nil_iff]

/-- The next answer of the reads; beyond the script, a full buffer. -/
def nextRead : List IoAnswer → IoAnswer × List IoAnswer
  | [] => (.moved kCopyChunk, [])
  | answer :: answers => (answer, answers)

theorem nextRead_length_le {reads left : List IoAnswer} {answer : IoAnswer}
    (h : nextRead reads = (answer, left)) : left.length ≤ reads.length := by
  cases reads with
  | nil =>
      simp only [nextRead, Prod.mk.injEq] at h
      simp [← h.2]
  | cons answer answers =>
      simp only [nextRead, Prod.mk.injEq] at h
      simp [← h.2]

/-- Every interruption uses an answer up. -/
theorem nextRead_interrupted {reads left : List IoAnswer}
    (h : nextRead reads = (.interrupted, left)) : left.length < reads.length := by
  cases reads with
  | nil => simp [nextRead] at h
  | cons answer answers =>
      simp only [nextRead, Prod.mk.injEq] at h
      simp [← h.2]

/-- The chunked copy from an offset of the live file behind what is copied. -/
def copyLoop (live : Bytes) (off : Nat) (file : Bytes) (reads writes : List IoAnswer) :
    Bool × Bytes :=
  match _h : nextRead reads with
  | (.interrupted, reads) => copyLoop live off file reads writes
  | (.failed, _) => (false, file)
  | (.moved n, reads) =>
      if _hempty : preadChunk live off n = [] then (true, file)
      else
        match writeAll file (preadChunk live off n) writes with
        | ⟨false, file, _⟩ => (false, file)
        | ⟨true, file, writes⟩ =>
            copyLoop live (off + (preadChunk live off n).length) file reads writes
termination_by reads.length + (live.length - off)
decreasing_by
  · have := nextRead_interrupted _h
    omega
  · have hle := nextRead_length_le _h
    have hpos := List.length_pos_iff.mpr _hempty
    have hoff := mt (preadChunk_eq_nil_iff live off n).mpr _hempty
    omega

/-- Copying a chunk carries a beginning of the file to a longer one. -/
theorem take_append_preadChunk (live : Bytes) (off n k : Nat) :
    ∃ j, live.take off ++ (preadChunk live off n).take k = live.take j := by
  refine ⟨off + min k (min (max n 1) kCopyChunk), ?_⟩
  rw [preadChunk, List.take_take, List.take_add]

/-- A chunk continues what has been copied. -/
theorem take_append_preadChunk_all (live : Bytes) {off : Nat} (n : Nat)
    (hoff : off ≤ live.length) :
    live.take off ++ preadChunk live off n = live.take (off + (preadChunk live off n).length) ∧
      off + (preadChunk live off n).length ≤ live.length := by
  have hlen : (preadChunk live off n).length =
      min (min (max n 1) kCopyChunk) (live.length - off) := by
    simp [preadChunk]
  refine ⟨?_, by omega⟩
  rw [hlen, preadChunk, ← List.take_add, List.take_eq_take_iff]
  omega

/-- A copy is a beginning of the live file, and the whole file on success. -/
theorem copyLoop_file (live : Bytes) (off : Nat) (file : Bytes) (reads writes : List IoAnswer)
    (hoff : off ≤ live.length) (hfile : file = live.take off) :
    (∃ k, (copyLoop live off file reads writes).2 = live.take k) ∧
      ((copyLoop live off file reads writes).1 = true →
        (copyLoop live off file reads writes).2 = live) := by
  fun_induction copyLoop live off file reads writes with
  | case1 off file reads writes reads' hread ih => exact ih hoff hfile
  | case2 off file reads writes left hread => exact ⟨⟨off, hfile⟩, by simp⟩
  | case3 off file reads writes n left hread hempty =>
      have hend := (preadChunk_eq_nil_iff live off n).mp hempty
      refine ⟨⟨off, hfile⟩, fun _ => ?_⟩
      rw [hfile, List.take_of_length_le hend]
  | case4 off file reads writes n left hread hempty file' left' hwritten =>
      obtain ⟨k, hcopied, -⟩ := writeAll_file file (preadChunk live off n) writes
      rw [hwritten, hfile] at hcopied
      obtain ⟨j, hj⟩ := take_append_preadChunk live off n k
      exact ⟨⟨j, hcopied.trans hj⟩, by simp⟩
  | case5 off file reads writes n left hread hempty file' writes' hwritten ih =>
      have hcopied : file' = file ++ preadChunk live off n := by
        have hok : (writeAll file (preadChunk live off n) writes).ok = true := by rw [hwritten]
        have hall := writeAll_file_of_ok hok
        rwa [hwritten] at hall
      obtain ⟨hnext, hle⟩ := take_append_preadChunk_all live n hoff
      exact ih hle (by rw [hcopied, hfile, hnext])

/-- A failure comes from the answers. -/
theorem failed_mem_of_nextRead {reads left : List IoAnswer} (h : nextRead reads = (.failed, left)) :
    .failed ∈ reads := by
  cases reads with
  | nil => simp [nextRead] at h
  | cons answer answers =>
      simp only [nextRead, Prod.mk.injEq] at h
      simp [h.1]

theorem mem_of_nextRead {reads left : List IoAnswer} {answer a : IoAnswer}
    (h : nextRead reads = (answer, left)) (ha : a ∈ left) : a ∈ reads := by
  cases reads with
  | nil =>
      simp only [nextRead, Prod.mk.injEq] at h
      simp [← h.2] at ha
  | cons answer answers =>
      simp only [nextRead, Prod.mk.injEq] at h
      simp [h.2, ha]

/-- Without a failed call the copy succeeds. -/
theorem copyLoop_ok (live : Bytes) (off : Nat) (file : Bytes) (reads writes : List IoAnswer)
    (hreads : .failed ∉ reads) (hwrites : .failed ∉ writes) :
    (copyLoop live off file reads writes).1 = true := by
  fun_induction copyLoop live off file reads writes with
  | case1 off file reads writes left hread ih =>
      exact ih (fun hmem => hreads (mem_of_nextRead hread hmem)) hwrites
  | case2 off file reads writes left hread => exact absurd (failed_mem_of_nextRead hread) hreads
  | case3 => rfl
  | case4 off file reads writes n left hread hempty file' left' hwritten =>
      have hok := (writeAll_ok file (preadChunk live off n) hwrites).1
      simp [hwritten] at hok
  | case5 off file reads writes n left hread hempty file' writes' hwritten ih =>
      have hleft := (writeAll_ok file (preadChunk live off n) hwrites).2
      rw [hwritten] at hleft
      exact ih (fun hmem => hreads (mem_of_nextRead hread hmem)) hleft

/-- The number of bytes one read of the copy delivers when `left` bytes are left. -/
def readSize (n left : Nat) : Nat :=
  min (min (max n 1) kCopyChunk) left

/-- Whether the copy of a file reaches a call that fails, by the answers of its calls
and the number of bytes left to copy. -/
def copyFails (left : Nat) (reads writes : List IoAnswer) : Bool :=
  match _h : nextRead reads with
  | (.interrupted, reads) => copyFails left reads writes
  | (.failed, _) => true
  | (.moved n, reads) =>
      if _hleft : left = 0 then false
      else
        match answersLeft (readSize n left) writes with
        | none => true
        | some writes => copyFails (left - readSize n left) reads writes
termination_by reads.length + left
decreasing_by
  · have := nextRead_interrupted _h
    omega
  · have hle := nextRead_length_le _h
    simp only [readSize, kCopyChunk]
    omega

/-- How much a read delivers depends on the answer and on what is left. -/
theorem preadChunk_length (live : Bytes) (off n : Nat) :
    (preadChunk live off n).length = readSize n (live.length - off) := by
  simp [preadChunk, readSize]

/-- A chunk that is not empty is left to copy, and its length decides what its writes answer. -/
theorem preadChunk_written {live : Bytes} {off n : Nat} (file : Bytes) {writes left : List IoAnswer}
    {ok : Bool} {file' : Bytes} (hmore : preadChunk live off n ≠ [])
    (hwritten : writeAll file (preadChunk live off n) writes = ⟨ok, file', left⟩) :
    live.length - off ≠ 0 ∧
      answersLeft (readSize n (live.length - off)) writes = if ok then some left else none := by
  refine ⟨mt Nat.le_of_sub_eq_zero (mt (preadChunk_eq_nil_iff live off n).mpr hmore), ?_⟩
  have hanswers := writeAll_answers file (preadChunk live off n) writes
  rw [hwritten, preadChunk_length] at hanswers
  exact hanswers

/-- The copy succeeds exactly if it reaches no failing call. -/
theorem copyLoop_ok_iff (live : Bytes) (off : Nat) (file : Bytes) (reads writes : List IoAnswer) :
    (copyLoop live off file reads writes).1 = true ↔
      copyFails (live.length - off) reads writes = false := by
  fun_induction copyLoop live off file reads writes with
  | case1 off file reads writes left hread ih =>
      rw [copyFails, ih]
      split <;> simp_all
  | case2 off file reads writes left hread =>
      rw [copyFails]
      split <;> simp_all
  | case3 off file reads writes n left hread hempty =>
      have hend : live.length - off = 0 :=
        Nat.sub_eq_zero_of_le ((preadChunk_eq_nil_iff live off n).mp hempty)
      rw [copyFails]
      split <;> simp_all
  | case4 off file reads writes n left hread hempty file' left' hwritten =>
      obtain ⟨hmore, hanswers⟩ := preadChunk_written file hempty hwritten
      rw [copyFails]
      split <;> simp_all
  | case5 off file reads writes n left hread hempty file' writes' hwritten ih =>
      obtain ⟨hmore, hanswers⟩ := preadChunk_written file hempty hwritten
      have hoff : live.length - (off + (preadChunk live off n).length) =
          live.length - off - readSize n (live.length - off) := by
        rw [preadChunk_length]
        omega
      rw [ih, hoff]
      conv_rhs => rw [copyFails]
      split <;> simp_all

/-! ## Lines -/

namespace RfLog

variable (io : LogIo) (line : Bytes) (log : RfLog)

/-- Copy the live file to `<path>.1`, which is truncated when it is opened. -/
def copyToPrevious : Bool × RfLog :=
  if io.openOk then
    match copyLoop log.live 0 [] io.reads io.writes with
    | (ok, file) => (ok, { log with prev := file })
  else (false, log)

/-- The line would take the live file past its limit. -/
def rollsOver : Bool :=
  io.fstatOk && decide (log.maxBytes < log.live.length + line.length)

/-- The live file is truncated only behind a successful copy. -/
def rollover : RfLog :=
  match log.copyToPrevious io with
  | (true, log) => if io.ftruncateOk then { log with live := [], rolls := log.rolls + 1 } else log
  | (false, log) => log

/-- Append the line as far as the answers allow. -/
def append : RfLog :=
  { log with live := (writeAll log.live line io.appends).file }

/-- Roll over if the line does not fit any more, and append it. -/
def writeLine : RfLog :=
  append io line (if log.rollsOver io line then log.rollover io else log)

/-- The server's lines one after the other. -/
def writeLines (writes : List (LogIo × Bytes)) : RfLog :=
  writes.foldl (fun log w => log.writeLine w.1 w.2) log

/-- The bytes a copy has written when it ends. -/
def copiedBytes : Nat :=
  (copyLoop log.live 0 [] io.reads io.writes).2.length

/-- A copy that succeeds is a copy of the whole file. -/
theorem copyToPrevious_ok (h : (log.copyToPrevious io).1 = true) :
    (log.copyToPrevious io).2 = { log with prev := log.live } := by
  unfold copyToPrevious at h ⊢
  split at h <;> rename_i hopen
  · rw [if_pos hopen]
    have hfile := (copyLoop_file log.live 0 [] io.reads io.writes (Nat.zero_le _) rfl).2
    simp only at h ⊢
    rw [hfile h]
  · simp at h

/-- What a copy leaves in `<path>.1`, whether it succeeds or not. -/
theorem copyToPrevious_snd :
    (log.copyToPrevious io).2 =
      { log with
        prev := if io.openOk then log.live.take (log.copiedBytes io) else log.prev } := by
  unfold copyToPrevious
  split <;> rename_i hopen
  · obtain ⟨k, hk⟩ := (copyLoop_file log.live 0 [] io.reads io.writes (Nat.zero_le _) rfl).1
    have hcopied : (copyLoop log.live 0 [] io.reads io.writes).2 =
        log.live.take (log.copiedBytes io) := by
      rw [copiedBytes, hk, List.length_take, List.take_eq_take_iff]
      omega
    rw [← hcopied]
  · rfl

/-- A rollover loses nothing: a failed copy leaves `<path>.1` as it was and the live
file whole in front of the appended line, and `<path>.1` is replaced only by the
whole live file. -/
structure RolloverSafe : Prop where
  failed : log.rollsOver io line = true → (log.copyToPrevious io).1 = false →
    (log.writeLine io line).prev = log.prev ∧
      ∃ k, (log.writeLine io line).live = log.live ++ line.take k
  replaced : (log.writeLine io line).prev ≠ log.prev →
    (log.copyToPrevious io).1 = true ∧ (log.writeLine io line).prev = log.live

/-- The live file grows by a beginning of the line. -/
theorem append_live : ∃ k, (log.append io line).live = log.live ++ line.take k :=
  (writeAll_file log.live line io.appends).imp fun _ h => h.1

/-- After a failed copy the previous file is a beginning of the live one, which is kept. -/
theorem writeLine_of_failed (hrolls : log.rollsOver io line = true)
    (hfailed : (log.copyToPrevious io).1 = false) :
    (log.writeLine io line).prev =
        (if io.openOk then log.live.take (log.copiedBytes io) else log.prev) ∧
      ∃ k, (log.writeLine io line).live = log.live ++ line.take k := by
  have hroll : log.rollover io = (log.copyToPrevious io).2 := by
    unfold rollover
    split <;> simp_all
  rw [writeLine, if_pos hrolls, hroll, copyToPrevious_snd]
  exact ⟨rfl, append_live io line _⟩

/-- Otherwise the previous file is kept or replaced by the whole live one. -/
theorem writeLine_prev_of_ok (hok : (log.copyToPrevious io).1 = true) :
    (log.writeLine io line).prev = log.prev ∨ (log.writeLine io line).prev = log.live := by
  have hcopy := copyToPrevious_ok io log hok
  unfold writeLine rollover append
  split
  · refine Or.inr ?_
    split <;> rename_i heq
    · rw [heq] at hcopy
      simp only at hcopy
      split <;> simp [hcopy]
    · simp [heq] at hok
  · exact Or.inl rfl

/-- The copy fails exactly if `<path>.1` cannot be opened or a failing call is
reached. -/
theorem copyToPrevious_failed_iff :
    (log.copyToPrevious io).1 = false ↔
      io.openOk = true → copyFails log.live.length io.reads io.writes = true := by
  have hcopy := copyLoop_ok_iff log.live 0 [] io.reads io.writes
  rw [Nat.sub_zero] at hcopy
  unfold copyToPrevious
  split <;> rename_i hopen
  · simp only [hopen, forall_const, ← Bool.not_eq_true, hcopy]
    simp
  · simp [hopen]

/-- A rollover whose copy succeeds, or cannot start, loses nothing. -/
theorem rolloverSafe_of_kept
    (hkept : log.rollsOver io line = true → (log.copyToPrevious io).1 = false →
      (log.writeLine io line).prev = log.prev) : RolloverSafe io line log := by
  refine ⟨fun hrolls hfailed => ⟨hkept hrolls hfailed,
    (writeLine_of_failed io line log hrolls hfailed).2⟩, fun hchanged => ?_⟩
  by_cases hrolls : log.rollsOver io line = true
  · cases hok : (log.copyToPrevious io).1 with
    | true => exact ⟨rfl, (writeLine_prev_of_ok io line log hok).resolve_left hchanged⟩
    | false => exact absurd (hkept hrolls hok) hchanged
  · refine absurd ?_ hchanged
    rw [writeLine, if_neg hrolls]
    rfl

/-- A rollover loses nothing if the line does not roll the file over, or `<path>.1`
cannot be opened, or the copy reaches no failing call.  Otherwise `<path>.1`, truncated
when it was opened, is left with the beginning of the live file that was copied, and
the previous segment survives only if it happened to be just that. -/
theorem rollover_safe_unless_copy_fails :
    (log.rollsOver io line = false ∨ io.openOk = false ∨
        copyFails log.live.length io.reads io.writes = false →
      RolloverSafe io line log) ∧
    (log.rollsOver io line = true → io.openOk = true →
        copyFails log.live.length io.reads io.writes = true →
      ∃ k, (log.writeLine io line).prev = log.live.take k ∧
        (RolloverSafe io line log ↔ log.prev = log.live.take k)) := by
  constructor
  · intro h
    refine rolloverSafe_of_kept io line log fun hrolls hfailed => ?_
    have hopen : io.openOk = false := by
      rcases h with h | h | h
      · simp [h] at hrolls
      · exact h
      · by_contra hopen
        have hfails := (copyToPrevious_failed_iff io log).mp hfailed (by simpa using hopen)
        simp [h] at hfails
    rw [(writeLine_of_failed io line log hrolls hfailed).1]
    simp [hopen]
  · intro hrolls hopen hfails
    have hfailed := (copyToPrevious_failed_iff io log).mpr fun _ => hfails
    have hprev := (writeLine_of_failed io line log hrolls hfailed).1
    rw [if_pos hopen] at hprev
    refine ⟨log.copiedBytes io, hprev, fun h => ?_, fun h => ?_⟩
    · rw [← hprev, (h.failed hrolls hfailed).1]
    · exact rolloverSafe_of_kept io line log fun _ _ => hprev.trans h.symm

/-- A read that fails at once costs the previous segment. -/
theorem rollover_loses_previous :
    ¬ RolloverSafe { reads := [.failed] } [3] ⟨1, [2], [1], 0⟩ := by
  intro h
  have hprev := (h.failed (by decide +kernel) (by decide +kernel)).1
  revert hprev
  decide +kernel

/-! ## Retention -/

/-- No call fails; transfers may still be short or interrupted. -/
structure Faultless : Prop where
  fstat : io.fstatOk = true
  openPrevious : io.openOk = true
  reads : .failed ∉ io.reads
  writes : .failed ∉ io.writes
  ftruncate : io.ftruncateOk = true
  appends : .failed ∉ io.appends

variable {io log}

/-- A rollover without faults. -/
theorem Faultless.rollover_eq (h : Faultless io) :
    log.rollover io = { log with live := [], prev := log.live, rolls := log.rolls + 1 } := by
  have hok : (log.copyToPrevious io).1 = true := by
    simp only [copyToPrevious, if_pos h.openPrevious]
    exact copyLoop_ok log.live 0 [] io.reads io.writes h.reads h.writes
  have hcopy := copyToPrevious_ok io log hok
  unfold rollover
  split <;> rename_i heq
  · rw [heq] at hcopy
    rw [if_pos h.ftruncate]
    simp only at hcopy
    rw [hcopy]
  · simp [heq] at hok

/-- An append without faults. -/
theorem Faultless.append_eq (h : Faultless io) :
    log.append io line = { log with live := log.live ++ line } := by
  rw [append, writeAll_file_of_ok (writeAll_ok log.live line h.appends).1]

/-- A line is appended behind the live file, or starts it anew. -/
theorem Faultless.writeLine_eq (h : Faultless io) :
    log.writeLine io line =
      if log.maxBytes < log.live.length + line.length then
        { log with live := line, prev := log.live, rolls := log.rolls + 1 }
      else { log with live := log.live ++ line } := by
  rw [writeLine, rollsOver, h.fstat, Bool.true_and]
  simp only [decide_eq_true_eq]
  split <;> rename_i hover
  · rw [h.rollover_eq, h.append_eq]
    rfl
  · rw [h.append_eq]

/-- The segment the last rollover since `start` has left, empty if there was none. -/
def retained (start log : RfLog) : Bytes :=
  if log.rolls = start.rolls then [] else log.prev

/-- What is kept of the initial file and the lines written since. -/
structure Retention (start log : RfLog) (lines : List Bytes) : Prop where
  maxBytes : log.maxBytes = start.maxBytes
  rolls : start.rolls ≤ log.rolls
  suffix : retained start log ++ log.live <:+ start.live ++ lines.flatten
  unrolled : log.rolls = start.rolls → log.live = start.live ++ lines.flatten
  once : log.rolls = start.rolls + 1 → log.prev ++ log.live = start.live ++ lines.flatten

theorem Retention.start (start : RfLog) : Retention start start [] where
  maxBytes := rfl
  rolls := Nat.le_refl _
  suffix := by simp [retained]
  unrolled := by simp
  once := by simp

/-- One line keeps what is retained; only the segment before the last is given up. -/
theorem Retention.writeLine {start : RfLog} {lines : List Bytes} (hr : Retention start log lines)
    (h : Faultless io) (line : Bytes) :
    Retention start (log.writeLine io line) (lines ++ [line]) := by
  have hflat : start.live ++ (lines ++ [line]).flatten =
      (start.live ++ lines.flatten) ++ line := by simp
  have hrolls := hr.rolls
  rw [h.writeLine_eq]
  split
  · refine ⟨hr.maxBytes, ?_, ?_, ?_, ?_⟩
    · exact Nat.le_succ_of_le hrolls
    · have hlive : log.live <:+ start.live ++ lines.flatten :=
        (List.suffix_append _ _).trans hr.suffix
      rw [hflat, retained, if_neg (by simp only; omega)]
      exact (List.suffix_append_self_iff).mpr hlive
    · intro heq
      simp only at heq
      omega
    · intro heq
      rw [hflat, ← hr.unrolled (by simpa using heq)]
  · refine ⟨hr.maxBytes, hrolls, ?_, ?_, ?_⟩
    · rw [hflat, ← List.append_assoc]
      exact (List.suffix_append_self_iff).mpr hr.suffix
    · intro heq
      rw [hflat, ← hr.unrolled heq]
    · intro heq
      rw [hflat, ← hr.once heq, List.append_assoc]

theorem writeLines_append (writes : List (LogIo × Bytes)) (w : LogIo × Bytes) :
    log.writeLines (writes ++ [w]) = (log.writeLines writes).writeLine w.1 w.2 := by
  simp [writeLines]

/-- Over any number of lines nothing is lost but what a rollover replaces. -/
theorem writeLines_retention (start : RfLog) (writes : List (LogIo × Bytes))
    (hio : ∀ w ∈ writes, Faultless w.1) :
    Retention start (start.writeLines writes) (writes.map Prod.snd) := by
  induction writes using List.reverseRecOn with
  | nil => exact Retention.start start
  | append_singleton writes w ih =>
      rw [writeLines_append, List.map_append]
      refine (ih fun v hv => hio v ?_).writeLine (hio w ?_) w.2
      · exact List.mem_append_left _ hv
      · simp

/-- As long as no call fails, after each line: the live file is within its limit and
ends with the line, and what is retained and the live file are the end of everything
written, without loss or repetition where the file has rolled over at most once. -/
theorem retention_invariant (start : RfLog) (writes : List (LogIo × Bytes)) (io : LogIo)
    (line : Bytes) (hio : ∀ w ∈ writes, Faultless w.1) (hlast : Faultless io)
    (hline : line.length ≤ start.maxBytes) :
    let log := start.writeLines (writes ++ [(io, line)])
    let written := start.live ++ (writes.map Prod.snd ++ [line]).flatten
    log.live.length ≤ start.maxBytes ∧ line <:+ log.live ∧
      retained start log ++ log.live <:+ written ∧
      (log.rolls = start.rolls → log.live = written) ∧
      (log.rolls = start.rolls + 1 → log.prev ++ log.live = written) := by
  intro log written
  have hbefore := writeLines_retention start writes hio
  have hr : Retention start log (writes.map Prod.snd ++ [line]) := by
    have := hbefore.writeLine hlast line
    rwa [← writeLines_append writes (io, line)] at this
  have hlog : log = (start.writeLines writes).writeLine io line := writeLines_append writes _
  refine ⟨?_, ?_, hr.suffix, hr.unrolled, hr.once⟩
  · rw [hlog, hlast.writeLine_eq, hbefore.maxBytes]
    split
    · exact hline
    · rw [List.length_append]
      omega
  · rw [hlog, hlast.writeLine_eq]
    split
    · exact List.suffix_refl line
    · exact List.suffix_append _ _

/-- Two lines of which the second rolls the file over, with a short read, an
interrupted write and a short append. -/
theorem retention_invariant_rollover :
    let log := writeLines ⟨3, [1], [], 0⟩
      [({}, [2]), ({ reads := [.moved 1], writes := [.interrupted], appends := [.moved 1] }, [3, 4])]
    log.live.length ≤ 3 ∧ [3, 4] <:+ log.live ∧
      retained ⟨3, [1], [], 0⟩ log ++ log.live <:+ [1, 2, 3, 4] ∧
      (log.rolls = 0 → log.live = [1, 2, 3, 4]) ∧
      (log.rolls = 1 → log.prev ++ log.live = [1, 2, 3, 4]) :=
  retention_invariant ⟨3, [1], [], 0⟩ [({}, [2])]
    { reads := [.moved 1], writes := [.interrupted], appends := [.moved 1] } [3, 4]
    (by
      intro w hw
      rw [List.mem_singleton.mp hw]
      exact ⟨rfl, rfl, by simp, by simp, rfl, by simp⟩)
    ⟨rfl, rfl, by simp, by simp, rfl, by simp⟩ (by decide)

end RfLog

end LorahamBridge
