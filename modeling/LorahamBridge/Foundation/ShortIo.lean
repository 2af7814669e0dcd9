import Mathlib

/-!
# Interrupted and short transfers

A system call that moves bytes may be interrupted, may fail, and may move less than
it was asked to.  A caller that insists on the whole transfer repeats the call for
the rest.  This file has the loop and its specification; it knows nothing about
what is transferred.

A run of the loop is given by the answers of the calls it makes.  Beyond the end of
the list every call moves all it is given, so that every run that ends is the run
of some list.

Main results:

- Theorem `writeAll_file`: what is behind the file is a beginning of the data, and
  all of it on success.
- Theorem `writeAll_ok`: only a failed call stops the loop early.
- Theorem `writeAll_answers`: which answers the loop takes, by the number of bytes alone.
-/

namespace Foundation

/-- How a call ends. -/
inductive IoAnswer where
  | interrupted
  | failed
  | moved (n : Nat)
deriving DecidableEq

/-- The end of a write loop: success, the file, and the answers left over. -/
structure Written (α : Type) where
  ok : Bool
  file : List α
  left : List IoAnswer
deriving DecidableEq

variable {α : Type}

/-- Write `rest` behind `file`, repeating the call after an interruption or a short
write. -/
def writeAll (file rest : List α) (answers : List IoAnswer) : Written α :=
  if rest = [] then ⟨true, file, answers⟩
  else
    match answers with
    | [] => ⟨true, file ++ rest, []⟩
    | .interrupted :: answers => writeAll file rest answers
    | .failed :: answers => ⟨false, file, answers⟩
    | .moved n :: answers => writeAll (file ++ rest.take n) (rest.drop n) answers

@[simp]
theorem writeAll_nil (file : List α) (answers : List IoAnswer) :
    writeAll file [] answers = ⟨true, file, answers⟩ := by
  unfold writeAll
  simp

/-- The file grows by a beginning of the data, on success by all of it. -/
theorem writeAll_file (file rest : List α) (answers : List IoAnswer) :
    ∃ k, (writeAll file rest answers).file = file ++ rest.take k ∧
      ((writeAll file rest answers).ok = true → rest.take k = rest) := by
  induction answers generalizing file rest with
  | nil =>
      unfold writeAll
      split <;> rename_i hrest
      · exact ⟨0, by simp, by simp [hrest]⟩
      · exact ⟨rest.length, by simp, by simp⟩
  | cons answer answers ih =>
      unfold writeAll
      split <;> rename_i hrest
      · exact ⟨0, by simp, by simp [hrest]⟩
      · cases answer with
        | interrupted => exact ih file rest
        | failed => exact ⟨0, by simp, by simp⟩
        | moved n =>
            obtain ⟨k, hfile, hall⟩ := ih (file ++ rest.take n) (rest.drop n)
            refine ⟨n + k, ?_, ?_⟩
            · simp only [hfile, List.append_assoc, List.take_add]
            · intro hok
              rw [List.take_add, hall hok, List.take_append_drop]

/-- A write that succeeds has appended everything. -/
theorem writeAll_file_of_ok {file rest : List α} {answers : List IoAnswer}
    (h : (writeAll file rest answers).ok = true) :
    (writeAll file rest answers).file = file ++ rest := by
  obtain ⟨k, hfile, hall⟩ := writeAll_file file rest answers
  rw [hfile, hall h]

/-- Without a failed call the loop ends with success, and none is left over. -/
theorem writeAll_ok (file rest : List α) {answers : List IoAnswer}
    (h : .failed ∉ answers) :
    (writeAll file rest answers).ok = true ∧ .failed ∉ (writeAll file rest answers).left := by
  induction answers generalizing file rest with
  | nil =>
      unfold writeAll
      split <;> exact ⟨rfl, h⟩
  | cons answer answers ih =>
      have htail : .failed ∉ answers := fun hmem => h (List.mem_cons_of_mem _ hmem)
      unfold writeAll
      split
      · exact ⟨rfl, h⟩
      · cases answer with
        | interrupted => exact ih _ _ htail
        | failed => exact absurd List.mem_cons_self h
        | moved n => exact ih _ _ htail

/-- The answers left over when `n` bytes are written; `none` if a call fails before
that. -/
def answersLeft (n : Nat) (answers : List IoAnswer) : Option (List IoAnswer) :=
  if n = 0 then some answers
  else
    match answers with
    | [] => some []
    | .interrupted :: answers => answersLeft n answers
    | .failed :: _ => none
    | .moved k :: answers => answersLeft (n - k) answers

/-- The loop takes its answers by the number of bytes alone. -/
theorem writeAll_answers (file rest : List α) (answers : List IoAnswer) :
    answersLeft rest.length answers =
      if (writeAll file rest answers).ok then some (writeAll file rest answers).left
      else none := by
  induction answers generalizing file rest with
  | nil =>
      unfold answersLeft writeAll
      by_cases hrest : rest = [] <;> simp [hrest]
  | cons answer answers ih =>
      unfold answersLeft writeAll
      by_cases hrest : rest = []
      · simp [hrest]
      · rw [if_neg (mt List.length_eq_zero_iff.mp hrest), if_neg hrest]
        cases answer with
        | interrupted => exact ih file rest
        | failed => rfl
        | moved k => simpa using ih (file ++ rest.take k) (rest.drop k)

end Foundation
