import LorahamBridge.Foundation.ByteOrder

/-!
# Bounded character buffers

A text is composed in a buffer of fixed capacity by characters stored at a running
position and by `snprintf`, which cuts off what does not fit and terminates the rest.
The running position counts every character and may leave the buffer behind.  A store
outside the buffer has no result.

Main results:

- Theorem `storeAll_holds`: characters stored at the running position extend the text.
- Theorem `snprintf_holds`: so does `snprintf`, whether or not its text fits.
- Theorem `storeLoop_holds`: a loop that stores some characters for each byte of an
  input while they fit.
-/

namespace Foundation

/-! ## Stores -/

/-- Store a character; there is no result for an index outside the buffer. -/
def store (out : Bytes) (i : Nat) (c : UInt8) : Option Bytes :=
  if i < out.length then some (out.set i c) else none

/-- Store characters one behind the other. -/
def storeAll (out : Bytes) (i : Nat) : Bytes → Option Bytes
  | [] => some out
  | c :: text => (store out i c).bind fun out => storeAll out (i + 1) text

/-- `snprintf(out + pos, size, "%s", text)`: the beginning of the text that fits in
front of a terminator, and the length of the whole text. -/
def snprintf (out : Bytes) (pos size : Nat) (text : Bytes) : Option (Bytes × Nat) :=
  if size = 0 then some (out, text.length)
  else (storeAll out pos (text.take (size - 1) ++ [0])).map fun out => (out, text.length)

/-- Store the characters of one input byte after the other, as long as they fit in
front of a last byte; `width` is their number. -/
def storeLoop (width : Nat) (chars : UInt8 → Bytes) (cap : Nat) :
    Bytes → Bytes × Nat → Option (Bytes × Nat)
  | [], s => some s
  | c :: input, (out, pos) =>
      if pos + width < cap then
        (storeAll out pos (chars c)).bind fun out =>
          storeLoop width chars cap input (out, pos + width)
      else some (out, pos)

/-- Stores within the buffer replace that many bytes of it. -/
theorem storeAll_eq {out : Bytes} {i : Nat} {text : Bytes} (h : i + text.length ≤ out.length) :
    storeAll out i text = some (out.take i ++ text ++ out.drop (i + text.length)) := by
  induction text generalizing out i with
  | nil => simp [storeAll]
  | cons c text ih =>
      rw [List.length_cons] at h
      have hi : i < out.length := by omega
      have hset : out.set i c = out.take i ++ c :: out.drop (i + 1) :=
        List.set_eq_take_append_cons_drop.trans (if_pos hi)
      have htake : (out.set i c).take (i + 1) = out.take i ++ [c] := by
        rw [hset, List.take_append, List.length_take, Nat.min_eq_left hi.le]
        simp
      rw [storeAll, store, if_pos hi, Option.bind_some, ih (by rw [List.length_set]; omega), htake,
        List.drop_set_of_lt (by omega), List.length_cons]
      simp [Nat.add_comm, Nat.add_left_comm]

/-! ## The text in a buffer -/

/-- The buffer holds a text as far as it leaves room for a terminator. -/
structure HoldsText (cap : Nat) (out text : Bytes) : Prop where
  length : out.length = cap
  text : text.take (cap - 1) <+: out

/-- A new buffer holds the empty text. -/
theorem holds_nil {cap : Nat} {out : Bytes} (h : out.length = cap) : HoldsText cap out [] :=
  ⟨h, by simp⟩

/-- The part of a text that fits stands for the whole. -/
theorem HoldsText.take {cap : Nat} {out text : Bytes} (h : HoldsText cap out text) :
    HoldsText cap out (text.take (cap - 1)) :=
  ⟨h.length, by simpa [List.take_take] using h.text⟩

/-- A text that fits is the beginning of the buffer. -/
theorem HoldsText.prefix_of_lt {cap : Nat} {out text : Bytes} (h : HoldsText cap out text)
    (hfit : text.length < cap) : text <+: out := by
  have := h.text
  rwa [List.take_of_length_le (by omega)] at this

/-- Characters stored behind a text that fits. -/
theorem storeAll_of_holds {cap : Nat} {out text chars : Bytes} (h : HoldsText cap out text)
    (hfit : text.length + chars.length ≤ cap) (hlt : text.length < cap) :
    storeAll out text.length chars =
      some (text ++ chars ++ out.drop (text.length + chars.length)) := by
  have hpre := List.prefix_iff_eq_take.mp (h.prefix_of_lt hlt)
  rw [storeAll_eq (by rw [h.length]; omega), ← hpre]

/-- Characters stored at the running position extend the text. -/
theorem storeAll_holds {cap : Nat} {out text : Bytes} (h : HoldsText cap out text) (chars : Bytes)
    (hfit : text.length + chars.length < cap) :
    ∃ out', storeAll out text.length chars = some out' ∧ HoldsText cap out' (text ++ chars) := by
  refine ⟨_, storeAll_of_holds h (by omega) (by omega), ?_, ?_⟩
  · have := h.length
    simp only [List.length_append, List.length_drop]
    omega
  · rw [List.take_of_length_le (by rw [List.length_append]; omega)]
    exact List.prefix_append _ _

/-- Printing at the running position extends the text, whether or not it fits. -/
theorem snprintf_holds {cap : Nat} {out text : Bytes} (h : HoldsText cap out text) (chars : Bytes) :
    ∃ out', snprintf out text.length (if text.length < cap then cap - text.length else 0) chars =
        some (out', chars.length) ∧ HoldsText cap out' (text ++ chars) := by
  have hlen := h.length
  by_cases hlt : text.length < cap
  · rw [if_pos hlt, snprintf, if_neg (by omega),
      storeAll_of_holds h (by simp only [List.length_append, List.length_take]; simp; omega) hlt]
    refine ⟨_, rfl, ?_, ?_⟩
    · simp only [List.length_append, List.length_take, List.length_drop, List.length_singleton]
      omega
    · rw [List.take_append, List.take_of_length_le (by omega), ← List.append_assoc,
        List.append_assoc (text ++ _)]
      rw [Nat.sub_right_comm]
      exact List.prefix_append _ _
  · rw [if_neg hlt, snprintf, if_pos rfl]
    refine ⟨out, rfl, hlen, ?_⟩
    rw [List.take_append_of_le_length (by omega)]
    exact h.text

/-- The loop stores the characters of a beginning of its input: all of it, or as much
as fits. -/
theorem storeLoop_holds {width : Nat} {chars : UInt8 → Bytes}
    (hwidth : ∀ c, (chars c).length = width) {cap : Nat} (input : Bytes) {out text : Bytes}
    (h : HoldsText cap out text) :
    ∃ out' done rest, storeLoop width chars cap input (out, text.length) =
        some (out', (text ++ done.flatMap chars).length) ∧
      HoldsText cap out' (text ++ done.flatMap chars) ∧ input = done ++ rest ∧
      (rest = [] ∨ cap ≤ (text ++ done.flatMap chars).length + width) := by
  induction input generalizing out text with
  | nil => exact ⟨out, [], [], by simp [storeLoop], by simpa using h, rfl, Or.inl rfl⟩
  | cons c input ih =>
      by_cases hfit : text.length + width < cap
      · obtain ⟨out₁, hstore, hheld⟩ := storeAll_holds h (chars c) (by rwa [hwidth])
        obtain ⟨out', done, rest, hloop, hheld', rfl, hend⟩ := ih hheld
        have hpos : text.length + width = (text ++ chars c).length := by
          rw [List.length_append, hwidth]
        have htext : text ++ (c :: done).flatMap chars = text ++ chars c ++ done.flatMap chars := by
          simp
        refine ⟨out', c :: done, rest, ?_, ?_, rfl, ?_⟩
        · rw [storeLoop, if_pos hfit, hstore, Option.bind_some, hpos, hloop, htext]
        · rw [htext]
          exact hheld'
        · rw [htext]
          exact hend
      · refine ⟨out, [], c :: input, ?_, by simpa using h, rfl, Or.inr (by simp; omega)⟩
        rw [storeLoop, if_neg hfit]
        simp

end Foundation
