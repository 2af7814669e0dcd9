import LorahamBridge.Foundation.ByteOrder

/-!
# Terminated lines

A text file is a sequence of lines, each with its terminator.  `segments` takes a list apart
behind every terminator; `splitLines` reads a text in which nothing stands behind the last one.
The lemmas at the end are for readers that go over a text piece by piece.

Main results:

- Theorem `splitLines_flatten`: the lines written one behind the other are the lines read.
-/

namespace Foundation

section Segments

variable {α : Type} [DecidableEq α]

/-- The terminated segments of a list, and what stands behind the last terminator. -/
def segments (stop : α) : List α → List (List α) × List α
  | [] => ([], [])
  | a :: l =>
      match segments stop l with
      | (segs, tail) =>
          if a = stop then ([a] :: segs, tail)
          else
            match segs with
            | [] => ([], a :: tail)
            | seg :: segs => ((a :: seg) :: segs, tail)

/-- A list with its terminator at the end and nowhere else. -/
def Terminated (stop : α) (l : List α) : Prop :=
  ∃ text, l = text ++ [stop] ∧ stop ∉ text

/-- A line in front of others. -/
theorem segments_append {stop : α} {line : List α} (h : Terminated stop line) (rest : List α) :
    segments stop (line ++ rest) =
      (line :: (segments stop rest).1, (segments stop rest).2) := by
  obtain ⟨text, rfl, hfree⟩ := h
  induction text with
  | nil => simp [segments]
  | cons a text ih =>
      have ha : a ≠ stop := fun heq => hfree (by simp [heq])
      have hrest := ih fun hmem => hfree (List.mem_cons_of_mem _ hmem)
      rw [List.cons_append, List.cons_append, segments, hrest]
      simp [ha]

/-- Lines written one after the other are found again. -/
theorem segments_flatten {stop : α} {lines : List (List α)}
    (h : ∀ line ∈ lines, Terminated stop line) : segments stop lines.flatten = (lines, []) := by
  induction lines with
  | nil => rfl
  | cons line lines ih =>
      have hrest := ih fun l hl => h l (List.mem_cons_of_mem _ hl)
      rw [List.flatten_cons, segments_append (h line List.mem_cons_self), hrest]

end Segments

/-- The lines of a text, each with its newline; nothing may stand behind the last one. -/
def splitLines (text : Bytes) : Option (List Bytes) :=
  match segments 0x0A text with
  | (lines, []) => some lines
  | _ => none

/-- The same for bytes. -/
theorem splitLines_flatten {lines : List Bytes} (h : ∀ line ∈ lines, Terminated 0x0A line) :
    splitLines lines.flatten = some lines := by
  rw [splitLines, segments_flatten h]

/-- A text made of whole lines. -/
def Lines (lines : List Bytes) (text : Bytes) : Prop :=
  text = lines.flatMap (· ++ [0x0A]) ∧ ∀ line ∈ lines, 0x0A ∉ line

/-- No line is the empty text. -/
theorem Lines.nil : Lines [] [] :=
  ⟨rfl, by simp⟩

/-- Lines behind lines. -/
theorem Lines.append {lines more : List Bytes} {text rest : Bytes} (h : Lines lines text)
    (hmore : Lines more rest) : Lines (lines ++ more) (text ++ rest) := by
  refine ⟨by rw [List.flatMap_append, h.1, hmore.1], ?_⟩
  intro line hline
  rcases List.mem_append.mp hline with hline | hline
  · exact h.2 line hline
  · exact hmore.2 line hline

/-- A line with its newline. -/
theorem Lines.single {line : Bytes} (h : 0x0A ∉ line) : Lines [line] (line ++ [0x0A]) :=
  ⟨by simp, by simpa using h⟩

/-! ## Reading piece by piece -/

/-- A run of accepted elements ends at the first one that is not accepted. -/
theorem takeWhile_append_cons {α : Type} {p : α → Bool} {text : List α} {c : α}
    (h : ∀ x ∈ text, p x = true) (hc : p c = false) (rest : List α) :
    (text ++ c :: rest).takeWhile p = text := by
  rw [List.takeWhile_append_of_pos h, List.takeWhile_cons_of_neg (by simp [hc]), List.append_nil]

/-- A reader that accepts every piece reads them all. -/
theorem mapM_eq_some_map {α β : Type} {f : α → Option β} {g : α → β} {l : List α}
    (h : ∀ a ∈ l, f a = some (g a)) : l.mapM f = some (l.map g) := by
  induction l with
  | nil => rfl
  | cons a l ih => simp [h a (by simp), ih fun b hb => h b (by simp [hb])]

end Foundation
