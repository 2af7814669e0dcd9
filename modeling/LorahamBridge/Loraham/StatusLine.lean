import LorahamBridge.Foundation.Lines
import LorahamBridge.Loraham.Framing

/-!
# The RADIO field of a status line

A `GET STATUS` reply is a line of `key=value` fields between blanks.  The bridge
does not split it: `status_line_radio_ready` looks for the text `RADIO=` anywhere
in the line.  This file states what the RADIO field of a line is and settles for
which lines the search finds it.

Main results:

- Theorem `statusLineRadioReady_eq_findSome`: the search reads the value behind the
  first `RADIO=` of the first field that has one.
- Theorem `statusLineRadioReady_iff`: the lines the search accepts, byte for byte.
- Theorem `statusLineRadioReady_reads`: on a line without a stray `RADIO=` the search
  answers with the RADIO field, and on every other line with the stray text.
- Theorem `statusLineRadioReady_foreign_field`: a line on which a field of another
  key counts as a ready radio.
-/

namespace LorahamBridge
namespace Loraham

open Foundation

/-! ## Fields of a line -/

/-- The fields of a line, the texts between its blanks. -/
def statusFields (line : Bytes) : List Bytes :=
  line.splitOnP isFieldEnd

/-- The value of a field whose key, the part before its first `=`, is `key`. -/
def fieldValue (key field : Bytes) : Option Bytes :=
  if field.takeWhile (· != 0x3D) = key ∧ 0x3D ∈ field then
    some ((field.dropWhile (· != 0x3D)).drop 1)
  else none

/-- The value of the first field whose key is `RADIO`. -/
def radioField (line : Bytes) : Option Bytes :=
  (statusFields line).findSome? (fieldValue (ascii "RADIO"))

/-- The text behind the first `RADIO=` of a line when that occurrence stands inside
a field and not at its start. -/
def strayRadio (line : Bytes) : Option Bytes :=
  match (statusFields line).find? fun field => (afterFirst (ascii "RADIO=") field).isSome with
  | none => none
  | some field =>
      if (ascii "RADIO=").isPrefixOf field then none else afterFirst (ascii "RADIO=") field

/-- A text holds no blank. -/
def Unbroken (text : Bytes) : Prop :=
  ∀ c ∈ text, isFieldEnd c = false

/-- A line is one field, or a field, a blank and a line. -/
theorem line_induction {P : Bytes → Prop} (last : ∀ field, Unbroken field → P field)
    (cons : ∀ field sep rest, Unbroken field → isFieldEnd sep = true → P rest →
      P (field ++ sep :: rest))
    (line : Bytes) : P line := by
  induction hn : line.length using Nat.strong_induction_on generalizing line with
  | _ n ih =>
      have hfield : Unbroken (line.takeWhile fun c => !isFieldEnd c) := by
        intro c hc
        simpa using List.mem_takeWhile_imp hc
      have hsplit := List.takeWhile_append_dropWhile (p := fun c => !isFieldEnd c) (l := line)
      cases hrest : line.dropWhile fun c => !isFieldEnd c with
      | nil =>
          rw [hrest, List.append_nil] at hsplit
          exact hsplit ▸ last _ hfield
      | cons sep rest =>
          rw [hrest] at hsplit
          have hsep : isFieldEnd sep = true := by
            have h := List.head_dropWhile_not (fun c => !isFieldEnd c) (l := line) (by simp [hrest])
            simpa [hrest] using h
          have hlen := congrArg List.length hsplit
          simp only [List.length_append, List.length_cons] at hlen
          exact hsplit ▸ cons _ sep rest hfield hsep (ih rest.length (by omega) rest rfl)

/-- A text without separators is one field. -/
theorem statusFields_of_unbroken {field : Bytes} (h : Unbroken field) :
    statusFields field = [field] :=
  List.splitOnP_eq_singleton h

/-- A field in front of others. -/
theorem statusFields_append {field : Bytes} (h : Unbroken field) {sep : UInt8}
    (hsep : isFieldEnd sep = true) (rest : Bytes) :
    statusFields (field ++ sep :: rest) = field :: statusFields rest :=
  List.splitOnP_append_cons_of_forall_mem h sep hsep rest

/-! ## The search, field by field -/

/-- A key without blanks does not reach over the end of a field. -/
theorem prefix_append_sep_iff {key : Bytes} (hkey : Unbroken key) {sep : UInt8}
    (hsep : isFieldEnd sep = true) (text rest : Bytes) :
    key <+: text ++ sep :: rest ↔ key <+: text := by
  constructor
  · intro h
    rcases List.prefix_or_prefix_of_prefix h (List.prefix_append text _) with hshort | ⟨tail, rfl⟩
    · exact hshort
    · cases tail with
      | nil => simp
      | cons c tail =>
          have hc : c = sep := (List.cons_prefix_cons.mp ((List.prefix_append_right_inj _).mp h)).1
          have hfree := hkey c (by simp)
          rw [hc, hsep] at hfree
          contradiction
  · intro h
    exact h.trans (List.prefix_append _ _)

/-- A text that begins with the key. -/
theorem afterFirst_of_match {key text : Bytes} (h : key <+: text) :
    afterFirst key text = some (text.drop key.length) := by
  have hp := List.isPrefixOf_iff_prefix.mpr h
  cases text with
  | nil => simp [afterFirst, hp]
  | cons c rest => simp only [afterFirst, hp, if_true]

/-- A text that does not begin with the key. -/
theorem afterFirst_cons_of_no_match {key : Bytes} {c : UInt8} {text : Bytes}
    (h : ¬ key <+: c :: text) : afterFirst key (c :: text) = afterFirst key text := by
  rw [afterFirst, if_neg fun hp => h (List.isPrefixOf_iff_prefix.mp hp)]

theorem afterFirst_nil {key : Bytes} (hne : key ≠ []) : afterFirst key [] = none := by
  have hp : ¬ key.isPrefixOf [] = true := fun hp =>
    hne (List.prefix_nil.mp (List.isPrefixOf_iff_prefix.mp hp))
  rw [afterFirst, if_neg hp]

/-- What follows an occurrence is the end of the text. -/
theorem suffix_of_afterFirst {key text value : Bytes} (h : afterFirst key text = some value) :
    value <:+ text := by
  induction text with
  | nil =>
      simp only [afterFirst] at h
      split at h
      · simp only [Option.some.injEq] at h
        simp [← h]
      · contradiction
  | cons c rest ih =>
      by_cases hp : key <+: c :: rest
      · rw [afterFirst_of_match hp, Option.some.injEq] at h
        exact h ▸ List.drop_suffix _ _
      · rw [afterFirst_cons_of_no_match hp] at h
        exact (ih h).trans (List.suffix_cons c rest)

/-- The first occurrence of a key in a line is the first one in its first field, if
it has one there. -/
theorem afterFirst_append_sep {key : Bytes} (hkey : Unbroken key) (hne : key ≠ []) {sep : UInt8}
    (hsep : isFieldEnd sep = true) (text rest : Bytes) :
    afterFirst key (text ++ sep :: rest) =
      ((afterFirst key text).map (· ++ sep :: rest)).or (afterFirst key rest) := by
  induction text with
  | nil =>
      have hp : ¬ key <+: [] ++ sep :: rest := by
        rw [prefix_append_sep_iff hkey hsep]
        exact fun hnil => hne (List.prefix_nil.mp hnil)
      rw [List.nil_append] at hp ⊢
      rw [afterFirst_cons_of_no_match hp, afterFirst_nil hne]
      rfl
  | cons c text ih =>
      by_cases hp : key <+: c :: text
      · have hlong := (prefix_append_sep_iff hkey hsep (c :: text) rest).mpr hp
        rw [afterFirst_of_match hp, afterFirst_of_match hlong,
          List.drop_append_of_le_length hp.length_le]
        rfl
      · have hlong := mt (prefix_append_sep_iff hkey hsep (c :: text) rest).mp hp
        rw [afterFirst_cons_of_no_match hp, ← ih]
        exact afterFirst_cons_of_no_match hlong

theorem takeWhile_of_unbroken {text : Bytes} (h : Unbroken text) :
    text.takeWhile (fun c => !isFieldEnd c) = text :=
  List.takeWhile_eq_self_iff.mpr fun c hc => by simp [h c hc]

/-- The end of a text without separators has none. -/
theorem Unbroken.of_suffix {text value : Bytes} (h : Unbroken text) (hv : value <:+ text) :
    Unbroken value :=
  fun c hc => h c (hv.subset hc)

theorem unbroken_radioKey : Unbroken (ascii "RADIO=") := by
  unfold Unbroken
  decide +kernel

theorem radioKey_ne_nil : ascii "RADIO=" ≠ [] := by
  decide +kernel

/-- The search reads the value behind the first `RADIO=` of the first field that has
one. -/
theorem statusLineRadioReady_eq_findSome (line : Bytes) :
    statusLineRadioReady line =
      ((statusFields line).findSome? (afterFirst (ascii "RADIO=")) == some (ascii "READY")) := by
  induction line using line_induction with
  | last field hfield =>
      rw [statusFields_of_unbroken hfield, statusLineRadioReady]
      cases hfind : afterFirst (ascii "RADIO=") field with
      | none => simp [hfind]
      | some value =>
          have hvalue := hfield.of_suffix (suffix_of_afterFirst hfind)
          simp [hfind, takeWhile_of_unbroken hvalue]
  | cons field sep rest hfield hsep ih =>
      rw [statusFields_append hfield hsep, List.findSome?_cons, statusLineRadioReady,
        afterFirst_append_sep unbroken_radioKey radioKey_ne_nil hsep]
      cases hfind : afterFirst (ascii "RADIO=") field with
      | none => exact ih
      | some value =>
          have hvalue := hfield.of_suffix (suffix_of_afterFirst hfind)
          have htake : (value ++ sep :: rest).takeWhile (fun c => !isFieldEnd c) = value :=
            takeWhile_append_cons (fun c hc => by simp [hvalue c hc]) (by simp [hsep]) rest
          simp [htake]

/-- A text that says `RADIO=READY`: behind its first `RADIO=` stands `READY`, and
behind that nothing or a blank. -/
def RadioReady (line : Bytes) : Prop :=
  ∃ front back, line = front ++ ascii "RADIO=READY" ++ back ∧
    (∀ c ∈ back.head?, c = 0x20 ∨ c = 0x09 ∨ c = 0x0D ∨ c = 0x0A) ∧
    ∀ front' back', line = front' ++ ascii "RADIO=" ++ back' → front.length ≤ front'.length

/-- The text behind the first occurrence of a key, and that it is the first. -/
theorem afterFirst_eq_some_iff {key text value : Bytes} (hne : key ≠ []) :
    afterFirst key text = some value ↔
      ∃ front, text = front ++ key ++ value ∧
        ∀ front' back, text = front' ++ key ++ back → front.length ≤ front'.length := by
  induction text with
  | nil =>
      rw [afterFirst_nil hne]
      refine iff_of_false (by simp) ?_
      rintro ⟨front, hfront, -⟩
      exact hne (List.append_eq_nil_iff.mp (List.append_eq_nil_iff.mp hfront.symm).1).2
  | cons c text ih =>
      by_cases hp : key <+: c :: text
      · obtain ⟨back, hback⟩ := hp
        rw [afterFirst_of_match ⟨back, hback⟩, ← hback, List.drop_left, Option.some.injEq]
        constructor
        · rintro rfl
          exact ⟨[], by simp, by simp⟩
        · rintro ⟨front, htext, hfirst⟩
          have hempty : front = [] := by simpa using hfirst [] back (by simp)
          simpa [hempty] using htext
      · rw [afterFirst_cons_of_no_match hp, ih]
        constructor
        · rintro ⟨front, rfl, hfirst⟩
          refine ⟨c :: front, by simp, fun front' back htext => ?_⟩
          cases front' with
          | nil => exact absurd ⟨back, by simpa using htext.symm⟩ hp
          | cons c' front' =>
              simp only [List.cons_append, List.cons.injEq] at htext
              simpa using hfirst front' back htext.2
        · rintro ⟨front, htext, hfirst⟩
          cases front with
          | nil => exact absurd ⟨value, by simpa using htext.symm⟩ hp
          | cons c' front =>
              simp only [List.cons_append, List.cons.injEq] at htext
              refine ⟨front, htext.2, fun front' back heq => ?_⟩
              simpa using hfirst (c :: front') back (by simp [heq])

/-- A run of non-blanks is `READY` exactly if `READY` stands there in front of nothing
or of a blank. -/
theorem takeWhile_eq_ready_iff (value : Bytes) :
    value.takeWhile (fun c => !isFieldEnd c) = ascii "READY" ↔
      ∃ back, value = ascii "READY" ++ back ∧
        ∀ c ∈ back.head?, c = 0x20 ∨ c = 0x09 ∨ c = 0x0D ∨ c = 0x0A := by
  have hfree : ∀ c ∈ ascii "READY", (!isFieldEnd c) = true := by decide +kernel
  have hend : ∀ c, isFieldEnd c = true ↔ c = 0x20 ∨ c = 0x09 ∨ c = 0x0D ∨ c = 0x0A := by
    simp [isFieldEnd, or_assoc]
  constructor
  · intro htake
    refine ⟨value.dropWhile fun c => !isFieldEnd c, ?_, fun c hc => ?_⟩
    · rw [← htake, List.takeWhile_append_dropWhile]
    · have hstop := List.head?_dropWhile_not (fun c => !isFieldEnd c) value
      rw [Option.mem_def.mp hc] at hstop
      exact (hend c).mp (by simpa using hstop)
  · rintro ⟨back, rfl, hback⟩
    cases back with
    | nil => simpa using List.takeWhile_eq_self_iff.mpr hfree
    | cons c back =>
        exact takeWhile_append_cons hfree (by simpa using (hend c).mpr (hback c (by simp))) back

/-- The lines the search accepts. -/
theorem statusLineRadioReady_iff (line : Bytes) :
    statusLineRadioReady line = true ↔ RadioReady line := by
  have hjoin : ascii "RADIO=" ++ ascii "READY" = ascii "RADIO=READY" := by decide +kernel
  have hsearch : statusLineRadioReady line = true ↔
      ∃ value, afterFirst (ascii "RADIO=") line = some value ∧
        value.takeWhile (fun c => !isFieldEnd c) = ascii "READY" := by
    unfold statusLineRadioReady
    cases afterFirst (ascii "RADIO=") line <;> simp
  rw [hsearch, RadioReady, ← hjoin]
  constructor
  · rintro ⟨value, hvalue, hready⟩
    obtain ⟨front, hline, hfirst⟩ := (afterFirst_eq_some_iff radioKey_ne_nil).mp hvalue
    obtain ⟨back, rfl, hback⟩ := (takeWhile_eq_ready_iff value).mp hready
    exact ⟨front, back, by simpa using hline, hback, hfirst⟩
  · rintro ⟨front, back, hline, hback, hfirst⟩
    exact ⟨ascii "READY" ++ back,
      (afterFirst_eq_some_iff radioKey_ne_nil).mpr ⟨front, by simpa using hline, hfirst⟩,
      (takeWhile_eq_ready_iff _).mpr ⟨back, rfl, hback⟩⟩

/-! ## The RADIO field -/

/-- A field has a key exactly when it begins with the key and `=`. -/
theorem fieldValue_eq {key : Bytes} (hkey : 0x3D ∉ key) (field : Bytes) :
    fieldValue key field =
      if key ++ [0x3D] <+: field then some (field.drop (key.length + 1)) else none := by
  have hall : ∀ c ∈ key, (c != 0x3D) = true := by
    intro c hc
    simpa using fun h : c = 0x3D => hkey (h ▸ hc)
  by_cases hp : key ++ [0x3D] <+: field
  · obtain ⟨value, rfl⟩ := hp
    have htake : (key ++ [0x3D] ++ value).takeWhile (· != 0x3D) = key := by
      rw [List.append_assoc, List.takeWhile_append_of_pos hall]
      simp
    have hdrop : (key ++ [0x3D] ++ value).dropWhile (· != 0x3D) = 0x3D :: value := by
      rw [List.append_assoc, List.dropWhile_append_of_pos hall]
      simp
    rw [fieldValue, htake, hdrop, if_pos ⟨rfl, by simp⟩, if_pos (List.prefix_append _ _)]
    simp
  · have hno : ¬ (field.takeWhile (· != 0x3D) = key ∧ 0x3D ∈ field) := by
      rintro ⟨rfl, hmem⟩
      have hne : field.dropWhile (· != 0x3D) ≠ [] := by
        intro h
        simpa using List.dropWhile_eq_nil_iff.mp h _ hmem
      obtain ⟨c, value, hcons⟩ := List.exists_cons_of_ne_nil hne
      have hc : c = 0x3D := by
        have h := List.head_dropWhile_not (· != 0x3D) hne
        simpa [hcons] using h
      apply hp
      rw [hc] at hcons
      refine ⟨value, ?_⟩
      rw [List.append_assoc, List.singleton_append, ← hcons, List.takeWhile_append_dropWhile]
    rw [fieldValue, if_neg hno, if_neg hp]

/-- The value of a field that begins with `RADIO=`. -/
theorem fieldValue_radio (field : Bytes) :
    fieldValue (ascii "RADIO") field =
      if ascii "RADIO=" <+: field then some (field.drop (ascii "RADIO=").length) else none := by
  have hkey : (0x3D : UInt8) ∉ ascii "RADIO" := by decide +kernel
  have hsplit : ascii "RADIO" ++ [0x3D] = ascii "RADIO=" := by decide +kernel
  have hlen : (ascii "RADIO").length + 1 = (ascii "RADIO=").length := by decide +kernel
  rw [fieldValue_eq hkey, hsplit, hlen]

/-- A field without `RADIO=` has no RADIO value. -/
theorem fieldValue_of_afterFirst_none {field : Bytes}
    (h : afterFirst (ascii "RADIO=") field = none) : fieldValue (ascii "RADIO") field = none := by
  rw [fieldValue_radio, if_neg]
  intro hp
  rw [afterFirst_of_match hp] at h
  contradiction

/-- Without a stray `RADIO=` the search reads the RADIO field. -/
theorem findSome_of_strayRadio_none {line : Bytes} (h : strayRadio line = none) :
    (statusFields line).findSome? (afterFirst (ascii "RADIO=")) = radioField line := by
  unfold strayRadio at h
  unfold radioField
  generalize statusFields line = fields at h ⊢
  induction fields with
  | nil => rfl
  | cons field fields ih =>
      rw [List.find?_cons] at h
      cases hfind : afterFirst (ascii "RADIO=") field with
      | none =>
          rw [List.findSome?_cons, List.findSome?_cons, hfind,
            fieldValue_of_afterFirst_none hfind]
          exact ih (by simpa [hfind] using h)
      | some value =>
          have hp : ascii "RADIO=" <+: field := by
            simpa [hfind, List.isPrefixOf_iff_prefix] using h
          rw [List.findSome?_cons, List.findSome?_cons, afterFirst_of_match hp,
            fieldValue_radio, if_pos hp]

/-- A stray `RADIO=` is what the search reads. -/
theorem findSome_of_strayRadio {line value : Bytes} (h : strayRadio line = some value) :
    (statusFields line).findSome? (afterFirst (ascii "RADIO=")) = some value := by
  unfold strayRadio at h
  generalize statusFields line = fields at h ⊢
  induction fields with
  | nil => simp at h
  | cons field fields ih =>
      rw [List.find?_cons] at h
      cases hfind : afterFirst (ascii "RADIO=") field with
      | none =>
          rw [List.findSome?_cons, hfind]
          exact ih (by simpa [hfind] using h)
      | some text =>
          rw [List.findSome?_cons, hfind]
          simp only [hfind, Option.isSome_some] at h
          split at h
          · contradiction
          · exact h

/-- On a line whose first `RADIO=` stands at the start of its field, or which has none,
the search answers with the RADIO field.  A stray `RADIO=`, one inside a field of
another key, takes the answer over: what counts then is the text behind it, whatever
the RADIO field says. -/
theorem statusLineRadioReady_reads (line : Bytes) :
    (strayRadio line = none →
      (statusLineRadioReady line = true ↔ radioField line = some (ascii "READY"))) ∧
    ∀ value, strayRadio line = some value →
      (statusLineRadioReady line = true ↔ value = ascii "READY") := by
  rw [statusLineRadioReady_eq_findSome, beq_iff_eq]
  refine ⟨fun hstray => ?_, fun value hstray => ?_⟩
  · rw [findSome_of_strayRadio_none hstray]
  · rw [findSome_of_strayRadio hstray, Option.some.injEq]

/-- A field whose key only ends in `RADIO` decides the answer: with it the radio counts
as ready although the RADIO field is `BUSY`, and without it the radio does not. -/
theorem statusLineRadioReady_foreign_field :
    statusLineRadioReady (ascii "STATUS XRADIO=READY RADIO=BUSY") = true ∧
      radioField (ascii "STATUS XRADIO=READY RADIO=BUSY") = some (ascii "BUSY") ∧
      statusLineRadioReady (ascii "STATUS RADIO=BUSY") = false := by
  decide +kernel

end Loraham
end LorahamBridge
