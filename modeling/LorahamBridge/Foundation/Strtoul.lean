import LorahamBridge.Foundation.Printing

/-!
# Numbers on a command line

`strtoul` with base ten and a 64-bit `unsigned long`: white space, a sign, digits.  What is
not a number converts nothing, what is too large saturates, and a minus sign negates the
number in 64 bits.

Main results:

- Theorem `strtoul_complete_iff`: which texts convert as a whole, and to what.
-/

namespace Foundation

/-- `isspace` in the C locale. -/
def isSpace (c : UInt8) : Bool :=
  c == 0x20 || (0x09 ≤ c && c ≤ 0x0D)

/-- `ULONG_MAX`. -/
def ulongMax : Nat := 2 ^ 64 - 1

/-- The end of a conversion: the value, the text behind it, whether anything was
converted, and whether `errno` was set. -/
structure Strtoul where
  value : Nat
  rest : Bytes
  converted : Bool
  overflow : Bool
deriving DecidableEq

/-- Split a text into its sign and what follows. -/
def splitSign : Bytes → Bytes × Bytes
  | [] => ([], [])
  | c :: text => if c = 0x2B ∨ c = 0x2D then ([c], text) else ([], c :: text)

/-- The value of a number with its sign, in 64 bits. -/
def signedValue (sign number : Bytes) : Nat :=
  if sign = [0x2D] then (ulongMax + 1 - digitsValue number) % (ulongMax + 1)
  else digitsValue number

/-- The conversion of decimal text: blanks, a sign, and the longest run of digits. -/
def strtoul (text : Bytes) : Strtoul :=
  let (sign, digits) := splitSign (text.dropWhile isSpace)
  let number := digits.takeWhile isDigit
  if number = [] then ⟨0, text, false, false⟩
  else if ulongMax < digitsValue number then ⟨ulongMax, digits.dropWhile isDigit, true, true⟩
  else ⟨signedValue sign number, digits.dropWhile isDigit, true, false⟩

/-- A whole number: white space, at most one sign, and digits. -/
structure IsNumber (spaces sign number : Bytes) : Prop where
  spaces : ∀ c ∈ spaces, isSpace c = true
  sign : sign = [] ∨ sign = [0x2B] ∨ sign = [0x2D]
  digits : ∀ c ∈ number, isDigit c = true
  nonempty : number ≠ []

/-- Nothing is lost in the split. -/
theorem splitSign_append (text : Bytes) : (splitSign text).1 ++ (splitSign text).2 = text := by
  cases text with
  | nil => rfl
  | cons c text =>
      rw [splitSign]
      split <;> rfl

/-- The sign is a plus, a minus or nothing. -/
theorem splitSign_sign (text : Bytes) :
    (splitSign text).1 = [] ∨ (splitSign text).1 = [0x2B] ∨ (splitSign text).1 = [0x2D] := by
  cases text with
  | nil => exact Or.inl rfl
  | cons c text =>
      rw [splitSign]
      split <;> rename_i hc
      · rcases hc with rfl | rfl
        · exact Or.inr (Or.inl rfl)
        · exact Or.inr (Or.inr rfl)
      · exact Or.inl rfl

/-- A digit is neither white space nor a sign. -/
theorem isDigit_not_sign {c : UInt8} (h : isDigit c = true) :
    isSpace c = false ∧ c ≠ 0x2B ∧ c ≠ 0x2D := by
  simp only [isDigit, Bool.and_eq_true, decide_eq_true_eq, UInt8.le_iff_toNat_le] at h
  refine ⟨?_, ?_, ?_⟩
  · simp only [isSpace, Bool.or_eq_false_iff, Bool.and_eq_false_iff, beq_eq_false_iff_ne,
      decide_eq_false_iff_not, UInt8.le_iff_toNat_le]
    refine ⟨?_, Or.inr ?_⟩
    · rintro rfl
      simp at h
    · have h1 : (0x30 : UInt8).toNat = 48 := rfl
      have h2 : (0x0D : UInt8).toNat = 13 := rfl
      omega
  · rintro rfl
    simp at h
  · rintro rfl
    simp at h

/-- A number is split into just its parts. -/
theorem IsNumber.split {spaces sign number : Bytes} (h : IsNumber spaces sign number) :
    (spaces ++ (sign ++ number)).dropWhile isSpace = sign ++ number ∧
      splitSign (sign ++ number) = (sign, number) := by
  obtain ⟨c, text, rfl⟩ := List.exists_cons_of_ne_nil h.nonempty
  obtain ⟨hspace, hplus, hminus⟩ := isDigit_not_sign (h.digits c (by simp))
  rw [List.dropWhile_append_of_pos h.spaces]
  rcases h.sign with rfl | rfl | rfl
  · exact ⟨by simp [hspace], by simp [splitSign, hplus, hminus]⟩
  · exact ⟨by simp [isSpace], by simp [splitSign]⟩
  · exact ⟨by simp [isSpace], by simp [splitSign]⟩

/-- Exactly the numbers in range convert as a whole; a negative one as its complement. -/
theorem strtoul_complete_iff (text : Bytes) (n : Nat) :
    strtoul text = ⟨n, [], true, false⟩ ↔
      ∃ spaces sign number, text = spaces ++ (sign ++ number) ∧ IsNumber spaces sign number ∧
        digitsValue number ≤ ulongMax ∧ n = signedValue sign number := by
  constructor
  · intro h
    unfold strtoul at h
    simp only at h
    split at h
    · simp at h
    · rename_i hnumber
      split at h
      · simp at h
      · rename_i hrange
        simp only [Strtoul.mk.injEq, and_true] at h
        obtain ⟨hvalue, hrest⟩ := h
        generalize hbody : text.dropWhile isSpace = body at hnumber hrange hvalue hrest
        have hdigits : (splitSign body).2.takeWhile isDigit = (splitSign body).2 := by
          have happend := List.takeWhile_append_dropWhile (p := isDigit) (l := (splitSign body).2)
          rwa [hrest, List.append_nil] at happend
        rw [hdigits] at hnumber hrange hvalue
        refine ⟨text.takeWhile isSpace, (splitSign body).1, (splitSign body).2, ?_, ?_, ?_, ?_⟩
        · rw [splitSign_append, ← hbody, List.takeWhile_append_dropWhile]
        · refine ⟨fun c hc => List.mem_takeWhile_imp hc, splitSign_sign body, ?_, hnumber⟩
          rw [← hdigits]
          exact fun c hc => List.mem_takeWhile_imp hc
        · omega
        · exact hvalue.symm
  · rintro ⟨spaces, sign, number, rfl, hnumber, hrange, rfl⟩
    obtain ⟨hdrop, hsplit⟩ := hnumber.split
    have htake : number.takeWhile isDigit = number :=
      List.takeWhile_eq_self_iff.mpr hnumber.digits
    have hrest : number.dropWhile isDigit = [] := List.dropWhile_eq_nil_iff.mpr hnumber.digits
    unfold strtoul
    simp only [hdrop, hsplit, htake, hrest]
    rw [if_neg hnumber.nonempty, if_neg (by omega)]

end Foundation
