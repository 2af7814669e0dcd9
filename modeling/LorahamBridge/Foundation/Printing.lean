import LorahamBridge.Foundation.ByteOrder

/-!
# Printed numbers

Numbers printed in text: decimal with or without leading zeros and with a sign, and
hexadecimal digit pairs.  Each printer has a reader that accepts nothing but digits,
and each reader inverts its printer.

Main results:

- Theorems `readDecimal_decimal`, `readSigned_signedDecimal` and
  `digitsValue_append_fixedDecimal`: printed decimals read back as the number.
- Theorem `decimal_length_le`: the length of a printed number.
- Theorem `readHex_flatMap`: digit pairs read back as the bytes.
- Theorem `splitOn_intercalate_pair`: a `key=value` token splits into its two parts.
-/

namespace Foundation

/-! ## Decimal numbers -/

/-- The decimal digit `d` as a character. -/
def digitByte (d : Nat) : UInt8 :=
  (0x30 + d).toUInt8

/-- `%u`: decimal without leading zeros. -/
def decimal (n : Nat) : Bytes :=
  if n = 0 then ascii "0" else ((Nat.digits 10 n).map digitByte).reverse

/-- The `k` low decimal digits, with leading zeros. -/
def fixedDecimal : Nat → Nat → Bytes
  | 0, _ => []
  | k + 1, n => fixedDecimal k (n / 10) ++ [digitByte (n % 10)]

/-- `%d`: decimal with a sign when negative. -/
def signedDecimal (z : Int) : Bytes :=
  if z < 0 then ascii "-" ++ decimal z.natAbs else decimal z.natAbs

/-- A decimal digit. -/
def isDigit (c : UInt8) : Bool :=
  0x30 ≤ c && c ≤ 0x39

/-- The number that decimal digits spell. -/
def digitsValue (text : Bytes) : Nat :=
  text.foldl (fun n c => 10 * n + (c.toNat - 0x30)) 0

/-- Read a decimal number, at least one digit and nothing else. -/
def readDecimal (text : Bytes) : Option Nat :=
  if text ≠ [] ∧ text.all isDigit then some (digitsValue text) else none

/-- Read a decimal number with an optional minus sign. -/
def readSigned (text : Bytes) : Option Int :=
  if text.head? = some 0x2D then (readDecimal text.tail).map fun n : Nat => -(n : Int)
  else (readDecimal text).map fun n : Nat => (n : Int)

theorem toNat_digitByte {d : Nat} (h : d < 10) : (digitByte d).toNat = 0x30 + d := by
  simp only [digitByte, Nat.toUInt8_eq, UInt8.toNat_ofNat']
  omega

theorem isDigit_digitByte {d : Nat} (h : d < 10) : isDigit (digitByte d) = true := by
  have hd := toNat_digitByte h
  simp only [isDigit, Bool.and_eq_true, decide_eq_true_eq, UInt8.le_iff_toNat_le, hd]
  simp
  omega

/-- One more digit. -/
theorem digitsValue_concat (text : Bytes) {d : Nat} (h : d < 10) :
    digitsValue (text ++ [digitByte d]) = 10 * digitsValue text + d := by
  simp only [digitsValue, List.foldl_append, List.foldl_cons, List.foldl_nil, toNat_digitByte h]
  omega

/-- The last digit of a printed number, and what stands in front of it. -/
theorem decimal_eq (n : Nat) :
    decimal n = if n < 10 then [digitByte n] else decimal (n / 10) ++ [digitByte (n % 10)] := by
  unfold decimal
  split
  · simp_all [digitByte, ascii]
  · rename_i hn
    rw [Nat.digits_def' (by omega) (by omega)]
    split
    · rename_i hlt
      simp [Nat.div_eq_of_lt hlt, Nat.mod_eq_of_lt hlt]
    · rename_i hge
      rw [if_neg (by omega)]
      simp

/-- Induction over the digits of a number. -/
theorem decimal_induction {P : Nat → Prop} (digit : ∀ n, n < 10 → P n)
    (more : ∀ n, 10 ≤ n → P (n / 10) → P n) (n : Nat) : P n := by
  induction n using Nat.strong_induction_on with
  | _ n ih =>
      by_cases h : n < 10
      · exact digit n h
      · exact more n (by omega) (ih (n / 10) (by omega))

/-- A number of one digit. -/
theorem decimal_of_lt {n : Nat} (h : n < 10) : decimal n = [digitByte n] := by
  rw [decimal_eq, if_pos h]

/-- The last digit of a longer number. -/
theorem decimal_of_ge {n : Nat} (h : 10 ≤ n) :
    decimal n = decimal (n / 10) ++ [digitByte (n % 10)] := by
  rw [decimal_eq, if_neg (by omega)]

/-- A printed number has digits only. -/
theorem isDigit_of_mem_decimal (n : Nat) : ∀ c ∈ decimal n, isDigit c = true := by
  induction n using decimal_induction with
  | digit n h =>
      rw [decimal_of_lt h]
      simpa using isDigit_digitByte h
  | more n h ih =>
      rw [decimal_of_ge h]
      intro c hc
      rcases List.mem_append.mp hc with hc | hc
      · exact ih c hc
      · rw [List.mem_singleton.mp hc]
        exact isDigit_digitByte (by omega)

/-- The value of the digits printed is the number. -/
@[simp]
theorem digitsValue_decimal (n : Nat) : digitsValue (decimal n) = n := by
  induction n using decimal_induction with
  | digit n h =>
      rw [decimal_of_lt h]
      simpa [digitsValue] using digitsValue_concat [] h
  | more n h ih =>
      rw [decimal_of_ge h, digitsValue_concat _ (by omega), ih]
      omega

theorem decimal_ne_nil (n : Nat) : decimal n ≠ [] := by
  rw [decimal_eq]
  split <;> simp

/-- How long a printed number can be. -/
theorem decimal_length_le {n k : Nat} (h : n < 10 ^ (k + 1)) : (decimal n).length ≤ k + 1 := by
  induction k generalizing n with
  | zero => rw [decimal_of_lt (by simpa using h)]; simp
  | succ k ih =>
      by_cases hn : n < 10
      · rw [decimal_of_lt hn]
        simp
      · have hdiv : n / 10 < 10 ^ (k + 1) := by
          rw [Nat.div_lt_iff_lt_mul (by omega)]
          rwa [← Nat.pow_succ]
        rw [decimal_of_ge (by omega), List.length_append]
        exact Nat.add_le_add_right (ih hdiv) 1

/-- A printed number reads back. -/
@[simp]
theorem readDecimal_decimal (n : Nat) : readDecimal (decimal n) = some n := by
  have hall : (decimal n).all isDigit = true := List.all_eq_true.mpr (isDigit_of_mem_decimal n)
  rw [readDecimal, if_pos ⟨decimal_ne_nil n, hall⟩, digitsValue_decimal]

@[simp]
theorem fixedDecimal_length (k n : Nat) : (fixedDecimal k n).length = k := by
  induction k generalizing n with
  | zero => rfl
  | succ k ih => simp [fixedDecimal, ih]

/-- A number printed with leading zeros has digits only. -/
theorem isDigit_of_mem_fixedDecimal (k n : Nat) : ∀ c ∈ fixedDecimal k n, isDigit c = true := by
  induction k generalizing n with
  | zero => simp [fixedDecimal]
  | succ k ih =>
      intro c hc
      rcases List.mem_append.mp hc with hc | hc
      · exact ih (n / 10) c hc
      · rw [List.mem_singleton.mp hc]
        exact isDigit_digitByte (by omega)

/-- Digits behind a text scale its value and add their own. -/
theorem digitsValue_append_fixedDecimal (text : Bytes) {k n : Nat} (h : n < 10 ^ k) :
    digitsValue (text ++ fixedDecimal k n) = digitsValue text * 10 ^ k + n := by
  induction k generalizing n with
  | zero =>
      simp only [Nat.pow_zero, Nat.lt_one_iff] at h
      simp [fixedDecimal, h]
  | succ k ih =>
      have hdiv : n / 10 < 10 ^ k := by
        rw [Nat.div_lt_iff_lt_mul (by omega)]
        rwa [← Nat.pow_succ]
      rw [fixedDecimal, ← List.append_assoc, digitsValue_concat _ (by omega), ih hdiv, Nat.pow_succ]
      have hn := Nat.div_add_mod n 10
      linarith [hn]

/-- A number does not begin with a sign. -/
theorem head_decimal_ne_sign (n : Nat) : (decimal n).head? ≠ some 0x2D := by
  intro h
  have := isDigit_of_mem_decimal n 0x2D (List.mem_of_mem_head? h)
  simp [isDigit] at this

/-- A number printed with a sign reads back. -/
@[simp]
theorem readSigned_signedDecimal (z : Int) : readSigned (signedDecimal z) = some z := by
  have hsign : ascii "-" = [0x2D] := by decide +kernel
  unfold signedDecimal
  split
  · rename_i hneg
    rw [hsign, readSigned, if_pos (by simp), List.singleton_append, List.tail_cons,
      readDecimal_decimal, Option.map_some, Option.some.injEq]
    omega
  · rename_i hpos
    rw [readSigned, if_neg (head_decimal_ne_sign _), readDecimal_decimal, Option.map_some,
      Option.some.injEq]
    omega

/-! ## Hexadecimal digit pairs -/

/-- An upper-case hexadecimal digit. -/
def hexDigit (d : Nat) : UInt8 :=
  if d < 10 then digitByte d else (0x41 + (d - 10)).toUInt8

/-- `%02X` of a value below 256. -/
def hex2 (n : Nat) : Bytes :=
  [hexDigit (n / 16), hexDigit (n % 16)]

/-- The value of a hexadecimal digit of either case. -/
def hexValue (c : UInt8) : Option Nat :=
  if 0x30 ≤ c ∧ c ≤ 0x39 then some (c.toNat - 0x30)
  else if 0x41 ≤ c ∧ c ≤ 0x46 then some (c.toNat - 0x37)
  else if 0x61 ≤ c ∧ c ≤ 0x66 then some (c.toNat - 0x57)
  else none

/-- Read hexadecimal digit pairs as bytes. -/
def readHex : Bytes → Option Bytes
  | [] => some []
  | [_] => none
  | hi :: lo :: rest => do
      let h ← hexValue hi
      let l ← hexValue lo
      let bytes ← readHex rest
      return (16 * h + l).toUInt8 :: bytes

/-- A printed digit reads back. -/
theorem hexValue_hexDigit {d : Nat} (h : d < 16) : hexValue (hexDigit d) = some d := by
  interval_cases d <;> decide +kernel

/-- Digit pairs read back as the bytes they were printed from. -/
theorem readHex_flatMap {digit : Nat → UInt8} (hdigit : ∀ d < 16, hexValue (digit d) = some d)
    (bytes : Bytes) :
    readHex (bytes.flatMap fun c => [digit (c.toNat / 16), digit (c.toNat % 16)]) = some bytes := by
  induction bytes with
  | nil => rfl
  | cons c bytes ih =>
      have hc := c.toNat_lt
      have hvalue : (16 * (c.toNat / 16) + c.toNat % 16).toUInt8 = c := by
        rw [Nat.div_add_mod]
        simp
      rw [List.flatMap_cons, List.cons_append, List.cons_append, List.nil_append, readHex,
        hdigit _ (by omega), hdigit _ (by omega), ih]
      simp only [Option.pure_def, Option.bind_eq_bind, Option.bind_some, hvalue]

/-! ## Tokens -/

/-- A `key=value` token splits into its two parts. -/
theorem splitOn_intercalate_pair {sep : UInt8} {key value : Bytes} (hkey : sep ∉ key)
    (hvalue : sep ∉ value) : (key ++ sep :: value).splitOn sep = [key, value] := by
  have hfree : ∀ part ∈ [key, value], sep ∉ part := by simp [hkey, hvalue]
  simpa [List.intercalate] using List.splitOn_intercalate sep hfree (by simp)

/-- A byte that is no separator and in none of the parts is not in their
intercalation. -/
theorem not_mem_intercalate {x sep : UInt8} (hne : x ≠ sep) {parts : List Bytes}
    (h : ∀ part ∈ parts, x ∉ part) : x ∉ [sep].intercalate parts := by
  induction parts with
  | nil => simp
  | cons part parts ih =>
      have hrest := ih fun p hp => h p (by simp [hp])
      cases parts with
      | nil => simpa using h part (by simp)
      | cons next rest =>
          rw [List.intercalate_cons_cons]
          simp only [List.mem_append, List.mem_singleton, hne, hrest, h part (by simp), or_self,
            not_false_iff]

/-- The length of parts joined by a separator. -/
theorem intercalate_length_le {k : Nat} (sep : UInt8) {parts : List Bytes}
    (h : ∀ part ∈ parts, part.length ≤ k) :
    ([sep].intercalate parts).length ≤ (k + 1) * parts.length := by
  induction parts with
  | nil => simp
  | cons part parts ih =>
      have hpart := h part (by simp)
      have hrest := ih fun p hp => h p (by simp [hp])
      rw [List.length_cons, Nat.mul_succ]
      cases parts with
      | nil =>
          rw [List.intercalate_singleton]
          omega
      | cons next rest =>
          rw [List.intercalate_cons_cons]
          simp only [List.length_append, List.length_singleton]
          omega

end Foundation
