import Mathlib

/-!
# Byte strings and byte order

Fixed-width integers travel over a byte stream most significant byte first
(big-endian) or least significant byte first (little-endian).  This file gives
the 16-bit and 32-bit writers and readers used by such formats and proves that
each reader inverts its writer and conversely.

Main results:

- Theorems `getBE16_putBE16` and `putBE16_getBE16`: the big-endian 16-bit codec
  round-trips in both directions.
- Theorems `getLE16_putLE16` and `putLE16_getLE16`: the same for little-endian.
- Theorems `getBE32_putBE32` and `putBE32_getBE32`: the big-endian 32-bit codec.
-/

namespace Foundation

/-- A byte string. -/
abbrev Bytes := List UInt8

/-- The bytes of a text made of 8-bit characters. -/
def ascii (text : String) : Bytes :=
  text.toList.map fun c => c.toNat.toUInt8

/-! ## Sixteen-bit codecs -/

/-- Write a 16-bit value, most significant byte first. -/
def putBE16 (v : UInt16) : Bytes :=
  [(v >>> 8).toUInt8, v.toUInt8]

/-- Read a 16-bit value whose first byte is the most significant one. -/
def getBE16 (hi lo : UInt8) : UInt16 :=
  (hi.toUInt16 <<< 8) ||| lo.toUInt16

/-- Write a 16-bit value, least significant byte first. -/
def putLE16 (v : UInt16) : Bytes :=
  [v.toUInt8, (v >>> 8).toUInt8]

/-- Read a 16-bit value whose first byte is the least significant one. -/
def getLE16 (lo hi : UInt8) : UInt16 :=
  getBE16 hi lo

@[simp]
theorem putBE16_length (v : UInt16) : (putBE16 v).length = 2 :=
  rfl

@[simp]
theorem putLE16_length (v : UInt16) : (putLE16 v).length = 2 :=
  rfl

/-- The value read from two bytes, as a natural number. -/
theorem getBE16_toNat (hi lo : UInt8) :
    (getBE16 hi lo).toNat = hi.toNat * 256 + lo.toNat := by
  have hhi := hi.toNat_lt
  have hlo := lo.toNat_lt
  have hshift : hi.toNat <<< (UInt16.toNat 8 % 16) % 2 ^ 16 = hi.toNat <<< 8 := by
    simp [Nat.shiftLeft_eq]
    omega
  simp only [getBE16, UInt16.toNat_or, UInt16.toNat_shiftLeft, UInt8.toNat_toUInt16]
  rw [hshift, ← Nat.shiftLeft_add_eq_or_of_lt (by simpa using hlo), Nat.shiftLeft_eq]

/-- Reading undoes writing: two bytes, the higher one first. -/
theorem getBE16_putBE16 (v : UInt16) : getBE16 (v >>> 8).toUInt8 v.toUInt8 = v := by
  apply UInt16.toNat_inj.mp
  have hv := v.toNat_lt
  rw [getBE16_toNat]
  simp [Nat.shiftRight_eq_div_pow]
  omega

theorem putBE16_getBE16 (hi lo : UInt8) : putBE16 (getBE16 hi lo) = [hi, lo] := by
  have hhi := hi.toNat_lt
  have hlo := lo.toNat_lt
  have hfirst : (getBE16 hi lo >>> 8).toUInt8 = hi := by
    apply UInt8.toNat_inj.mp
    simp [getBE16_toNat, Nat.shiftRight_eq_div_pow]
    omega
  have hsecond : (getBE16 hi lo).toUInt8 = lo := by
    apply UInt8.toNat_inj.mp
    simp [getBE16_toNat]
  simp [putBE16, hfirst, hsecond]

/-- Reading undoes writing: two bytes, the lower one first. -/
theorem getLE16_putLE16 (v : UInt16) : getLE16 v.toUInt8 (v >>> 8).toUInt8 = v :=
  getBE16_putBE16 v

theorem putLE16_getLE16 (lo hi : UInt8) : putLE16 (getLE16 lo hi) = [lo, hi] := by
  have h := putBE16_getBE16 hi lo
  simp only [putBE16, List.cons.injEq, and_true] at h
  simp [putLE16, getLE16, h.1, h.2]

/-- A value below `2 ^ 16` survives the cast to sixteen bits. -/
theorem toNat_toUInt16_of_lt {n : Nat} (h : n < 65536) : n.toUInt16.toNat = n := by
  simp
  omega

/-! ## Thirty-two-bit codec -/

/-- Write a 32-bit value, most significant byte first. -/
def putBE32 (v : UInt32) : Bytes :=
  [(v >>> 24).toUInt8, (v >>> 16).toUInt8, (v >>> 8).toUInt8, v.toUInt8]

/-- Read a 32-bit value whose first byte is the most significant one. -/
def getBE32 (a b c d : UInt8) : UInt32 :=
  (a.toUInt32 <<< 24) ||| (b.toUInt32 <<< 16) ||| (c.toUInt32 <<< 8) ||| d.toUInt32

@[simp]
theorem putBE32_length (v : UInt32) : (putBE32 v).length = 4 :=
  rfl

/-- The value read from four bytes, as a natural number. -/
theorem getBE32_toNat (a b c d : UInt8) :
    (getBE32 a b c d).toNat =
      ((a.toNat * 256 + b.toNat) * 256 + c.toNat) * 256 + d.toNat := by
  have ha := a.toNat_lt
  have hb := b.toNat_lt
  have hc := c.toNat_lt
  have hd := d.toNat_lt
  have hshiftA : a.toNat <<< (UInt32.toNat 24 % 32) % 2 ^ 32 = a.toNat <<< 24 := by
    simp [Nat.shiftLeft_eq]
    omega
  have hshiftB : b.toNat <<< (UInt32.toNat 16 % 32) % 2 ^ 32 = b.toNat <<< 16 := by
    simp [Nat.shiftLeft_eq]
    omega
  have hshiftC : c.toNat <<< (UInt32.toNat 8 % 32) % 2 ^ 32 = c.toNat <<< 8 := by
    simp [Nat.shiftLeft_eq]
    omega
  -- Each disjunction has disjoint bits, so it is a sum; the partial sums are
  -- shifted back to the position of the next byte.
  have hAB : a.toNat <<< 24 ||| b.toNat <<< 16 = (a.toNat * 256 + b.toNat) <<< 16 := by
    rw [← Nat.shiftLeft_add_eq_or_of_lt (by simp [Nat.shiftLeft_eq]; omega)]
    simp [Nat.shiftLeft_eq]
    omega
  have hABC : (a.toNat * 256 + b.toNat) <<< 16 ||| c.toNat <<< 8 =
      ((a.toNat * 256 + b.toNat) * 256 + c.toNat) <<< 8 := by
    rw [← Nat.shiftLeft_add_eq_or_of_lt (by simp [Nat.shiftLeft_eq]; omega)]
    simp [Nat.shiftLeft_eq]
    omega
  simp only [getBE32, UInt32.toNat_or, UInt32.toNat_shiftLeft, UInt8.toNat_toUInt32]
  rw [hshiftA, hshiftB, hshiftC, hAB, hABC,
    ← Nat.shiftLeft_add_eq_or_of_lt (by simpa using hd), Nat.shiftLeft_eq]

theorem getBE32_putBE32 (v : UInt32) :
    getBE32 (v >>> 24).toUInt8 (v >>> 16).toUInt8 (v >>> 8).toUInt8 v.toUInt8 = v := by
  apply UInt32.toNat_inj.mp
  have hv := v.toNat_lt
  rw [getBE32_toNat]
  simp [Nat.shiftRight_eq_div_pow]
  omega

theorem putBE32_getBE32 (a b c d : UInt8) : putBE32 (getBE32 a b c d) = [a, b, c, d] := by
  have ha := a.toNat_lt
  have hb := b.toNat_lt
  have hc := c.toNat_lt
  have hd := d.toNat_lt
  have h1 : (getBE32 a b c d >>> 24).toUInt8 = a := by
    apply UInt8.toNat_inj.mp
    simp [getBE32_toNat, Nat.shiftRight_eq_div_pow]
    omega
  have h2 : (getBE32 a b c d >>> 16).toUInt8 = b := by
    apply UInt8.toNat_inj.mp
    simp [getBE32_toNat, Nat.shiftRight_eq_div_pow]
    omega
  have h3 : (getBE32 a b c d >>> 8).toUInt8 = c := by
    apply UInt8.toNat_inj.mp
    simp [getBE32_toNat, Nat.shiftRight_eq_div_pow]
    omega
  have h4 : (getBE32 a b c d).toUInt8 = d := by
    apply UInt8.toNat_inj.mp
    simp [getBE32_toNat]
  simp [putBE32, h1, h2, h3, h4]

end Foundation
