import Mathlib.Algebra.BigOperators.Intervals
import Mathlib.Algebra.BigOperators.Ring.Finset
import NumericBytes.ByteOrder

/-!
# The places of digits

In a byte order each of the bytes of a number is a digit to the base 256 at some place:
`order.place width k` is that of the `k`-th of `width` bytes.  The number that bytes spell is the
sum of the digits at their places (`number_eq_sum`), and each byte of the spelling of a number is
the digit that the number has at the place of the byte (`getElem?_digits`).
-/

namespace NumericBytes

open Finset

namespace Digits

/-- The number that a list of digits spells, least significant first, is the sum of the digits at
their places. -/
theorem ofLittle_eq_sum {digits : List UInt8} {digit : Nat → UInt8}
    (spelled : ∀ k < digits.length, digits[k]? = some (digit k)) :
  ofLittle digits = ∑ k ∈ range digits.length, (digit k).toNat * 256 ^ k
  := by
  induction digits generalizing digit with
  | nil => rfl
  | cons first rest ih =>
    have hfirst : first = digit 0 := Option.some_inj.mp (spelled 0 (Nat.succ_pos _))
    have hrest : ∀ k < rest.length, rest[k]? = some (digit (k + 1)) := by
      intro k hk
      apply spelled (k + 1) (Nat.succ_lt_succ hk)
    rw [ofLittle, ih hrest, List.length_cons, sum_range_succ', pow_zero, mul_one, hfirst, mul_sum,
      add_comm]
    congr 1
    apply sum_congr rfl
    intro k _
    rw [pow_succ', mul_left_comm]

/-- The digits of a number, least significant first, are its remainders by the base after as many
divisions as their place says. -/
theorem getElem?_toLittle {width k : Nat} (h : k < width) (n : Nat) :
  (toLittle width n)[k]? = some (UInt8.ofNat (n / 256 ^ k))
  := by
  induction width generalizing n k with
  | zero => contradiction
  | succ width ih =>
    rw [toLittle]
    cases k with
    | zero => rw [List.getElem?_cons_zero, pow_zero, Nat.div_one]
    | succ k =>
      rw [List.getElem?_cons_succ, ih (Nat.lt_of_succ_lt_succ h), Nat.div_div_eq_div_mul, pow_succ']

end Digits

namespace ByteOrder

/-- The place of the `k`-th of `width` bytes, counted from the least significant one. -/
def place : ByteOrder → Nat → Nat → Nat
  | little, _, k => k
  | big, width, k => width - 1 - k

/-- The number that bytes spell is the sum of the digits at their places. -/
theorem number_eq_sum (order : ByteOrder) {bytes : List UInt8} {digit : Nat → UInt8}
    (spelled : ∀ k < bytes.length, bytes[k]? = some (digit k)) :
  order.number bytes
    = ∑ k ∈ range bytes.length, (digit k).toNat * 256 ^ order.place bytes.length k
  := by
  cases order with
  | little => apply Digits.ofLittle_eq_sum spelled
  | big =>
    have reversed : ∀ k < bytes.reverse.length,
        bytes.reverse[k]? = some (digit (bytes.length - 1 - k)) := by
      intro k hk
      rw [List.length_reverse] at hk
      rw [List.getElem?_reverse hk]
      apply spelled
      omega
    rw [number, Digits.ofBig_eq_ofLittle_reverse, Digits.ofLittle_eq_sum reversed,
      List.length_reverse, ← sum_range_reflect]
    apply sum_congr rfl
    intro k hk
    rw [Nat.sub_sub_self (Nat.le_sub_one_of_lt (mem_range.mp hk)), place]

/-- Each byte of the spelling of a number is the digit of the number at the place of the byte. -/
theorem getElem?_digits (order : ByteOrder) {width k : Nat} (h : k < width) (n : Nat) :
  (order.digits width n)[k]? = some (UInt8.ofNat (n / 256 ^ order.place width k))
  := by
  cases order with
  | little => apply Digits.getElem?_toLittle h
  | big =>
    have mirrored : width - 1 - k < width := by omega
    rw [digits, Digits.toBig_eq_reverse, List.getElem?_reverse (by rwa [Digits.length_toLittle]),
      Digits.length_toLittle, Digits.getElem?_toLittle mirrored, place]

end ByteOrder

end NumericBytes
