import Mathlib.Algebra.Order.Ring.Int
import NumericBytes.NumericType.Value

/-!
# Values as numbers

The bits of an integer spell a number, which stands for the integer in two's complement
(`twosComplement`), and the bits of a floating-point number spell its pattern.  `t.Interprets n x`
holds if `x` is the value that the number `n` stands for, and `t.residue x` is the number that the
bits of `x` spell, told from the value: the remainder of an integer, or the pattern.  Both agree
with the patterns by which values are converted to bytes (`interprets_pattern`,
`residue_eq_pattern`).
-/

namespace NumericBytes

/-! ### Two's complement -/

/-- The integer for which a number of the given bits stands: itself in the lower half of the
numbers, and less by their count in the upper half. -/
def twosComplement (bits n : Nat) : Int :=
  if n < 2 ^ (bits - 1) then n else n - 2 ^ bits

theorem twosComplement_toNat {bits : Nat} (pos : 0 < bits) (x : BitVec bits) :
  twosComplement bits x.toNat = x.toInt
  := by
  have double : 2 ^ bits = 2 * 2 ^ (bits - 1) := by
    rw [← Nat.pow_succ', Nat.succ_eq_add_one, Nat.sub_add_cancel pos]
  rw [twosComplement, BitVec.toInt_eq_toNat_cond, Int.natCast_pow]
  apply if_congr
  · omega
  · rfl
  · rfl

theorem toInt_emod_bound {bits : Nat} (x : BitVec bits) :
  x.toInt % 2 ^ bits = x.toNat
  := by
  have congruent : x.toInt % (2 ^ bits : Nat) = x.toNat % (2 ^ bits : Nat) := by
    rw [BitVec.toInt_eq_toNat_bmod, Int.bmod_emod]
  rw [Int.natCast_pow] at congruent
  apply Eq.trans congruent
  apply Int.emod_eq_of_lt
  · apply Int.natCast_nonneg
  · exact_mod_cast x.isLt

namespace NumericType

/-! ### Values and the numbers that their bits spell -/

/-- The value is the one for which the number `n` of `8 * t.width` bits stands. -/
def Interprets (t : NumericType) (n : Nat) (x : t.Value) : Prop :=
  match t.toInt? x with
  | some integer => integer = twosComplement (8 * t.width) n
  | none => t.pattern x = n

/-- The number that the bits of a value spell: the remainder of an integer by the count of the
numbers of `8 * t.width` bits, or the pattern of a floating-point number. -/
def residue (t : NumericType) (x : t.Value) : Nat :=
  match t.toInt? x with
  | some integer => (integer % 2 ^ (8 * t.width)).toNat
  | none => t.pattern x

/-- A value is the one for which its pattern stands. -/
theorem interprets_pattern (t : NumericType) (x : t.Value) :
  t.Interprets (t.pattern x) x
  := by
  cases t with
  | int16 => exact (twosComplement_toNat (by decide) (Int16.toBitVec x)).symm
  | int32 => exact (twosComplement_toNat (by decide) (Int32.toBitVec x)).symm
  | int64 => exact (twosComplement_toNat (by decide) (Int64.toBitVec x)).symm
  | float32 => rfl
  | float64 => rfl

theorem residue_eq_pattern (t : NumericType) (x : t.Value) :
  t.residue x = t.pattern x
  := by
  cases t with
  | int16 => exact congrArg Int.toNat (toInt_emod_bound (Int16.toBitVec x))
  | int32 => exact congrArg Int.toNat (toInt_emod_bound (Int32.toBitVec x))
  | int64 => exact congrArg Int.toNat (toInt_emod_bound (Int64.toBitVec x))
  | float32 => rfl
  | float64 => rfl

/-- A value that is read from bytes is the one for which the number that they spell stands. -/
theorem interprets_ofBytes (t : NumericType) (order : ByteOrder) {bytes : List UInt8}
    (h : bytes.length = t.width) :
  t.Interprets (order.number bytes) (t.ofBytes order bytes)
  := by
  have pattern : t.pattern (t.ofBytes order bytes) = order.number bytes := by
    rw [ofBytes, pattern_ofPattern, ← h, Nat.mod_eq_of_lt (order.number_lt bytes)]
  rw [← pattern]
  apply interprets_pattern

end NumericType

end NumericBytes
