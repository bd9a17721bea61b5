/-!
# Bit patterns of binary floating-point numbers

`Binary32` and `Binary64` are floating-point numbers kept as their bit patterns, so that
moving one never changes it.  For comparisons a pattern has a rank: `FloatPattern.rank?`
numbers the values of a format from the most negative to the most positive, gives both
zeros rank `0`, and gives none to a pattern that is not a number.
-/

namespace NumericBytes

/-- A floating-point number of 32 bits: a sign, 8 bits of exponent, 23 of fraction. -/
structure Binary32 where
  /-- The bit pattern. -/
  bits : UInt32
  deriving DecidableEq, Repr

/-- A floating-point number of 64 bits: a sign, 11 bits of exponent, 52 of fraction. -/
structure Binary64 where
  /-- The bit pattern. -/
  bits : UInt64
  deriving DecidableEq, Repr

/-- The rank of a pattern among the numbers of its format, if it stands for a number.

A pattern without its sign is larger exactly when the number is larger in absolute value,
and it stands for no number exactly when it exceeds that of infinity, which has all
exponent bits set and no fraction bit. -/
def FloatPattern.rank? (exponentBits fractionBits pattern : Nat) : Option Int :=
  let magnitude := pattern % (1 <<< (exponentBits + fractionBits))
  let infinity := (1 <<< exponentBits - 1) <<< fractionBits
  if infinity < magnitude then none
  else if pattern >>> (exponentBits + fractionBits) % 2 = 1 then some (-magnitude)
  else some magnitude

/-- The rank of a 32-bit number. -/
def Binary32.rank? (x : Binary32) : Option Int :=
  FloatPattern.rank? 8 23 x.bits.toNat

/-- The rank of a 64-bit number. -/
def Binary64.rank? (x : Binary64) : Option Int :=
  FloatPattern.rank? 11 52 x.bits.toNat

/-- The two zeros have one rank. -/
example : Binary32.rank? ⟨0x80000000⟩ = Binary32.rank? ⟨0⟩ := by decide

/-- The infinities have ranks, and the next pattern after one is not a number. -/
example : (Binary32.rank? ⟨0xff800000⟩).isSome ∧ Binary32.rank? ⟨0xff800001⟩ = none := by decide

end NumericBytes
