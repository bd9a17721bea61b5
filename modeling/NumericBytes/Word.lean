/-!
# Checked word arithmetic

Offsets and counts are 64-bit words.  `Word.scale?` and `Word.add?` are the product and the
sum of words if these are words again, and `Word.ofSigned?` is a signed number as a word if
it is not negative.
-/

namespace NumericBytes.Word

/-- The product of a count and the size of a unit, if it is a word. -/
def scale? (count : UInt64) (unit : Nat) : Option UInt64 :=
  if count.toNat * unit < UInt64.size then some (UInt64.ofNat (count.toNat * unit)) else none

/-- The sum of two words, if it is a word. -/
def add? (a b : UInt64) : Option UInt64 :=
  if a.toNat + b.toNat < UInt64.size then some (a + b) else none

/-- A signed number as a word, if it is not negative. -/
def ofSigned? (n : Int64) : Option UInt64 :=
  if n < 0 then none else some n.toUInt64

theorem scale?_eq_some_iff {count n : UInt64} {unit : Nat} :
  scale? count unit = some n ↔ count.toNat * unit = n.toNat
  := by
  have hn := n.toNat_lt_size
  unfold scale?
  split
  · rename_i small
    rw [Option.some_inj, ← UInt64.toNat_inj, UInt64.toNat_ofNat', Nat.mod_eq_of_lt small]
  · simp only [reduceCtorEq, false_iff]
    omega

theorem add?_eq_some_iff {a b n : UInt64} :
  add? a b = some n ↔ a.toNat + b.toNat = n.toNat
  := by
  have hn := n.toNat_lt_size
  unfold add?
  split
  · rename_i small
    rw [Option.some_inj, ← UInt64.toNat_inj, UInt64.toNat_add, Nat.mod_eq_of_lt small]
  · simp only [reduceCtorEq, false_iff]
    omega

/-- Conversion of a signed number keeps its value. -/
theorem ofSigned?_eq_some_iff {n : Int64} {m : UInt64} :
  ofSigned? n = some m ↔ n.toInt = m.toNat
  := by
  unfold ofSigned?
  split
  · rename_i negative
    have := Int64.lt_iff_toInt_lt.mp negative
    simp only [Int64.toInt_zero] at this
    simp only [reduceCtorEq, false_iff]
    omega
  · rename_i notNegative
    rw [Int64.lt_iff_toInt_lt] at notNegative
    have nonneg : 0 ≤ n := by
      rw [Int64.le_iff_toInt_le]
      omega
    have value : n.toUInt64.toNat = n.toInt.toNat := Int64.toNat_toUInt64_of_le nonneg
    simp only [Int64.toInt_zero] at notNegative
    rw [Option.some_inj, ← UInt64.toNat_inj, value]
    omega

end NumericBytes.Word
