import Mathlib.Algebra.Order.Ring.Int
import NumericBytes.NumericType.Value

/-!
# Comparison of values by their patterns

A pattern of a floating-point format spells a sign, an exponent and a fraction.  It stands for no
number if all bits of the exponent are set and some bit of the fraction is (`FloatFormat.IsNaN`),
and for a zero if no bit but that of the sign is set (`FloatFormat.IsZero`).  Patterns have one rank
exactly if they are of one number (`sameNumber_iff`): a pattern of no number has no rank, and only
the two zeros share one.  The values of every numeric type have keys in the same way; that of an
integer is the integer itself (`key?_eq_none_iff`, `key?_eq_rank?`, `key?_injective`).
-/

namespace NumericBytes

/-! ### The fields of a pattern -/

/-- A binary floating-point format. -/
structure FloatFormat where
  exponentBits : Nat
  fractionBits : Nat
  deriving DecidableEq

namespace FloatFormat

/-- The exponent field of a pattern. -/
def exponent (format : FloatFormat) (pattern : Nat) : Nat :=
  pattern / 2 ^ format.fractionBits % 2 ^ format.exponentBits

/-- The fraction field of a pattern. -/
def fraction (format : FloatFormat) (pattern : Nat) : Nat :=
  pattern % 2 ^ format.fractionBits

/-- The pattern stands for no number. -/
def IsNaN (format : FloatFormat) (pattern : Nat) : Prop :=
  format.exponent pattern = 2 ^ format.exponentBits - 1 ∧ format.fraction pattern ≠ 0

/-- The pattern is one of the two zeros. -/
def IsZero (format : FloatFormat) (pattern : Nat) : Prop :=
  format.exponent pattern = 0 ∧ format.fraction pattern = 0

/-- The patterns are of one number: none is no number, and they are equal or both zeros. -/
def SameNumber (format : FloatFormat) (pattern pattern' : Nat) : Prop :=
  ¬ format.IsNaN pattern ∧ ¬ format.IsNaN pattern'
    ∧ (pattern = pattern' ∨ format.IsZero pattern ∧ format.IsZero pattern')

instance (format : FloatFormat) (pattern : Nat) : Decidable (format.IsNaN pattern) :=
  inferInstanceAs (Decidable (_ ∧ _))

instance (format : FloatFormat) (pattern : Nat) : Decidable (format.IsZero pattern) :=
  inferInstanceAs (Decidable (_ ∧ _))

instance (format : FloatFormat) (pattern pattern' : Nat) :
    Decidable (format.SameNumber pattern pattern') :=
  inferInstanceAs (Decidable (_ ∧ _))

/-- The number of bits beside the sign. -/
def magnitudeBits (format : FloatFormat) : Nat := format.exponentBits + format.fractionBits

/-- A pattern without its sign. -/
def magnitude (format : FloatFormat) (pattern : Nat) : Nat := pattern % 2 ^ format.magnitudeBits

/-- The sign of a pattern: `1` if it is set. -/
def sign (format : FloatFormat) (pattern : Nat) : Nat := pattern / 2 ^ format.magnitudeBits % 2

variable {format : FloatFormat} {p q : Nat}

/-- A pattern without its sign is the exponent followed by the fraction. -/
theorem magnitude_eq (format : FloatFormat) (p : Nat) :
  format.magnitude p = format.fraction p + 2 ^ format.fractionBits * format.exponent p
  := by
  rw [magnitude, magnitudeBits, Nat.add_comm, Nat.pow_add]
  apply Nat.mod_mul

theorem fraction_lt (format : FloatFormat) (p : Nat) :
  format.fraction p < 2 ^ format.fractionBits
  := Nat.mod_lt _ (Nat.two_pow_pos _)

theorem exponent_le (format : FloatFormat) (p : Nat) :
  format.exponent p ≤ 2 ^ format.exponentBits - 1
  := Nat.le_sub_one_of_lt (Nat.mod_lt _ (Nat.two_pow_pos _))

theorem sign_eq_zero (clear : format.sign p ≠ 1) :
  format.sign p = 0
  := (Nat.mod_two_eq_zero_or_one _).resolve_right clear

theorem isZero_iff :
  format.IsZero p ↔ format.magnitude p = 0
  := by
  rw [magnitude_eq, Nat.add_eq_zero_iff, Nat.mul_eq_zero, IsZero, and_comm]
  simp only [Nat.pow_eq_zero, OfNat.ofNat_ne_zero, false_and, false_or]

/-- The patterns that stand for no number are those beyond infinity. -/
theorem isNaN_iff :
  format.IsNaN p
    ↔ (2 ^ format.exponentBits - 1) * 2 ^ format.fractionBits < format.magnitude p
  := by
  rw [magnitude_eq, Nat.mul_comm]
  constructor
  · rintro ⟨all, some⟩
    rw [all]
    omega
  · intro beyond
    have all : format.exponent p = 2 ^ format.exponentBits - 1 := by
      apply Nat.le_antisymm (format.exponent_le p)
      by_contra! less
      have next := Nat.mul_le_mul_left (2 ^ format.fractionBits) less
      rw [Nat.mul_add_one] at next
      have := format.fraction_lt p
      omega
    use all
    rw [all] at beyond
    omega

/-- A pattern that fits in the format is its sign followed by the rest. -/
theorem sign_magnitude (fits : p < 2 * 2 ^ format.magnitudeBits) :
  2 ^ format.magnitudeBits * format.sign p + format.magnitude p = p
  := by
  have small : p / 2 ^ format.magnitudeBits < 2 := Nat.div_lt_of_lt_mul (by rwa [Nat.mul_comm])
  rw [sign, Nat.mod_eq_of_lt small]
  apply Nat.div_add_mod

/-! ### Ranks -/

/-- A pattern without its sign, negated if the sign is set. -/
def signed (format : FloatFormat) (pattern : Nat) : Int :=
  if format.sign pattern = 1 then -format.magnitude pattern else format.magnitude pattern

theorem eq_or_magnitude_eq_zero_of_signed_eq (fits : p < 2 * 2 ^ format.magnitudeBits)
    (fits' : q < 2 * 2 ^ format.magnitudeBits) (same : format.signed p = format.signed q) :
  p = q ∨ format.magnitude p = 0 ∧ format.magnitude q = 0
  := by
  have parts := sign_magnitude fits
  have parts' := sign_magnitude fits'
  rw [signed, signed] at same
  split_ifs at same with set set' set'
  · left
    rw [← parts, ← parts', set, set']
    omega
  -- A number that is its own opposite is zero.
  · right
    omega
  · right
    omega
  · left
    rw [← parts, ← parts', sign_eq_zero set, sign_eq_zero set']
    omega

/-- Patterns are told apart by their numbers with a sign, but for the two zeros. -/
theorem signed_eq_iff (fits : p < 2 * 2 ^ format.magnitudeBits)
    (fits' : q < 2 * 2 ^ format.magnitudeBits) :
  format.signed p = format.signed q ↔ p = q ∨ format.IsZero p ∧ format.IsZero q
  := by
  rw [isZero_iff, isZero_iff]
  constructor
  · apply eq_or_magnitude_eq_zero_of_signed_eq fits fits'
  · rintro (rfl | ⟨zero, zero'⟩)
    · rfl
    · simp only [signed, zero, zero', Nat.cast_zero, neg_zero, ite_self]

/-- The rank of a pattern of the format. -/
def rank? (format : FloatFormat) (pattern : Nat) : Option Int :=
  FloatPattern.rank? format.exponentBits format.fractionBits pattern

theorem rank?_eq (format : FloatFormat) (p : Nat) :
  format.rank? p = if format.IsNaN p then none else some (format.signed p)
  := by
  rw [rank?, FloatPattern.rank?, signed, apply_ite some]
  simp only [Nat.shiftLeft_eq, Nat.one_mul, Nat.shiftRight_eq_div_pow, isNaN_iff]
  rfl

theorem rank?_eq_none_iff :
  format.rank? p = none ↔ format.IsNaN p
  := by
  rw [rank?_eq]
  split_ifs with nan
  · simp only [nan]
  · simp only [nan]

/-- Two patterns have one rank exactly if they are of one number. -/
theorem sameNumber_iff (fits : p < 2 * 2 ^ format.magnitudeBits)
    (fits' : q < 2 * 2 ^ format.magnitudeBits) :
  format.SameNumber p q ↔ format.rank? p ≠ none ∧ format.rank? p = format.rank? q
  := by
  rw [SameNumber, Ne, rank?_eq_none_iff]
  apply and_congr_right
  intro number
  rw [rank?_eq, rank?_eq, if_neg number]
  split_ifs with number'
  · simp only [number', not_true_eq_false, false_and]
  · rw [Option.some.injEq, signed_eq_iff fits fits']
    simp only [number', not_false_eq_true, true_and]

end FloatFormat

/-! ### Values -/

namespace NumericType

/-- The format of the values of a floating-point type. -/
def format? : NumericType → Option FloatFormat
  | int16 => none
  | int32 => none
  | int64 => none
  | float32 => some ⟨8, 23⟩
  | float64 => some ⟨11, 52⟩

/-- The pattern stands for no number of the type. -/
def IsNaN (t : NumericType) (pattern : Nat) : Prop := ∃ format ∈ t.format?, format.IsNaN pattern

variable {t : NumericType} {format : FloatFormat}

theorem isNaN_of_format? (h : t.format? = some format) (p : Nat) :
  t.IsNaN p ↔ format.IsNaN p
  := by
  rw [IsNaN, h]
  simp only [Option.mem_def, Option.some.injEq, exists_eq_left']

theorem not_isNaN_of_format? (h : t.format? = none) (p : Nat) :
  ¬ t.IsNaN p
  := by
  rintro ⟨format, h', -⟩
  rw [h] at h'
  contradiction

/-- A floating-point number is compared by the rank of its pattern. -/
theorem key?_eq_rank? (h : t.format? = some format) (x : t.Value) :
  t.key? x = format.rank? (t.pattern x)
  := by
  cases t with
  | int16 => contradiction
  | int32 => contradiction
  | int64 => contradiction
  | float32 => obtain rfl := Option.some.inj h; rfl
  | float64 => obtain rfl := Option.some.inj h; rfl

/-- The patterns of a floating-point type are a sign and the other bits of its format. -/
theorem pattern_fits (h : t.format? = some format) (x : t.Value) :
  t.pattern x < 2 * 2 ^ format.magnitudeBits
  := by
  have bound : Digits.bound t.width = 2 * 2 ^ format.magnitudeBits := by
    cases t with
    | int16 => contradiction
    | int32 => contradiction
    | int64 => contradiction
    | float32 => obtain rfl := Option.some.inj h; rfl
    | float64 => obtain rfl := Option.some.inj h; rfl
  rw [← bound]
  apply t.pattern_lt

/-- Two floating-point values have one key exactly if their patterns are of one number. -/
theorem sameNumber_pattern_iff (h : t.format? = some format) (x y : t.Value) :
  format.SameNumber (t.pattern x) (t.pattern y) ↔ t.key? x ≠ none ∧ t.key? x = t.key? y
  := by
  rw [key?_eq_rank? h, key?_eq_rank? h]
  apply FloatFormat.sameNumber_iff (pattern_fits h x) (pattern_fits h y)

/-- An integer is compared by itself. -/
theorem key?_isSome_of_format? (h : t.format? = none) (x : t.Value) :
  (t.key? x).isSome
  := by
  cases t with
  | int16 => rfl
  | int32 => rfl
  | int64 => rfl
  | float32 => contradiction
  | float64 => contradiction

/-- Integers are told apart by their keys. -/
theorem key?_injective (h : t.format? = none) :
  Function.Injective t.key?
  := by
  intro x y same
  cases t with
  | int16 => exact Int16.toInt_inj.mp (Option.some.inj same)
  | int32 => exact Int32.toInt_inj.mp (Option.some.inj same)
  | int64 => exact Int64.toInt_inj.mp (Option.some.inj same)
  | float32 => contradiction
  | float64 => contradiction

/-- A value has no key exactly if its pattern stands for no number. -/
theorem key?_eq_none_iff (t : NumericType) (x : t.Value) :
  t.key? x = none ↔ t.IsNaN (t.pattern x)
  := by
  cases h : t.format? with
  | none =>
    have isSome := key?_isSome_of_format? h x
    simp only [not_isNaN_of_format? h, iff_false]
    rintro none
    rw [none] at isSome
    contradiction
  | some format =>
    rw [isNaN_of_format? h, key?_eq_rank? h]
    apply FloatFormat.rank?_eq_none_iff

end NumericType

end NumericBytes
