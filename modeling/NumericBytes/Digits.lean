/-!
# Base-256 digits

`toLittle width n` and `toBig width n` are the low `width` base-256 digits of `n`, least
significant first and most significant first; `ofLittle` and `ofBig` are the numbers that
lists of digits spell.  The numbers below `bound width` are those that `width` digits can
spell, and `reversed width n` is the number whose digits are those of `n` in the opposite
order, computed without spelling any digit out.  The main statements are the round trips
`ofLittle_toLittle` and `toLittle_ofLittle`, and `toBig_eq_reverse`, by which the two spellings
are each other's reverse.
-/

namespace NumericBytes.Digits

/-- The low `width` digits of `n`, least significant first. -/
def toLittle : Nat → Nat → List UInt8
  | 0, _ => []
  | width + 1, n => UInt8.ofNat n :: toLittle width (n / 256)

/-- The number spelled by a list of digits, least significant first. -/
def ofLittle : List UInt8 → Nat
  | [] => 0
  | digit :: digits => digit.toNat + 256 * ofLittle digits

/-- The low `width` digits of `n`, most significant first. -/
def toBig : Nat → Nat → List UInt8
  | 0, _ => []
  | width + 1, n => toBig width (n / 256) ++ [UInt8.ofNat n]

/-- The number spelled by a list of digits, most significant first. -/
def ofBig (digits : List UInt8) : Nat :=
  digits.foldl (fun n digit => 256 * n + digit.toNat) 0

/-- How many numbers can be spelled with `width` digits. -/
def bound : Nat → Nat
  | 0 => 1
  | width + 1 => 256 * bound width

/-- The number whose `width` digits are the low `width` digits of `n` in the opposite order. -/
def reversed : Nat → Nat → Nat
  | 0, _ => 0
  | width + 1, n => n % 256 * bound width + reversed width (n / 256)

theorem bound_pos (width : Nat) :
  0 < bound width
  := by
  induction width with
  | zero => apply Nat.one_pos
  | succ width ih => apply Nat.mul_pos (by decide) ih

/-! ### Little-endian digits -/

@[simp]
theorem length_toLittle (width n : Nat) :
  (toLittle width n).length = width
  := by
  induction width generalizing n with
  | zero => rfl
  | succ width ih => simp [toLittle, ih]

/-- Spelling a number and reading it back keeps its low digits. -/
theorem ofLittle_toLittle (width n : Nat) :
  ofLittle (toLittle width n) = n % bound width
  := by
  induction width generalizing n with
  | zero => simp [toLittle, ofLittle, bound, Nat.mod_one]
  | succ width ih =>
    rw [bound, Nat.mod_mul, toLittle, ofLittle, ih, UInt8.toNat_ofNat']

/-- Reading digits and spelling the number again gives the digits back. -/
theorem toLittle_ofLittle (digits : List UInt8) :
  toLittle digits.length (ofLittle digits) = digits
  := by
  induction digits with
  | nil => rfl
  | cons digit digits ih =>
    have low : UInt8.ofNat (digit.toNat + 256 * ofLittle digits) = digit := by
      apply UInt8.toNat_inj.mp
      have := digit.toNat_lt
      simp only [UInt8.toNat_ofNat']
      omega
    have high : (digit.toNat + 256 * ofLittle digits) / 256 = ofLittle digits := by
      have := digit.toNat_lt
      omega
    rw [List.length_cons, toLittle, ofLittle, low, high, ih]

theorem ofLittle_lt (digits : List UInt8) :
  ofLittle digits < bound digits.length
  := by
  rw [← toLittle_ofLittle digits, ofLittle_toLittle, length_toLittle]
  apply Nat.mod_lt _ (bound_pos _)

/-! ### Big-endian digits -/

/-- The two spellings of a number are each other's reverse. -/
theorem toBig_eq_reverse (width n : Nat) :
  toBig width n = (toLittle width n).reverse
  := by
  induction width generalizing n with
  | zero => rfl
  | succ width ih => simp [toBig, toLittle, ih]

/-- Reading digits in one order is reading their reverse in the other. -/
theorem ofBig_eq_ofLittle_reverse (digits : List UInt8) :
  ofBig digits = ofLittle digits.reverse
  := by
  have spelled (ds : List UInt8) :
      ds.foldr (fun digit n => 256 * n + digit.toNat) 0 = ofLittle ds := by
    induction ds with
    | nil => rfl
    | cons digit ds ih =>
      simp only [List.foldr_cons, ih, ofLittle]
      omega
  rw [ofBig, ← spelled, List.foldr_reverse]

/-- Reversing the digits of a number is spelling it in one order and reading it in the other. -/
theorem reversed_eq_ofBig (width n : Nat) :
  reversed width n = ofBig (toLittle width n)
  := by
  have shifted (digits : List UInt8) (m : Nat) :
      digits.foldl (fun n digit => 256 * n + digit.toNat) m
        = m * bound digits.length + ofBig digits := by
    induction digits generalizing m with
    | nil => simp [ofBig, bound]
    | cons digit digits ih =>
      simp only [ofBig, List.foldl_cons, List.length_cons]
      rw [ih, ih (256 * 0 + digit.toNat), bound]
      grind
  induction width generalizing n with
  | zero => rfl
  | succ width ih =>
    rw [reversed, toLittle, ofBig, List.foldl_cons, shifted, ih, length_toLittle,
      UInt8.toNat_ofNat']
    simp

end NumericBytes.Digits
