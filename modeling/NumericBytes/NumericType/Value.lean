import NumericBytes.ByteOrder
import NumericBytes.FloatPattern
import NumericBytes.NumericType.Basic

/-!
# Values of the numeric types

`t.Value` is the Lean type of the values of `t`.  Every value has a bit pattern, the number
`t.pattern x`, and `t.ofPattern` is the value of a pattern; the two are inverse to each
other (`ofPattern_pattern`, `pattern_ofPattern`).  What is done to the bytes of a value is
said through its pattern alone: `t.toBytes` and `t.ofBytes` spell it in a byte order, and
`t.swapped` reverses its bytes.
-/

namespace NumericBytes.NumericType

/-- The type of the values of a numeric type. -/
abbrev Value : NumericType → Type
  | int16 => Int16
  | int32 => Int32
  | int64 => Int64
  | float32 => Binary32
  | float64 => Binary64

instance : (t : NumericType) → DecidableEq t.Value
  | int16 => inferInstanceAs (DecidableEq Int16)
  | int32 => inferInstanceAs (DecidableEq Int32)
  | int64 => inferInstanceAs (DecidableEq Int64)
  | float32 => inferInstanceAs (DecidableEq Binary32)
  | float64 => inferInstanceAs (DecidableEq Binary64)

/-! ### Patterns -/

/-- The bit pattern of a value, as a number. -/
def pattern : (t : NumericType) → t.Value → Nat
  | int16, x => x.toUInt16.toNat
  | int32, x => x.toUInt32.toNat
  | int64, x => x.toUInt64.toNat
  | float32, x => x.bits.toNat
  | float64, x => x.bits.toNat

/-- The value whose bit pattern is the low `t.width` bytes of a number. -/
def ofPattern : (t : NumericType) → Nat → t.Value
  | int16, n => (UInt16.ofNat n).toInt16
  | int32, n => (UInt32.ofNat n).toInt32
  | int64, n => (UInt64.ofNat n).toInt64
  | float32, n => ⟨UInt32.ofNat n⟩
  | float64, n => ⟨UInt64.ofNat n⟩

/-- A value is determined by its pattern. -/
@[simp]
theorem ofPattern_pattern (t : NumericType) (x : t.Value) :
  t.ofPattern (t.pattern x) = x
  := by
  cases t <;> simp [pattern, ofPattern]

theorem pattern_ofPattern (t : NumericType) (n : Nat) :
  t.pattern (t.ofPattern n) = n % Digits.bound t.width
  := by
  cases t <;> simp [pattern, ofPattern, width, Digits.bound]

theorem pattern_lt (t : NumericType) (x : t.Value) :
  t.pattern x < Digits.bound t.width
  := by
  rw [← t.ofPattern_pattern x, pattern_ofPattern]
  apply Nat.mod_lt _ (Digits.bound_pos _)

theorem pattern_injective (t : NumericType) {x y : t.Value} (h : t.pattern x = t.pattern y) :
  x = y
  := by
  rw [← t.ofPattern_pattern x, h, ofPattern_pattern]

/-- The value whose pattern is `0`. -/
def zero (t : NumericType) : t.Value := t.ofPattern 0

/-! ### Bytes -/

/-- The bytes of a value, in the given order. -/
def toBytes (t : NumericType) (order : ByteOrder) (x : t.Value) : List UInt8 :=
  order.digits t.width (t.pattern x)

/-- The value that bytes in the given order spell. -/
def ofBytes (t : NumericType) (order : ByteOrder) (bytes : List UInt8) : t.Value :=
  t.ofPattern (order.number bytes)

/-- The value with the bytes of `x` in the opposite order. -/
def swapped (t : NumericType) (x : t.Value) : t.Value :=
  t.ofPattern (Digits.reversed t.width (t.pattern x))

@[simp]
theorem length_toBytes (t : NumericType) (order : ByteOrder) (x : t.Value) :
  (t.toBytes order x).length = t.width
  := order.length_digits _ _

/-- The bytes of a value spell its pattern. -/
theorem number_toBytes (t : NumericType) (order : ByteOrder) (x : t.Value) :
  order.number (t.toBytes order x) = t.pattern x
  := by
  rw [toBytes, order.number_digits, Nat.mod_eq_of_lt (t.pattern_lt x)]

/-- A value has the pattern that its bytes spell. -/
theorem pattern_ofBytes (t : NumericType) (order : ByteOrder) {bytes : List UInt8}
    (h : bytes.length = t.width) :
  t.pattern (t.ofBytes order bytes) = order.number bytes
  := by
  rw [ofBytes, pattern_ofPattern, ← h, Nat.mod_eq_of_lt (order.number_lt bytes)]

theorem ofBytes_toBytes (t : NumericType) (order : ByteOrder) (x : t.Value) :
  t.ofBytes order (t.toBytes order x) = x
  := by
  rw [ofBytes, number_toBytes, ofPattern_pattern]

theorem toBytes_ofBytes (t : NumericType) (order : ByteOrder) {bytes : List UInt8}
    (h : bytes.length = t.width) :
  t.toBytes order (t.ofBytes order bytes) = bytes
  := by
  rw [toBytes, t.pattern_ofBytes order h, ← h, order.digits_number]

/-! ### Numbers -/

/-- The integer that an integer value stands for. -/
def toInt? : (t : NumericType) → t.Value → Option Int
  | int16, x => some x.toInt
  | int32, x => some x.toInt
  | int64, x => some x.toInt
  | float32, _ => none
  | float64, _ => none

/-- The integer by which a value is compared: that of an integer value, the rank of a
floating-point number.  A pattern that is not a number has none. -/
def key? : (t : NumericType) → t.Value → Option Int
  | int16, x => some x.toInt
  | int32, x => some x.toInt
  | int64, x => some x.toInt
  | float32, x => x.rank?
  | float64, x => x.rank?

end NumericBytes.NumericType
