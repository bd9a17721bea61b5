import NumericBytes.Digits

/-!
# Byte orders

A `ByteOrder` says which digit of a pattern is stored first.  `ByteOrder.digits` spells a
pattern in an order and `ByteOrder.number` reads it back; in both orders they are inverse
to each other (`number_digits`, `digits_number`).
-/

namespace NumericBytes

/-- The order in which the bytes of a number are stored. -/
inductive ByteOrder where
  /-- Least significant byte first. -/
  | little
  /-- Most significant byte first. -/
  | big
  deriving DecidableEq, Repr

namespace ByteOrder

/-- The order of the host, which stores the least significant byte first. -/
def native : ByteOrder := .little

/-- The low `width` bytes of `n`, in the given order. -/
def digits : ByteOrder → Nat → Nat → List UInt8
  | .little => Digits.toLittle
  | .big => Digits.toBig

/-- The number that a list of bytes spells in the given order. -/
def number : ByteOrder → List UInt8 → Nat
  | .little => Digits.ofLittle
  | .big => Digits.ofBig

@[simp]
theorem length_digits (order : ByteOrder) (width n : Nat) :
  (order.digits width n).length = width
  := by
  cases order
  · exact Digits.length_toLittle width n
  · simp [digits, Digits.toBig_eq_reverse]

theorem number_digits (order : ByteOrder) (width n : Nat) :
  order.number (order.digits width n) = n % Digits.bound width
  := by
  cases order
  · exact Digits.ofLittle_toLittle width n
  · simp [digits, number, Digits.toBig_eq_reverse, Digits.ofBig_eq_ofLittle_reverse,
      Digits.ofLittle_toLittle]

theorem digits_number (order : ByteOrder) (bytes : List UInt8) :
  order.digits bytes.length (order.number bytes) = bytes
  := by
  cases order
  · exact Digits.toLittle_ofLittle bytes
  · have h := Digits.toLittle_ofLittle bytes.reverse
    rw [List.length_reverse] at h
    simp [digits, number, Digits.toBig_eq_reverse, Digits.ofBig_eq_ofLittle_reverse, h]

theorem number_lt (order : ByteOrder) (bytes : List UInt8) :
  order.number bytes < Digits.bound bytes.length
  := by
  cases order
  · exact Digits.ofLittle_lt bytes
  · simpa [number, Digits.ofBig_eq_ofLittle_reverse] using Digits.ofLittle_lt bytes.reverse

end ByteOrder

end NumericBytes
