import NumericBytes.Edit
import NumericBytes.NumericType.Value

/-!
# Exact copies of whole buffers

`t.decode` and `t.encode` convert a list of bytes to values and back.  `t.decodeExact` and
`t.encodeExact` overwrite a whole buffer with the other one, in either direction, and
demand that the bytes are exactly those of the values: `t.width` for each.  `t.swapAll`
reverses the bytes of every value.
-/

namespace NumericBytes.NumericType

/-! ### Lists of values and lists of bytes -/

/-- The first `count` values that a list of bytes spells. -/
def decode (t : NumericType) (order : ByteOrder) : Nat → List UInt8 → List t.Value
  | 0, _ => []
  | count + 1, bytes =>
    t.ofBytes order (bytes.take t.width) :: decode t order count (bytes.drop t.width)

/-- The bytes of a list of values. -/
def encode (t : NumericType) (order : ByteOrder) (values : List t.Value) : List UInt8 :=
  values.flatMap (t.toBytes order)

@[simp]
theorem length_decode (t : NumericType) (order : ByteOrder) (count : Nat) (bytes : List UInt8) :
  (t.decode order count bytes).length = count
  := by
  induction count generalizing bytes with
  | zero => rfl
  | succ count ih => simp [decode, ih]

@[simp]
theorem length_encode (t : NumericType) (order : ByteOrder) (values : List t.Value) :
  (t.encode order values).length = values.length * t.width
  := by
  simp [encode, List.length_flatMap, List.map_const']

/-- Decoding the bytes of values gives the values back. -/
theorem decode_encode (t : NumericType) (order : ByteOrder) (values : List t.Value) :
  t.decode order values.length (t.encode order values) = values
  := by
  induction values with
  | nil => rfl
  | cons x values ih =>
    have first : (t.encode order (x :: values)).take t.width = t.toBytes order x := by
      simp [encode]
    have rest : (t.encode order (x :: values)).drop t.width = t.encode order values := by
      simp [encode]
    rw [List.length_cons, decode, first, rest, ih, ofBytes_toBytes]

/-- Encoding the values that bytes spell gives the bytes back. -/
theorem encode_decode (t : NumericType) (order : ByteOrder) {count : Nat} {bytes : List UInt8}
    (h : bytes.length = count * t.width) :
  t.encode order (t.decode order count bytes) = bytes
  := by
  induction count generalizing bytes with
  | zero =>
    rw [Nat.zero_mul, List.length_eq_zero_iff] at h
    simp [h, decode, encode]
  | succ count ih =>
    rw [Nat.succ_mul] at h
    have first : (bytes.take t.width).length = t.width := by
      rw [List.length_take]
      omega
    have rest : (bytes.drop t.width).length = count * t.width := by
      rw [List.length_drop]
      omega
    have tail := ih rest
    rw [encode] at tail
    rw [decode, encode, List.flatMap_cons, toBytes_ofBytes t order first, tail,
      List.take_append_drop]

/-! ### Whole buffers -/

/-- Overwrites a numeric buffer with the values that `source` spells. -/
def decodeExact (t : NumericType) (order : ByteOrder) (source : List UInt8) :
    Edit (List t.Value) Unit := fun destination =>
  if source.length = destination.length * t.width then
    .ok () (t.decode order destination.length source)
  else .error (.misuse .lengthMismatch) destination

/-- Overwrites a byte buffer with the bytes of `source`. -/
def encodeExact (t : NumericType) (order : ByteOrder) (source : List t.Value) :
    Edit (List UInt8) Unit := fun destination =>
  if destination.length = source.length * t.width then .ok () (t.encode order source)
  else .error (.misuse .lengthMismatch) destination

/-- Reverses the bytes of every value of a buffer. -/
def swapAll (t : NumericType) : Edit (List t.Value) Unit := fun values =>
  .ok () (values.map t.swapped)

end NumericBytes.NumericType
