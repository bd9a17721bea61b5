import NumericBytes.Proofs.ByteOrder.Places
import NumericBytes.Proofs.Codec.Elements
import NumericBytes.Proofs.NumericType.Numerals

/-!
# The numbers that copies move

A decoding leaves at each position of its window the value for which the sum of the bytes at their
places stands (`decodes_positional_values`), and an encoding leaves there the digits of the number
that the value stands for (`encodes_positional_digits`).  Neither touches anything else.
-/

namespace NumericBytes.NumericType

open Finset

variable {t : NumericType} {order : ByteOrder} {request : Request}

/-- The bytes of a value in the window that a decoding reads lie in the source. -/
theorem value_inside {source : List UInt8} {j : Nat}
    (inside : request.sourceOffset.toNat + request.count.toNat * t.width ≤ source.length)
    (hj : j < request.count.toNat) :
  request.sourceOffset.toNat + j * t.width + t.width ≤ source.length
  := by
  rw [Nat.add_assoc]
  apply Nat.le_trans _ inside
  apply Nat.add_le_add_left (t.width_room hj)

/-- The value that the bytes from a position on spell is the one for which the sum of the bytes at
their places stands. -/
theorem interprets_bytes (t : NumericType) (order : ByteOrder) {source : List UInt8} {start : Nat}
    (inside : start + t.width ≤ source.length) :
  t.Interprets
    (∑ k ∈ range t.width, (source.getD (start + k) 0).toNat * 256 ^ order.place t.width k)
    (t.ofBytes order ((source.drop start).take t.width))
  := by
  have width : ((source.drop start).take t.width).length = t.width := by
    rw [List.length_take, List.length_drop]
    omega
  have spelled : ∀ k < ((source.drop start).take t.width).length,
      ((source.drop start).take t.width)[k]? = some (source.getD (start + k) 0) := by
    intro k hk
    rw [width] at hk
    have reached : start + k < source.length := by omega
    rw [List.getElem?_take_of_lt hk, List.getElem?_drop, List.getD_eq_getElem?_getD,
      List.getElem?_eq_getElem reached]
    rfl
  have number := order.number_eq_sum spelled
  rw [width] at number
  rw [← number]
  apply t.interprets_ofBytes order width

/-- Each byte of a value is the digit, at the place of the byte, of the number that the bits of the
value spell. -/
theorem exists_digit (t : NumericType) (order : ByteOrder) (x : t.Value) {k : Nat}
    (hk : k < t.width) :
  ∃ byte, (t.toBytes order x)[k]? = some byte
    ∧ byte.toNat = t.residue x / 256 ^ order.place t.width k % 256
  := by
  use UInt8.ofNat (t.residue x / 256 ^ order.place t.width k)
  constructor
  · rw [toBytes, order.getElem?_digits hk, residue_eq_pattern]
  · apply UInt8.toNat_ofNat'

/-- A decoding that succeeds keeps the length of its buffer.  Each value in the window that it
writes is the one for which the sum of its bytes in the source stands, each byte at its place in
the byte order; every other value is as it was. -/
theorem decodes_positional_values (t : NumericType) (order : ByteOrder) {source : List UInt8}
    {request : Request} {destination result : List t.Value}
    (h : t.decodeInto order source request destination = .ok () result) :
  result.length = destination.length
  ∧ request.sourceOffset.toNat + request.count.toNat * t.width ≤ source.length
  ∧ (∀ j < request.count.toNat,
    let digit := fun k => (source.getD (request.sourceOffset.toNat + j * t.width + k) 0).toNat
    ∃ x, result[request.destinationOffset.toNat + j]? = some x
      ∧ t.Interprets (∑ k ∈ range t.width, digit k * 256 ^ order.place t.width k) x)
  ∧ ∀ i, i < request.destinationOffset.toNat
      ∨ request.destinationOffset.toNat + request.count.toNat ≤ i → result[i]? = destination[i]?
  := by
  have copied := h
  rw [decodeInto_eq_copy] at copied
  obtain ⟨⟨-, inside⟩, -, -⟩ := Conversion.copy_eq_ok_iff.mp copied
  use Conversion.length_copy copied, inside
  constructor
  · intro j hj
    use t.ofBytes order ((source.drop (request.sourceOffset.toNat + j * t.width)).take t.width),
      getElem?_decodeInto h hj
    apply t.interprets_bytes order (value_inside inside hj)
  · intro i hi
    apply Conversion.getElem?_copy_outside copied
    rwa [decoding, Nat.mul_one]

/-- Bytes with the top bit of the first set are read as a negative number, the most significant
first and from an odd offset, and the values around stay. -/
theorem decodes_positional_values_int16 :
  int16.decodeInto .big [9, 0xff, 0xfe, 1, 2] ⟨1, 1, 2⟩ [5, 5, 5, 5] = .ok () [5, -2, 0x0102, 5]
    ∧ (∃ x, [(5 : Int16), -2, 0x0102, 5][1]? = some x ∧ int16.Interprets 0xfffe x)
    ∧ (∃ x, [(5 : Int16), -2, 0x0102, 5][2]? = some x ∧ int16.Interprets 0x0102 x)
    ∧ [(5 : Int16), -2, 0x0102, 5][3]? = some 5
  := by
  have decoding : int16.decodeInto .big [9, 0xff, 0xfe, 1, 2] ⟨1, 1, 2⟩ [5, 5, 5, 5]
      = .ok () [5, -2, 0x0102, 5] := rfl
  obtain ⟨-, -, inside, outside⟩ := decodes_positional_values int16 .big decoding
  use decoding, inside 0 (by decide), inside 1 (by decide)
  apply outside 3 (by decide)

/-- An encoding that succeeds keeps the length of its buffer.  The bytes of each value in the
window that it writes are the digits, at their places in the byte order, of the remainder of an
integer or of the bit pattern of a floating-point number; every other byte is as it was. -/
theorem encodes_positional_digits (t : NumericType) (order : ByteOrder) {source : List t.Value}
    {request : Request} {destination result : List UInt8}
    (h : t.encodeInto order source request destination = .ok () result) :
  result.length = destination.length
  ∧ (∀ j < request.count.toNat, ∃ x, source[request.sourceOffset.toNat + j]? = some x
    ∧ ∀ k < t.width, ∃ byte,
      result[request.destinationOffset.toNat + j * t.width + k]? = some byte
        ∧ byte.toNat = t.residue x / 256 ^ order.place t.width k % 256)
  ∧ ∀ p, p < request.destinationOffset.toNat
      ∨ request.destinationOffset.toNat + request.count.toNat * t.width ≤ p →
    result[p]? = destination[p]?
  := by
  have copied := h
  rw [encodeInto_eq_copy] at copied
  obtain ⟨⟨-, inside⟩, -, -⟩ := Conversion.copy_eq_ok_iff.mp copied
  use Conversion.length_copy copied
  constructor
  · intro j hj
    have reached : request.sourceOffset.toNat + j < source.length := by
      change request.sourceOffset.toNat + request.count.toNat * 1 ≤ source.length at inside
      omega
    use source[request.sourceOffset.toNat + j], List.getElem?_eq_getElem reached
    intro k hk
    obtain ⟨byte, hbyte, digit⟩ := t.exists_digit order source[request.sourceOffset.toNat + j] hk
    use byte
    constructor
    · rw [getElem?_encodeInto h hj hk, List.getElem?_eq_getElem reached, Option.bind_some, hbyte]
    · apply digit
  · intro p hp
    apply Conversion.getElem?_copy_outside copied hp

/-- A negative number is written with the digits of its remainder, the least significant first, and
the bytes around stay. -/
theorem encodes_positional_digits_int16 :
  int16.encodeInto .little [7, -2] ⟨1, 1, 1⟩ [9, 9, 9, 9] = .ok () [9, 0xfe, 0xff, 9]
    ∧ (∃ byte, [(9 : UInt8), 0xfe, 0xff, 9][1]? = some byte ∧ byte.toNat = 0xfffe % 256)
    ∧ (∃ byte, [(9 : UInt8), 0xfe, 0xff, 9][2]? = some byte ∧ byte.toNat = 0xfffe / 256 % 256)
    ∧ [(9 : UInt8), 0xfe, 0xff, 9][3]? = some 9
  := by
  have encoding : int16.encodeInto .little [7, -2] ⟨1, 1, 1⟩ [9, 9, 9, 9]
      = .ok () [9, 0xfe, 0xff, 9] := rfl
  obtain ⟨-, inside, outside⟩ := encodes_positional_digits int16 .little encoding
  obtain ⟨x, hx, digits⟩ := inside 0 (by decide)
  obtain rfl : -2 = x := Option.some_inj.mp hx
  use encoding, digits 0 (by decide), digits 1 (by decide)
  apply outside 3 (by decide)

end NumericBytes.NumericType
