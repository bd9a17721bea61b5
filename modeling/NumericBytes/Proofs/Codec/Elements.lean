import NumericBytes.Proofs.Codec.Conversion

/-!
# Where values lie

Every value takes its own bytes, `t.width` of them, and no others.  A value that is decoded is
spelled by its bytes alone (`getElem?_decode`), and a byte that is encoded is one of the bytes of
a single value (`getElem?_encode`).  `getElem?_decodeInto` and `getElem?_encodeInto` say so of
windows, with the offsets of both buffers.
-/

namespace NumericBytes

/-- Units that are taken out of a part lie in the buffer behind the beginning of the window. -/
theorem Window.take_drop_part {α : Type} {w : Window} {units : List α} {k n : Nat}
    (inside : w.start + k + n ≤ w.stop) :
  ((w.part units).drop k).take n = (units.drop (w.start + k)).take n
  := by
  rw [part, List.drop_drop, List.drop_take, List.take_take, Nat.min_eq_left (by omega)]

namespace NumericType

variable {t : NumericType} {order : ByteOrder} {request : Request}

/-- The bytes of a value lie among those of the values that are counted. -/
theorem width_room {j count : Nat} (t : NumericType) (h : j < count) :
  j * t.width + t.width ≤ count * t.width
  := by
  rw [← Nat.succ_mul]
  apply Nat.mul_le_mul_right _ h

/-- A value that is decoded is spelled by its own bytes alone. -/
theorem getElem?_decode (t : NumericType) (order : ByteOrder) {count j : Nat}
    (h : j < count) (bytes : List UInt8) :
  (t.decode order count bytes)[j]?
    = some (t.ofBytes order ((bytes.drop (j * t.width)).take t.width))
  := by
  induction count generalizing bytes j with
  | zero => contradiction
  | succ count ih =>
    rw [decode]
    cases j with
    | zero => rw [List.getElem?_cons_zero, Nat.zero_mul, List.drop_zero]
    | succ j =>
      rw [List.getElem?_cons_succ, ih (Nat.lt_of_succ_lt_succ h), List.drop_drop, Nat.succ_mul,
        Nat.add_comm]

/-- A byte that is encoded is the byte of a single value. -/
theorem getElem?_encode (t : NumericType) (order : ByteOrder) (values : List t.Value)
    {j k : Nat} (h : k < t.width) :
  (t.encode order values)[j * t.width + k]? = values[j]?.bind fun x => (t.toBytes order x)[k]?
  := by
  induction values generalizing j with
  | nil => rfl
  | cons x values ih =>
    rw [encode] at ih
    rw [encode, List.flatMap_cons]
    cases j with
    | zero =>
      rw [Nat.zero_mul, Nat.zero_add, List.getElem?_append_left (by rwa [length_toBytes])]
      rfl
    | succ j =>
      have passed : (j + 1) * t.width + k = t.width + (j * t.width + k) := by
        rw [Nat.succ_mul]
        omega
      rw [passed, List.getElem?_append_right (by rw [length_toBytes]; omega), length_toBytes,
        Nat.add_sub_cancel_left, ih, List.getElem?_cons_succ]

/-- A value in the window that a decoding writes is spelled by its bytes in the window that the
decoding reads. -/
theorem getElem?_decodeInto {source : List UInt8} {destination result : List t.Value}
    (h : t.decodeInto order source request destination = .ok () result) {j : Nat}
    (hj : j < request.count.toNat) :
  result[request.destinationOffset.toNat + j]?
    = some (t.ofBytes order
        ((source.drop (request.sourceOffset.toNat + j * t.width)).take t.width))
  := by
  rw [decodeInto_eq_copy] at h
  have room : ((t.decoding order).read request).start + j * t.width + t.width
      ≤ ((t.decoding order).read request).stop := by
    rw [Nat.add_assoc]
    apply Nat.add_le_add_left (t.width_room hj)
  have written : j < request.count.toNat * (t.decoding order).destinationUnit := by
    rwa [decoding, Nat.mul_one]
  apply Eq.trans (Conversion.getElem?_copy_inside h written)
  apply Eq.trans (t.getElem?_decode order hj _)
  rw [Window.take_drop_part room]
  rfl

/-- A byte in the window that an encoding writes is the byte of a value in the window that the
encoding reads. -/
theorem getElem?_encodeInto {source : List t.Value} {destination result : List UInt8}
    (h : t.encodeInto order source request destination = .ok () result) {j k : Nat}
    (hj : j < request.count.toNat) (hk : k < t.width) :
  result[request.destinationOffset.toNat + j * t.width + k]?
    = source[request.sourceOffset.toNat + j]?.bind fun x => (t.toBytes order x)[k]?
  := by
  rw [encodeInto_eq_copy] at h
  have written : j * t.width + k < request.count.toNat * (t.encoding order).destinationUnit :=
    Nat.lt_of_lt_of_le (Nat.add_lt_add_left hk _) (t.width_room hj)
  have read : j < request.count.toNat * (t.encoding order).sourceUnit := by
    rwa [encoding, Nat.mul_one]
  rw [Nat.add_assoc]
  apply Eq.trans (Conversion.getElem?_copy_inside h written)
  apply Eq.trans (t.getElem?_encode order _ hk)
  rw [Conversion.getElem?_part_read read]

end NumericType

end NumericBytes
