import NumericBytes.Proofs.Codec.Elements
import NumericBytes.Proofs.Codec.WholeBuffers
import NumericBytes.Proofs.CopyCall.Basic

/-!
# Patterns of moved values

Bytes spell values if they are, one value after the other, those of the patterns of the values
(`NumericType.Spells`).  However a copy is offered, the bytes that it reads spell the values that it
writes, or the values that it reads are spelled by the bytes that it writes; and a swap leaves each
value with its pattern reversed.  So every type keeps the patterns of its values, whatever they
stand for: `NumericType.keepsPatterns`.
-/

namespace NumericBytes

namespace NumericType

variable {t : NumericType} {order : ByteOrder} {count : Nat} {bytes : List UInt8}
  {values : List t.Value}

/-! ### Bytes that spell values -/

/-- From `start` on there are the bytes of `count` values, which spell the patterns of the values
from `first` on. -/
def Spells (t : NumericType) (order : ByteOrder) (bytes : List UInt8) (start : Nat)
    (values : List t.Value) (first count : Nat) : Prop :=
  start + count * t.width ≤ bytes.length
  ∧ ∀ j < count, ∃ x, values[first + j]? = some x
    ∧ order.number ((bytes.drop (start + j * t.width)).take t.width) = t.pattern x

theorem spells_decode (t : NumericType) (order : ByteOrder)
    (length : bytes.length = count * t.width) :
  t.Spells order bytes 0 (t.decode order count bytes) 0 count
  := by
  constructor
  · apply Nat.le_of_eq
    rw [Nat.zero_add, length]
  · intro j hj
    have room := t.width_room hj
    have width : ((bytes.drop (j * t.width)).take t.width).length = t.width := by
      rw [List.length_take, List.length_drop]
      omega
    rw [Nat.zero_add, Nat.zero_add]
    use t.ofBytes order ((bytes.drop (j * t.width)).take t.width), t.getElem?_decode order hj bytes
    symm
    apply t.pattern_ofBytes order width

theorem spells_encode (order : ByteOrder) (length : values.length = count) :
  t.Spells order (t.encode order values) 0 values 0 count
  := by
  have decoded := t.spells_decode order (t.length_encode order values)
  rw [decode_encode, length] at decoded
  apply decoded

/-- What is spelled in a window of bytes is spelled from where the window begins. -/
theorem Spells.ofPart {read : Window} {first : Nat} (inside : read.stop ≤ bytes.length)
    (size : read.stop = read.start + count * t.width)
    (h : t.Spells order (read.part bytes) 0 values first count) :
  t.Spells order bytes read.start values first count
  := by
  constructor
  · rw [← size]
    apply inside
  · intro j hj
    have room := t.width_room hj
    obtain ⟨x, hx, spelled⟩ := h.2 j hj
    rw [Nat.zero_add] at spelled
    use x, hx
    rw [← spelled, Window.take_drop_part (by omega)]

/-- The values that are spelled in a window are spelled from where the window begins. -/
theorem Spells.ofPartOfValues {written : Window} {start : Nat}
    (size : written.stop = written.start + count)
    (h : t.Spells order bytes start (written.part values) 0 count) :
  t.Spells order bytes start values written.start count
  := by
  use h.1
  intro j hj
  obtain ⟨x, hx, spelled⟩ := h.2 j hj
  rw [Nat.zero_add] at hx
  use x
  rw [← Window.getElem?_part (by omega)]
  use hx, spelled

/-- The bytes of a window spell the values that they are decoded to. -/
theorem spells_decode_part {offset count : UInt64}
    (inside : (Window.span offset count t.width).stop ≤ bytes.length) :
  t.Spells order bytes offset.toNat
    (t.decode order count.toNat ((Window.span offset count t.width).part bytes)) 0 count.toNat
  := by
  apply Spells.ofPart inside rfl
  apply t.spells_decode order
  rw [Window.length_part inside]
  apply Window.size_span

/-- The values of a window are spelled by the bytes that they are encoded as. -/
theorem spells_encode_part {offset count : UInt64}
    (inside : (Window.span offset count 1).stop ≤ values.length) :
  t.Spells order (t.encode order ((Window.span offset count 1).part values)) 0 values offset.toNat
    count.toNat
  := by
  have size : (Window.span offset count 1).stop = offset.toNat + count.toNat :=
    congrArg (_ + ·) (Nat.mul_one _)
  apply Spells.ofPartOfValues size
  apply spells_encode order
  rw [Window.length_part inside, size]
  apply Nat.add_sub_cancel_left

/-! ### Copies -/

/-- The bytes that a decoding reads spell the values that it writes. -/
theorem spells_of_decoding {source : List UInt8} {request : Request} {before after : List t.Value}
    (h : (t.decoding order).Ends source request before true after) :
  t.Spells order source request.sourceOffset.toNat after request.destinationOffset.toNat
    request.count.toNat
  := by
  obtain ⟨inside, -⟩ := h.inside
  have size : ((t.decoding order).written request).stop
      = request.destinationOffset.toNat + request.count.toNat :=
    congrArg (_ + ·) (Nat.mul_one _)
  apply Spells.ofPartOfValues size
  rw [h.part_written]
  apply spells_decode_part inside

/-- The bytes that an encoding writes spell the values that it reads. -/
theorem spells_of_encoding {source : List t.Value} {request : Request} {before after : List UInt8}
    (h : (t.encoding order).Ends source request before true after) :
  t.Spells order after request.destinationOffset.toNat source request.sourceOffset.toNat
    request.count.toNat
  := by
  obtain ⟨inside, inside'⟩ := h.inside
  rw [← h.length_eq] at inside'
  apply Spells.ofPart inside' rfl
  rw [h.part_written]
  apply spells_encode_part inside

/-! ### Copies into fresh buffers -/

/-- Values that were made are what is made of the window of the bytes. -/
theorem fresh_of_decodeFresh {source : List UInt8} {offset count : UInt64}
    (h : t.decodeFresh source offset count = .ok values) :
  (t.decoding .native).fresh source offset count = .ok values
  := by
  rw [decodeFresh_eq] at h
  apply Conversion.fresh_eq_ok_iff.mpr
  rcases Window.fit_cases .source offset count t.width source.length with
    ⟨hread, inside⟩ | ⟨cause, hread⟩
  · rw [hread] at h
    dsimp only at h
    split at h
    · obtain rfl := Except.ok.inj h
      exact ⟨inside, rfl⟩
    · contradiction
  · rw [hread] at h
    contradiction

/-- Bytes that were made are what is made of the window of the values. -/
theorem fresh_of_encodeFresh {source : List t.Value} {offset count : UInt64}
    (h : t.encodeFresh source offset count = .ok bytes) :
  (t.encoding .native).fresh source offset count = .ok bytes
  := by
  rw [encodeFresh_eq] at h
  apply Conversion.fresh_eq_ok_iff.mpr
  rcases Window.fit_cases .source offset count 1 source.length with
    ⟨hread, inside⟩ | ⟨cause, hread⟩
  · rw [hread] at h
    dsimp only at h
    split at h
    · contradiction
    · split at h
      · obtain rfl := Except.ok.inj h
        exact ⟨inside, rfl⟩
      · contradiction
  · rw [hread] at h
    contradiction

/-- The bytes of which fresh values are made spell them. -/
theorem spells_of_decodeFresh {source : List UInt8} {offset count : UInt64}
    (h : t.decodeFresh source offset count = .ok values) :
  t.Spells .native source offset.toNat values 0 count.toNat
  := by
  obtain ⟨inside, rfl⟩ := Conversion.fresh_eq_ok_iff.mp (fresh_of_decodeFresh h)
  apply spells_decode_part inside.stop_le

/-- The fresh bytes that are made of values spell them. -/
theorem spells_of_encodeFresh {source : List t.Value} {offset count : UInt64}
    (h : t.encodeFresh source offset count = .ok bytes) :
  t.Spells .native bytes 0 source offset.toNat count.toNat
  := by
  obtain ⟨inside, rfl⟩ := Conversion.fresh_eq_ok_iff.mp (fresh_of_encodeFresh h)
  apply spells_encode_part inside.stop_le

/-! ### Swaps -/

/-- The pattern of a value with its bytes reversed. -/
theorem pattern_swapped (t : NumericType) (x : t.Value) :
  t.pattern (t.swapped x) = Digits.reversed t.width (t.pattern x)
  := by
  have small := ByteOrder.number_lt .big (Digits.toLittle t.width (t.pattern x))
  rw [Digits.length_toLittle] at small
  rw [swapped, pattern_ofPattern, Digits.reversed_eq_ofBig]
  apply Nat.mod_eq_of_lt small

theorem map_pattern_swapped (t : NumericType) (values : List t.Value) :
  (values.map t.swapped).map t.pattern
    = values.map fun x => Digits.reversed t.width (t.pattern x)
  := by
  rw [List.map_map]
  apply List.map_congr_left
  intro x _
  apply t.pattern_swapped

/-! ### All operations -/

/-- Values are moved as their patterns: by copies, however these are offered, by copies into fresh
buffers, and by swaps, which reverse the pattern of each value. -/
structure KeepsPatterns (t : NumericType) : Prop where
  decoded : ∀ {call : CopyCall UInt8} {before after : List t.Value}, call.Fits before.length →
    call.decode? t before = some (true, after) →
    t.Spells call.order call.source call.request.sourceOffset.toNat after
      call.request.destinationOffset.toNat call.request.count.toNat
  encoded : ∀ {call : CopyCall t.Value} {before after : List UInt8}, call.Fits before.length →
    call.encode? before = some (true, after) →
    t.Spells call.order after call.request.destinationOffset.toNat call.source
      call.request.sourceOffset.toNat call.request.count.toNat
  made : ∀ {source : List UInt8} {offset count : UInt64} {values : List t.Value},
    t.decodeFresh source offset count = .ok values →
    t.Spells .native source offset.toNat values 0 count.toNat
  madeBytes : ∀ {source : List t.Value} {offset count : UInt64} {bytes : List UInt8},
    t.encodeFresh source offset count = .ok bytes →
    t.Spells .native bytes 0 source offset.toNat count.toNat
  swapped : ∀ {values after : List t.Value} {offset count : UInt64},
    t.swapWindow offset count values = .ok () after →
    ((Window.span offset count 1).part after).map t.pattern
      = ((Window.span offset count 1).part values).map fun x =>
        Digits.reversed t.width (t.pattern x)
  swappedAll : ∀ {values after : List t.Value}, t.swapAll values = .ok () after →
    after.map t.pattern = values.map fun x => Digits.reversed t.width (t.pattern x)

theorem keepsPatterns (t : NumericType) :
  t.KeepsPatterns
  where
  decoded fits h := by
    obtain ⟨succeeded, result, h', ends⟩ := CopyCall.decode?_ends fits
    cases h.symm.trans h'
    apply spells_of_decoding ends
  encoded fits h := by
    obtain ⟨succeeded, result, h', ends⟩ := CopyCall.encode?_ends fits
    cases h.symm.trans h'
    apply spells_of_encoding ends
  made := spells_of_decodeFresh
  madeBytes := spells_of_encodeFresh
  swapped h := by
    rw [(touched_swapWindow h).1]
    apply t.map_pattern_swapped
  swappedAll h := by
    obtain ⟨-, rfl⟩ := EStateM.Result.ok.inj h
    apply t.map_pattern_swapped

end NumericType

end NumericBytes
