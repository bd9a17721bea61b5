import NumericBytes.Proofs.Codec.Conversion

/-!
# Round trips between buffers

Units that are copied to another buffer by a conversion and back by one that undoes it
arrive as they were, wherever the three windows lie (`Conversion.Undoes.copy_copy`), and
a copy that can be undone tells its sources apart (`Conversion.Undoes.part_eq_of_agree`).
Decoding and encoding undo each other, so both hold of bytes that become values and of
values that become bytes: `encodeInto_decodeInto` and `decodeInto_encodeInto`.
-/

namespace NumericBytes

namespace Conversion

variable {α β : Type} {conversion : Conversion α β} {back : Conversion β α}

namespace Undoes

/-- Units copied to the middle and back to a target arrive as they were, and the rest of the
target stays as it is. -/
theorem copy_copy (undoes : back.Undoes conversion) {source target : List α}
    {middle copied : List β} {sourceOffset middleOffset targetOffset count : UInt64}
    (h : conversion.copy source ⟨sourceOffset, middleOffset, count⟩ middle = .ok () copied)
    (addressable : target.length < UInt64.size)
    (room : targetOffset.toNat + count.toNat * back.destinationUnit ≤ target.length) :
  ∃ result, back.copy copied ⟨middleOffset, targetOffset, count⟩ target = .ok () result
    ∧ result.length = target.length
    ∧ (∀ k < count.toNat * back.destinationUnit,
        result[targetOffset.toNat + k]? = source[sourceOffset.toNat + k]?)
    ∧ ∀ k, k < targetOffset.toNat ∨ targetOffset.toNat + count.toNat * back.destinationUnit ≤ k →
        result[k]? = target[k]?
  := by
  obtain ⟨inside, inside', -⟩ := copy_eq_ok_iff.mp h
  -- The window that is written in the middle is the one that is read on the way back.
  have same : back.read ⟨middleOffset, targetOffset, count⟩
      = conversion.written ⟨sourceOffset, middleOffset, count⟩ := by
    rw [read, undoes.sourceUnit]
    rfl
  have insideMiddle : (back.read ⟨middleOffset, targetOffset, count⟩).Inside copied.length := by
    rw [same, length_copy h]
    apply inside'
  have insideTarget : (back.written ⟨middleOffset, targetOffset, count⟩).Inside target.length :=
    .ofAddressable addressable room
  obtain ⟨result, hback⟩ :
      ∃ result, back.copy copied ⟨middleOffset, targetOffset, count⟩ target = .ok () result :=
    ⟨_, copy_eq_ok_iff.mpr ⟨insideMiddle, insideTarget, rfl⟩⟩
  use result, hback, length_copy hback
  constructor
  · intro k hk
    apply Eq.trans (getElem?_copy_inside hback hk)
    rw [same, part_copy h, undoes.convert (length_part_read inside)]
    apply getElem?_part_read
    rw [← undoes.destinationUnit]
    apply hk
  · intro k hk
    apply getElem?_copy_outside hback hk

/-- Sources of which copies agree agree themselves, in the windows that were read. -/
theorem part_eq_of_agree (undoes : back.Undoes conversion) {source source' : List α}
    {destination destination' result result' : List β} {request request' : Request}
    (h : conversion.copy source request destination = .ok () result)
    (h' : conversion.copy source' request' destination' = .ok () result')
    (hcount : request'.count = request.count)
    (agree : ∀ k < request.count.toNat * conversion.destinationUnit,
      result'[request'.destinationOffset.toNat + k]?
        = result[request.destinationOffset.toNat + k]?) :
  (conversion.read request').part source' = (conversion.read request).part source
  := by
  obtain ⟨inside, -, -⟩ := copy_eq_ok_iff.mp h
  obtain ⟨inside', -, -⟩ := copy_eq_ok_iff.mp h'
  have converted : (conversion.written request').part result'
      = (conversion.written request).part result := by
    have size' : (conversion.written request').stop - (conversion.written request').start
        = request.count.toNat * conversion.destinationUnit := by
      rw [← hcount]
      apply Window.size_span
    apply Window.part_congr (Window.span_ordered ..) (Window.span_ordered ..) size'
      (Window.size_span ..) agree
  rw [part_copy h, part_copy h', hcount] at converted
  rw [← undoes.convert (length_part_read inside), ← converted, ← hcount,
    undoes.convert (length_part_read inside')]

end Undoes

end Conversion

namespace NumericType

/-- Bytes that are decoded and encoded again in the same order arrive as they were: the
encoding succeeds if the target, whose length is a 64-bit word, has room for them, and changes
no other byte. -/
theorem encodeInto_decodeInto (t : NumericType) (order : ByteOrder) {source target : List UInt8}
    {values decoded : List t.Value} {sourceOffset middleOffset targetOffset count : UInt64}
    (decoding : t.decodeInto order source ⟨sourceOffset, middleOffset, count⟩ values
      = .ok () decoded)
    (addressable : target.length < UInt64.size)
    (room : targetOffset.toNat + count.toNat * t.width ≤ target.length) :
  ∃ result, t.encodeInto order decoded ⟨middleOffset, targetOffset, count⟩ target = .ok () result
    ∧ result.length = target.length
    ∧ (∀ k < count.toNat * t.width,
        result[targetOffset.toNat + k]? = source[sourceOffset.toNat + k]?)
    ∧ ∀ k, k < targetOffset.toNat ∨ targetOffset.toNat + count.toNat * t.width ≤ k →
        result[k]? = target[k]?
  := by
  rw [decodeInto_eq_copy] at decoding
  rw [encodeInto_eq_copy]
  apply (t.encoding_undoes_decoding order).copy_copy decoding addressable room

/-- The bytes of a signalling NaN arrive as they were from an odd offset, and the bytes around
them stay. -/
theorem encodeInto_decodeInto_signalling :
  float32.decodeInto .big [0, 0x7f, 0xa0, 0, 1, 0xff] ⟨1, 1, 1⟩ [⟨0⟩, ⟨0⟩]
      = .ok () [⟨0⟩, ⟨0x7fa00001⟩]
    ∧ ∃ result, float32.encodeInto .big [⟨0⟩, ⟨0x7fa00001⟩] ⟨1, 2, 1⟩ [9, 9, 9, 9, 9, 9, 9]
        = .ok () result
      ∧ result.length = 7
      ∧ (∀ k < 4, result[2 + k]? = [0x7f, 0xa0, 0, 1][k]?)
      ∧ result[1]? = some 9
      ∧ result[6]? = some 9
  := by
  have decoding : float32.decodeInto .big [0, 0x7f, 0xa0, 0, 1, 0xff] ⟨1, 1, 1⟩ [⟨0⟩, ⟨0⟩]
      = .ok () [⟨0⟩, ⟨0x7fa00001⟩] := rfl
  have addressable : [(9 : UInt8), 9, 9, 9, 9, 9, 9].length < UInt64.size := by decide
  have room : (2 : UInt64).toNat + (1 : UInt64).toNat * float32.width
      ≤ [(9 : UInt8), 9, 9, 9, 9, 9, 9].length := by decide
  obtain ⟨result, h, length, inside, outside⟩ :=
    encodeInto_decodeInto float32 .big decoding addressable room
  use decoding, result, h, length
  constructor
  · intro k hk
    apply Eq.trans (inside k hk)
    decide +revert
  · use outside 1 (by decide)
    apply outside 6 (by decide)

/-- Values that are encoded and decoded again in the same order arrive as they were: the
decoding succeeds if its buffer, whose length is a 64-bit word, has room for them, and changes
no other value.  Hence equal bytes come of equal values only. -/
theorem decodeInto_encodeInto (t : NumericType) (order : ByteOrder) {source : List t.Value}
    {bytes encoded : List UInt8} {sourceOffset middleOffset count : UInt64}
    (encoding : t.encodeInto order source ⟨sourceOffset, middleOffset, count⟩ bytes
      = .ok () encoded) :
  (∀ (target : List t.Value) (targetOffset : UInt64), target.length < UInt64.size →
    targetOffset.toNat + count.toNat ≤ target.length →
    ∃ result, t.decodeInto order encoded ⟨middleOffset, targetOffset, count⟩ target = .ok () result
      ∧ result.length = target.length
      ∧ (∀ j < count.toNat, result[targetOffset.toNat + j]? = source[sourceOffset.toNat + j]?)
      ∧ ∀ i, i < targetOffset.toNat ∨ targetOffset.toNat + count.toNat ≤ i → result[i]? = target[i]?)
  ∧ ∀ (source' : List t.Value) (bytes' encoded' : List UInt8)
      (sourceOffset' middleOffset' : UInt64),
      t.encodeInto order source' ⟨sourceOffset', middleOffset', count⟩ bytes' = .ok () encoded' →
      (∀ k < count.toNat * t.width,
        encoded'[middleOffset'.toNat + k]? = encoded[middleOffset.toNat + k]?) →
      ∀ j < count.toNat, source'[sourceOffset'.toNat + j]? = source[sourceOffset.toNat + j]?
  := by
  rw [encodeInto_eq_copy] at encoding
  constructor
  · intro target targetOffset addressable room
    rw [decodeInto_eq_copy]
    have room' : targetOffset.toNat + count.toNat * (t.decoding order).destinationUnit
        ≤ target.length := by
      rw [decoding, Nat.mul_one]
      apply room
    have h := (t.decoding_undoes_encoding order).copy_copy encoding addressable room'
    simpa [decoding] using h
  · intro source' bytes' encoded' sourceOffset' middleOffset' encoding' agree j hj
    rw [encodeInto_eq_copy] at encoding'
    have h := (t.decoding_undoes_encoding order).part_eq_of_agree encoding encoding' rfl agree
    rw [← Nat.mul_one count.toNat] at hj
    have hread := congrArg (·[j]?) h
    rw [Conversion.getElem?_part_read hj, Conversion.getElem?_part_read hj] at hread
    apply hread

/-- The extreme values of a type arrive as they were, and another buffer with their bytes holds
the same values. -/
theorem decodeInto_encodeInto_extremes :
  int16.encodeInto .little [-1, -0x8000, 0x7fff] ⟨1, 1, 2⟩ [9, 9, 9, 9, 9, 9]
      = .ok () [9, 0, 0x80, 0xff, 0x7f, 9]
    ∧ (∃ result, int16.decodeInto .little [9, 0, 0x80, 0xff, 0x7f, 9] ⟨1, 2, 2⟩ [5, 5, 5, 5, 5]
        = .ok () result
      ∧ result.length = 5
      ∧ result[2]? = some (-0x8000 : Int16)
      ∧ result[3]? = some (0x7fff : Int16)
      ∧ result[4]? = some (5 : Int16))
    ∧ ∀ j < 2, [(-0x8000 : Int16), 0x7fff, 2][0 + j]? = [(-1 : Int16), -0x8000, 0x7fff][1 + j]?
  := by
  have encoding : int16.encodeInto .little [-1, -0x8000, 0x7fff] ⟨1, 1, 2⟩ [9, 9, 9, 9, 9, 9]
      = .ok () [9, 0, 0x80, 0xff, 0x7f, 9] := rfl
  obtain ⟨back, injective⟩ := decodeInto_encodeInto int16 .little encoding
  use encoding
  constructor
  · obtain ⟨result, h, length, inside, outside⟩ :=
      back [5, 5, 5, 5, 5] 2 (by decide) (by decide)
    use result, h, length, inside 0 (by decide), inside 1 (by decide)
    apply outside 4 (by decide)
  · apply injective [-0x8000, 0x7fff, 2] [9, 9, 9, 9] [0, 0x80, 0xff, 0x7f] 0 0 rfl
    decide

end NumericType

end NumericBytes
