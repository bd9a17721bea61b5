import NumericBytes.Proofs.Codec.Primitives

/-!
# Copies that fill their buffers

What a copy makes of a window of its source in a buffer that it fills does not depend on what the
buffer has held: it is what `Conversion.fresh` makes of the window alone (`finish_copy`).  Copies
into fresh buffers make just that, so that they agree with the copies that fill a buffer of the
same size in what they make and in how they fail; and as the conversions undo each other, a fresh
copy of a fresh copy is the window of the first source (`Undoes.fresh_fresh`).  The main statement
is `fresh_copies_agree_and_invert`.
-/

namespace NumericBytes

/-- Units of at least a byte that are allocatable are fewer than the words. -/
theorem Allocatable.addressable {α : Type} {unit : Nat} {units : List α}
    (h : Allocatable unit units) (positive : 0 < unit) :
  units.length < UInt64.size
  := by
  have bytes : units.length ≤ units.length * unit := Nat.le_mul_of_pos_right _ positive
  apply Nat.lt_of_le_of_lt bytes
  apply Nat.lt_trans h (by decide)

/-! ### Windows that are whole buffers -/

namespace Window

variable {α : Type} {w : Window} {units : List α}

theorem part_whole (start : w.start = 0) (stop : w.stop = units.length) :
  w.part units = units
  := by
  rw [part, start, stop, List.take_length, List.drop_zero]

theorem splice_whole (start : w.start = 0) (stop : w.stop = units.length) (inserted : List α) :
  w.splice inserted units = inserted
  := by
  rw [splice, start, stop, List.take_zero, List.drop_length, List.nil_append, List.append_nil]

/-- A window that is as long as its buffer, from the beginning on, is the whole buffer. -/
theorem stop_span_zero (count : UInt64) (unit : Nat) :
  (span 0 count unit).stop = count.toNat * unit
  := Nat.zero_add _

end Window

open Window

/-! ### Conversions of windows -/

namespace Conversion

variable {α β : Type} {conversion : Conversion α β} {source : List α} {destination : List β}
  {offset count : UInt64}

/-- The units of a window of a source, converted, or the refusal of the window. -/
def fresh (conversion : Conversion α β) (source : List α) (offset count : UInt64) :
    Except Failure (List β) :=
  match fit .source offset count conversion.sourceUnit source.length with
  | .error failure => .error failure
  | .ok read => .ok (conversion.convert count.toNat (read.part source))

theorem fresh_eq_ok_iff {made : List β} :
  conversion.fresh source offset count = .ok made
    ↔ (span offset count conversion.sourceUnit).Inside source.length
      ∧ made = conversion.convert count.toNat
          ((span offset count conversion.sourceUnit).part source)
  := by
  rw [fresh]
  rcases fit_cases .source offset count conversion.sourceUnit source.length with
    ⟨hread, inside⟩ | ⟨cause, hread⟩
  · rw [hread]
    simp only [Except.ok.injEq, inside, true_and]
    apply eq_comm
  · rw [hread]
    simp only [reduceCtorEq, false_iff, not_and]
    intro inside
    rw [fit_of_inside inside] at hread
    contradiction

/-- What is made takes as many units as its values do. -/
theorem length_fresh {made : List β} (h : conversion.fresh source offset count = .ok made) :
  made.length = count.toNat * conversion.destinationUnit
  := by
  obtain ⟨inside, rfl⟩ := fresh_eq_ok_iff.mp h
  apply conversion.length_convert
  rw [length_part inside.stop_le, size_span]

/-- A copy that fills its buffer ends with what is made of the window of the source, whatever the
buffer has held, and is refused if the window is. -/
theorem finish_copy (filled : destination.length = count.toNat * conversion.destinationUnit)
    (word : (span offset count conversion.sourceUnit).Inside source.length →
      destination.length < UInt64.size) :
  Edit.finish (conversion.copy source ⟨offset, 0, count⟩) destination
    = conversion.fresh source offset count
  := by
  rcases fit_cases .source offset count conversion.sourceUnit source.length with
    ⟨-, inside⟩ | ⟨cause, hread⟩
  · have stop : (conversion.written ⟨offset, 0, count⟩).stop = destination.length := by
      rw [filled]
      apply stop_span_zero
    have inside' : (conversion.written ⟨offset, 0, count⟩).Inside destination.length :=
      .ofAddressable (word inside) (Nat.le_of_eq stop)
    have copied : conversion.copy source ⟨offset, 0, count⟩ destination
        = .ok () (conversion.convert count.toNat
            ((span offset count conversion.sourceUnit).part source)) := by
      apply copy_eq_ok_iff.mpr
      use inside, inside'
      symm
      apply splice_whole rfl stop
    symm
    rw [Edit.finish, copied]
    apply fresh_eq_ok_iff.mpr ⟨inside, rfl⟩
  · rw [Edit.finish, copy_of_unread hread, fresh, hread]

/-- A copy of a whole buffer to one that it fills puts the units there, converted. -/
theorem copy_whole (whole : source.length = count.toNat * conversion.sourceUnit)
    (filled : destination.length = count.toNat * conversion.destinationUnit)
    (word : source.length < UInt64.size) (word' : destination.length < UInt64.size) :
  conversion.copy source ⟨0, 0, count⟩ destination
    = .ok () (conversion.convert count.toNat source)
  := by
  have stop : (conversion.read ⟨0, 0, count⟩).stop = source.length := by
    rw [whole]
    apply stop_span_zero
  have stop' : (conversion.written ⟨0, 0, count⟩).stop = destination.length := by
    rw [filled]
    apply stop_span_zero
  apply copy_eq_ok_iff.mpr
  use .ofAddressable word (Nat.le_of_eq stop), .ofAddressable word' (Nat.le_of_eq stop')
  rw [splice_whole rfl stop', part_whole rfl stop]

/-- What is made of all that has been made of a window is the window. -/
theorem Undoes.fresh_fresh {back : Conversion β α} (undoes : back.Undoes conversion)
    {made : List β} (h : conversion.fresh source offset count = .ok made)
    (word : made.length < UInt64.size) :
  back.fresh made 0 count = .ok ((span offset count conversion.sourceUnit).part source)
  := by
  have stop : (span 0 count back.sourceUnit).stop = made.length := by
    rw [stop_span_zero, length_fresh h, undoes.sourceUnit]
  obtain ⟨inside, rfl⟩ := fresh_eq_ok_iff.mp h
  apply fresh_eq_ok_iff.mpr
  use .ofAddressable word (Nat.le_of_eq stop)
  rw [part_whole rfl stop, undoes.convert]
  rw [length_part inside.stop_le, size_span]

end Conversion

/-! ### Fresh copies -/

namespace NumericType

variable {t : NumericType} {offset count : UInt64}

theorem decodeFresh_eq_fresh (t : NumericType) {source : List UInt8}
    (allocatable : Allocatable 1 source) (offset count : UInt64) :
  t.decodeFresh source offset count = (t.decoding .native).fresh source offset count
  := t.decodeFresh_apply allocatable offset count

theorem encodeFresh_eq_fresh (t : NumericType) {source : List t.Value}
    (allocatable : Allocatable t.width source) (offset count : UInt64) :
  t.encodeFresh source offset count = (t.encoding .native).fresh source offset count
  := t.encodeFresh_apply allocatable offset count

/-- A fresh decoding ends as the decoding that fills a buffer for as many values. -/
theorem decodeFresh_eq_finish {source : List UInt8} (allocatable : Allocatable 1 source)
    {destination : List t.Value} (filled : destination.length = count.toNat) :
  t.decodeFresh source offset count
    = Edit.finish (t.decodeNative source ⟨offset, 0, count⟩) destination
  := by
  symm
  rw [t.decodeFresh_eq_fresh allocatable, decodeNative_eq_copy]
  apply Conversion.finish_copy
  · rw [filled]
    symm
    apply Nat.mul_one
  · intro _
    rw [filled]
    apply count.toNat_lt_size

/-- A fresh encoding ends as the encoding that fills a buffer for the bytes of as many values. -/
theorem encodeFresh_eq_finish {source : List t.Value} (allocatable : Allocatable t.width source)
    {destination : List UInt8} (filled : destination.length = count.toNat * t.width) :
  t.encodeFresh source offset count
    = Edit.finish (t.encodeNative source ⟨offset, 0, count⟩) destination
  := by
  symm
  rw [t.encodeFresh_eq_fresh allocatable, encodeNative_eq_copy]
  apply Conversion.finish_copy filled
  intro inside
  rw [filled]
  -- The values are in the source, so that their bytes are among those it occupies.
  apply Nat.lt_trans (fresh_encoding_small allocatable (fit_of_inside inside)) (by decide)

/-- Values that have been decoded from a window of bytes are encoded as that window. -/
theorem encodeFresh_decodeFresh {source : List UInt8} {values : List t.Value}
    (allocatable : Allocatable 1 source)
    (decoded : t.decodeFresh source offset count = .ok values) :
  t.encodeFresh values 0 count = .ok ((span offset count t.width).part source)
  := by
  have made := allocatable_decodeFresh allocatable decoded
  rw [t.decodeFresh_eq_fresh allocatable] at decoded
  rw [t.encodeFresh_eq_fresh made]
  apply (t.encoding_undoes_decoding .native).fresh_fresh decoded
  apply made.addressable t.width_pos

/-- Bytes that have been encoded from a window of values are decoded as that window. -/
theorem decodeFresh_encodeFresh {source : List t.Value} {bytes : List UInt8}
    (allocatable : Allocatable t.width source)
    (encoded : t.encodeFresh source offset count = .ok bytes) :
  t.decodeFresh bytes 0 count = .ok ((span offset count 1).part source)
  := by
  have made := allocatable_encodeFresh allocatable encoded
  rw [t.encodeFresh_eq_fresh allocatable] at encoded
  rw [t.decodeFresh_eq_fresh made]
  apply (t.decoding_undoes_encoding .native).fresh_fresh encoded
  apply made.addressable Nat.one_pos

/-- A copy into a fresh buffer, of a source that is no larger than a buffer may be, ends as the copy
that fills a buffer of the same size, whatever that one has held: it makes the same units, or fails
for the same reason.  A fresh copy of all that a fresh copy has made is the window of the source. -/
theorem fresh_copies_agree_and_invert (t : NumericType) :
  (∀ {source : List UInt8}, Allocatable 1 source → ∀ offset count : UInt64,
    (∀ destination : List t.Value, destination.length = count.toNat →
      t.decodeFresh source offset count
        = Edit.finish (t.decodeNative source ⟨offset, 0, count⟩) destination)
    ∧ ∀ values, t.decodeFresh source offset count = .ok values →
      t.encodeFresh values 0 count = .ok ((span offset count t.width).part source))
  ∧ ∀ {source : List t.Value}, Allocatable t.width source → ∀ offset count : UInt64,
    (∀ destination : List UInt8, destination.length = count.toNat * t.width →
      t.encodeFresh source offset count
        = Edit.finish (t.encodeNative source ⟨offset, 0, count⟩) destination)
    ∧ ∀ bytes, t.encodeFresh source offset count = .ok bytes →
      bytes.length = count.toNat * t.width
        ∧ t.decodeFresh bytes 0 count = .ok ((span offset count 1).part source)
  := by
  constructor
  · intro source allocatable offset count
    constructor
    · intro destination filled
      apply decodeFresh_eq_finish allocatable filled
    · intro values decoded
      apply encodeFresh_decodeFresh allocatable decoded
  · intro source allocatable offset count
    constructor
    · intro destination filled
      apply encodeFresh_eq_finish allocatable filled
    · intro bytes encoded
      constructor
      · rw [t.encodeFresh_eq_fresh allocatable] at encoded
        apply Conversion.length_fresh encoded
      · apply decodeFresh_encodeFresh allocatable encoded

/-- A signalling NaN is decoded from an odd offset over whatever there was, and its bytes are made
of it again; a window that ends beyond the values is refused by both copies of it. -/
theorem fresh_copies_agree_and_invert_signalling :
  (float32.decodeFresh [9, 1, 0, 0xa0, 0x7f] 1 1 = .ok [⟨0x7fa00001⟩]
    ∧ Edit.finish (float32.decodeNative [9, 1, 0, 0xa0, 0x7f] ⟨1, 0, 1⟩) [⟨0xffffffff⟩]
      = .ok [⟨0x7fa00001⟩]
    ∧ float32.encodeFresh [⟨0x7fa00001⟩] 0 1 = .ok [1, 0, 0xa0, 0x7f])
  ∧ (float32.encodeFresh [⟨5⟩] 1 1
      = Edit.finish (float32.encodeNative [⟨5⟩] ⟨1, 0, 1⟩) [1, 2, 3, 4]
    ∧ float32.encodeFresh [⟨5⟩, ⟨0x7fa00001⟩] 1 1 = .ok [1, 0, 0xa0, 0x7f]
    ∧ float32.decodeFresh [1, 0, 0xa0, 0x7f] 0 1 = .ok [⟨0x7fa00001⟩])
  := by
  obtain ⟨decodes, encodes⟩ := fresh_copies_agree_and_invert float32
  have bytes : Allocatable 1 [(9 : UInt8), 1, 0, 0xa0, 0x7f] := by unfold Allocatable; decide
  have one : Allocatable float32.width [(⟨5⟩ : Binary32)] := by unfold Allocatable; decide
  have two : Allocatable float32.width [(⟨5⟩ : Binary32), ⟨0x7fa00001⟩] := by
    unfold Allocatable; decide
  have decoded : float32.decodeFresh [9, 1, 0, 0xa0, 0x7f] 1 1 = .ok [⟨0x7fa00001⟩] := rfl
  have encoded : float32.encodeFresh [⟨5⟩, ⟨0x7fa00001⟩] 1 1 = .ok [1, 0, 0xa0, 0x7f] := rfl
  constructor
  · obtain ⟨agree, invert⟩ := decodes bytes 1 1
    use decoded, (agree [⟨0xffffffff⟩] rfl).symm.trans decoded
    apply invert _ decoded
  · use (encodes one 1 1).1 [1, 2, 3, 4] rfl, encoded
    apply ((encodes two 1 1).2 _ encoded).2

end NumericType

end NumericBytes
