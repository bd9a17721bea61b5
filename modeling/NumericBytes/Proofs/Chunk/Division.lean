import NumericBytes.Proofs.Chunk.Basic
import NumericBytes.Proofs.Codec.Elements
import NumericBytes.Proofs.Codec.Parity

/-!
# Copies and swaps in chunks

A conversion is `Conversion.Additive` if it converts values apart from each other.  Then a piece of
a copy writes in its window what the copy of all the values writes there
(`Conversion.changes_piece`), and a piece of a swap swaps the values in its window
(`NumericType.changes_swap`).  So copies in both directions and swaps may be cut into chunks, which
are carried out in any order: `copies_and_swaps_are_divisible`.
-/

namespace NumericBytes

open Chunk

/-! ### Conversions of values apart from each other -/

namespace Conversion

variable {α β : Type} {conversion : Conversion α β} {source : List α}
  {sourceOffset destinationOffset count : UInt64} {destination after : List β} {chunk : Chunk}

/-- Values that stand in front of others are converted apart from them. -/
def Additive (conversion : Conversion α β) : Prop :=
  ∀ (n m : Nat) (front back : List α), front.length = n * conversion.sourceUnit →
    conversion.convert (n + m) (front ++ back)
      = conversion.convert n front ++ conversion.convert m back

/-- Of the units of converted values, those of a chunk are made from the units of the chunk. -/
theorem Additive.getElem?_convert (additive : conversion.Additive) {n passed size k : Nat}
    {units : List α} (length : units.length = n * conversion.sourceUnit)
    (within : passed + size ≤ n) (hk : k < size * conversion.destinationUnit) :
  (conversion.convert n units)[passed * conversion.destinationUnit + k]?
    = (conversion.convert size ((units.drop (passed * conversion.sourceUnit)).take
        (size * conversion.sourceUnit)))[k]?
  := by
  obtain ⟨rest, rfl⟩ := Nat.exists_eq_add_of_le within
  rw [Nat.add_mul, Nat.add_mul] at length
  let front := units.take (passed * conversion.sourceUnit)
  let middle := (units.drop (passed * conversion.sourceUnit)).take (size * conversion.sourceUnit)
  let back := (units.drop (passed * conversion.sourceUnit)).drop (size * conversion.sourceUnit)
  have hfront : front.length = passed * conversion.sourceUnit := by
    rw [List.length_take]
    omega
  have hmiddle : middle.length = size * conversion.sourceUnit := by
    rw [List.length_take, List.length_drop]
    omega
  have whole : front ++ (middle ++ back) = units := by
    rw [List.take_append_drop, List.take_append_drop]
  have converted : conversion.convert (passed + size + rest) units
      = conversion.convert passed front
        ++ (conversion.convert size middle ++ conversion.convert rest back) := by
    rw [← whole, Nat.add_assoc, additive _ _ _ _ hfront, additive _ _ _ _ hmiddle]
  have hfront' := conversion.length_convert hfront
  rw [converted, List.getElem?_append_right (by rw [hfront']; apply Nat.le_add_right), hfront',
    Nat.add_sub_cancel_left,
    List.getElem?_append_left (by rwa [conversion.length_convert hmiddle])]

/-! ### Copies of chunks -/

/-- The piece of a copy for a chunk. -/
def piece (conversion : Conversion α β) (source : List α) (sourceOffset destinationOffset : UInt64)
    (chunk : Chunk) : Edit (List β) Unit :=
  conversion.copy source
    ⟨chunk.offset sourceOffset conversion.sourceUnit,
      chunk.offset destinationOffset conversion.destinationUnit, chunk.size⟩

/-- The piece of a copy for a chunk can be addressed in both buffers. -/
def PieceAddressed (conversion : Conversion α β) (sourceOffset destinationOffset : UInt64)
    (chunk : Chunk) : Prop :=
  chunk.Addressed sourceOffset conversion.sourceUnit
    ∧ chunk.Addressed destinationOffset conversion.destinationUnit

/-- A piece that can be addressed succeeds exactly if its windows lie inside both buffers, and
then reads the window of the chunk in the one and writes that in the other. -/
theorem piece_eq_ok_iff
    (addressed : conversion.PieceAddressed sourceOffset destinationOffset chunk) :
  conversion.piece source sourceOffset destinationOffset chunk destination = .ok () after
    ↔ (chunk.window sourceOffset conversion.sourceUnit).Inside source.length
      ∧ (chunk.window destinationOffset conversion.destinationUnit).Inside destination.length
      ∧ after = (chunk.window destinationOffset conversion.destinationUnit).splice
          (conversion.convert chunk.size.toNat
            ((chunk.window sourceOffset conversion.sourceUnit).part source)) destination
  := by
  rw [piece, copy_eq_ok_iff, read, written, span_offset addressed.1, span_offset addressed.2]

theorem read_piece (addressed : chunk.Addressed sourceOffset conversion.sourceUnit)
    {destinationOffset : UInt64} :
  conversion.read ⟨chunk.offset sourceOffset conversion.sourceUnit,
      destinationOffset, chunk.size⟩
    = chunk.window sourceOffset conversion.sourceUnit
  := span_offset addressed

/-- What is read for a chunk is taken out of what is read for all the values. -/
theorem part_chunk (within : chunk.passed + chunk.size.toNat ≤ count.toNat) (unit : Nat) :
  (chunk.window sourceOffset unit).part source
    = (((Window.span sourceOffset count unit).part source).drop (chunk.passed * unit)).take
        (chunk.size.toNat * unit)
  := by
  have room : (chunk.passed + chunk.size.toNat) * unit ≤ count.toNat * unit :=
    Nat.mul_le_mul_right _ within
  rw [Nat.add_mul] at room
  rw [Window.take_drop_part]
  · rw [Window.part, window, List.drop_take, Nat.add_mul, ← Nat.add_assoc, Nat.add_sub_cancel_left]
    rfl
  · change sourceOffset.toNat + chunk.passed * unit + chunk.size.toNat * unit
      ≤ sourceOffset.toNat + count.toNat * unit
    omega

/-- A copy makes the units in the window of a chunk from what is read for the chunk. -/
theorem getElem?_copy_chunk (additive : conversion.Additive)
    (h : conversion.copy source ⟨sourceOffset, destinationOffset, count⟩ destination
      = .ok () after)
    (within : chunk.passed + chunk.size.toNat ≤ count.toNat) {k : Nat}
    (hk : k < chunk.size.toNat * conversion.destinationUnit) :
  after[destinationOffset.toNat + chunk.passed * conversion.destinationUnit + k]?
    = (conversion.convert chunk.size.toNat
        ((chunk.window sourceOffset conversion.sourceUnit).part source))[k]?
  := by
  obtain ⟨inside, -, -⟩ := copy_eq_ok_iff.mp h
  have reached : chunk.passed * conversion.destinationUnit + k
      < count.toNat * conversion.destinationUnit := by
    have room := Nat.mul_le_mul_right conversion.destinationUnit within
    rw [Nat.add_mul] at room
    omega
  rw [Nat.add_assoc, part_chunk within]
  apply Eq.trans (getElem?_copy_inside h reached)
  apply additive.getElem?_convert (length_part_read inside) within hk

/-- A piece of a copy that succeeds for all the values can be addressed, succeeds too, and makes of
the units in its window what the copy makes of them. -/
theorem changes_piece (additive : conversion.Additive)
    (h : conversion.copy source ⟨sourceOffset, destinationOffset, count⟩ destination
      = .ok () after)
    (within : chunk.passed + chunk.size.toNat ≤ count.toNat) :
  conversion.PieceAddressed sourceOffset destinationOffset chunk
    ∧ Edit.Changes destination.length (chunk.window destinationOffset conversion.destinationUnit)
      (fun i _ => after[i]?) (conversion.piece source sourceOffset destinationOffset chunk)
  := by
  obtain ⟨inside, inside', -⟩ := copy_eq_ok_iff.mp h
  obtain ⟨addressed, read⟩ := inside_of_span within inside
  obtain ⟨addressed', written⟩ := inside_of_span within inside'
  use ⟨addressed, addressed'⟩
  intro before same
  rw [← same] at written
  obtain ⟨result, hpiece⟩ :
      ∃ result, conversion.piece source sourceOffset destinationOffset chunk before
        = .ok () result :=
    ⟨_, (piece_eq_ok_iff ⟨addressed, addressed'⟩).mpr ⟨read, written, rfl⟩⟩
  use result, hpiece, Eq.trans (length_copy hpiece) same
  intro i
  by_cases covers : i ∈ chunk.window destinationOffset conversion.destinationUnit
  · rw [if_pos covers]
    -- The piece and the copy make the unit from the same part of the source.
    obtain ⟨first, last⟩ := Window.mem_iff.mp covers
    obtain ⟨k, rfl⟩ := Nat.exists_eq_add_of_le first
    have hk : k < chunk.size.toNat * conversion.destinationUnit := by
      change destinationOffset.toNat + _ + k < destinationOffset.toNat + _ at last
      rw [Nat.add_mul] at last
      omega
    apply Eq.trans _ (getElem?_copy_chunk additive h within hk).symm
    have inner := getElem?_copy_inside hpiece hk
    rw [toNat_offset addressed', read_piece addressed] at inner
    apply inner
  · rw [if_neg covers]
    rw [← span_offset addressed'] at covers
    apply sameOutside_copy hpiece i covers

/-! ### Copies in chunks -/

theorem judged_piece (conversion : Conversion α β) (source : List α)
    (sourceOffset destinationOffset : UInt64) (chunk : Chunk) :
  Edit.Judged List.length (conversion.piece source sourceOffset destinationOffset chunk)
  := by
  constructor
  · intro before
    apply conserves_copy
  · intro before before' same
    rw [piece, failure?_copy, failure?_copy, same]

/-- A copy leaves in its window what it leaves there, whatever has been there before. -/
theorem cells_copy {request : Request}
    (h : conversion.copy source request destination = .ok () after) (i : Nat) :
  after[i]? = if i ∈ conversion.written request then after[i]? else destination[i]?
  := by
  split
  · rfl
  · rename_i uncovered
    apply sameOutside_copy h i uncovered

/-- A copy of values that are converted apart from each other may be cut into chunks. -/
theorem divisible_copy (additive : conversion.Additive) (unit_pos : 0 < conversion.sourceUnit)
    (source : List α) (sourceOffset destinationOffset : UInt64) (sizes : List UInt64)
    (destination : List β) :
  Edit.Divisible
    (fun count => conversion.copy source ⟨sourceOffset, destinationOffset, count⟩)
    (conversion.piece source sourceOffset destinationOffset)
    (conversion.PieceAddressed sourceOffset destinationOffset) sizes destination
  := by
  apply Edit.Divisible.ofPieces (judged_piece conversion source sourceOffset destinationOffset)
  · intro count after h chunk within
    apply changes_piece additive h within
  · intro count after h
    apply cells_copy h
  · intro chunk result addressed h
    obtain ⟨read, written, -⟩ := (piece_eq_ok_iff addressed).mp h
    obtain ⟨count, hcount⟩ := exists_count unit_pos read
    exact ⟨count, _, hcount, copy_eq_ok_iff.mpr
      ⟨span_inside_of_last hcount read, span_inside_of_last hcount written, rfl⟩⟩

end Conversion

namespace NumericType

variable {t : NumericType}

/-! ### Decoding and encoding -/

theorem decode_append (t : NumericType) (order : ByteOrder) {n : Nat} (m : Nat)
    {front : List UInt8} (back : List UInt8) (length : front.length = n * t.width) :
  t.decode order (n + m) (front ++ back) = t.decode order n front ++ t.decode order m back
  := by
  induction n generalizing front with
  | zero =>
    rw [Nat.zero_mul, List.length_eq_zero_iff] at length
    rw [length, Nat.zero_add, List.nil_append]
    rfl
  | succ n ih =>
    rw [Nat.succ_mul] at length
    have first : t.width ≤ front.length := by omega
    have rest : (front.drop t.width).length = n * t.width := by
      rw [List.length_drop]
      omega
    rw [Nat.succ_add, decode, decode, List.take_append_of_le_length first,
      List.drop_append_of_le_length first, ih rest, List.cons_append]

theorem additive_decoding (t : NumericType) (order : ByteOrder) :
  (t.decoding order).Additive
  := by
  intro n m front back length
  apply t.decode_append order m back length

theorem additive_encoding (t : NumericType) (order : ByteOrder) :
  (t.encoding order).Additive
  := by
  intro n m front back _
  apply List.flatMap_append

/-! ### Swaps in chunks -/

/-- A swap whose window lies inside the buffers of some length swaps the values in the window. -/
theorem changes_swap {swap : Swap} {length : Nat} (inside : swap.window.Inside length) :
  Edit.Changes length swap.window (fun _ => Option.map t.swapped) (t.swap swap)
  := by
  rintro before rfl
  have h := t.swapWindow_of_inside inside
  use swap.window.splice ((swap.window.part before).map t.swapped) before, h,
    (t.conserves_swapWindow swap.offset swap.count before).kept h
  intro i
  have cell := getElem?_swap swap before i
  rw [reaches, show t.swap swap before = _ from h] at cell
  apply Eq.trans cell
  apply if_congr
  · exact decide_eq_true_iff
  · rfl
  · rfl

/-- The swap of the values in a chunk. -/
def swapChunk (t : NumericType) (start : UInt64) (chunk : Chunk) : Edit (List t.Value) Unit :=
  t.swapWindow (chunk.offset start 1) chunk.size

/-- A swap may be cut into chunks. -/
theorem divisible_swap (t : NumericType) (start : UInt64) (sizes : List UInt64)
    (values : List t.Value) :
  Edit.Divisible (t.swapWindow start) (t.swapChunk start) (fun chunk => chunk.Addressed start 1)
    sizes values
  := by
  apply Edit.Divisible.ofPieces fun chunk => t.judged_swap ⟨chunk.offset start 1, chunk.size⟩
  · intro count after h chunk within
    obtain ⟨inside, -⟩ := swapWindow_eq_ok_iff.mp h
    obtain ⟨addressed, written⟩ := inside_of_span within inside
    use addressed
    rw [← span_offset addressed] at written ⊢
    exact @changes_swap t ⟨chunk.offset start 1, chunk.size⟩ _ written
  · intro count after h
    obtain ⟨inside, -⟩ := swapWindow_eq_ok_iff.mp h
    obtain ⟨result, hresult, -, cells⟩ := @changes_swap t ⟨start, count⟩ _ inside values rfl
    obtain ⟨-, rfl⟩ := EStateM.Result.ok.inj (Eq.trans h.symm hresult)
    apply cells
  · intro chunk result addressed h
    obtain ⟨written, -⟩ := swapWindow_eq_ok_iff.mp h
    rw [span_offset addressed] at written
    obtain ⟨count, hcount⟩ := exists_count Nat.one_pos written
    exact ⟨count, _, hcount, swapWindow_eq_ok_iff.mpr ⟨span_inside_of_last hcount written, rfl⟩⟩

/-- Copies of both directions, in every byte order, and swaps may be cut into chunks.  The chunks
may be carried out in any order and do together what the whole does; and if all of them can be
addressed and succeed, the whole succeeds.  A chunk begins behind the values of the chunks in front
of it, each of which takes `t.width` bytes. -/
theorem copies_and_swaps_are_divisible (t : NumericType) (sizes : List UInt64) :
  (∀ (order : ByteOrder) (source : List UInt8) (sourceOffset destinationOffset : UInt64)
      (destination : List t.Value),
    Edit.Divisible (fun count => t.decodeInto order source ⟨sourceOffset, destinationOffset, count⟩)
      (fun chunk => t.decodeInto order source
        ⟨chunk.offset sourceOffset t.width, chunk.offset destinationOffset 1, chunk.size⟩)
      (fun chunk => chunk.Addressed sourceOffset t.width ∧ chunk.Addressed destinationOffset 1)
      sizes destination)
  ∧ (∀ (order : ByteOrder) (source : List t.Value) (sourceOffset destinationOffset : UInt64)
      (destination : List UInt8),
    Edit.Divisible (fun count => t.encodeInto order source ⟨sourceOffset, destinationOffset, count⟩)
      (fun chunk => t.encodeInto order source
        ⟨chunk.offset sourceOffset 1, chunk.offset destinationOffset t.width, chunk.size⟩)
      (fun chunk => chunk.Addressed sourceOffset 1 ∧ chunk.Addressed destinationOffset t.width)
      sizes destination)
  ∧ ∀ (offset : UInt64) (values : List t.Value),
    Edit.Divisible (fun count => t.swapWindow offset count)
      (fun chunk => t.swapWindow (chunk.offset offset 1) chunk.size)
      (fun chunk => chunk.Addressed offset 1) sizes values
  := by
  constructor
  · intro order source sourceOffset destinationOffset destination
    simp only [decodeInto_eq_copy]
    apply Conversion.divisible_copy (t.additive_decoding order) t.width_pos
  · constructor
    · intro order source sourceOffset destinationOffset destination
      simp only [encodeInto_eq_copy]
      apply Conversion.divisible_copy (t.additive_encoding order) Nat.one_pos
    · intro offset values
      apply t.divisible_swap

/-- In chunks of one, none and two, the last chunk first, three values are decoded, encoded and
swapped as they are all together; and since the swaps of the chunks succeed, so does the swap of a
count of three, with the same result. -/
theorem copies_and_swaps_are_divisible_int16 :
  (int16.decodeInto .big [9, 1, 2, 3, 4, 5, 6] ⟨1, 1, 3⟩ [7, 7, 7, 7]
      = .ok () [7, 0x0102, 0x0304, 0x0506]
    ∧ Edit.inTurn
        [int16.decodeInto .big [9, 1, 2, 3, 4, 5, 6] ⟨3, 2, 2⟩,
          int16.decodeInto .big [9, 1, 2, 3, 4, 5, 6] ⟨3, 2, 0⟩,
          int16.decodeInto .big [9, 1, 2, 3, 4, 5, 6] ⟨1, 1, 1⟩]
        [7, 7, 7, 7]
      = ([none, none, none], [7, 0x0102, 0x0304, 0x0506]))
  ∧ (int16.encodeInto .little [7, 1, -2, 0x0304] ⟨1, 1, 3⟩ [9, 9, 9, 9, 9, 9, 9, 9]
      = .ok () [9, 1, 0, 0xfe, 0xff, 4, 3, 9]
    ∧ Edit.inTurn
        [int16.encodeInto .little [7, 1, -2, 0x0304] ⟨2, 3, 2⟩,
          int16.encodeInto .little [7, 1, -2, 0x0304] ⟨2, 3, 0⟩,
          int16.encodeInto .little [7, 1, -2, 0x0304] ⟨1, 1, 1⟩]
        [9, 9, 9, 9, 9, 9, 9, 9]
      = ([none, none, none], [9, 1, 0, 0xfe, 0xff, 4, 3, 9]))
  ∧ Edit.inTurn [int16.swapWindow 2 2, int16.swapWindow 2 0, int16.swapWindow 1 1] [1, 2, 3, 4]
      = ([none, none, none], [1, 0x0200, 0x0300, 0x0400])
    ∧ ∃ count, count.toNat = 3
      ∧ int16.swapWindow 1 count [1, 2, 3, 4] = .ok () [1, 0x0200, 0x0300, 0x0400]
  := by
  obtain ⟨decoded, encoded, swapped⟩ := copies_and_swaps_are_divisible int16 [1, 0, 2]
  have decoding : int16.decodeInto .big [9, 1, 2, 3, 4, 5, 6] ⟨1, 1, 3⟩ [7, 7, 7, 7]
      = .ok () [7, 0x0102, 0x0304, 0x0506] := rfl
  have encoding :
      int16.encodeInto .little [7, 1, -2, 0x0304] ⟨1, 1, 3⟩ [9, 9, 9, 9, 9, 9, 9, 9]
        = .ok () [9, 1, 0, 0xfe, 0xff, 4, 3, 9] := rfl
  have swap : int16.swapWindow 1 3 [1, 2, 3, 4] = .ok () [1, 0x0200, 0x0300, 0x0400] := rfl
  constructor
  · use decoding
    exact ((decoded .big [9, 1, 2, 3, 4, 5, 6] 1 1 [7, 7, 7, 7]).cut 3 _ rfl decoding).2
      [⟨1, 2⟩, ⟨1, 0⟩, ⟨0, 1⟩] (by decide)
  constructor
  · use encoding
    exact ((encoded .little [7, 1, -2, 0x0304] 1 1 [9, 9, 9, 9, 9, 9, 9, 9]).cut 3 _ rfl encoding).2
      [⟨1, 2⟩, ⟨1, 0⟩, ⟨0, 1⟩] (by decide)
  constructor
  · exact ((swapped 1 [1, 2, 3, 4]).cut 3 _ rfl swap).2 [⟨1, 2⟩, ⟨1, 0⟩, ⟨0, 1⟩] (by decide)
  · have addressed : ∀ chunk ∈ ofSizes 0 [1, 0, 2], chunk.Addressed 1 1 := by
      unfold Addressed
      decide
    obtain ⟨count, after, three, whole⟩ := (swapped 1 [1, 2, 3, 4]).joined (by decide) addressed
      [⟨1, 2⟩, ⟨1, 0⟩, ⟨0, 1⟩] (by decide) rfl
    obtain rfl : count = 3 := UInt64.toNat_inj.mp three
    obtain ⟨-, rfl⟩ := EStateM.Result.ok.inj (swap.symm.trans whole)
    exact ⟨3, rfl, whole⟩

end NumericType

end NumericBytes
