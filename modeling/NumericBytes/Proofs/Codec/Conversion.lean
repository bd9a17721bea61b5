import NumericBytes.Codec.Checked
import NumericBytes.Proofs.Edit.Conservation
import NumericBytes.Proofs.Window.Contents

/-!
# Copies as conversions between windows

A `Conversion α β` converts units of one buffer to units of another: it says how many units
of each a value takes, and how the units of some values are converted.
`Conversion.copy` converts a window of a source into a window of a buffer, and
`decodeInto_eq_copy` and `encodeInto_eq_copy` say that the checked copies in both directions
are the copies of two conversions, `t.decoding order` and `t.encoding order`, of which each
undoes the other.  Of the copy of every conversion, `copy_eq_ok_iff` gives the condition of
success and the effect, `getElem?_copy_inside` and `getElem?_copy_outside` the effect at each
position, and `conserves_copy` what holds however the copy ends.
-/

namespace NumericBytes

/-- A conversion of units, `sourceUnit` for each value, to other units, `destinationUnit` for
each value. -/
structure Conversion (α β : Type) where
  sourceUnit : Nat
  destinationUnit : Nat
  /-- The units of the given number of values, converted. -/
  convert : Nat → List α → List β
  length_convert : ∀ {count units}, units.length = count * sourceUnit →
    (convert count units).length = count * destinationUnit

namespace Conversion

variable {α β : Type}

/-- The window that a request reads. -/
def read (conversion : Conversion α β) (request : Request) : Window :=
  .span request.sourceOffset request.count conversion.sourceUnit

/-- The window that a request writes. -/
def written (conversion : Conversion α β) (request : Request) : Window :=
  .span request.destinationOffset request.count conversion.destinationUnit

/-- Converts a window of `source` into a window of the buffer.  The window of the source is
checked first. -/
def copy (conversion : Conversion α β) (source : List α) (request : Request) :
    Edit (List β) Unit := fun destination =>
  match
    Window.fit .source request.sourceOffset request.count conversion.sourceUnit source.length
  with
  | .error failure => .error failure destination
  | .ok read =>
    match
      Window.fit .destination request.destinationOffset request.count conversion.destinationUnit
        destination.length
    with
    | .error failure => .error failure destination
    | .ok written =>
      .ok () <| written.splice (conversion.convert request.count.toNat (read.part source))
        destination

variable {conversion : Conversion α β} {source : List α} {request : Request}
  {destination result : List β}

/-- The units that a request reads are those of as many values as it counts. -/
theorem length_part_read (inside : (conversion.read request).Inside source.length) :
  ((conversion.read request).part source).length = request.count.toNat * conversion.sourceUnit
  := by
  rw [Window.length_part inside.stop_le, read, Window.size_span]

/-- What is put into the window that a request writes is of the size of the window. -/
theorem length_converted (inside : (conversion.read request).Inside source.length) :
  (conversion.convert request.count.toNat ((conversion.read request).part source)).length
    = (conversion.written request).stop - (conversion.written request).start
  := by
  rw [conversion.length_convert (length_part_read inside), written, Window.size_span]

/-- A copy succeeds exactly if both its windows lie inside their buffers, and then replaces
the one by the units of the other, converted. -/
theorem copy_eq_ok_iff :
  conversion.copy source request destination = .ok () result
    ↔ (conversion.read request).Inside source.length
      ∧ (conversion.written request).Inside destination.length
      ∧ result = (conversion.written request).splice
          (conversion.convert request.count.toNat ((conversion.read request).part source))
          destination
  := by
  constructor
  · intro h
    rw [copy] at h
    rcases Window.fit_cases .source request.sourceOffset request.count conversion.sourceUnit
      source.length with ⟨hread, inside⟩ | ⟨cause, hread⟩
    · rw [hread] at h
      dsimp only at h
      rcases Window.fit_cases .destination request.destinationOffset request.count
        conversion.destinationUnit destination.length with ⟨hwritten, inside'⟩ | ⟨cause, hwritten⟩
      · rw [hwritten] at h
        obtain ⟨-, rfl⟩ := EStateM.Result.ok.inj h
        use inside, inside'
        rfl
      · rw [hwritten] at h
        contradiction
    · rw [hread] at h
      contradiction
  · rintro ⟨inside, inside', rfl⟩
    rw [copy, Window.fit_of_inside inside]
    dsimp only
    rw [Window.fit_of_inside inside']
    rfl

theorem length_copy (h : conversion.copy source request destination = .ok () result) :
  result.length = destination.length
  := by
  obtain ⟨inside, inside', rfl⟩ := copy_eq_ok_iff.mp h
  apply Window.length_splice (Window.span_ordered ..) inside'.stop_le (length_converted inside)

/-- The window that was read holds the units of the source from the offset on. -/
theorem getElem?_part_read {k : Nat} (hk : k < request.count.toNat * conversion.sourceUnit) :
  ((conversion.read request).part source)[k]? = source[request.sourceOffset.toNat + k]?
  := by
  apply Window.getElem?_part
  apply Nat.add_lt_add_left hk

/-- After a copy the window that was written holds the units that were read, converted. -/
theorem part_copy (h : conversion.copy source request destination = .ok () result) :
  (conversion.written request).part result
    = conversion.convert request.count.toNat ((conversion.read request).part source)
  := by
  obtain ⟨inside, inside', rfl⟩ := copy_eq_ok_iff.mp h
  apply Window.part_splice (Window.span_ordered ..) inside'.stop_le (length_converted inside)

theorem getElem?_copy_inside (h : conversion.copy source request destination = .ok () result)
    {k : Nat} (hk : k < request.count.toNat * conversion.destinationUnit) :
  result[request.destinationOffset.toNat + k]?
    = (conversion.convert request.count.toNat ((conversion.read request).part source))[k]?
  := by
  rw [← part_copy h]
  symm
  apply Window.getElem?_part
  apply Nat.add_lt_add_left hk

/-- A copy leaves the units outside the window that it writes as they are. -/
theorem getElem?_copy_outside (h : conversion.copy source request destination = .ok () result)
    {k : Nat} (hk : k < request.destinationOffset.toNat
      ∨ request.destinationOffset.toNat + request.count.toNat * conversion.destinationUnit ≤ k) :
  result[k]? = destination[k]?
  := by
  obtain ⟨inside, inside', rfl⟩ := copy_eq_ok_iff.mp h
  apply Window.getElem?_splice_outside (Window.span_ordered ..) inside'.stop_le
    (length_converted inside) hk

/-- A copy is refused, or keeps the length of the buffer. -/
theorem conserves_copy (conversion : Conversion α β) (source : List α) (request : Request)
    (destination : List β) :
  Edited.Conserves List.length destination (conversion.copy source request destination)
  := by
  rw [copy]
  rcases Window.fit_cases .source request.sourceOffset request.count conversion.sourceUnit
    source.length with ⟨hread, inside⟩ | ⟨cause, hread⟩
  · rw [hread]
    dsimp only
    rcases Window.fit_cases .destination request.destinationOffset request.count
      conversion.destinationUnit destination.length with ⟨hwritten, inside'⟩ | ⟨cause, hwritten⟩
    · rw [hwritten]
      apply Edited.conserves_ok
      apply Window.length_splice (Window.span_ordered ..) inside'.stop_le (length_converted inside)
    · rw [hwritten]
      apply Edited.conserves_error
  · rw [hread]
    apply Edited.conserves_error

/-- A copy whose window of the source is refused fails before the destination is looked at. -/
theorem copy_of_unread {failure : Failure}
    (h : Window.fit .source request.sourceOffset request.count conversion.sourceUnit source.length
      = .error failure) :
  conversion.copy source request destination = .error failure destination
  := by
  rw [copy, h]

/-- What a copy does depends on its source through the length and the units that are read,
converted, alone. -/
theorem copy_congr {α' : Type} {conversion' : Conversion α' β} {source' : List α'}
    (sourceUnit : conversion.sourceUnit = conversion'.sourceUnit)
    (destinationUnit : conversion.destinationUnit = conversion'.destinationUnit)
    (length : source.length = source'.length)
    (converted : conversion.convert request.count.toNat ((conversion.read request).part source)
      = conversion'.convert request.count.toNat ((conversion'.read request).part source')) :
  conversion.copy source request = conversion'.copy source' request
  := by
  funext destination
  rw [copy, copy, ← sourceUnit, ← destinationUnit, ← length]
  rw [Conversion.read, Conversion.read, ← sourceUnit] at converted
  rcases Window.fit_cases .source request.sourceOffset request.count conversion.sourceUnit
    source.length with ⟨hread, -⟩ | ⟨cause, hread⟩
  · rw [hread]
    dsimp only
    rw [converted]
  · rw [hread]

/-! ### Conversions that undo each other -/

/-- The conversion `back` takes what `conversion` makes of units back to these units. -/
structure Undoes (back : Conversion β α) (conversion : Conversion α β) : Prop where
  sourceUnit : back.sourceUnit = conversion.destinationUnit
  destinationUnit : back.destinationUnit = conversion.sourceUnit
  convert : ∀ {count units}, units.length = count * conversion.sourceUnit →
    back.convert count (conversion.convert count units) = units

end Conversion

/-! ### Decoding and encoding -/

namespace NumericType

/-- The conversion of bytes to the values that they spell. -/
def decoding (t : NumericType) (order : ByteOrder) : Conversion UInt8 t.Value where
  sourceUnit := t.width
  destinationUnit := 1
  convert := t.decode order
  length_convert := by
    intro count units _
    rw [length_decode, Nat.mul_one]

/-- The conversion of values to their bytes. -/
def encoding (t : NumericType) (order : ByteOrder) : Conversion t.Value UInt8 where
  sourceUnit := 1
  destinationUnit := t.width
  convert _ := t.encode order
  length_convert := by
    intro count units h
    rw [length_encode, h, Nat.mul_one]

theorem decodeInto_eq_copy (t : NumericType) (order : ByteOrder) (source : List UInt8)
    (request : Request) :
  t.decodeInto order source request = (t.decoding order).copy source request
  := by
  funext destination
  apply decodeInto_apply

theorem encodeInto_eq_copy (t : NumericType) (order : ByteOrder) (source : List t.Value)
    (request : Request) :
  t.encodeInto order source request = (t.encoding order).copy source request
  := by
  funext destination
  apply encodeInto_apply

theorem decodeNative_eq_copy (t : NumericType) :
  t.decodeNative = (t.decoding .native).copy
  := by
  funext source request
  apply t.decodeInto_eq_copy

theorem encodeNative_eq_copy (t : NumericType) :
  t.encodeNative = (t.encoding .native).copy
  := by
  funext source request
  apply t.encodeInto_eq_copy

theorem encoding_undoes_decoding (t : NumericType) (order : ByteOrder) :
  (t.encoding order).Undoes (t.decoding order)
  := by
  constructor
  · rfl
  · rfl
  · intro count units h
    apply encode_decode t order h

theorem decoding_undoes_encoding (t : NumericType) (order : ByteOrder) :
  (t.decoding order).Undoes (t.encoding order)
  := by
  constructor
  · rfl
  · rfl
  · intro count units h
    obtain rfl : units.length = count := by
      rw [h]
      apply Nat.mul_one
    apply decode_encode

/-! ### Swapping -/

/-- A swap of a window that lies inside the buffer succeeds. -/
theorem swapWindow_of_inside (t : NumericType) {offset count : UInt64} {values : List t.Value}
    (inside : (Window.span offset count 1).Inside values.length) :
  t.swapWindow offset count values
    = .ok () ((Window.span offset count 1).splice
        (((Window.span offset count 1).part values).map t.swapped) values)
  := by
  rw [swapWindow_apply, Window.fit_of_inside inside]

/-- A swap succeeds exactly if its window lies inside the buffer, and then replaces the values
in the window by the same with their bytes reversed. -/
theorem swapWindow_eq_ok_iff {t : NumericType} {offset count : UInt64}
    {values result : List t.Value} :
  t.swapWindow offset count values = .ok () result
    ↔ (Window.span offset count 1).Inside values.length
      ∧ result = (Window.span offset count 1).splice
          (((Window.span offset count 1).part values).map t.swapped) values
  := by
  constructor
  · intro h
    rcases Window.fit_cases .destination offset count 1 values.length with
      ⟨-, inside⟩ | ⟨cause, hwritten⟩
    · rw [t.swapWindow_of_inside inside] at h
      obtain ⟨-, rfl⟩ := EStateM.Result.ok.inj h
      use inside
    · rw [swapWindow_apply, hwritten] at h
      contradiction
  · rintro ⟨inside, rfl⟩
    apply t.swapWindow_of_inside inside

/-- A swap is refused, or keeps the length of the buffer. -/
theorem conserves_swapWindow (t : NumericType) (offset count : UInt64) (values : List t.Value) :
  Edited.Conserves List.length values (t.swapWindow offset count values)
  := by
  rcases Window.fit_cases .destination offset count 1 values.length with
    ⟨-, inside⟩ | ⟨cause, hwritten⟩
  · rw [t.swapWindow_of_inside inside]
    apply Edited.conserves_ok
    apply Window.length_splice (Window.span_ordered ..) inside.stop_le
    rw [List.length_map, Window.length_part inside.stop_le]
  · rw [swapWindow_apply, hwritten]
    apply Edited.conserves_error

theorem conserves_swapAll (t : NumericType) (values : List t.Value) :
  Edited.Conserves List.length values (t.swapAll values)
  := by
  apply Edited.conserves_ok
  rw [List.length_map]

end NumericType

end NumericBytes
