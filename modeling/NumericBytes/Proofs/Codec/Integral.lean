import NumericBytes.Proofs.Codec.Conversion
import NumericBytes.Proofs.Codec.Fresh

/-!
# Values as integers

Every numeric type has an integer type of the same width, `t.integral`, and every value is read as
the integer with its bit pattern, `t.toIntegral x`.  Bytes are read and written in one way for both
types, and bytes of a value are reversed in one way (`toIntegral_ofBytes`, `toBytes_toIntegral`,
`toIntegral_swapped`).  A map of units is carried by two conversions if it takes what the one makes
of units to what the other does (`Conversion.Carries`); then it is carried by their copies, so
that the checked copies of values are those of integers.
-/

namespace NumericBytes

theorem Edited.map_id {σ : Type} (edited : Edited σ) :
  map id edited = edited
  := by
  cases edited with
  | ok _ part => rfl
  | error failure part => rfl

namespace Conversion

variable {α α' β β' : Type}

/-- The two conversions make corresponding units of corresponding units. -/
structure Carries (f : α → α') (g : β → β') (conversion : Conversion α β)
    (conversion' : Conversion α' β') : Prop where
  sourceUnit : conversion'.sourceUnit = conversion.sourceUnit
  destinationUnit : conversion'.destinationUnit = conversion.destinationUnit
  convert : ∀ count units,
    conversion'.convert count (units.map f) = (conversion.convert count units).map g

/-- Copies of corresponding sources to corresponding buffers end in the same way, and leave
corresponding buffers. -/
theorem Carries.copy {f : α → α'} {g : β → β'} {conversion : Conversion α β}
    {conversion' : Conversion α' β'} (h : conversion.Carries f g conversion') (source : List α)
    (request : Request) (destination : List β) :
  conversion'.copy (source.map f) request (destination.map g)
    = Edited.map (List.map g) (conversion.copy source request destination)
  := by
  rw [Conversion.copy, Conversion.copy, h.sourceUnit, h.destinationUnit, List.length_map,
    List.length_map]
  cases Window.fit .source request.sourceOffset request.count conversion.sourceUnit
    source.length with
  | error failure => rfl
  | ok read =>
    dsimp only
    cases Window.fit .destination request.destinationOffset request.count
      conversion.destinationUnit destination.length with
    | error failure => rfl
    | ok written =>
      dsimp only
      rw [Window.part_map, h.convert, Window.splice_map]
      rfl

end Conversion

namespace NumericType

/-- The integer type of the same width. -/
def integral : NumericType → NumericType
  | int16 => int16
  | int32 => int32
  | int64 => int64
  | float32 => int32
  | float64 => int64

theorem width_integral (t : NumericType) :
  t.integral.width = t.width
  := by
  cases t <;> rfl

/-- The integer with the bit pattern of a value. -/
def toIntegral (t : NumericType) (x : t.Value) : t.integral.Value :=
  t.integral.ofPattern (t.pattern x)

/-! ### Single values -/

theorem pattern_toIntegral (t : NumericType) (x : t.Value) :
  t.integral.pattern (t.toIntegral x) = t.pattern x
  := by
  rw [toIntegral, pattern_ofPattern, width_integral, Nat.mod_eq_of_lt (t.pattern_lt x)]

theorem toIntegral_ofPattern (t : NumericType) (n : Nat) :
  t.toIntegral (t.ofPattern n) = t.integral.ofPattern n
  := by
  apply t.integral.pattern_injective
  rw [pattern_toIntegral, pattern_ofPattern, pattern_ofPattern, width_integral]

theorem toIntegral_ofBytes (t : NumericType) (order : ByteOrder) (bytes : List UInt8) :
  t.toIntegral (t.ofBytes order bytes) = t.integral.ofBytes order bytes
  := t.toIntegral_ofPattern (order.number bytes)

theorem toBytes_toIntegral (t : NumericType) (order : ByteOrder) (x : t.Value) :
  t.integral.toBytes order (t.toIntegral x) = t.toBytes order x
  := by
  rw [toBytes, toBytes, pattern_toIntegral, width_integral]

theorem toIntegral_swapped (t : NumericType) (x : t.Value) :
  t.toIntegral (t.swapped x) = t.integral.swapped (t.toIntegral x)
  := by
  rw [swapped, swapped, pattern_toIntegral, width_integral, toIntegral_ofPattern]

/-! ### Lists of values -/

theorem decode_integral (t : NumericType) (order : ByteOrder) (count : Nat) (bytes : List UInt8) :
  t.integral.decode order count bytes = (t.decode order count bytes).map t.toIntegral
  := by
  induction count generalizing bytes with
  | zero => rfl
  | succ count ih =>
    rw [decode, decode, List.map_cons, ih, toIntegral_ofBytes, width_integral]

theorem encode_integral (t : NumericType) (order : ByteOrder) (values : List t.Value) :
  t.integral.encode order (values.map t.toIntegral) = t.encode order values
  := by
  rw [encode, encode, List.flatMap_map]
  congr 1
  funext x
  apply toBytes_toIntegral

theorem map_swapped_integral (t : NumericType) (values : List t.Value) :
  (values.map t.toIntegral).map t.integral.swapped = (values.map t.swapped).map t.toIntegral
  := by
  rw [List.map_map, List.map_map]
  congr 1
  funext x
  symm
  apply toIntegral_swapped

/-! ### Checked copies -/

theorem decoding_carries (t : NumericType) (order : ByteOrder) :
  (t.decoding order).Carries id t.toIntegral (t.integral.decoding order)
  := by
  constructor
  · apply width_integral
  · rfl
  · intro count bytes
    rw [List.map_id]
    apply decode_integral

theorem encoding_carries (t : NumericType) (order : ByteOrder) :
  (t.encoding order).Carries t.toIntegral id (t.integral.encoding order)
  := by
  constructor
  · rfl
  · apply width_integral
  · intro count values
    rw [List.map_id]
    apply encode_integral

theorem decodeInto_integral (t : NumericType) (order : ByteOrder) (source : List UInt8)
    (request : Request) (destination : List t.Value) :
  t.integral.decodeInto order source request (destination.map t.toIntegral)
    = Edited.map (List.map t.toIntegral) (t.decodeInto order source request destination)
  := by
  have h := (t.decoding_carries order).copy source request destination
  rw [List.map_id] at h
  rw [decodeInto_eq_copy, decodeInto_eq_copy, h]

theorem encodeInto_integral (t : NumericType) (order : ByteOrder) (source : List t.Value)
    (request : Request) (destination : List UInt8) :
  t.integral.encodeInto order (source.map t.toIntegral) request destination
    = t.encodeInto order source request destination
  := by
  have h := (t.encoding_carries order).copy source request destination
  rw [List.map_id, List.map_id_fun, Edited.map_id] at h
  rw [encodeInto_eq_copy, encodeInto_eq_copy, h]

theorem swapWindow_integral (t : NumericType) (offset count : UInt64) (values : List t.Value) :
  t.integral.swapWindow offset count (values.map t.toIntegral)
    = Edited.map (List.map t.toIntegral) (t.swapWindow offset count values)
  := by
  rw [swapWindow_apply, swapWindow_apply, List.length_map]
  cases Window.fit .destination offset count 1 values.length with
  | error failure => rfl
  | ok written =>
    dsimp only
    rw [Window.part_map, map_swapped_integral, Window.splice_map]
    rfl

theorem swapAll_integral (t : NumericType) (values : List t.Value) :
  t.integral.swapAll (values.map t.toIntegral)
    = Edited.map (List.map t.toIntegral) (t.swapAll values)
  := congrArg (EStateM.Result.ok ()) (t.map_swapped_integral values)

/-! ### Copies into fresh buffers -/

theorem decodeFresh_integral (t : NumericType) (source : List UInt8) (offset count : UInt64) :
  t.integral.decodeFresh source offset count
    = (t.decodeFresh source offset count).map (List.map t.toIntegral)
  := by
  rw [decodeFresh_eq, decodeFresh_eq, width_integral]
  cases Window.fit .source offset count t.width source.length with
  | error failure => rfl
  | ok read =>
    dsimp only
    split
    · rw [decode_integral]
      rfl
    · rfl

theorem encodeFresh_integral (t : NumericType) (source : List t.Value) (offset count : UInt64) :
  t.integral.encodeFresh (source.map t.toIntegral) offset count
    = t.encodeFresh source offset count
  := by
  rw [encodeFresh_eq, encodeFresh_eq, width_integral, List.length_map]
  cases Window.fit .source offset count 1 source.length with
  | error failure => rfl
  | ok read =>
    dsimp only
    rw [Window.part_map, encode_integral]

end NumericType

end NumericBytes
