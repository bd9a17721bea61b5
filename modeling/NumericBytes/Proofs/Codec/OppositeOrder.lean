import NumericBytes.Proofs.Codec.Acceptance

/-!
# The opposite byte order

The host stores the least significant byte first.  A value whose bytes are read in the opposite
order is the value read in the order of the host, with its bytes reversed, and likewise when it
is written (`swapped_ofBytes`, `toBytes_swapped`).  So `opposite_order_is_a_swap` says of
windows: decoding in the opposite order is decoding in that of the host and then swapping the
window that was written, and encoding is swapping the window to be read and then encoding.
-/

namespace NumericBytes

namespace NumericType

/-! ### Values and lists of values -/

/-- Swapping a value is writing it in one order and reading it in the other. -/
theorem swapped_eq_ofBytes (t : NumericType) (x : t.Value) :
  t.swapped x = t.ofBytes .big (t.toBytes .little x)
  := by
  rw [swapped, Digits.reversed_eq_ofBig]
  rfl

/-- Reading bytes in one order is reading their reverse in the other. -/
theorem ofBytes_big (t : NumericType) (bytes : List UInt8) :
  t.ofBytes .big bytes = t.ofBytes .little bytes.reverse
  := congrArg t.ofPattern (Digits.ofBig_eq_ofLittle_reverse bytes)

/-- Writing a value in one order is writing the reverse of what it is in the other. -/
theorem toBytes_big (t : NumericType) (x : t.Value) :
  t.toBytes .big x = (t.toBytes .little x).reverse
  := Digits.toBig_eq_reverse ..

/-- A value that has been read in one order and is swapped is read in the other. -/
theorem swapped_ofBytes (t : NumericType) {bytes : List UInt8} (h : bytes.length = t.width) :
  t.swapped (t.ofBytes .little bytes) = t.ofBytes .big bytes
  := by
  rw [swapped_eq_ofBytes, t.toBytes_ofBytes .little h]

/-- A value that has been swapped and is written in one order is written in the other. -/
theorem toBytes_swapped (t : NumericType) (x : t.Value) :
  t.toBytes .little (t.swapped x) = t.toBytes .big x
  := by
  have width : (t.toBytes .little x).reverse.length = t.width := by
    rw [List.length_reverse, length_toBytes]
  rw [swapped_eq_ofBytes, ofBytes_big, t.toBytes_ofBytes .little width, toBytes_big]

theorem decode_big (t : NumericType) {count : Nat} {bytes : List UInt8}
    (h : bytes.length = count * t.width) :
  t.decode .big count bytes = (t.decode .little count bytes).map t.swapped
  := by
  induction count generalizing bytes with
  | zero => rfl
  | succ count ih =>
    rw [Nat.succ_mul] at h
    have first : (bytes.take t.width).length = t.width := by
      rw [List.length_take]
      omega
    have rest : (bytes.drop t.width).length = count * t.width := by
      rw [List.length_drop]
      omega
    rw [decode, decode, List.map_cons, ih rest, t.swapped_ofBytes first]

theorem encode_big (t : NumericType) (values : List t.Value) :
  t.encode .big values = t.encode .little (values.map t.swapped)
  := by
  have written : t.toBytes .big = fun x => t.toBytes .little (t.swapped x) := by
    funext x
    symm
    apply t.toBytes_swapped
  rw [encode, encode, List.flatMap_map, written]

/-! ### Windows -/

/-- Decoding in the opposite order is decoding in that of the host and then swapping the window
that was written. -/
theorem decodeInto_big (t : NumericType) {source : List UInt8} {request : Request}
    {destination native : List t.Value}
    (h : t.decodeNative source request destination = .ok () native) :
  t.swapWindow request.destinationOffset request.count native
    = t.decodeInto .big source request destination
  := by
  rw [decodeNative, decodeInto_eq_copy] at h
  obtain ⟨inside, inside', hnative⟩ := Conversion.copy_eq_ok_iff.mp h
  have inside'' : (Window.span request.destinationOffset request.count 1).Inside native.length := by
    rw [Conversion.length_copy h]
    apply inside'
  have swapped : ((Window.span request.destinationOffset request.count 1).part native).map t.swapped
      = t.decode .big request.count.toNat (((t.decoding .big).read request).part source) := by
    apply Eq.trans (congrArg (List.map t.swapped) (Conversion.part_copy h))
    symm
    apply t.decode_big (Conversion.length_part_read inside)
  rw [t.swapWindow_of_inside inside'', swapped, hnative, decodeInto_eq_copy]
  symm
  apply Conversion.copy_eq_ok_iff.mpr
  use inside, inside'
  apply Window.splice_splice (Window.span_ordered ..) inside'.stop_le
    (Conversion.length_converted inside)

/-- Encoding in the opposite order is swapping the window to be read and then encoding in the
order of the host.  A window that cannot be swapped cannot be read either, in any order. -/
theorem encodeInto_big (t : NumericType) (source : List t.Value) (request : Request) :
  t.encodeInto .big source request
    = t.encodeNative (Edited.state (t.swapWindow request.sourceOffset request.count source)) request
  := by
  rw [encodeNative, encodeInto_eq_copy, encodeInto_eq_copy]
  rcases Window.fit_cases .source request.sourceOffset request.count 1 source.length with
    ⟨-, inside⟩ | ⟨cause, hread⟩
  · let read := Window.span request.sourceOffset request.count 1
    have same : ((read.part source).map t.swapped).length = read.stop - read.start := by
      rw [List.length_map, Window.length_part inside.stop_le]
    rw [t.swapWindow_of_inside inside]
    apply Conversion.copy_congr
    · rfl
    · rfl
    · symm
      apply Window.length_splice (Window.span_ordered ..) inside.stop_le same
    · apply Eq.trans (t.encode_big _)
      apply congrArg (t.encode .little)
      symm
      apply Window.part_splice (Window.span_ordered ..) inside.stop_le same
  · have length := (t.conserves_swapWindow request.sourceOffset request.count source).shape_state
    funext destination
    rw [Conversion.copy_of_unread hread, Conversion.copy_of_unread (length.symm ▸ hread)]

/-- In the order opposite to that of the host, decoding fails as it does in the order of the
host, and otherwise leaves what that leaves once the window that was written is swapped, which
succeeds; and encoding ends as it does in the order of the host once the window to be read is
swapped.  In the order of the host, by whatever name, copies are those that name no order. -/
theorem opposite_order_is_a_swap (t : NumericType) :
  (∀ (source : List UInt8) (request : Request) (destination : List t.Value),
    Edited.failure? (t.decodeInto .big source request destination)
        = Edited.failure? (t.decodeNative source request destination)
      ∧ ∀ native, t.decodeNative source request destination = .ok () native →
        ∃ swapped, t.swapWindow request.destinationOffset request.count native = .ok () swapped
          ∧ t.decodeInto .big source request destination = .ok () swapped)
  ∧ (∀ (source : List t.Value) (request : Request) (destination : List UInt8),
    t.encodeInto .big source request destination
      = t.encodeNative (Edited.state (t.swapWindow request.sourceOffset request.count source))
          request destination)
  ∧ (t.decodeInto .little = t.decodeNative ∧ t.decodeInto .native = t.decodeNative)
  ∧ t.encodeInto .little = t.encodeNative ∧ t.encodeInto .native = t.encodeNative
  := by
  constructor
  · intro source request destination
    have failures : Edited.failure? (t.decodeInto .big source request destination)
        = Edited.failure? (t.decodeNative source request destination) := by
      rw [decodeNative, failure?_decodeInto, failure?_decodeInto]
    use failures
    intro native h
    rw [h] at failures
    rw [t.decodeInto_big h]
    cases hbig : t.decodeInto .big source request destination with
    | ok _ swapped => use swapped
    | error failure after =>
      rw [hbig] at failures
      contradiction
  · constructor
    · intro source request destination
      rw [encodeInto_big]
    · exact ⟨⟨rfl, rfl⟩, rfl, rfl⟩

/-- A number is decoded at an odd offset to a signalling NaN of the opposite order, and the
numbers around it stay. -/
theorem opposite_order_is_a_swap_signalling :
  float32.decodeNative [9, 0x7f, 0xa0, 0, 1] ⟨1, 1, 1⟩ [⟨5⟩, ⟨0⟩, ⟨5⟩]
      = .ok () [⟨5⟩, ⟨0x0100a07f⟩, ⟨5⟩]
    ∧ ∃ swapped, float32.swapWindow 1 1 [⟨5⟩, ⟨0x0100a07f⟩, ⟨5⟩] = .ok () swapped
      ∧ float32.decodeInto .big [9, 0x7f, 0xa0, 0, 1] ⟨1, 1, 1⟩ [⟨5⟩, ⟨0⟩, ⟨5⟩] = .ok () swapped
      ∧ swapped = [⟨5⟩, ⟨0x7fa00001⟩, ⟨5⟩]
  := by
  have native : float32.decodeNative [9, 0x7f, 0xa0, 0, 1] ⟨1, 1, 1⟩ [⟨5⟩, ⟨0⟩, ⟨5⟩]
      = .ok () [⟨5⟩, ⟨0x0100a07f⟩, ⟨5⟩] := rfl
  obtain ⟨swapped, hswap, hbig⟩ := ((opposite_order_is_a_swap float32).1 _ _ _).2 _ native
  use native, swapped, hswap, hbig
  obtain ⟨-, rfl⟩ := EStateM.Result.ok.inj hswap
  rfl

end NumericType

end NumericBytes
