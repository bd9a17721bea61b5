import NumericBytes.Proofs.Codec.Primitives
import NumericBytes.Proofs.Foreign.Refinement

/-!
# No operation misuses a primitive

`NumericType.Safe` says of each operation of a numeric type that the primitives it calls get what
they demand, whatever the arguments are: the windows that are taken lie in their buffers, the bytes
that are converted are exactly those of the values, and the size of a fresh buffer is a word and
one that a buffer may have.  For fresh buffers this rests on the source being `Allocatable`.  So no
failure is ever the misuse of a primitive: `primitives_are_never_misused`.
-/

namespace NumericBytes

/-- A status that a refinement answers is not that of a misused primitive. -/
theorem Lent.Refines.ne_misused {α β : Type} {transfer : List α → List β → Transfer}
    {source : Lent α} {destination : Lent β} {request : SignedRequest}
    {answer : Status × Option (List β)}
    (h : Refines transfer source destination request answer) :
  answer.1 ≠ .misused
  := by
  intro misused
  apply h.code_ne_two
  rw [misused]
  rfl

namespace NumericType

/-- The operations of the type use the primitives as these demand. -/
structure Safe (t : NumericType) : Prop where
  /-- Every window that is accepted lies in its buffer. -/
  windows : ∀ {side offset count unit capacity w},
    Window.fit side offset count unit capacity = .ok w → w.LiesIn capacity
  /-- An accepted decoding hands over exactly the bytes of the values that it overwrites. -/
  decodes : ∀ order source request destination {read written},
    Window.fit .source request.sourceOffset request.count t.width source.length = .ok read →
    Window.fit .destination request.destinationOffset request.count 1 destination.length
      = .ok written →
    t.decodeInto order source request destination
        = (t.decodeExact order (read.part source)).within (written.part destination)
            (fun part => written.splice part destination)
      ∧ (read.part source).length = (written.part destination).length * t.width
  /-- An accepted encoding hands over exactly the bytes of the values that it reads. -/
  encodes : ∀ order source request destination {read written},
    Window.fit .source request.sourceOffset request.count 1 source.length = .ok read →
    Window.fit .destination request.destinationOffset request.count t.width destination.length
      = .ok written →
    t.encodeInto order source request destination
        = (t.encodeExact order (read.part source)).within (written.part destination)
            (fun part => written.splice part destination)
      ∧ (written.part destination).length = (read.part source).length * t.width
  /-- An accepted swap reverses the bytes of the values in its window. -/
  swaps : ∀ offset count values {written},
    Window.fit .destination offset count 1 values.length = .ok written →
    t.swapWindow offset count values
      = t.swapAll.within (written.part values) fun part => written.splice part values
  /-- An accepted fresh decoding hands over exactly the bytes of the values that it makes, and
  these occupy no more bytes than a buffer may. -/
  makesValues : ∀ {source}, Allocatable 1 source → ∀ offset count {read},
    Window.fit .source offset count t.width source.length = .ok read →
    t.decodeFresh source offset count
        = (t.decodeExact .native (read.part source)).finish (List.replicate count.toNat t.zero)
      ∧ (read.part source).length = (List.replicate count.toNat t.zero).length * t.width
      ∧ Allocatable t.width (List.replicate count.toNat t.zero)
  /-- An accepted fresh encoding makes exactly the bytes of the values that it hands over; the
  number of these bytes is a word, and they are no more than a buffer may occupy. -/
  makesBytes : ∀ {source}, Allocatable t.width source → ∀ offset count {read},
    Window.fit .source offset count 1 source.length = .ok read →
    t.encodeFresh source offset count
        = (t.encodeExact .native (read.part source)).finish
            (List.replicate (count.toNat * t.width) 0)
      ∧ (List.replicate (count.toNat * t.width) (0 : UInt8)).length
        = (read.part source).length * t.width
      ∧ count.toNat * t.width < UInt64.size
      ∧ Allocatable 1 (List.replicate (count.toNat * t.width) (0 : UInt8))
  decodeInto : ∀ order source request destination,
    Unmisused (Edited.failure? (t.decodeInto order source request destination))
  decodeNative : ∀ source request destination,
    Unmisused (Edited.failure? (t.decodeNative source request destination))
  encodeInto : ∀ order source request destination,
    Unmisused (Edited.failure? (t.encodeInto order source request destination))
  encodeNative : ∀ source request destination,
    Unmisused (Edited.failure? (t.encodeNative source request destination))
  swapWindow : ∀ offset count values,
    Unmisused (Edited.failure? (t.swapWindow offset count values))
  decodeFresh : ∀ {source}, Allocatable 1 source → ∀ offset count,
    Unmisused (Failure.of? (t.decodeFresh source offset count))
  encodeFresh : ∀ {source}, Allocatable t.width source → ∀ offset count,
    Unmisused (Failure.of? (t.encodeFresh source offset count))
  decodeLent : ∀ source destination request,
    (t.decodeLent source destination request).1 ≠ .misused
  encodeLent : ∀ source destination request,
    (t.encodeLent source destination request).1 ≠ .misused

theorem safe (t : NumericType) :
  t.Safe
  where
  windows := Window.liesIn_of_fit
  decodes order _ _ _ _ _ hread hwritten := by
    use decodeInto_calls order hread hwritten
    apply exact_decoding hread hwritten
  encodes order _ _ _ _ _ hread hwritten := by
    use encodeInto_calls order hread hwritten
    apply exact_encoding hread hwritten
  swaps _ _ _ _ := swapWindow_calls
  makesValues allocatable _ _ _ hread := by
    use decodeFresh_calls allocatable hread, exact_decodeFresh hread
    rw [Allocatable, List.length_replicate]
    apply fresh_decoding_small allocatable hread
  makesBytes allocatable _ _ _ hread := by
    have small := fresh_encoding_small allocatable hread
    use encodeFresh_calls allocatable hread, exact_encodeFresh hread
    constructor
    · apply Nat.lt_trans small (by decide)
    · rw [Allocatable, List.length_replicate, Nat.mul_one]
      apply small
  decodeInto order source request destination :=
    (t.conserves_decodeInto order source request destination).unmisused
  decodeNative source request destination :=
    (t.conserves_decodeInto .native source request destination).unmisused
  encodeInto order source request destination :=
    (t.conserves_encodeInto order source request destination).unmisused
  encodeNative source request destination :=
    (t.conserves_encodeInto .native source request destination).unmisused
  swapWindow offset count values := (t.conserves_swapWindow offset count values).unmisused
  decodeFresh allocatable offset count := by
    rw [t.of?_decodeFresh allocatable]
    apply Extent.unmisused_verdict
  encodeFresh allocatable offset count := by
    rw [t.of?_encodeFresh allocatable]
    apply Extent.unmisused_verdict
  decodeLent source destination request :=
    (t.decodeLent_refines source destination request).ne_misused
  encodeLent source destination request :=
    (t.encodeLent_refines source destination request).ne_misused

end NumericType

/-- The operations of every type use the primitives as these demand, and the copies along transfers
do not misuse one either. -/
theorem primitives_are_never_misused :
  (∀ t : NumericType, t.Safe)
  ∧ ∀ (request : SignedRequest) (transfer : Transfer),
    Unmisused (Edited.failure? (Transfer.copy request transfer))
  := by
  use NumericType.safe
  intro request transfer
  apply (transfer.conserves_copy request).unmisused

/-- Two of three bytes are handed over for one value.  A count whose bytes would be no word is
refused and not multiplied, and a transfer of more values than there are is refused. -/
theorem primitives_are_never_misused_int16 :
  (Window.part ⟨1, 3⟩ ([1, 2, 3] : List UInt8)).length
      = (Window.part ⟨0, 1⟩ ([7] : List NumericType.int16.Value)).length * 2
    ∧ Allocatable 1 (List.replicate ((2 : UInt64).toNat * 2) (0 : UInt8))
    ∧ Unmisused (Failure.of? (NumericType.int16.encodeFresh [1, 2] 0 0xffffffffffffffff))
    ∧ (NumericType.int16.decodeLent (.null 1) (.whole [7]) ⟨-1, 0, 1⟩).1 ≠ .misused
    ∧ Unmisused (Edited.failure? (Transfer.copy ⟨0, 0, 9⟩ (.decoding [1, 2] ⟨.int16, [7]⟩)))
  := by
  obtain ⟨safe, transfers⟩ := primitives_are_never_misused
  have allocatable : Allocatable NumericType.int16.width [(1 : Int16), 2] := by
    unfold Allocatable
    decide
  use ((safe .int16).decodes .big [1, 2, 3] ⟨1, 0, 1⟩ [7] rfl rfl).2,
    ((safe .int16).makesBytes allocatable 0 2 rfl).2.2.2,
    (safe .int16).encodeFresh allocatable 0 0xffffffffffffffff,
    (safe .int16).decodeLent (.null 1) (.whole [7]) ⟨-1, 0, 1⟩
  apply transfers ⟨0, 0, 9⟩ (.decoding [1, 2] ⟨.int16, [7]⟩)

end NumericBytes
