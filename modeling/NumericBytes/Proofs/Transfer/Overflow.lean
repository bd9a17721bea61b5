import Mathlib.Algebra.Order.Ring.Int
import NumericBytes.Proofs.Codec.Refusal
import NumericBytes.Proofs.Transfer.Selection

/-!
# Where transfers overflow

The end of a range may be no word, and the checks of both ranges of a copy look for that.  The
numbers of a signed request are less than `2 ^ 63`, though, and a buffer occupies less than
`2 ^ 63` bytes, so that only the range of bytes that a decoding reads can end so far out.
`Transfer.copy_overflows_iff` says when it does, and that no other overflow is ever reported.
-/

namespace NumericBytes

open Extent

/-! ### Requests in small numbers -/

/-- The numbers of the request are less than `2 ^ 63`, as those are that a signed word can be. -/
structure Request.Small (request : Request) : Prop where
  sourceOffset : request.sourceOffset.toNat < 0x8000000000000000
  destinationOffset : request.destinationOffset.toNat < 0x8000000000000000
  count : request.count.toNat < 0x8000000000000000

namespace SignedRequest

variable {request : SignedRequest} {accepted : Request}

theorem Denotes.small (denotes : request.Denotes accepted) :
  accepted.Small
  := by
  obtain ⟨source, destination, count⟩ := denotes
  have := request.sourceOffset.toInt_lt
  have := request.destinationOffset.toInt_lt
  have := request.count.toInt_lt
  constructor
  · omega
  · omega
  · omega

theorem firstNegative?_eq_none_iff :
  request.firstNegative? = none
    ↔ 0 ≤ request.sourceOffset.toInt ∧ 0 ≤ request.destinationOffset.toInt
      ∧ 0 ≤ request.count.toInt
  := by
  rw [firstNegative?]
  split
  · simp only [reduceCtorEq, false_iff]
    omega
  · split
    · simp only [reduceCtorEq, false_iff]
      omega
    · split
      · simp only [reduceCtorEq, false_iff]
        omega
      · simp only [true_iff]
        omega

end SignedRequest

/-! ### Copies of both directions -/

namespace NumericType

variable {t : NumericType} {request : Request} {side : Side}

/-- A decoding in small numbers overflows in the bytes that it reads, or not at all. -/
theorem decodeNative_overflows_iff (small : request.Small) (source : List UInt8)
    (destination : List t.Value) :
  Edited.failure? (t.decodeNative source request destination)
      = some (.outOfBounds ⟨side, .overflow⟩)
    ↔ side = .source
      ∧ UInt64.size ≤ request.sourceOffset.toNat + request.count.toNat * t.width
  := by
  rw [decodeNative, failure?_decodeInto]
  apply verdict_pair_eq_overflow_iff
  intro _ overflows
  obtain ⟨-, destinationOffset, count⟩ := small
  change 0x10000000000000000 ≤ request.destinationOffset.toNat + request.count.toNat * 1
    at overflows
  omega

/-- An encoding of an allocatable source in small numbers does not overflow: if it reads values
that are in the source, their bytes are no more than a buffer may occupy. -/
theorem encodeNative_not_overflows {source : List t.Value} (allocatable : Allocatable t.width source)
    (small : request.Small) (destination : List UInt8) :
  Edited.failure? (t.encodeNative source request destination)
    ≠ some (.outOfBounds ⟨side, .overflow⟩)
  := by
  obtain ⟨sourceOffset, destinationOffset, count⟩ := small
  rw [encodeNative, failure?_encodeInto]
  intro h
  have short : ¬ (ofRange .source request.sourceOffset request.count 1 source.length).Overflows := by
    intro overflows
    change 0x10000000000000000 ≤ request.sourceOffset.toNat + request.count.toNat * 1 at overflows
    omega
  apply short
  apply ((verdict_pair_eq_overflow_iff _).mp h).2
  intro accepted overflows
  -- The values have been found in the source, so that their bytes are among those it occupies.
  have counted : request.count.toNat ≤ source.length := by
    apply Nat.le_trans _ (stop_le_of_accepted accepted)
    change _ ≤ request.sourceOffset.toNat + request.count.toNat * 1
    omega
  have bytes : request.count.toNat * t.width < 0x8000000000000000 :=
    Nat.lt_of_le_of_lt (Nat.mul_le_mul_right _ counted) allocatable
  change 0x10000000000000000 ≤ request.destinationOffset.toNat + request.count.toNat * t.width
    at overflows
  omega

end NumericType

/-! ### Transfers -/

namespace Transfer

/-- Both buffers of the transfer occupy no more bytes than a buffer may. -/
def Allocatable : Transfer → Prop
  | decoding bytes array | encoding array bytes =>
    NumericBytes.Allocatable 1 bytes
      ∧ NumericBytes.Allocatable array.elementType.width array.elements

/-- A copy between allocatable buffers in small numbers overflows exactly if it is a decoding that
reads bytes beyond the words. -/
theorem copyAt_overflows_iff {transfer : Transfer} (allocatable : transfer.Allocatable)
    {request : Request} (small : request.Small) {side : Side} :
  Edited.failure? (copyAt request transfer) = some (.outOfBounds ⟨side, .overflow⟩)
    ↔ side = .source ∧ transfer.direction = .decoding
      ∧ UInt64.size ≤ request.sourceOffset.toNat + request.count.toNat * transfer.elementType.width
  := by
  cases transfer with
  | decoding bytes array =>
    rw [copyAt, Edit.within, Edited.failure?_map, NumericType.decodeNative_overflows_iff small,
      direction, elementType, eq_self, true_and]
  | encoding array bytes =>
    rw [copyAt, Edit.within, Edited.failure?_map]
    constructor
    · intro h
      exact absurd h (NumericType.encodeNative_not_overflows allocatable.2 small bytes)
    · rintro ⟨-, decoded, -⟩
      contradiction

/-- A copy between allocatable buffers reports an overflow exactly if it is a decoding, no number
of the request is negative and the range of the bytes that it reads ends beyond the words; and
then it reports it for the source. -/
theorem copy_overflows_iff {transfer : Transfer} (allocatable : transfer.Allocatable)
    (request : SignedRequest) (side : Side) :
  Edited.failure? (copy request transfer) = some (.outOfBounds ⟨side, .overflow⟩)
    ↔ side = .source ∧ transfer.direction = .decoding
      ∧ 0 ≤ request.sourceOffset.toInt ∧ 0 ≤ request.destinationOffset.toInt
      ∧ 0 ≤ request.count.toInt
      ∧ 2 ^ 64 ≤ request.sourceOffset.toInt + request.count.toInt * transfer.elementType.width
  := by
  rcases request.toRequest_cases with
    ⟨negativeSide, negative, hrequest⟩ | ⟨nonnegative, accepted, denotes, hrequest⟩
  · rw [copy_of_refused hrequest]
    constructor
    · intro h
      cases h
    · rintro ⟨-, -, source, destination, count, -⟩
      rw [SignedRequest.firstNegative?_eq_none_iff.mpr ⟨source, destination, count⟩] at negative
      contradiction
  · have signs := SignedRequest.firstNegative?_eq_none_iff.mp nonnegative
    have words : UInt64.size ≤ accepted.sourceOffset.toNat
          + accepted.count.toNat * transfer.elementType.width
        ↔ 2 ^ 64 ≤ request.sourceOffset.toInt
          + request.count.toInt * transfer.elementType.width := by
      rw [denotes.sourceOffset, denotes.count]
      exact_mod_cast Iff.rfl
    rw [copy_of_accepted hrequest, copyAt_overflows_iff allocatable denotes.small, words]
    simp only [signs, true_and]

/-- As many values of eight bytes as are no word of bytes overflow in the source of a decoding, even
from its beginning on; an encoding does not overflow for the largest numbers. -/
theorem copy_overflows_int64 :
  Edited.failure? (copy ⟨0, 0, 0x2000000000000000⟩ (decoding [] ⟨.int64, []⟩))
      = some (.outOfBounds ⟨.source, .overflow⟩)
    ∧ Edited.failure? (copy ⟨0x7fffffffffffffff, 0x7fffffffffffffff, 0x7fffffffffffffff⟩
        (encoding ⟨.int64, [0]⟩ [9]))
      ≠ some (.outOfBounds ⟨.destination, .overflow⟩)
  := by
  have decoded : Allocatable (decoding [] ⟨.int64, []⟩) := by
    constructor
    · unfold NumericBytes.Allocatable; decide
    · unfold NumericBytes.Allocatable; decide
  have encoded : Allocatable (encoding ⟨.int64, [0]⟩ [9]) := by
    constructor
    · unfold NumericBytes.Allocatable; decide
    · unfold NumericBytes.Allocatable; decide
  constructor
  · apply (copy_overflows_iff decoded ⟨0, 0, 0x2000000000000000⟩ .source).mpr
    decide
  · intro h
    obtain ⟨-, direction, -⟩ := (copy_overflows_iff encoded _ .destination).mp h
    contradiction

end Transfer

end NumericBytes
