import Mathlib.Logic.Relation
import NumericBytes.Proofs.Codec.Refusal

/-!
# The least sizes of buffers

A copy that is refused because a range exceeds its buffer tells where the range ends, and that is
the least size of the buffer with which the range is accepted.  `Attempt.TellsSizes` says so of a
copy that may be attempted on any two buffers: what becomes of the same request when the buffer is
another one depends on the size of that one alone, so that a request succeeds after two extensions
at most, of which each (`Attempt.Mends`) adds no more than the refusal asks for; and no buffer is
large enough for a range that overflows.  `refusals_tell_least_sizes` proves it of the copies of
all types in both directions.
-/

namespace NumericBytes

/-- An edit that has not failed has succeeded. -/
theorem Edited.failure?_eq_none_iff {σ : Type} {edited : Edited σ} :
  edited.failure? = none ↔ ∃ after, edited = .ok () after
  := by
  cases edited with
  | ok _ after =>
    apply iff_of_true rfl
    use after
  | error failure after =>
    apply iff_of_false
    · nofun
    · nofun

namespace Attempt

/-! ### Attempts to copy between two buffers -/

section

variable {α β : Type} (copy : List α → Request → Edit (List β) Unit) (request : Request)

/-- The copy between the buffers succeeds. -/
def Succeeds (buffers : List α × List β) : Prop :=
  ∃ result, copy buffers.1 request buffers.2 = .ok () result

/-- The copy between the buffers is refused for a side and a cause. -/
def Refused (buffers : List α × List β) (side : Side) (cause : Cause) : Prop :=
  Edited.failure? (copy buffers.1 request buffers.2) = some (.outOfBounds ⟨side, cause⟩)

/-- The copy is refused for a range that exceeds its buffer, and that buffer is extended, by any
units, to just the end that the refusal tells. -/
inductive Mends : List α × List β → List α × List β → Prop
  | source {source : List α} {destination : List β} (more : List α)
      (refused : Refused copy request (source, destination) .source
        (.exceeds (source ++ more).length source.length)) :
    Mends (source, destination) (source ++ more, destination)
  | destination {source : List α} {destination : List β} (more : List β)
      (refused : Refused copy request (source, destination) .destination
        (.exceeds (destination ++ more).length destination.length)) :
    Mends (source, destination) (source, destination ++ more)

/-- The copy succeeds once the buffers have been extended `n` times at most, each time to the end
that the refusal tells, whatever the units are that they are extended by. -/
def SucceedsWithin : Nat → List α × List β → Prop
  | 0, buffers => Succeeds copy request buffers
  | n + 1, buffers => Succeeds copy request buffers
    ∨ (∃ next, Mends copy request buffers next)
      ∧ ∀ next, Mends copy request buffers next → SucceedsWithin n next

/-- However the buffers are extended as the refusals ask, the copy is never refused for an
overflow. -/
def NeverOverflows (buffers : List α × List β) : Prop :=
  ∀ reached, Relation.ReflTransGen (Mends copy request) buffers reached →
    ∀ side, ¬ Refused copy request reached side .overflow

/-- What the refusals of a copy tell about the sizes of its buffers. -/
structure TellsSizes : Prop where
  /-- A source that is exceeded is as large as it is said to be, and smaller than the end that is
  told.  In any other that is smaller than this the range exceeds it likewise.  With any that is
  not, the copy succeeds or is refused for its destination. -/
  source : ∀ {request source destination stop capacity},
    Refused copy request (source, destination) .source (.exceeds stop capacity) →
    capacity = source.length ∧ capacity < stop ∧ ∀ other : List α,
      (other.length < stop →
        Refused copy request (other, destination) .source (.exceeds stop other.length))
      ∧ (stop ≤ other.length →
        Succeeds copy request (other, destination)
          ∨ ∃ cause, Refused copy request (other, destination) .destination cause)
  /-- A destination that is exceeded is as large as it is said to be, and smaller than the end that
  is told.  In any other that is smaller than this the range exceeds it likewise, and with any that
  is not the copy succeeds. -/
  destination : ∀ {request source destination stop capacity},
    Refused copy request (source, destination) .destination (.exceeds stop capacity) →
    capacity = destination.length ∧ capacity < stop ∧ ∀ other : List β,
      (other.length < stop →
        Refused copy request (source, other) .destination (.exceeds stop other.length))
      ∧ (stop ≤ other.length → Succeeds copy request (source, other))
  /-- A request that never overflows succeeds after two extensions at most. -/
  within : ∀ {request buffers}, NeverOverflows copy request buffers →
    SucceedsWithin copy request 2 buffers
  /-- A range that overflows in the source does so whatever the source is. -/
  sourceOverflow : ∀ {request source destination},
    Refused copy request (source, destination) .source .overflow →
    ∀ other, Refused copy request (other, destination) .source .overflow
  /-- A range that overflows in the destination does so whatever the destination is. -/
  destinationOverflow : ∀ {request source destination},
    Refused copy request (source, destination) .destination .overflow →
    ∀ other, Refused copy request (source, other) .destination .overflow

variable {copy} {request}

/-- Further extensions do no harm. -/
theorem SucceedsWithin.succ {n : Nat} {buffers : List α × List β}
    (h : SucceedsWithin copy request n buffers) :
  SucceedsWithin copy request (n + 1) buffers
  := by
  induction n generalizing buffers with
  | zero => apply Or.inl h
  | succ n ih =>
    rcases h with succeeds | ⟨mendable, later⟩
    · apply Or.inl succeeds
    · right
      use mendable
      intro next mends
      apply ih (later next mends)

end

end Attempt

open Attempt Extent

/-! ### Copies of conversions -/

namespace Conversion

variable {α β : Type} {conversion : Conversion α β} {request : Request} {source : List α}
  {destination : List β} {side : Side} {cause : Cause} {stop capacity : Nat}

/-- Where the range that a request reads ends in a source. -/
def readExtent (conversion : Conversion α β) (request : Request) (source : List α) : Extent :=
  .ofRange .source request.sourceOffset request.count conversion.sourceUnit source.length

/-- Where the range that a request writes ends in a destination. -/
def writtenExtent (conversion : Conversion α β) (request : Request) (destination : List β) :
    Extent :=
  .ofRange .destination request.destinationOffset request.count conversion.destinationUnit
    destination.length

/-- A copy succeeds exactly if both its ranges are accepted. -/
theorem succeeds_iff :
  Succeeds conversion.copy request (source, destination)
    ↔ (conversion.readExtent request source).refusal? = none
      ∧ (conversion.writtenExtent request destination).refusal? = none
  := by
  rw [Succeeds, ← Edited.failure?_eq_none_iff, failure?_copy]
  apply verdict_pair_eq_none_iff

/-- A copy is refused for the range that it reads, or for the one that it writes if the other is
accepted. -/
theorem refused_iff :
  Refused conversion.copy request (source, destination) side cause
    ↔ (conversion.readExtent request source).refusal? = some ⟨side, cause⟩
      ∨ (conversion.readExtent request source).refusal? = none
        ∧ (conversion.writtenExtent request destination).refusal? = some ⟨side, cause⟩
  := by
  rw [Refused, failure?_copy]
  apply verdict_pair_eq_refused_iff

theorem refused_source_iff :
  Refused conversion.copy request (source, destination) .source cause
    ↔ (conversion.readExtent request source).refusal? = some ⟨.source, cause⟩
  := by
  rw [refused_iff]
  constructor
  · rintro (read | ⟨-, written⟩)
    · apply read
    · cases side_of_refused written
  · apply Or.inl

theorem refused_destination_iff :
  Refused conversion.copy request (source, destination) .destination cause
    ↔ (conversion.readExtent request source).refusal? = none
      ∧ (conversion.writtenExtent request destination).refusal? = some ⟨.destination, cause⟩
  := by
  rw [refused_iff]
  constructor
  · rintro (read | written)
    · cases side_of_refused read
    · apply written
  · apply Or.inr

/-- A copy whose first range is accepted succeeds or is refused for its destination. -/
theorem succeeds_or_refused (accepted : (conversion.readExtent request source).refusal? = none)
    (destination : List β) :
  Succeeds conversion.copy request (source, destination)
    ∨ ∃ cause, Refused conversion.copy request (source, destination) .destination cause
  := by
  cases h : (conversion.writtenExtent request destination).refusal? with
  | none =>
    left
    apply succeeds_iff.mpr ⟨accepted, h⟩
  | some error =>
    right
    obtain ⟨side, cause⟩ := error
    obtain rfl : side = .destination := side_of_refused h
    use cause
    apply refused_destination_iff.mpr ⟨accepted, h⟩

/-- A request whose ranges both end at words never overflows. -/
theorem neverOverflows (read : ¬ (conversion.readExtent request source).Overflows)
    (written : ¬ (conversion.writtenExtent request destination).Overflows) :
  NeverOverflows conversion.copy request (source, destination)
  := by
  -- The ends of the ranges are the same for all buffers.
  rintro ⟨source', destination'⟩ - side refused
  rcases refused_iff.mp refused with overflow | ⟨-, overflow⟩
  · exact read (refusal?_eq_overflow_iff.mp overflow).2
  · exact written (refusal?_eq_overflow_iff.mp overflow).2

/-! ### Extensions -/

/-- Units can be extended to any size that is not less than their own. -/
theorem exists_extension [inhabited : Nonempty α] {units : List α} (h : units.length ≤ stop) :
  ∃ more, (units ++ more).length = stop
  := by
  obtain ⟨filler⟩ := inhabited
  use List.replicate (stop - units.length) filler
  rw [List.length_append, List.length_replicate]
  apply Nat.add_sub_cancel' h

/-- A source that is exceeded can be mended. -/
theorem exists_mends_source [Nonempty α]
    (exceeded : (conversion.readExtent request source).refusal?
      = some ⟨.source, .exceeds stop source.length⟩)
    (destination : List β) :
  ∃ next, Mends conversion.copy request (source, destination) next
  := by
  obtain ⟨-, rfl, -, -, exceeds⟩ := refusal?_eq_exceeds_iff.mp exceeded
  obtain ⟨more, length⟩ := exists_extension (Nat.le_of_lt exceeds)
  use (source ++ more, destination)
  apply Mends.source
  rw [length]
  apply refused_source_iff.mpr exceeded

/-- A destination that is exceeded can be mended. -/
theorem exists_mends_destination [Nonempty β]
    (accepted : (conversion.readExtent request source).refusal? = none)
    (exceeded : (conversion.writtenExtent request destination).refusal?
      = some ⟨.destination, .exceeds stop destination.length⟩) :
  ∃ next, Mends conversion.copy request (source, destination) next
  := by
  obtain ⟨-, rfl, -, -, exceeds⟩ := refusal?_eq_exceeds_iff.mp exceeded
  obtain ⟨more, length⟩ := exists_extension (Nat.le_of_lt exceeds)
  use (source, destination ++ more)
  apply Mends.destination
  rw [length]
  apply refused_destination_iff.mpr ⟨accepted, exceeded⟩

/-- A copy whose source is large enough succeeds after one extension at most. -/
theorem succeedsWithin_one [Nonempty β]
    (accepted : (conversion.readExtent request source).refusal? = none)
    (ends : ¬ Refused conversion.copy request (source, destination) .destination .overflow) :
  SucceedsWithin conversion.copy request 1 (source, destination)
  := by
  rcases (conversion.writtenExtent request destination).refusal?_cases with
    ⟨-, overflow⟩ | ⟨-, -, exceeded⟩ | ⟨-, -, inside⟩
  · exact absurd (refused_destination_iff.mpr ⟨accepted, overflow⟩) ends
  · right
    use exists_mends_destination accepted exceeded
    intro next mends
    cases mends with
    | source more refused =>
      rw [refused_source_iff, accepted] at refused
      contradiction
    | destination more refused =>
      obtain ⟨-, told⟩ := refused_destination_iff.mp refused
      apply succeeds_iff.mpr
      use accepted
      apply refusal?_inBuffer_of_le told (Nat.le_refl _)
  · left
    apply succeeds_iff.mpr ⟨accepted, inside⟩

/-- A copy that never overflows succeeds after two extensions at most. -/
theorem succeedsWithin_two [Nonempty α] [Nonempty β]
    (never : NeverOverflows conversion.copy request (source, destination)) :
  SucceedsWithin conversion.copy request 2 (source, destination)
  := by
  rcases (conversion.readExtent request source).refusal?_cases with
    ⟨-, overflow⟩ | ⟨-, -, exceeded⟩ | ⟨-, -, accepted⟩
  · exact absurd (refused_source_iff.mpr overflow) (never _ .refl _)
  · right
    use exists_mends_source exceeded destination
    intro next mends
    -- The destination is looked at only when the source has been extended.
    cases mends with
    | source more refused =>
      have told := refused_source_iff.mp refused
      apply succeedsWithin_one
      · apply refusal?_inBuffer_of_le told (Nat.le_refl _)
      · apply never _ (.single (.source more refused))
    | destination more refused =>
      obtain ⟨accepted, -⟩ := refused_destination_iff.mp refused
      rw [exceeded] at accepted
      contradiction
  · apply SucceedsWithin.succ
    apply succeedsWithin_one accepted
    apply never _ .refl

/-! ### What is told -/

/-- The refusals of the copy of a conversion tell the least sizes of its buffers. -/
theorem tellsSizes [Nonempty α] [Nonempty β] (conversion : Conversion α β) :
  TellsSizes conversion.copy
  where
  source := by
    intro request source destination stop capacity refused
    have told := refused_source_iff.mp refused
    obtain ⟨-, rfl, rfl, -, exceeds⟩ := refusal?_eq_exceeds_iff.mp told
    use rfl, exceeds
    intro other
    constructor
    · intro less
      apply refused_source_iff.mpr
      apply refusal?_inBuffer_of_lt told less
    · intro enough
      apply succeeds_or_refused
      apply refusal?_inBuffer_of_le told enough
  destination := by
    intro request source destination stop capacity refused
    obtain ⟨accepted, told⟩ := refused_destination_iff.mp refused
    obtain ⟨-, rfl, rfl, -, exceeds⟩ := refusal?_eq_exceeds_iff.mp told
    use rfl, exceeds
    intro other
    constructor
    · intro less
      apply refused_destination_iff.mpr
      use accepted
      apply refusal?_inBuffer_of_lt told less
    · intro enough
      apply succeeds_iff.mpr
      use accepted
      apply refusal?_inBuffer_of_le told enough
  within := succeedsWithin_two
  sourceOverflow := by
    intro request source destination refused other
    apply refused_source_iff.mpr
    apply refusal?_inBuffer_of_overflow (refused_source_iff.mp refused)
  destinationOverflow := by
    intro request source destination refused other
    obtain ⟨accepted, overflow⟩ := refused_destination_iff.mp refused
    apply refused_destination_iff.mpr
    use accepted
    apply refusal?_inBuffer_of_overflow overflow

end Conversion

/-! ### Decoding and encoding -/

namespace NumericType

instance (t : NumericType) : Nonempty t.Value := ⟨t.zero⟩

/-- The refusals of the copies of a type in both directions tell the least sizes of their
buffers. -/
theorem refusals_tell_least_sizes (t : NumericType) (order : ByteOrder) :
  TellsSizes (t.decodeInto order) ∧ TellsSizes (t.encodeInto order)
  := by
  have decoding := funext₂ (t.decodeInto_eq_copy order)
  have encoding := funext₂ (t.encodeInto_eq_copy order)
  rw [decoding, encoding]
  constructor
  · apply Conversion.tellsSizes
  · apply Conversion.tellsSizes

/-- Two values are decoded from three bytes behind the first of one value, once there is a fourth
byte and then room for two more values.  There is no room for an encoding that ends beyond the
words. -/
theorem refusals_tell_least_sizes_int16 :
  (Refused (int16.decodeInto .big) ⟨0, 1, 2⟩ ([1, 2, 3], [7]) .source (.exceeds 4 3)
    ∧ (Succeeds (int16.decodeInto .big) ⟨0, 1, 2⟩ ([1, 2, 3, 4], [7])
      ∨ ∃ cause,
        Refused (int16.decodeInto .big) ⟨0, 1, 2⟩ ([1, 2, 3, 4], [7]) .destination cause))
  ∧ (Refused (int16.decodeInto .big) ⟨0, 1, 2⟩ ([1, 2, 3, 4], [7]) .destination (.exceeds 3 1)
    ∧ Refused (int16.decodeInto .big) ⟨0, 1, 2⟩ ([1, 2, 3, 4], [7, 8]) .destination
      (.exceeds 3 2)
    ∧ Succeeds (int16.decodeInto .big) ⟨0, 1, 2⟩ ([1, 2, 3, 4], [7, 8, 9]))
  ∧ (NeverOverflows (int16.decodeInto .big) ⟨0, 1, 2⟩ ([1, 2, 3], [7])
    ∧ SucceedsWithin (int16.decodeInto .big) ⟨0, 1, 2⟩ 2 ([1, 2, 3], [7]))
  ∧ Refused (int16.encodeInto .big) ⟨0, 0xffffffffffffffff, 1⟩ ([5], []) .destination .overflow
  ∧ Refused (int16.encodeInto .big) ⟨0, 0xffffffffffffffff, 1⟩ ([5], [1, 2, 3]) .destination
      .overflow
  := by
  obtain ⟨decoded, encoded⟩ := refusals_tell_least_sizes int16 .big
  have first : Refused (int16.decodeInto .big) ⟨0, 1, 2⟩ ([1, 2, 3], [7]) .source
      (.exceeds 4 3) := rfl
  have second : Refused (int16.decodeInto .big) ⟨0, 1, 2⟩ ([1, 2, 3, 4], [7]) .destination
      (.exceeds 3 1) := rfl
  have overflow : Refused (int16.encodeInto .big) ⟨0, 0xffffffffffffffff, 1⟩ ([5], [])
      .destination .overflow := rfl
  have never : NeverOverflows (int16.decodeInto .big) ⟨0, 1, 2⟩ ([1, 2, 3], [7]) := by
    rw [funext₂ (int16.decodeInto_eq_copy .big)]
    apply Conversion.neverOverflows
    · unfold Overflows; decide
    · unfold Overflows; decide
  obtain ⟨-, -, sources⟩ := decoded.source first
  obtain ⟨-, -, destinations⟩ := decoded.destination second
  exact ⟨⟨first, (sources [1, 2, 3, 4]).2 (by decide)⟩,
    ⟨second, (destinations [7, 8]).1 (by decide), (destinations [7, 8, 9]).2 (by decide)⟩,
    ⟨never, decoded.within never⟩, overflow, encoded.destinationOverflow overflow [1, 2, 3]⟩

end NumericType

end NumericBytes
