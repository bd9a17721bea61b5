import NumericBytes.Proofs.Codec.Conversion
import NumericBytes.Proofs.Codec.Fresh

/-!
# Which requests are accepted

An `Extent` is where a range ends in a buffer, counted in numbers of any size.  A range is
refused if its end is no word or lies beyond the buffer (`Extent.refusal?`), and an operation
that checks several ranges fails as the first one that is refused (`Extent.verdict`).
`accepted_by_exact_ends` says that every operation on checked windows decides so.
-/

namespace NumericBytes

/-- Where a range ends in a buffer, and what this holds. -/
structure Extent where
  side : Side
  stop : Nat
  capacity : Nat

namespace Extent

/-- The extent of `count` times `unit` positions from `offset` on, in exact arithmetic. -/
def ofRange (side : Side) (offset count : UInt64) (unit capacity : Nat) : Extent :=
  ⟨side, offset.toNat + count.toNat * unit, capacity⟩

/-- The extents of a copy, that of the source first. -/
def ofCopy (request : Request)
    (sourceUnit sourceCapacity destinationUnit destinationCapacity : Nat) : List Extent :=
  [ofRange .source request.sourceOffset request.count sourceUnit sourceCapacity,
    ofRange .destination request.destinationOffset request.count destinationUnit
      destinationCapacity]

/-- The refusal of a range that ends beyond the words or beyond the buffer. -/
def refusal? (extent : Extent) : Option OutOfBounds :=
  if UInt64.size ≤ extent.stop then some ⟨extent.side, .overflow⟩
  else if extent.capacity < extent.stop then
    some ⟨extent.side, .exceeds extent.stop extent.capacity⟩
  else none

/-- The failure of an operation that checks ranges in turn: the refusal of the first one that
is refused. -/
def verdict (extents : List Extent) : Option Failure :=
  (extents.findSome? refusal?).map .outOfBounds

theorem verdict_cons_of_refused {extent : Extent} {error : OutOfBounds}
    (h : extent.refusal? = some error) (extents : List Extent) :
  verdict (extent :: extents) = some (.outOfBounds error)
  := by
  rw [verdict, List.findSome?_cons, h]
  rfl

theorem verdict_cons_of_accepted {extent : Extent} (h : extent.refusal? = none)
    (extents : List Extent) :
  verdict (extent :: extents) = verdict extents
  := by
  rw [verdict, List.findSome?_cons, h]
  rfl

end Extent

open Extent

/-- The failure of an outcome that is not a value. -/
def Failure.of? {α : Type} : Except Failure α → Option Failure
  | .ok _ => none
  | .error failure => some failure

/-- The check of a window accepts its request, or refuses it for the reason of its extent. -/
theorem Window.fit_eq_of_refusal? (side : Side) (offset count : UInt64) (unit capacity : Nat) :
  fit side offset count unit capacity
    = match (ofRange side offset count unit capacity).refusal? with
      | some error => .error (.outOfBounds error)
      | none => .ok (span offset count unit)
  := by
  rw [fit_eq, refusal?, ofRange]
  dsimp only
  split
  · rfl
  · split
    · rfl
    · rfl

/-- What depends on one check alone fails exactly if the check does. -/
theorem Failure.of?_fit_match {α : Type} {side : Side} {offset count : UInt64}
    {unit capacity : Nat} (make : Window → α) :
  (of? <|
    match Window.fit side offset count unit capacity with
    | .error failure => .error failure
    | .ok window => .ok (make window))
    = verdict [ofRange side offset count unit capacity]
  := by
  rw [Window.fit_eq_of_refusal?]
  cases h : (ofRange side offset count unit capacity).refusal? with
  | some error =>
    rw [verdict_cons_of_refused h]
    rfl
  | none =>
    rw [verdict_cons_of_accepted h]
    rfl

/-- A copy is decided by the ends of its two ranges, that of the source first. -/
theorem Conversion.failure?_copy {α β : Type} (conversion : Conversion α β) (source : List α)
    (request : Request) (destination : List β) :
  Edited.failure? (conversion.copy source request destination)
    = verdict (ofCopy request conversion.sourceUnit source.length conversion.destinationUnit
        destination.length)
  := by
  rw [copy, ofCopy, Window.fit_eq_of_refusal?]
  cases hread : (ofRange .source _ _ _ _).refusal? with
  | some error =>
    rw [verdict_cons_of_refused hread]
    rfl
  | none =>
    rw [verdict_cons_of_accepted hread, Window.fit_eq_of_refusal?]
    cases hwritten : (ofRange .destination _ _ _ _).refusal? with
    | some error =>
      rw [verdict_cons_of_refused hwritten]
      rfl
    | none =>
      rw [verdict_cons_of_accepted hwritten]
      rfl

namespace NumericType

theorem failure?_decodeInto (t : NumericType) (order : ByteOrder) (source : List UInt8)
    (request : Request) (destination : List t.Value) :
  Edited.failure? (t.decodeInto order source request destination)
    = verdict (ofCopy request t.width source.length 1 destination.length)
  := by
  rw [decodeInto_eq_copy]
  apply Conversion.failure?_copy

theorem failure?_encodeInto (t : NumericType) (order : ByteOrder) (source : List t.Value)
    (request : Request) (destination : List UInt8) :
  Edited.failure? (t.encodeInto order source request destination)
    = verdict (ofCopy request 1 source.length t.width destination.length)
  := by
  rw [encodeInto_eq_copy]
  apply Conversion.failure?_copy

theorem failure?_swapWindow (t : NumericType) (offset count : UInt64) (values : List t.Value) :
  Edited.failure? (t.swapWindow offset count values)
    = verdict [ofRange .destination offset count 1 values.length]
  := by
  rw [swapWindow_apply, Window.fit_eq_of_refusal?]
  cases h : (ofRange .destination offset count 1 values.length).refusal? with
  | some error =>
    rw [verdict_cons_of_refused h]
    rfl
  | none =>
    rw [verdict_cons_of_accepted h]
    rfl

theorem of?_decodeFresh (t : NumericType) {source : List UInt8}
    (allocatable : Allocatable 1 source) (offset count : UInt64) :
  Failure.of? (t.decodeFresh source offset count)
    = verdict [ofRange .source offset count t.width source.length]
  := by
  rw [t.decodeFresh_apply allocatable]
  apply Failure.of?_fit_match

theorem of?_encodeFresh (t : NumericType) {source : List t.Value}
    (allocatable : Allocatable t.width source) (offset count : UInt64) :
  Failure.of? (t.encodeFresh source offset count)
    = verdict [ofRange .source offset count 1 source.length]
  := by
  rw [t.encodeFresh_apply allocatable]
  apply Failure.of?_fit_match

/-- Every operation on checked windows fails exactly as the ends of its ranges say, computed
in numbers of any size: the source is judged before the destination, and of one range an end
that is no word before one beyond the buffer.  Bytes are counted `t.width` to a value. -/
theorem accepted_by_exact_ends (t : NumericType) :
  (∀ (order : ByteOrder) (source : List UInt8) (request : Request) (destination : List t.Value),
    let failure? := verdict (ofCopy request t.width source.length 1 destination.length)
    Edited.failure? (t.decodeInto order source request destination) = failure?
      ∧ Edited.failure? (t.decodeNative source request destination) = failure?)
  ∧ (∀ (order : ByteOrder) (source : List t.Value) (request : Request) (destination : List UInt8),
    let failure? := verdict (ofCopy request 1 source.length t.width destination.length)
    Edited.failure? (t.encodeInto order source request destination) = failure?
      ∧ Edited.failure? (t.encodeNative source request destination) = failure?)
  ∧ (∀ (offset count : UInt64) (values : List t.Value),
    Edited.failure? (t.swapWindow offset count values)
      = verdict [ofRange .destination offset count 1 values.length])
  ∧ (∀ (source : List UInt8) (offset count : UInt64), Allocatable 1 source →
    Failure.of? (t.decodeFresh source offset count)
      = verdict [ofRange .source offset count t.width source.length])
  ∧ ∀ (source : List t.Value) (offset count : UInt64), Allocatable t.width source →
    Failure.of? (t.encodeFresh source offset count)
      = verdict [ofRange .source offset count 1 source.length]
  := by
  constructor
  · intro order source request destination
    use t.failure?_decodeInto order source request destination
    apply t.failure?_decodeInto .native
  · constructor
    · intro order source request destination
      use t.failure?_encodeInto order source request destination
      apply t.failure?_encodeInto .native
    · use t.failure?_swapWindow
      constructor
      · intro source offset count allocatable
        apply t.of?_decodeFresh allocatable
      · intro source offset count allocatable
        apply t.of?_encodeFresh allocatable

/-- A request whose range overflows in the source is refused for that, although it does not fit
the destination either; one for no value fits at the very ends; and four bytes are enough for
two values, but not from the second byte on. -/
theorem accepted_by_exact_ends_int16 :
  Edited.failure? (int16.decodeInto .big [1, 2, 3, 4] ⟨0xffffffffffffffff, 9, 1⟩ [0])
      = some (.outOfBounds ⟨.source, .overflow⟩)
    ∧ Edited.failure? (int16.encodeNative [1, 2] ⟨2, 4, 0⟩ [0, 0, 0, 0]) = none
    ∧ Edited.failure? (int16.swapWindow 1 2 [1, 2])
      = some (.outOfBounds ⟨.destination, .exceeds 3 2⟩)
    ∧ Failure.of? (int16.decodeFresh [1, 2, 3, 4] 1 2)
      = some (.outOfBounds ⟨.source, .exceeds 5 4⟩)
    ∧ Failure.of? (int16.encodeFresh [1, 2] 0 2) = none
  := by
  obtain ⟨decoded, encoded, swapped, madeNumbers, madeBytes⟩ := accepted_by_exact_ends int16
  use (decoded .big [1, 2, 3, 4] ⟨0xffffffffffffffff, 9, 1⟩ [0]).1,
    (encoded .little [1, 2] ⟨2, 4, 0⟩ [0, 0, 0, 0]).2, swapped 1 2 [1, 2],
    madeNumbers [1, 2, 3, 4] 1 2 (by unfold Allocatable; decide)
  apply madeBytes [1, 2] 0 2 (by unfold Allocatable; decide)

end NumericType

end NumericBytes
