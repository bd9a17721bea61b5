import NumericBytes.Foreign.Copy
import NumericBytes.Proofs.Transfer.Copy

/-!
# Copies between lent buffers refine copies along transfers

What is lent of a buffer are its first units, `lent.visible`; nothing can be lent of a buffer
that is `Missing`.  `Lent.Refines` says what the answer of a copy between lent buffers has to
do with the copy along the transfer of the visible units: the status tells how that copy
ends, the visible units of the destination are those that it leaves, and the others are out
of reach.  `copyLent_refines` proves it of any copy that is made along a transfer, and
`copies_between_lent_buffers_refine` of the copies of all types in both directions.
-/

namespace NumericBytes

namespace Lent

variable {α β : Type}

/-- The units within the length under which the buffer is lent. -/
def visible : Lent α → List α
  | null _ => []
  | place units length _ => units.take length.toNat

/-- The buffer is null, although it is lent under a length other than `0`. -/
def Missing : Lent α → Prop
  | null length => length ≠ 0
  | place _ _ _ => False

theorem borrow?_of_missing {lent : Lent α} (h : lent.Missing) :
  lent.borrow? = none
  := by
  cases lent with
  | null length => apply if_neg h
  | place units length length_le => contradiction

theorem borrow?_of_not_missing {lent : Lent α} (h : ¬lent.Missing) :
  lent.borrow? = some lent.visible
  := by
  cases lent with
  | null length => apply if_pos (Decidable.not_not.mp h)
  | place units length length_le =>
    rw [borrow?]
    split
    · rename_i empty
      obtain rfl : length = 0 := empty
      rfl
    · rfl

theorem length_visible {lent : Lent α} (h : lent.units?.isSome) :
  lent.visible.length = lent.length.toNat
  := by
  cases lent with
  | null length => contradiction
  | place units length length_le =>
    rw [visible, List.length_take]
    apply Nat.min_eq_left length_le

/-- The visible units in front of those that are out of reach are the whole buffer. -/
theorem restored_visible (lent : Lent α) :
  lent.restored lent.visible = lent.units?
  := by
  cases lent with
  | null length => rfl
  | place units length length_le => apply congrArg some (List.take_append_drop ..)

/-- What a buffer in which as many units as are visible have been overwritten holds within
the length under which it is lent, and beyond. -/
theorem restored_take_drop {lent : Lent α} {units : List α}
    (same : units.length = lent.visible.length) :
  (lent.restored units).map (List.take lent.length.toNat) = lent.units?.map (fun _ => units)
    ∧ (lent.restored units).map (List.drop lent.length.toNat)
      = lent.units?.map (List.drop lent.length.toNat)
    ∧ (lent.restored units).map List.length = lent.units?.map List.length
  := by
  cases lent with
  | null length =>
    use rfl, rfl
    rfl
  | place whole length length_le =>
    rw [length_visible rfl] at same
    constructor
    · apply congrArg some (List.take_left' same)
    · constructor
      · apply congrArg some (List.drop_left' same)
      · apply congrArg some
        rw [List.length_append, List.length_drop, same]
        apply Nat.add_sub_cancel' length_le

/-- What the answer of a copy between lent buffers has to do with the copy along the transfer
of the visible units. -/
structure Refines (transfer : List α → List β → Transfer) (source : Lent α)
    (destination : Lent β) (request : SignedRequest) (answer : Status × Option (List β)) :
    Prop where
  /-- The arguments are invalid exactly if a buffer is missing, whatever the request says. -/
  code_eq_one_iff : answer.1.code = 1 ↔ source.Missing ∨ destination.Missing
  /-- Otherwise the copy succeeds exactly if the one along the transfer does. -/
  code_eq_zero_iff : ¬source.Missing → ¬destination.Missing → (answer.1.code = 0 ↔
    ∃ after, Transfer.copy request (transfer source.visible destination.visible) = .ok () after)
  /-- Otherwise it is out of bounds exactly if the one along the transfer is refused. -/
  code_eq_three_iff : ¬source.Missing → ¬destination.Missing → (answer.1.code = 3 ↔
    ∃ error after, Transfer.copy request (transfer source.visible destination.visible)
      = .error (.outOfBounds error) after)
  code_ne_two : answer.1.code ≠ 2
  /-- After a success the destination holds, within its length, what the copy along the
  transfer leaves there. -/
  copied : answer.1.code = 0 → ∃ units,
    Transfer.copy request (transfer source.visible destination.visible)
        = .ok () (transfer source.visible units)
      ∧ answer.2.map (List.take destination.length.toNat) = destination.units?.map fun _ => units
  /-- The units beyond the length are never changed. -/
  beyond : answer.2.map (List.drop destination.length.toNat)
    = destination.units?.map (List.drop destination.length.toNat)
  length_eq : answer.2.map List.length = destination.units?.map List.length
  /-- After a failure the whole destination is as it was. -/
  unchanged : answer.1.code ≠ 0 → answer.2 = destination.units?

namespace Refines

variable {transfer : List α → List β → Transfer} {source : Lent α} {destination : Lent β}
  {request : SignedRequest}

theorem ofMissing (missing : source.Missing ∨ destination.Missing) :
  Refines transfer source destination request (.invalidArguments, destination.units?)
  := by
  have absurd {p : Prop} (hsource : ¬source.Missing) (hdestination : ¬destination.Missing) : p :=
    (missing.elim hsource hdestination).elim
  constructor
  · apply iff_of_true rfl missing
  · intro hsource hdestination
    apply absurd hsource hdestination
  · intro hsource hdestination
    apply absurd hsource hdestination
  · apply (by decide : Status.invalidArguments.code ≠ 2)
  · intro h
    contradiction
  · rfl
  · rfl
  · intro _
    rfl

theorem ofCopied (present : ¬(source.Missing ∨ destination.Missing)) {units : List β}
    (same : units.length = destination.visible.length)
    (hcopy : Transfer.copy request (transfer source.visible destination.visible)
      = .ok () (transfer source.visible units)) :
  Refines transfer source destination request (.ok, destination.restored units)
  := by
  obtain ⟨take, drop, length⟩ := restored_take_drop same
  constructor
  · apply iff_of_false (by decide : Status.ok.code ≠ 1) present
  · intro _ _
    apply iff_of_true rfl ⟨_, hcopy⟩
  · intro _ _
    rw [hcopy]
    apply iff_of_false
    · intro h
      contradiction
    · rintro ⟨error, after, h⟩
      contradiction
  · apply (by decide : Status.ok.code ≠ 2)
  · intro _
    use units, hcopy, take
  · apply drop
  · apply length
  · intro h
    contradiction

theorem ofRefused (present : ¬(source.Missing ∨ destination.Missing)) {error : OutOfBounds}
    {after : Transfer}
    (hcopy : Transfer.copy request (transfer source.visible destination.visible)
      = .error (.outOfBounds error) after) :
  Refines transfer source destination request (.outOfBounds, destination.units?)
  := by
  constructor
  · apply iff_of_false (by decide : Status.outOfBounds.code ≠ 1) present
  · intro _ _
    rw [hcopy]
    apply iff_of_false
    · intro h
      contradiction
    · rintro ⟨after, h⟩
      contradiction
  · intro _ _
    apply iff_of_true rfl ⟨_, _, hcopy⟩
  · apply (by decide : Status.outOfBounds.code ≠ 2)
  · intro h
    contradiction
  · rfl
  · rfl
  · intro _
    rfl

end Refines

end Lent

open Lent

variable {α β : Type} {copy : List α → Request → Edit (List β) Unit} {source : Lent α}
  {destination : Lent β} {request : SignedRequest}

theorem copyLent_of_missing (missing : source.Missing ∨ destination.Missing) :
  copyLent copy source destination request = (.invalidArguments, destination.units?)
  := by
  rw [copyLent]
  rcases missing with missing | missing
  · rw [borrow?_of_missing missing]
  · rw [borrow?_of_missing missing]
    split
    · contradiction
    · rfl

theorem copyLent_of_not_missing (hsource : ¬source.Missing)
    (hdestination : ¬destination.Missing) :
  copyLent copy source destination request
    = let edited : Edited (List β) :=
        Edit.signed (copy source.visible) request destination.visible
      (.ofEdited edited, destination.restored edited.state)
  := by
  rw [copyLent, borrow?_of_not_missing hsource, borrow?_of_not_missing hdestination]
  rfl

/-- A copy between lent buffers refines the copy along a transfer, if this is the same copy
of the units that it is given, and a conservative one. -/
theorem copyLent_refines {transfer : List α → List β → Transfer}
    (along : ∀ units units', Transfer.copy request (transfer units units')
      = (Edit.signed (copy units) request).within units' (transfer units))
    (conserves : ∀ units request units',
      Edited.Conserves List.length units' (copy units request units'))
    (source : Lent α) (destination : Lent β) :
  Refines transfer source destination request (copyLent copy source destination request)
  := by
  by_cases missing : source.Missing ∨ destination.Missing
  · rw [copyLent_of_missing missing]
    apply Refines.ofMissing missing
  · obtain ⟨hsource, hdestination⟩ := not_or.mp missing
    have conserved : Edited.Conserves List.length destination.visible
        (Edit.signed (copy source.visible) request destination.visible) := by
      apply Edit.conserves_signed
      intro accepted
      apply conserves
    have hcopy := along source.visible destination.visible
    rw [Edit.within] at hcopy
    rw [copyLent_of_not_missing hsource hdestination]
    cases hedited : Edit.signed (copy source.visible) request destination.visible with
    | ok _ units =>
      rw [hedited] at hcopy
      apply Refines.ofCopied missing (conserved.kept hedited) hcopy
    | error failure units =>
      rw [hedited] at hcopy
      obtain ⟨rfl, error, rfl⟩ := conserved.refused hedited
      have h := Refines.ofRefused missing hcopy
      rw [← restored_visible] at h
      apply h

theorem NumericType.decodeLent_refines (t : NumericType) (source : Lent UInt8)
    (destination : Lent t.Value) (request : SignedRequest) :
  Refines (fun bytes elements => .decoding bytes ⟨t, elements⟩) source destination request
    (t.decodeLent source destination request)
  := by
  apply copyLent_refines
  · intro bytes elements
    apply Transfer.copy_decoding
  · apply t.conserves_decodeInto

theorem NumericType.encodeLent_refines (t : NumericType) (source : Lent t.Value)
    (destination : Lent UInt8) (request : SignedRequest) :
  Refines (fun elements bytes => .encoding ⟨t, elements⟩ bytes) source destination request
    (t.encodeLent source destination request)
  := by
  apply copyLent_refines
  · intro elements bytes
    apply Transfer.copy_encoding
  · apply t.conserves_encodeInto

/-- The copies offered across a language boundary, of each type and in each direction, refine
the copies along transfers. -/
theorem copies_between_lent_buffers_refine (t : NumericType) (request : SignedRequest) :
  (∀ source destination, Refines (fun bytes elements => .decoding bytes ⟨t, elements⟩)
      source destination request (t.decodeLent source destination request))
    ∧ ∀ source destination, Refines (fun elements bytes => .encoding ⟨t, elements⟩ bytes)
        source destination request (t.encodeLent source destination request)
  := by
  constructor
  · intro source destination
    apply t.decodeLent_refines
  · intro source destination
    apply t.encodeLent_refines

end NumericBytes
