import NumericBytes.Proofs.Foreign.Refinement

/-!
# Copies between lent buffers see what is lent only

Two buffers have the same visible units (`Lent.SameVisible`) if they are lent under one length and
hold the same within it; it does not matter what they hold beyond it, how far they reach, and
whether a buffer of length `0` is null.  Copies between such buffers cannot be told apart by the
status and by what they leave within the lengths, and change nothing beyond them
(`Lent.SameAnswer`).  `copyLent_sameAnswer` proves it of any conservative copy, and
`copies_see_what_is_lent_only` of the copies of all types in both directions.
-/

namespace NumericBytes

namespace Lent

variable {α β : Type}

/-- The first `n` units of a buffer.  There are none if there is no buffer. -/
def front (n : Nat) (units? : Option (List α)) : List α :=
  (units?.getD []).take n

/-- The buffers are lent under one length and hold the same units within it. -/
structure SameVisible (lent lent' : Lent α) : Prop where
  length : lent'.length = lent.length
  visible : lent'.visible = lent.visible

/-- The answers of copies to two destinations that are lent under one length have the same status
and the same units within the length; and each copy leaves the units beyond the length as they
were. -/
structure SameAnswer
    (destination destination' : Lent β) (answer answer' : Status × Option (List β)) : Prop where
  status : answer'.1 = answer.1
  within : front destination'.length.toNat answer'.2 = front destination.length.toNat answer.2
  beyond : answer.2.map (List.drop destination.length.toNat)
    = destination.units?.map (List.drop destination.length.toNat)
  beyond' : answer'.2.map (List.drop destination'.length.toNat)
    = destination'.units?.map (List.drop destination'.length.toNat)

theorem front_units? (lent : Lent α) :
  front lent.length.toNat lent.units? = lent.visible
  := by
  cases lent with
  | null length => apply List.take_nil
  | place units length length_le => rfl

/-- The first units of a buffer in which as many units as are visible have been overwritten. -/
theorem front_restored {lent : Lent α} {units : List α}
    (same : units.length = lent.visible.length) :
  front lent.length.toNat (lent.restored units) = units
  := by
  cases lent with
  | null length =>
    obtain rfl := List.length_eq_zero_iff.mp same
    apply List.take_nil
  | place whole length length_le =>
    rw [length_visible rfl] at same
    apply List.take_left' same

/-- A buffer is missing exactly if nothing of it is visible although its length is not `0`. -/
theorem missing_iff {lent : Lent α} :
  lent.Missing ↔ lent.length ≠ 0 ∧ lent.visible = []
  := by
  cases lent with
  | null length =>
    constructor
    · intro missing
      use missing
      rfl
    · intro h
      apply h.1
  | place units length length_le =>
    apply iff_of_false id
    rintro ⟨nonzero, none⟩
    have visible : (place units length length_le).visible.length = length.toNat :=
      length_visible rfl
    rw [none] at visible
    apply nonzero
    apply UInt64.toNat_inj.mp visible.symm

/-- Of two buffers with the same visible units, both are missing or none is. -/
theorem SameVisible.missing_iff {lent lent' : Lent α} (h : lent.SameVisible lent') :
  lent'.Missing ↔ lent.Missing
  := by
  rw [Lent.missing_iff, Lent.missing_iff, h.length, h.visible]

end Lent

open Lent

variable {α β : Type} {copy : List α → Request → Edit (List β) Unit} {source source' : Lent α}
  {destination destination' : Lent β} {request : SignedRequest}

/-- Copies between buffers with the same visible units have the same answers, as far as these are
visible. -/
theorem copyLent_sameAnswer
    (conserves : ∀ units request units',
      Edited.Conserves List.length units' (copy units request units'))
    (sources : source.SameVisible source') (destinations : destination.SameVisible destination') :
  SameAnswer destination destination' (copyLent copy source destination request)
    (copyLent copy source' destination' request)
  := by
  by_cases missing : source.Missing ∨ destination.Missing
  · have missing' : source'.Missing ∨ destination'.Missing := by
      rw [sources.missing_iff, destinations.missing_iff]
      apply missing
    rw [copyLent_of_missing missing, copyLent_of_missing missing']
    constructor
    · rfl
    · rw [front_units?, front_units?, destinations.visible]
    · rfl
    · rfl
  · obtain ⟨hsource, hdestination⟩ := not_or.mp missing
    have hsource' := (not_congr sources.missing_iff).mpr hsource
    have hdestination' := (not_congr destinations.missing_iff).mpr hdestination
    have conserved : Edited.Conserves List.length destination.visible
        (Edit.signed (copy source.visible) request destination.visible) := by
      apply Edit.conserves_signed
      intro accepted
      apply conserves
    -- Both copies are made of the same units over the same units.
    have same := conserved.shape_state
    have same' := same.trans (congrArg List.length destinations.visible.symm)
    rw [copyLent_of_not_missing hsource hdestination,
      copyLent_of_not_missing hsource' hdestination', sources.visible, destinations.visible]
    constructor
    · rfl
    · rw [front_restored same, front_restored same']
    · apply (restored_take_drop same).2.1
    · apply (restored_take_drop same').2.1

/-- Copies between lent buffers, of each type and in each direction, see and change nothing beyond
the lengths under which the buffers are lent. -/
theorem copies_see_what_is_lent_only (t : NumericType) (request : SignedRequest) :
  (∀ ⦃source source' : Lent UInt8⦄ ⦃destination destination' : Lent t.Value⦄,
    source.SameVisible source' → destination.SameVisible destination' →
    SameAnswer destination destination' (t.decodeLent source destination request)
      (t.decodeLent source' destination' request))
  ∧ ∀ ⦃source source' : Lent t.Value⦄ ⦃destination destination' : Lent UInt8⦄,
    source.SameVisible source' → destination.SameVisible destination' →
    SameAnswer destination destination' (t.encodeLent source destination request)
      (t.encodeLent source' destination' request)
  := by
  constructor
  · intro source source' destination destination' sources destinations
    apply copyLent_sameAnswer _ sources destinations
    apply t.conserves_decodeInto
  · intro source source' destination destination' sources destinations
    apply copyLent_sameAnswer _ sources destinations
    apply t.conserves_encodeInto

/-- A byte behind the two that are lent does not matter, and neither does a value behind the one
that is overwritten.  A null buffer of length `0` is as good as any other of this length. -/
theorem copies_see_what_is_lent_only_int16 :
  ((place [1, 2] 2 (by decide)).SameVisible (place [(1 : UInt8), 2, 9] 2 (by decide))
    ∧ (place [(7 : Int16)] 1 (by decide)).SameVisible (place [7, 8] 1 (by decide))
    ∧ SameAnswer (place [(7 : Int16)] 1 (by decide)) (place [7, 8] 1 (by decide))
      (NumericType.int16.decodeLent (place [1, 2] 2 (by decide)) (place [7] 1 (by decide))
        ⟨0, 0, 1⟩)
      (NumericType.int16.decodeLent (place [1, 2, 9] 2 (by decide)) (place [7, 8] 1 (by decide))
        ⟨0, 0, 1⟩))
  ∧ (null 0).SameVisible (place [(5 : UInt8)] 0 (by decide))
    ∧ SameAnswer (null 0) (place [(5 : UInt8)] 0 (by decide))
      (NumericType.int16.encodeLent (place [3] 1 (by decide)) (null 0) ⟨0, 0, 1⟩)
      (NumericType.int16.encodeLent (place [3] 1 (by decide)) (place [5] 0 (by decide)) ⟨0, 0, 1⟩)
  := by
  obtain ⟨decoded, encoded⟩ := copies_see_what_is_lent_only .int16 ⟨0, 0, 1⟩
  have bytes : (place [1, 2] 2 (by decide)).SameVisible (place [(1 : UInt8), 2, 9] 2 (by decide)) :=
    ⟨rfl, rfl⟩
  have values : (place [(7 : Int16)] 1 (by decide)).SameVisible (place [7, 8] 1 (by decide)) :=
    ⟨rfl, rfl⟩
  have empty : (null 0).SameVisible (place [(5 : UInt8)] 0 (by decide)) := ⟨rfl, rfl⟩
  exact ⟨⟨bytes, values, decoded bytes values⟩, empty, encoded ⟨rfl, rfl⟩ empty⟩

end NumericBytes
