import NumericBytes.Proofs.Codec.Integral
import NumericBytes.Proofs.Foreign.Refinement

/-!
# Transfers and lent buffers of integers

A transfer of numbers is carried to the transfer of the integers with their patterns, and a lent
buffer likewise.  Copies of signed requests carry what the copies of conversions carry
(`Conversion.Carries.signed`), so that a copy along a transfer is the copy along the one of
integers, and a copy between lent buffers the copy between those of integers
(`Transfer.copy_integral`, `decodeLent_integral`, `encodeLent_integral`).
-/

namespace NumericBytes

theorem Edited.map_map {σ τ υ : Type} (put : τ → σ) (put' : υ → τ) (edited : Edited υ) :
  map put (map put' edited) = map (put ∘ put') edited
  := by
  cases edited with
  | ok _ part => rfl
  | error failure part => rfl

/-- Signed requests for copies that carry units carry them too. -/
theorem Conversion.Carries.signed {α α' β β' : Type} {f : α → α'} {g : β → β'}
    {conversion : Conversion α β} {conversion' : Conversion α' β'}
    (h : conversion.Carries f g conversion') (source : List α) (request : SignedRequest)
    (destination : List β) :
  Edit.signed (conversion'.copy (source.map f)) request (destination.map g)
    = Edited.map (List.map g) (Edit.signed (conversion.copy source) request destination)
  := by
  rw [Edit.signed, Edit.signed, Edit.check_bind, Edit.check_bind]
  cases request.toRequest with
  | ok accepted => apply h.copy
  | error failure => rfl

/-! ### Copies along transfers -/

/-- The integers with the patterns of the elements. -/
def NumericArray.integral (array : NumericArray) : NumericArray :=
  ⟨array.elementType.integral, array.elements.map array.elementType.toIntegral⟩

namespace Transfer

/-- The transfer of the integers with the patterns of the numbers. -/
def integral : Transfer → Transfer
  | decoding source destination => decoding source destination.integral
  | encoding source destination => encoding source.integral destination

theorem copy_integral (request : SignedRequest) (transfer : Transfer) :
  copy request transfer.integral = Edited.map integral (copy request transfer)
  := by
  cases transfer with
  | decoding source destination =>
    obtain ⟨t, elements⟩ := destination
    have h := (t.decoding_carries .native).signed source request elements
    rw [List.map_id] at h
    rw [integral, NumericArray.integral, copy_decoding, copy_decoding, Edit.within, Edit.within,
      NumericType.decodeNative_eq_copy, NumericType.decodeNative_eq_copy, h, Edited.map_map,
      Edited.map_map]
    rfl
  | encoding source destination =>
    obtain ⟨t, elements⟩ := source
    have h := (t.encoding_carries .native).signed elements request destination
    rw [List.map_id, List.map_id_fun] at h
    rw [integral, NumericArray.integral, copy_encoding, copy_encoding, Edit.within, Edit.within,
      NumericType.encodeNative_eq_copy, NumericType.encodeNative_eq_copy, h, Edited.map_map,
      Edited.map_map]
    rfl

end Transfer

/-! ### Copies between lent buffers -/

namespace Lent

variable {α β : Type}

/-- The lent buffer with its units replaced one by one. -/
def map (f : α → β) : Lent α → Lent β
  | null length => null length
  | place units length length_le => place (units.map f) length (by rwa [List.length_map])

theorem map_id (lent : Lent α) :
  lent.map id = lent
  := by
  cases lent with
  | null length => rfl
  | place units length length_le => simp only [map, List.map_id]

theorem units?_map (f : α → β) (lent : Lent α) :
  (lent.map f).units? = lent.units?.map (List.map f)
  := by
  cases lent with
  | null length => rfl
  | place units length length_le => rfl

theorem length_map (f : α → β) (lent : Lent α) :
  (lent.map f).length = lent.length
  := by
  cases lent with
  | null length => rfl
  | place units length length_le => rfl

theorem whole_map (f : α → β) (units : List α) :
  (whole units).map f = whole (units.map f)
  := by
  simp only [whole, map, List.length_map]

/-- What is lent of corresponding buffers corresponds. -/
theorem lend?_map (f : α → β) (units : List α) (loan : Loan) :
  loan.lend? (units.map f) = (loan.lend? units).map (map f)
  := by
  cases loan with
  | whole => rw [Loan.lend?, Loan.lend?, Option.map_some, whole_map]
  | front length =>
    rw [Loan.lend?, Loan.lend?]
    by_cases length_le : length.toNat ≤ units.length
    · rw [dif_pos length_le, dif_pos (by rwa [List.length_map])]
      rfl
    · rw [dif_neg length_le, dif_neg (by rwa [List.length_map])]
      rfl
  | null length => rfl

theorem missing_map (f : α → β) (lent : Lent α) :
  (lent.map f).Missing ↔ lent.Missing
  := by
  cases lent with
  | null length => rfl
  | place units length length_le => rfl

theorem visible_map (f : α → β) (lent : Lent α) :
  (lent.map f).visible = lent.visible.map f
  := by
  cases lent with
  | null length => rfl
  | place units length length_le =>
    symm
    apply List.map_take

theorem restored_map (f : α → β) (lent : Lent α) (lentUnits : List α) :
  (lent.map f).restored (lentUnits.map f) = (lent.restored lentUnits).map (List.map f)
  := by
  rw [restored, restored, length_map, units?_map]
  cases lent.units? with
  | none => rfl
  | some units => simp only [Option.map_some, List.map_append, List.map_drop]

end Lent

/-- Copies between corresponding lent buffers have one status, and leave corresponding buffers. -/
theorem Conversion.Carries.copyLent {α α' β β' : Type} {f : α → α'} {g : β → β'}
    {conversion : Conversion α β} {conversion' : Conversion α' β'}
    (h : conversion.Carries f g conversion') (source : Lent α) (destination : Lent β)
    (request : SignedRequest) :
  NumericBytes.copyLent conversion'.copy (source.map f) (destination.map g) request
    = (NumericBytes.copyLent conversion.copy source destination request).map id
        (Option.map (List.map g))
  := by
  by_cases missing : source.Missing ∨ destination.Missing
  · have missing' : (source.map f).Missing ∨ (destination.map g).Missing := by
      rw [Lent.missing_map, Lent.missing_map]
      apply missing
    rw [copyLent_of_missing missing, copyLent_of_missing missing', Lent.units?_map]
    rfl
  · obtain ⟨hsource, hdestination⟩ := not_or.mp missing
    have hsource' : ¬(source.map f).Missing := by
      rw [Lent.missing_map]
      apply hsource
    have hdestination' : ¬(destination.map g).Missing := by
      rw [Lent.missing_map]
      apply hdestination
    rw [copyLent_of_not_missing hsource hdestination,
      copyLent_of_not_missing hsource' hdestination', Lent.visible_map, Lent.visible_map]
    dsimp only
    rw [h.signed, Status.ofEdited, Edited.failure?_map, Edited.state_map, Lent.restored_map]
    rfl

namespace NumericType

theorem decodeLent_integral (t : NumericType) (source : Lent UInt8) (destination : Lent t.Value)
    (request : SignedRequest) :
  t.integral.decodeLent source (destination.map t.toIntegral) request
    = (t.decodeLent source destination request).map id (Option.map (List.map t.toIntegral))
  := by
  have h := (t.decoding_carries .native).copyLent source destination request
  rw [Lent.map_id] at h
  rw [decodeLent, decodeLent, decodeNative_eq_copy, decodeNative_eq_copy, h]

theorem encodeLent_integral (t : NumericType) (source : Lent t.Value) (destination : Lent UInt8)
    (request : SignedRequest) :
  t.integral.encodeLent (source.map t.toIntegral) destination request
    = t.encodeLent source destination request
  := by
  have h := (t.encoding_carries .native).copyLent source destination request
  rw [Lent.map_id, List.map_id_fun, Option.map_id_fun, Prod.map_id, id] at h
  rw [encodeLent, encodeLent, encodeNative_eq_copy, encodeNative_eq_copy, h]

end NumericType

end NumericBytes
