import NumericBytes.Proofs.Codec.Conversion
import NumericBytes.Transfer

/-!
# Copies along transfers

A copy along a transfer is the copy of its direction and its type, carried out on the
destination alone once the signed numbers of the request have been accepted:
`Transfer.copy_decoding` and `Transfer.copy_encoding`.  It is refused, or keeps the shape of
the destination (`Transfer.conserves_copy`).
-/

namespace NumericBytes

/-- The kind of units that a buffer holds, and their number. -/
def Buffer.shape (buffer : Buffer) : Option NumericType × Nat :=
  (buffer.elementType?, buffer.length)

/-- An edit that a request asks for, once its signed numbers have been accepted. -/
def Edit.signed {σ : Type} (edit : Request → Edit σ Unit) (request : SignedRequest) :
    Edit σ Unit :=
  check request.toRequest >>= edit

theorem Edit.conserves_signed {σ κ : Type} {shape : σ → κ} {before : σ}
    {edit : Request → Edit σ Unit} (request : SignedRequest)
    (h : ∀ accepted, Edited.Conserves shape before (edit accepted before)) :
  Edited.Conserves shape before (signed edit request before)
  := by
  apply conserves_check_bind request.onlyRefuses_toRequest
  intro accepted _
  apply h

namespace NumericType

theorem conserves_decodeInto (t : NumericType) (order : ByteOrder) (source : List UInt8)
    (request : Request) (destination : List t.Value) :
  Edited.Conserves List.length destination (t.decodeInto order source request destination)
  := by
  rw [decodeInto_eq_copy]
  apply Conversion.conserves_copy

theorem conserves_encodeInto (t : NumericType) (order : ByteOrder) (source : List t.Value)
    (request : Request) (destination : List UInt8) :
  Edited.Conserves List.length destination (t.encodeInto order source request destination)
  := by
  rw [encodeInto_eq_copy]
  apply Conversion.conserves_copy

end NumericType

namespace Transfer

theorem copy_decoding (request : SignedRequest) (t : NumericType) (source : List UInt8)
    (elements : List t.Value) :
  copy request (decoding source ⟨t, elements⟩)
    = (Edit.signed (t.decodeNative source) request).within elements fun elements =>
        decoding source ⟨t, elements⟩
  := by
  rw [copy, Edit.within, Edit.signed, Edit.check_bind, Edit.check_bind]
  cases request.toRequest with
  | ok accepted => rfl
  | error failure => rfl

theorem copy_encoding (request : SignedRequest) (t : NumericType) (elements : List t.Value)
    (destination : List UInt8) :
  copy request (encoding ⟨t, elements⟩ destination)
    = (Edit.signed (t.encodeNative elements) request).within destination fun bytes =>
        encoding ⟨t, elements⟩ bytes
  := by
  rw [copy, Edit.within, Edit.signed, Edit.check_bind, Edit.check_bind]
  cases request.toRequest with
  | ok accepted => rfl
  | error failure => rfl

/-- A copy along a transfer is refused, or keeps the shape of the destination. -/
theorem conserves_copy (request : SignedRequest) (transfer : Transfer) :
  Edited.Conserves (fun transfer => transfer.destination.shape) transfer (copy request transfer)
  := by
  cases transfer with
  | decoding source destination =>
    obtain ⟨t, elements⟩ := destination
    have conserved : Edited.Conserves List.length elements
        (Edit.signed (t.decodeNative source) request elements) := by
      apply Edit.conserves_signed
      intro accepted
      apply t.conserves_decodeInto
    rw [copy_decoding]
    apply conserved.within
    · rfl
    · intro elements' h
      apply congrArg (Prod.mk _) h
  | encoding source destination =>
    obtain ⟨t, elements⟩ := source
    have conserved : Edited.Conserves List.length destination
        (Edit.signed (t.encodeNative elements) request destination) := by
      apply Edit.conserves_signed
      intro accepted
      apply t.conserves_encodeInto
    rw [copy_encoding]
    apply conserved.within
    · rfl
    · intro bytes h
      apply congrArg (Prod.mk _) h

end Transfer

end NumericBytes
