import NumericBytes.Proofs.Transfer.Copy

/-!
# Which copy a transfer selects

The numbers of a signed request are looked at in turn, and the first negative one is reported
(`SignedRequest.firstNegative?`); if there is none, the request is accepted as one that
`Denotes` the same numbers.  `Transfer.copy_selects` says that a copy along a transfer fails
for the first negative number, whatever its buffers are, and is otherwise the copy of the
direction and the numeric type that the transfer tells.
-/

namespace NumericBytes

/-- A signed number is refused if it is negative, and accepted as the same number if not. -/
theorem Request.unsigned_cases (side : Side) (n : Int64) :
  (n.toInt < 0 ∧ unsigned side n = .error (.outOfBounds ⟨side, .negative⟩))
    ∨ ∃ m : UInt64, n.toInt = m.toNat ∧ unsigned side n = .ok m
  := by
  cases h : Word.ofSigned? n with
  | some m =>
    right
    use m, Word.ofSigned?_eq_some_iff.mp h
    rw [unsigned, h]
  | none =>
    left
    constructor
    · apply Int.lt_of_not_ge
      intro nonnegative
      -- A number that is not negative is less than `2 ^ 63`, and so a word.
      have value : (UInt64.ofNat n.toInt.toNat).toNat = n.toInt.toNat := by
        have := n.toInt_lt
        rw [UInt64.toNat_ofNat', Nat.mod_eq_of_lt (by omega)]
      have accepted : Word.ofSigned? n = some (UInt64.ofNat n.toInt.toNat) := by
        rw [Word.ofSigned?_eq_some_iff, value, Int.toNat_of_nonneg nonnegative]
      rw [h] at accepted
      contradiction
    · rw [unsigned, h]

namespace SignedRequest

/-- The side that is named for the first negative number of a request: its source for an offset
in the source or a count, its destination for an offset there. -/
def firstNegative? (request : SignedRequest) : Option Side :=
  if request.sourceOffset.toInt < 0 then some .source
  else if request.destinationOffset.toInt < 0 then some .destination
  else if request.count.toInt < 0 then some .source
  else none

/-- The request in words names the same numbers as the signed one. -/
structure Denotes (request : SignedRequest) (accepted : Request) : Prop where
  sourceOffset : request.sourceOffset.toInt = accepted.sourceOffset.toNat
  destinationOffset : request.destinationOffset.toInt = accepted.destinationOffset.toNat
  count : request.count.toInt = accepted.count.toNat

/-- A request is refused for its first negative number, or accepted with all its numbers. -/
theorem toRequest_cases (request : SignedRequest) :
  (∃ side, request.firstNegative? = some side
      ∧ request.toRequest = .error (.outOfBounds ⟨side, .negative⟩))
    ∨ (request.firstNegative? = none
      ∧ ∃ accepted, request.Denotes accepted ∧ request.toRequest = .ok accepted)
  := by
  rw [firstNegative?, toRequest]
  rcases Request.unsigned_cases .source request.sourceOffset with
    ⟨negative, hsource⟩ | ⟨sourceOffset, source, hsource⟩
  · left
    use .source, if_pos negative
    rw [hsource]
    rfl
  · rw [if_neg (by omega), hsource]
    rcases Request.unsigned_cases .destination request.destinationOffset with
      ⟨negative, hdestination⟩ | ⟨destinationOffset, destination, hdestination⟩
    · left
      use .destination, if_pos negative
      rw [hdestination]
      rfl
    · rw [if_neg (by omega), hdestination]
      rcases Request.unsigned_cases .source request.count with
        ⟨negative, hcount⟩ | ⟨count, counted, hcount⟩
      · left
        use .source, if_pos negative
        rw [hcount]
        rfl
      · right
        use if_neg (by omega), ⟨sourceOffset, destinationOffset, count⟩,
          ⟨source, destination, counted⟩
        rw [hcount]
        rfl

end SignedRequest

namespace Transfer

theorem copy_of_refused {request : SignedRequest} {failure : Failure}
    (h : request.toRequest = .error failure) (transfer : Transfer) :
  copy request transfer = .error failure transfer
  := by
  rw [copy, Edit.check_bind, h]

theorem copy_of_accepted {request : SignedRequest} {accepted : Request}
    (h : request.toRequest = .ok accepted) (transfer : Transfer) :
  copy request transfer = copyAt accepted transfer
  := by
  rw [copy, Edit.check_bind, h]

/-- A copy along a transfer fails for the first negative number of the request, and leaves the
transfer as it is.  If there is none, it is the copy, in the order of the host, of the
direction and the numeric type of the transfer, for the same numbers. -/
theorem copy_selects (transfer : Transfer) (request : SignedRequest) :
  (∀ side, request.firstNegative? = some side →
    copy request transfer = .error (.outOfBounds ⟨side, .negative⟩) transfer)
  ∧ (request.firstNegative? = none → ∃ accepted, request.Denotes accepted
    ∧ (transfer.direction = .decoding → ∃ source elements,
      transfer = decoding source ⟨transfer.elementType, elements⟩
        ∧ copy request transfer
          = Edited.map (fun elements => decoding source ⟨transfer.elementType, elements⟩)
              (transfer.elementType.decodeNative source accepted elements))
    ∧ (transfer.direction = .encoding → ∃ elements destination,
      transfer = encoding ⟨transfer.elementType, elements⟩ destination
        ∧ copy request transfer
          = Edited.map (fun bytes => encoding ⟨transfer.elementType, elements⟩ bytes)
              (transfer.elementType.encodeNative elements accepted destination)))
  := by
  rcases request.toRequest_cases with
    ⟨side, negative, hrequest⟩ | ⟨nonnegative, accepted, denotes, hrequest⟩
  · rw [negative]
    constructor
    · rintro _ ⟨⟩
      apply copy_of_refused hrequest
    · intro h
      contradiction
  · rw [nonnegative, copy_of_accepted hrequest]
    constructor
    · intro side h
      contradiction
    · intro _
      use accepted, denotes
      cases transfer with
      | decoding source destination =>
        constructor
        · intro _
          use source, destination.elements, rfl
          rfl
        · intro h
          contradiction
      | encoding source destination =>
        constructor
        · intro h
          contradiction
        · intro _
          use source.elements, destination, rfl
          rfl

/-- Of two negative numbers that of the destination is looked at first, and a transfer of an
array of integers to bytes encodes them. -/
theorem copy_selects_int16 :
  copy ⟨0, -1, -2⟩ (decoding [] ⟨.int16, []⟩)
      = .error (.outOfBounds ⟨.destination, .negative⟩) (decoding [] ⟨.int16, []⟩)
    ∧ ∃ accepted, SignedRequest.Denotes ⟨1, 1, 1⟩ accepted
      ∧ copy ⟨1, 1, 1⟩ (encoding ⟨.int16, [1, -2]⟩ [9, 9, 9])
        = Edited.map (fun bytes => encoding ⟨.int16, [1, -2]⟩ bytes)
            (NumericType.int16.encodeNative [1, -2] accepted [9, 9, 9])
  := by
  constructor
  · apply (copy_selects _ _).1 .destination (by decide)
  · obtain ⟨accepted, denotes, -, encoded⟩ :=
      (copy_selects (encoding ⟨.int16, [1, -2]⟩ [9, 9, 9]) ⟨1, 1, 1⟩).2 (by decide)
    use accepted, denotes
    obtain ⟨elements, destination, htransfer, hcopy⟩ := encoded rfl
    cases htransfer
    apply hcopy

end Transfer

end NumericBytes
