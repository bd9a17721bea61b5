import NumericBytes.Proofs.Codec.Locality
import NumericBytes.Proofs.Foreign.Refinement

/-!
# Calls of copies

A `CopyCall` is a copy into a buffer that stays with the caller, offered in one of three ways:
checked, along a transfer, or between lent buffers.  `CopyCall.decode?` and `CopyCall.encode?` carry
one out on the buffer and tell whether it succeeded.  However a copy is offered, it fails and keeps
the buffer, or it is the copy of a conversion in the first units of the buffer (`Conversion.Ends`):
`decode?_ends` and `encode?_ends`.  From this `Ends.getElem?_eq` tells the buffer afterwards at each
position.
-/

namespace NumericBytes

variable {α β : Type}

/-! ### Signed requests in words -/

/-- The numbers of a request as words, which a negative number is not. -/
def SignedRequest.words (request : SignedRequest) : Request :=
  ⟨request.sourceOffset.toUInt64, request.destinationOffset.toUInt64, request.count.toUInt64⟩

theorem Request.eq_of_unsigned {side : Side} {n : Int64} {m : UInt64}
    (h : unsigned side n = .ok m) :
  m = n.toUInt64
  := by
  rw [unsigned, Word.ofSigned?] at h
  by_cases negative : n < 0
  · rw [if_pos negative] at h
    contradiction
  · rw [if_neg negative] at h
    cases h
    rfl

/-- A request that is accepted is accepted with its numbers as words. -/
theorem SignedRequest.eq_words_of_toRequest {request : SignedRequest} {accepted : Request}
    (h : request.toRequest = .ok accepted) :
  accepted = request.words
  := by
  rw [toRequest] at h
  cases hsource : Request.unsigned .source request.sourceOffset with
  | error failure =>
    rw [hsource] at h
    contradiction
  | ok sourceOffset =>
    cases hdestination : Request.unsigned .destination request.destinationOffset with
    | error failure =>
      rw [hsource, hdestination] at h
      contradiction
    | ok destinationOffset =>
      cases hcount : Request.unsigned .source request.count with
      | error failure =>
        rw [hsource, hdestination, hcount] at h
        contradiction
      | ok count =>
        rw [hsource, hdestination, hcount] at h
        cases h
        rw [Request.eq_of_unsigned hsource, Request.eq_of_unsigned hdestination,
          Request.eq_of_unsigned hcount, words]

/-! ### How copies end -/

namespace Conversion

/-- How a copy to the first units of a buffer ends: whether it succeeds, and with which buffer. -/
inductive Ends (conversion : Conversion α β) (source : List α) (request : Request)
    (before : List β) : Bool → List β → Prop where
  | refused : Ends conversion source request before false before
  | copied {n : Nat} {part : List β} (n_le : n ≤ before.length)
      (h : conversion.copy source request (before.take n) = .ok () part) :
      Ends conversion source request before true (part ++ before.drop n)

variable {conversion : Conversion α β} {source : List α} {before after : List β}

theorem ends_copy (conversion : Conversion α β) (source : List α) (request : Request)
    (before : List β) :
  conversion.Ends source request before
    (Edited.failure? (conversion.copy source request before)).isNone
    (Edited.state (conversion.copy source request before))
  := by
  cases h : conversion.copy source request before with
  | ok _ after =>
    have all : conversion.copy source request (before.take before.length) = .ok () after := by
      rw [List.take_length]
      apply h
    have ends := Ends.copied (Nat.le_refl _) all
    rw [List.drop_length, List.append_nil] at ends
    apply ends
  | error failure after =>
    obtain ⟨rfl, -⟩ := (conserves_copy ..).refused h
    apply Ends.refused

theorem ends_signed (conversion : Conversion α β) (source : List α) (request : SignedRequest)
    (before : List β) :
  conversion.Ends source request.words before
    (Edited.failure? (Edit.signed (conversion.copy source) request before)).isNone
    (Edited.state (Edit.signed (conversion.copy source) request before))
  := by
  rw [Edit.signed, Edit.check_bind]
  cases h : request.toRequest with
  | ok accepted =>
    obtain rfl := SignedRequest.eq_words_of_toRequest h
    apply ends_copy
  | error failure => apply Ends.refused

namespace Ends

variable {request : Request} {succeeded : Bool}

/-- A copy to the first units of the first units of a buffer is one to the first of all. -/
theorem ofTake {n : Nat} {part : List β}
    (h : conversion.Ends source request (before.take n) succeeded part)
    (n_le : n ≤ before.length) :
  conversion.Ends source request before succeeded (part ++ before.drop n)
  := by
  cases h with
  | refused =>
    rw [List.take_append_drop]
    apply refused
  | @copied m _ m_le h =>
    rw [List.length_take, Nat.min_eq_left n_le] at m_le
    rw [List.take_take, Nat.min_eq_left m_le] at h
    have rest : (before.take n).drop m ++ before.drop n = before.drop m := by
      rw [← List.drop_append_of_le_length (by rwa [List.length_take, Nat.min_eq_left n_le]),
        List.take_append_drop]
    rw [List.append_assoc, rest]
    apply copied (Nat.le_trans m_le n_le) h

theorem length_eq (h : conversion.Ends source request before succeeded after) :
  after.length = before.length
  := by
  cases h with
  | refused => rfl
  | copied n_le h =>
    rw [List.length_append, length_copy h, ← List.length_append, List.take_append_drop]

/-- A copy that succeeds has its windows inside its buffers. -/
theorem inside (h : conversion.Ends source request before true after) :
  (conversion.read request).stop ≤ source.length
    ∧ (conversion.written request).stop ≤ before.length
  := by
  cases h with
  | copied n_le h =>
    obtain ⟨inside, inside', -⟩ := copy_eq_ok_iff.mp h
    use inside.stop_le
    apply Nat.le_trans inside'.stop_le
    rw [List.length_take]
    apply Nat.min_le_right

/-- A copy that succeeds leaves what it converts in the window that it writes. -/
theorem part_written (h : conversion.Ends source request before true after) :
  (conversion.written request).part after
    = conversion.convert request.count.toNat ((conversion.read request).part source)
  := by
  cases h with
  | @copied n part n_le h =>
    obtain ⟨-, inside, -⟩ := copy_eq_ok_iff.mp h
    have reached := inside.stop_le
    rw [← length_copy h] at reached
    rw [← part_copy h, Window.part, List.take_append_of_le_length reached]
    rfl

/-- A copy that succeeds leaves what it converts in the window that it writes; every other unit
is as it was. -/
theorem getElem?_eq (h : conversion.Ends source request before succeeded after) (i : Nat) :
  after[i]?
    = if succeeded ∧ i ∈ conversion.written request then
        (conversion.convert request.count.toNat
          ((conversion.read request).part source))[i - request.destinationOffset.toNat]?
      else before[i]?
  := by
  cases h with
  | refused => rfl
  | @copied n part n_le h =>
    -- Beyond the first `n` units nothing is written, so that the window need only be looked for
    -- among them.
    have outside := (sameOutside_copy h).append (length_copy h) (before.drop n)
    rw [List.take_append_drop] at outside
    by_cases written : i ∈ conversion.written request
    · rw [if_pos ⟨rfl, written⟩]
      obtain ⟨-, inside, -⟩ := copy_eq_ok_iff.mp h
      obtain ⟨first, last⟩ := Window.mem_iff.mp written
      obtain ⟨k, rfl⟩ := Nat.exists_eq_add_of_le first
      have reached := Nat.lt_of_lt_of_le last inside.stop_le
      rw [← length_copy h] at reached
      rw [List.getElem?_append_left reached]
      apply Eq.trans (getElem?_copy_inside h (Nat.lt_of_add_lt_add_left last))
      congr 1
      symm
      apply Nat.add_sub_cancel_left
    · rw [if_neg fun both => written both.2]
      apply outside i written

end Ends

end Conversion

theorem Status.beq_ok_ofEdited {σ : Type} (edited : Edited σ) :
  (ofEdited edited == ok) = edited.failure?.isNone
  := by
  cases edited with
  | ok _ state => rfl
  | error failure state =>
    cases failure with
    | outOfBounds error => rfl
    | misuse kind => rfl

/-- A copy to a place that is lent ends as one to the first units of the place. -/
theorem copyLent_ends (conversion : Conversion α β) (source : Lent α) (before : List β)
    {length : UInt64} (length_le : length.toNat ≤ before.length) (request : SignedRequest) :
  ∃ status after,
    copyLent conversion.copy source (.place before length length_le) request = (status, some after)
      ∧ conversion.Ends source.visible request.words before (status == .ok) after
  := by
  by_cases missing : source.Missing
  · rw [copyLent_of_missing (.inl missing)]
    use .invalidArguments, before, rfl
    apply Conversion.Ends.refused
  · have ends := conversion.ends_signed source.visible request (before.take length.toNat)
    rw [← Status.beq_ok_ofEdited] at ends
    rw [copyLent_of_not_missing missing id]
    exact ⟨_, _, rfl, ends.ofTake length_le⟩

/-! ### Calls -/

/-- A copy into a buffer that stays with the caller. -/
inductive CopyCall (α : Type) where
  /-- The checked copy, in the given order. -/
  | checked (order : ByteOrder) (source : List α) (request : Request)
  /-- The copy along the transfer from a source to the buffer. -/
  | along (source : List α) (request : SignedRequest)
  /-- The copy between lent buffers, for which the buffer is lent under the given length. -/
  | lent (source : Lent α) (length : UInt64) (request : SignedRequest)

namespace CopyCall

/-- The order in which a call reads or writes bytes. -/
def order : CopyCall α → ByteOrder
  | checked order _ _ => order
  | along _ _ | lent _ _ _ => .native

/-- The units that a call may read. -/
def source : CopyCall α → List α
  | checked _ source _ | along source _ => source
  | lent source _ _ => source.visible

/-- What a call asks for. -/
def request : CopyCall α → Request
  | checked _ _ request => request
  | along _ request | lent _ _ request => request.words

/-- The positions that a call names in its buffer, with `unit` of them for a value. -/
def window (unit : Nat) (call : CopyCall α) : Window :=
  .span call.request.destinationOffset call.request.count unit

/-- A buffer of the given capacity may be lent as the call lends it. -/
def Fits (capacity : Nat) : CopyCall α → Prop
  | checked _ _ _ | along _ _ => True
  | lent _ length _ => length.toNat ≤ capacity

end CopyCall

/-- The elements of an array, if it is one of the given type. -/
def NumericArray.elements? (t : NumericType) (array : NumericArray) : Option (List t.Value) :=
  if h : array.elementType = t then some (h ▸ array.elements) else none

theorem NumericArray.elements?_mk (t : NumericType) (elements : List t.Value) :
  elements? t ⟨t, elements⟩ = some elements
  := dif_pos rfl

namespace Transfer

/-- The numbers of a transfer, if they are of the given type. -/
def numbers? (t : NumericType) : Transfer → Option (List t.Value)
  | decoding _ array | encoding array _ => array.elements? t

end Transfer

namespace CopyCall

/-- Carries out a decoding call on a buffer of numbers: whether it succeeded, and the buffer
afterwards. -/
def decode? (t : NumericType) (call : CopyCall UInt8) (destination : List t.Value) :
    Option (Bool × List t.Value) :=
  match call with
  | checked order source request =>
    let edited : Edited (List t.Value) := t.decodeInto order source request destination
    some (edited.failure?.isNone, edited.state)
  | along source request =>
    let edited : Edited Transfer := Transfer.copy request (.decoding source ⟨t, destination⟩)
    (edited.state.numbers? t).map fun after => (edited.failure?.isNone, after)
  | lent source length request =>
    if length_le : length.toNat ≤ destination.length then
      let returned := t.decodeLent source (.place destination length length_le) request
      returned.2.map fun after => (returned.1 == .ok, after)
    else none

/-- Carries out an encoding call on a buffer of bytes: whether it succeeded, and the buffer
afterwards. -/
def encode? {t : NumericType} (call : CopyCall t.Value) (destination : List UInt8) :
    Option (Bool × List UInt8) :=
  match call with
  | checked order source request =>
    let edited : Edited (List UInt8) := t.encodeInto order source request destination
    some (edited.failure?.isNone, edited.state)
  | along source request =>
    let edited : Edited Transfer := Transfer.copy request (.encoding ⟨t, source⟩ destination)
    some (edited.failure?.isNone, edited.state.bytes)
  | lent source length request =>
    if length_le : length.toNat ≤ destination.length then
      let returned := t.encodeLent source (.place destination length length_le) request
      returned.2.map fun after => (returned.1 == .ok, after)
    else none

theorem decode?_ends {t : NumericType} {call : CopyCall UInt8} {before : List t.Value}
    (fits : call.Fits before.length) :
  ∃ succeeded after, call.decode? t before = some (succeeded, after)
    ∧ (t.decoding call.order).Ends call.source call.request before succeeded after
  := by
  cases call with
  | checked order source request =>
    rw [decode?, t.decodeInto_eq_copy]
    exact ⟨_, _, rfl, Conversion.ends_copy ..⟩
  | along source request =>
    rw [decode?, Transfer.copy_decoding, Edit.within, t.decodeNative_eq_copy]
    simp only [Edited.state_map, Edited.failure?_map, Transfer.numbers?, NumericArray.elements?_mk]
    exact ⟨_, _, rfl, Conversion.ends_signed ..⟩
  | lent source length request =>
    obtain ⟨status, after, hcopy, ends⟩ :=
      copyLent_ends (t.decoding .native) source before fits request
    rw [← t.decodeNative_eq_copy] at hcopy
    use status == .ok, after
    constructor
    · rw [decode?, dif_pos (show length.toNat ≤ before.length from fits),
        NumericType.decodeLent, hcopy]
      rfl
    · apply ends

theorem encode?_ends {t : NumericType} {call : CopyCall t.Value} {before : List UInt8}
    (fits : call.Fits before.length) :
  ∃ succeeded after, call.encode? before = some (succeeded, after)
    ∧ (t.encoding call.order).Ends call.source call.request before succeeded after
  := by
  cases call with
  | checked order source request =>
    rw [encode?, t.encodeInto_eq_copy]
    exact ⟨_, _, rfl, Conversion.ends_copy ..⟩
  | along source request =>
    rw [encode?, Transfer.copy_encoding, Edit.within, t.encodeNative_eq_copy]
    simp only [Edited.state_map, Edited.failure?_map, Transfer.bytes]
    exact ⟨_, _, rfl, Conversion.ends_signed ..⟩
  | lent source length request =>
    obtain ⟨status, after, hcopy, ends⟩ :=
      copyLent_ends (t.encoding .native) source before fits request
    rw [← t.encodeNative_eq_copy] at hcopy
    use status == .ok, after
    constructor
    · rw [encode?, dif_pos (show length.toNat ≤ before.length from fits),
        NumericType.encodeLent, hcopy]
      rfl
    · apply ends

end CopyCall

end NumericBytes
