import NumericBytes.Proofs.Store.Locality

/-!
# The edit of each step

Every step that edits a buffer performs an edit of lists of units: the copy of a conversion,
perhaps for a signed request or on what is lent of its buffers, or a swap.  `performs_decode`
and the statements after it name the edit of each step, and `Step.Fits.exists_alike` says that
the runs of a step on two stores of the same shapes are alike.
-/

namespace NumericBytes

/-! ### Copies between lent buffers -/

/-- Copies between buffers of the same lengths, which are lent in the same way, end alike. -/
theorem Conversion.alike_lentCopy {α β : Type} {conversion : Conversion α β}
    {sourceLoan destinationLoan : Loan} {source source' : List α}
    {destination destination' : List β}
    (request : SignedRequest)
    (reach_le : destinationLoan.reach destination.length ≤ destination.length)
    (length : source'.length = source.length) (length' : destination'.length = destination.length) :
  Edited.Alike (request.toRequest.toOption.map fun accepted =>
      (conversion.read accepted, conversion.written accepted))
    source source' destination destination'
    (conversion.lentCopy sourceLoan destinationLoan source request destination)
    (conversion.lentCopy sourceLoan destinationLoan source' request destination')
  := by
  rw [lentCopy, lentCopy, length, length']
  apply Edited.Alike.append length' reach_le
  apply Edited.Alike.ofTake
  apply alike_signed
  · rw [List.length_take, List.length_take, length]
  · rw [List.length_take, List.length_take, length']

/-- The answer of a copy between lent buffers that ended with or without a failure. -/
def Answer.ofStatus (loan : Loan) (failure? : Option Failure) (buffer : Buffer) : Answer :=
  .returned (match failure? with | none => .ok | some failure => .ofFailure failure)
    (loan.shown buffer)

/-- The run of a copy between lent buffers. -/
def Run.ofReturned {β : Type} (kind : Kind β) (before : List β)
    (returned : Status × Option (List β)) : Run :=
  ⟨.returned returned.1 (returned.2.map kind.buffer), kind.buffer before,
    kind.buffer (returned.2.getD before)⟩

section

variable {α β : Type} {conversion : Conversion α β} {sourceLoan destinationLoan : Loan}
  {source : List α} {destination : List β} {lentSource : Lent α} {lentDestination : Lent β}
  {request : SignedRequest}

/-- A copy between lent buffers of which none is missing is an edit of the whole destination. -/
theorem Run.ofReturned_copyLent (kind : Kind β) (lends : sourceLoan.Lends source lentSource)
    (lends' : destinationLoan.Lends destination lentDestination)
    (present : ¬(lentSource.Missing ∨ lentDestination.Missing)) :
  ofReturned kind destination (copyLent conversion.copy lentSource lentDestination request)
    = ofEdited kind (.ofStatus destinationLoan) destination
      (conversion.lentCopy sourceLoan destinationLoan source request destination)
  := by
  rw [Conversion.copyLent_of_lends lends lends' present, ofReturned]
  dsimp only
  rw [Conversion.getD_shown_lentCopy, Loan.map_shown]
  rfl

/-- A copy for which a buffer is missing keeps the destination. -/
theorem Run.ofReturned_of_missing (kind : Kind β)
    (lends : destinationLoan.Lends destination lentDestination)
    (missing : lentSource.Missing ∨ lentDestination.Missing) :
  ofReturned kind destination (copyLent conversion.copy lentSource lentDestination request)
    = ⟨.returned .invalidArguments (lentDestination.units?.map kind.buffer),
        kind.buffer destination, kind.buffer destination⟩
  := by
  rw [copyLent_of_missing missing, ofReturned, lends.getD_units?]

end

namespace Step

/-! ### Answers -/

theorem faithful_edited :
  Faithful Answer.edited
  := by
  constructor
  · intro failure? buffer buffer'
    rfl
  · intro failure? buffer
    rfl

theorem faithful_copied (direction : Direction) (t : NumericType) :
  Faithful (Answer.copied direction t)
  := by
  constructor
  · intro failure? buffer buffer'
    rfl
  · intro failure? buffer
    rfl

theorem faithful_ofStatus (loan : Loan) :
  Faithful (Answer.ofStatus loan)
  := by
  constructor
  · intro failure? buffer buffer'
    rfl
  · intro failure? buffer
    cases failure? with
    | none => rfl
    | some failure =>
      cases failure with
      | outOfBounds error => rfl
      | misuse kind => rfl

variable {store : Store} {source destination : String} {t : NumericType}

/-! ### Steps from bytes to numbers -/

section

variable {bytes : List UInt8} {elements : List t.Value}
  (hsource : store.get? source = some (.bytes bytes))
  (hdestination : store.get? destination = some (.numeric ⟨t, elements⟩))

include hsource hdestination

theorem ofCopy?_decoding (order : ByteOrder) (request : Request) :
  Footprint.ofCopy? store source destination request
    = some (.between source destination
        ((t.decoding order).read request, (t.decoding order).written request))
  := by
  rw [Footprint.ofCopy?, hsource, hdestination]
  rfl

theorem performs_decode (order : ByteOrder) (request : Request) :
  (decode order source destination request).Performs store
    (.ofEdited (.numeric t) .edited elements ((t.decoding order).copy bytes request elements))
  := by
  constructor
  · apply hdestination
  · rw [effect?, hsource, hdestination, ← t.decodeInto_eq_copy]
    rfl

theorem performs_copy_decoding (request : SignedRequest) :
  (copy source destination request).Performs store
    (.ofEdited (.numeric t) (.copied .decoding t) elements
      (Edit.signed ((t.decoding .native).copy bytes) request elements))
  := by
  constructor
  · apply hdestination
  · have heffect : (copy source destination request).effect? store
        = some (ofTransfer (Transfer.copy request (.decoding bytes ⟨t, elements⟩))) := by
      rw [effect?, hsource, hdestination]
      rfl
    rw [heffect, Transfer.copy_decoding, Edit.within, t.decodeNative_eq_copy, ofTransfer,
      Edited.state_map, Edited.failure?_map]
    rfl

theorem performs_copyLent_decoding {sourceLoan destinationLoan : Loan} {lentSource : Lent UInt8}
    {lentDestination : Lent t.Value} (hlent : sourceLoan.lend? bytes = some lentSource)
    (hgets : destinationLoan.lend? elements = some lentDestination) (request : SignedRequest) :
  (copyLent source destination sourceLoan destinationLoan request).Performs store
    (.ofReturned (.numeric t) elements
      (NumericBytes.copyLent (t.decoding .native).copy lentSource lentDestination request))
  := by
  constructor
  · apply hdestination
  · rw [effect?, hsource, hdestination]
    dsimp only
    rw [hlent, hgets, ← t.decodeNative_eq_copy]
    rfl

end

/-! ### Steps from numbers to bytes -/

section

variable {elements : List t.Value} {bytes : List UInt8}
  (hsource : store.get? source = some (.numeric ⟨t, elements⟩))
  (hdestination : store.get? destination = some (.bytes bytes))

include hsource hdestination

theorem ofCopy?_encoding (order : ByteOrder) (request : Request) :
  Footprint.ofCopy? store source destination request
    = some (.between source destination
        ((t.encoding order).read request, (t.encoding order).written request))
  := by
  rw [Footprint.ofCopy?, hsource, hdestination]
  rfl

theorem performs_encode (order : ByteOrder) (request : Request) :
  (encode order source destination request).Performs store
    (.ofEdited .bytes .edited bytes ((t.encoding order).copy elements request bytes))
  := by
  constructor
  · apply hdestination
  · rw [effect?, hsource, hdestination, ← t.encodeInto_eq_copy]
    rfl

theorem performs_copy_encoding (request : SignedRequest) :
  (copy source destination request).Performs store
    (.ofEdited .bytes (.copied .encoding t) bytes
      (Edit.signed ((t.encoding .native).copy elements) request bytes))
  := by
  constructor
  · apply hdestination
  · have heffect : (copy source destination request).effect? store
        = some (ofTransfer (Transfer.copy request (.encoding ⟨t, elements⟩ bytes))) := by
      rw [effect?, hsource, hdestination]
      rfl
    rw [heffect, Transfer.copy_encoding, Edit.within, t.encodeNative_eq_copy, ofTransfer,
      Edited.state_map, Edited.failure?_map]
    rfl

theorem performs_copyLent_encoding {sourceLoan destinationLoan : Loan} {lentSource : Lent t.Value}
    {lentDestination : Lent UInt8} (hlent : sourceLoan.lend? elements = some lentSource)
    (hgets : destinationLoan.lend? bytes = some lentDestination) (request : SignedRequest) :
  (copyLent source destination sourceLoan destinationLoan request).Performs store
    (.ofReturned .bytes bytes
      (NumericBytes.copyLent (t.encoding .native).copy lentSource lentDestination request))
  := by
  constructor
  · apply hdestination
  · rw [effect?, hsource, hdestination]
    dsimp only
    rw [hlent, hgets, ← t.encodeNative_eq_copy]
    rfl

end

/-! ### Swaps -/

section

variable {elements : List t.Value}
  (hdestination : store.get? destination = some (.numeric ⟨t, elements⟩))

include hdestination

theorem performs_swapWindow (offset count : UInt64) :
  (swapWindow destination offset count).Performs store
    (.ofEdited (.numeric t) .edited elements (t.swapWindow offset count elements))
  := by
  constructor
  · apply hdestination
  · rw [effect?, hdestination]
    rfl

theorem performs_swapAll :
  (swapAll destination).Performs store
    (.ofEdited (.numeric t) .edited elements (t.swapAll elements))
  := by
  constructor
  · apply hdestination
  · rw [effect?, hdestination]
    rfl

end

/-! ### Runs on stores of the same shapes -/

/-- The windows that a step with a signed request names are those of the accepted request. -/
theorem bind_ofCopy? {α β : Type} {conversion : Conversion α β}
    (named : ∀ request, Footprint.ofCopy? store source destination request
      = some (.between source destination (conversion.read request, conversion.written request)))
    (request : SignedRequest) :
  request.toRequest.toOption.bind (Footprint.ofCopy? store source destination)
    = (request.toRequest.toOption.map fun accepted =>
        (conversion.read accepted, conversion.written accepted)).map
      (Footprint.between source destination)
  := by
  cases request.toRequest with
  | ok accepted => apply named
  | error failure => rfl

/-- A step that carries out one edit, whatever its buffers hold, has alike runs on stores of the
same shapes if the edit ends alike with buffers of the same lengths. -/
theorem exists_alike_ofEdited {step : Step} {α β : Type} (kind : Kind α) (kind' : Kind β)
    {answer : Option Failure → Buffer → Answer} (faithful : Faithful answer) {name : String}
    {edit : List α → List β → Edited (List β)}
    (performs : ∀ {store : Store} {units before}, store.get? name = some (kind.buffer units) →
      store.get? step.destination = some (kind'.buffer before) →
      step.Performs store (.ofEdited kind' answer before (edit units before)))
    {store store' : Store} {units : List α} {before : List β}
    (hsource : store.get? name = some (kind.buffer units))
    (hdestination : store.get? step.destination = some (kind'.buffer before))
    (same : store.SameShape store') {windows? : Option (Window × Window)}
    (alike : ∀ {units' before'}, units'.length = units.length → before'.length = before.length →
      Edited.Alike windows? units units' before before' (edit units before) (edit units' before'))
    (named : step.named? store = windows?.map (Footprint.between name step.destination)) :
  ∃ run run', step.Performs store run ∧ step.Performs store' run'
    ∧ step.Alike store store' run run'
  := by
  obtain ⟨units', hsource', length⟩ := same.exists_units kind hsource
  obtain ⟨before', hdestination', length'⟩ := same.exists_units kind' hdestination
  refine ⟨_, _, performs hsource hdestination, performs hsource' hdestination', ?_⟩
  apply alike_ofEdited kind kind' faithful (alike length length') hsource hsource' named

section

variable {step : Step} {α β : Type} {conversion : Conversion α β}
  {sourceLoan destinationLoan : Loan} {request : SignedRequest} {name : String}
  {store store' : Store} {units units' : List α} {before before' : List β}

/-- Runs of a copy between lent buffers are alike on buffers of the same lengths that are lent in
the same way: the same of them is missing, or as many units of them are lent. -/
theorem alike_ofReturned (kind : Kind α) (kind' : Kind β) {lentSource lentSource' : Lent α}
    {lentDestination lentDestination' : Lent β} (lends : sourceLoan.Lends units lentSource)
    (lends' : sourceLoan.Lends units' lentSource')
    (gets : destinationLoan.Lends before lentDestination)
    (gets' : destinationLoan.Lends before' lentDestination')
    (length : units'.length = units.length) (length' : before'.length = before.length)
    (hsource : store.get? name = some (kind.buffer units))
    (hsource' : store'.get? name = some (kind.buffer units'))
    (named : step.named? store = (request.toRequest.toOption.map fun accepted =>
        (conversion.read accepted, conversion.written accepted)).map
      (Footprint.between name step.destination)) :
  step.Alike store store'
    (.ofReturned kind' before
      (NumericBytes.copyLent conversion.copy lentSource lentDestination request))
    (.ofReturned kind' before'
      (NumericBytes.copyLent conversion.copy lentSource' lentDestination' request))
  := by
  have missing_iff : lentSource'.Missing ∨ lentDestination'.Missing
      ↔ lentSource.Missing ∨ lentDestination.Missing := by
    rw [lends'.missing_iff, gets'.missing_iff, lends.missing_iff, gets.missing_iff]
  by_cases missing : lentSource.Missing ∨ lentDestination.Missing
  · rw [Run.ofReturned_of_missing kind' gets missing,
      Run.ofReturned_of_missing kind' gets' (missing_iff.mpr missing)]
    apply Alike.failed
    · rfl
    · rfl
    · rfl
  · rw [Run.ofReturned_copyLent kind' lends gets missing,
      Run.ofReturned_copyLent kind' lends' gets' (mt missing_iff.mp missing)]
    apply alike_ofEdited kind kind' (faithful_ofStatus destinationLoan)
      (Conversion.alike_lentCopy request gets.reach_le length length') hsource hsource' named

/-- A copy between lent buffers has alike runs on stores of the same shapes. -/
theorem exists_alike_ofReturned (kind : Kind α) (kind' : Kind β)
    (performs : ∀ {store : Store} {units before lentSource lentDestination},
      store.get? name = some (kind.buffer units) →
      store.get? step.destination = some (kind'.buffer before) →
      sourceLoan.lend? units = some lentSource →
      destinationLoan.lend? before = some lentDestination →
      step.Performs store (.ofReturned kind' before
        (NumericBytes.copyLent conversion.copy lentSource lentDestination request)))
    (hsource : store.get? name = some (kind.buffer units))
    (hdestination : store.get? step.destination = some (kind'.buffer before))
    (fits : sourceLoan.Fits units.length) (fits' : destinationLoan.Fits before.length)
    (same : store.SameShape store')
    (named : step.named? store = (request.toRequest.toOption.map fun accepted =>
        (conversion.read accepted, conversion.written accepted)).map
      (Footprint.between name step.destination)) :
  ∃ run run', step.Performs store run ∧ step.Performs store' run'
    ∧ step.Alike store store' run run'
  := by
  obtain ⟨units', hsource', length⟩ := same.exists_units kind hsource
  obtain ⟨before', hdestination', length'⟩ := same.exists_units kind' hdestination
  obtain ⟨lentSource, hlent, lends⟩ := fits.exists_lends
  obtain ⟨lentDestination, hgets, gets⟩ := fits'.exists_lends
  rw [← length] at fits
  rw [← length'] at fits'
  obtain ⟨lentSource', hlent', lends'⟩ := fits.exists_lends
  obtain ⟨lentDestination', hgets', gets'⟩ := fits'.exists_lends
  refine ⟨_, _, performs hsource hdestination hlent hgets,
    performs hsource' hdestination' hlent' hgets', ?_⟩
  apply alike_ofReturned kind kind' lends lends' gets gets' length length' hsource hsource' named

end

/-- A step that edits a buffer has a run on every store that it fits, and on stores of the same
shapes its runs are alike. -/
theorem Fits.exists_alike {step : Step} {store store' : Store} (fits : step.Fits store)
    (edits : step.makesFresh = false) (same : store.SameShape store') :
  ∃ run run', step.Performs store run ∧ step.Performs store' run'
    ∧ step.Alike store store' run run'
  := by
  cases step with
  | decode order source destination request =>
    obtain ⟨⟨bytes, hsource⟩, ⟨t, elements⟩, hdestination⟩ := fits
    refine exists_alike_ofEdited .bytes (.numeric t) faithful_edited
      (fun h h' => performs_decode h h' order request) hsource hdestination same
      (Conversion.alike_copy request) ?_
    apply ofCopy?_decoding hsource hdestination
  | encode order source destination request =>
    obtain ⟨⟨⟨t, elements⟩, hsource⟩, bytes, hdestination⟩ := fits
    refine exists_alike_ofEdited (.numeric t) .bytes faithful_edited
      (fun h h' => performs_encode h h' order request) hsource hdestination same
      (Conversion.alike_copy request) ?_
    apply ofCopy?_encoding hsource hdestination
  | copy source destination request =>
    rcases fits with
      ⟨⟨bytes, hsource⟩, ⟨t, elements⟩, hdestination⟩
      | ⟨⟨⟨t, elements⟩, hsource⟩, bytes, hdestination⟩
    · refine exists_alike_ofEdited .bytes (.numeric t) (faithful_copied .decoding t)
        (fun h h' => performs_copy_decoding h h' request) hsource hdestination same
        (Conversion.alike_signed request) ?_
      apply bind_ofCopy? (ofCopy?_decoding hsource hdestination .native)
    · refine exists_alike_ofEdited (.numeric t) .bytes (faithful_copied .encoding t)
        (fun h h' => performs_copy_encoding h h' request) hsource hdestination same
        (Conversion.alike_signed request) ?_
      apply bind_ofCopy? (ofCopy?_encoding hsource hdestination .native)
  | copyLent source destination sourceLoan destinationLoan request =>
    obtain ⟨kinds, lend, lend'⟩ := fits
    rcases kinds with
      ⟨⟨bytes, hsource⟩, ⟨t, elements⟩, hdestination⟩
      | ⟨⟨⟨t, elements⟩, hsource⟩, bytes, hdestination⟩
    · refine exists_alike_ofReturned .bytes (.numeric t)
        (fun h h' hlent hgets => performs_copyLent_decoding h h' hlent hgets request)
        hsource hdestination (lend _ hsource) (lend' _ hdestination) same ?_
      apply bind_ofCopy? (ofCopy?_decoding hsource hdestination .native)
    · refine exists_alike_ofReturned (.numeric t) .bytes
        (fun h h' hlent hgets => performs_copyLent_encoding h h' hlent hgets request)
        hsource hdestination (lend _ hsource) (lend' _ hdestination) same ?_
      apply bind_ofCopy? (ofCopy?_encoding hsource hdestination .native)
  | swapWindow destination offset count =>
    obtain ⟨⟨t, elements⟩, hdestination⟩ := fits
    obtain ⟨elements', hdestination', length⟩ := same.exists_units (.numeric t) hdestination
    refine ⟨_, _, performs_swapWindow hdestination offset count,
      performs_swapWindow hdestination' offset count, ?_⟩
    apply alike_ofEdited (.numeric t) (.numeric t) faithful_edited
      (NumericType.alike_swapWindow offset count length) hdestination hdestination'
    rfl
  | swapAll destination =>
    obtain ⟨⟨t, elements⟩, hdestination⟩ := fits
    obtain ⟨elements', hdestination', length⟩ := same.exists_units (.numeric t) hdestination
    refine ⟨_, _, performs_swapAll hdestination, performs_swapAll hdestination', ?_⟩
    apply alike_ofEdited (.numeric t) (.numeric t) faithful_edited
      (NumericType.alike_swapAll length) hdestination hdestination'
    rw [named?, hdestination]
    rfl
  | decodeFresh t source destination offset count => contradiction
  | encodeFresh source destination offset count => contradiction

end Step

end NumericBytes
