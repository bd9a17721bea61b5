import NumericBytes.Proofs.Foreign.Loans
import NumericBytes.Store.Step

/-!
# What a step does to its destination

`step.Fits store` says that the step names buffers of the store, of the kinds that it needs, and
lends no more of them than there is; these are the steps that have an effect.  Such a step makes a
fresh buffer (`Step.makesFresh`), or edits the one that its destination is; an edit keeps the shape
of the buffer, and leaves it as it was if the step fails (`Step.Keeps`).  `Step.effect?_cases`
says all this by going through the steps once.
-/

namespace NumericBytes

namespace Store

/-- The name is that of a buffer of bytes. -/
def HoldsBytes (store : Store) (name : String) : Prop :=
  ∃ units, store.get? name = some (.bytes units)

/-- The name is that of a buffer of numbers. -/
def HoldsNumbers (store : Store) (name : String) : Prop :=
  ∃ array, store.get? name = some (.numeric array)

/-- The buffer of the name, if there is one, has the units that are to be lent. -/
def MayLend (store : Store) (name : String) (loan : Loan) : Prop :=
  ∀ buffer, store.get? name = some buffer → loan.Fits buffer.length

/-- A buffer of which something is lent has the units that are to be lent. -/
theorem mayLend_of_lend? {store : Store} {name : String} {held : Buffer} {α : Type}
    {units : List α} {loan : Loan} {lent : Lent α} (h : store.get? name = some held)
    (length : held.length = units.length) (hlent : loan.lend? units = some lent) :
  store.MayLend name loan
  := by
  intro buffer hbuffer
  obtain rfl := Option.some_inj.mp (h.symm.trans hbuffer)
  rw [length]
  apply Loan.exists_lend?_iff.mp ⟨lent, hlent⟩

end Store

/-- The transfer from one buffer to another writes the other, and one of them holds bytes and
the other numbers. -/
theorem Transfer.eq_of_ofBuffers? {source destination : Buffer} {transfer : Transfer}
    (h : ofBuffers? source destination = some transfer) :
  transfer.destination = destination
    ∧ ((∃ units array, source = .bytes units ∧ transfer.destination = .numeric array)
      ∨ ∃ array units, source = .numeric array ∧ transfer.destination = .bytes units)
  := by
  rw [ofBuffers?.eq_def] at h
  split at h
  · rename_i units array
    obtain rfl := Option.some_inj.mp h
    use rfl
    left
    use units, array, rfl
    rfl
  · rename_i array units
    obtain rfl := Option.some_inj.mp h
    use rfl
    right
    use array, units, rfl
    rfl
  · contradiction

theorem Status.eq_ok_of_code {status : Status} (h : status.code = 0) :
  status = ok
  := by
  cases status with
  | ok => rfl
  | invalidArguments => contradiction
  | misused => contradiction
  | outOfBounds => contradiction

namespace Step

/-- Whether a step makes a fresh buffer instead of editing one. -/
def makesFresh : Step → Bool
  | decodeFresh .. => true
  | encodeFresh .. => true
  | _ => false

/-- The effect leaves a buffer of the same shape, and the same buffer if the answer tells of a
failure. -/
def Keeps (before : Buffer) (effect : Answer × Option Buffer) : Prop :=
  ∃ after, effect.2 = some after ∧ after.shape = before.shape
    ∧ (effect.1.succeeded = false → after = before)

/-! ### Answers of conservative edits -/

theorem keeps_ofEdited {σ κ : Type} {shape : σ → κ} {before : σ} {edited : Edited σ}
    (h : Edited.Conserves shape before edited) {buffer : σ → Buffer}
    (congr : ∀ after, shape after = shape before → (buffer after).shape = (buffer before).shape) :
  Keeps (buffer before) (ofEdited edited buffer)
  := by
  use buffer (Edited.state edited), rfl, congr _ h.shape_state
  intro failed
  rw [h.state_of_failure failed]

theorem keeps_ofTransfer {before : Transfer} {edited : Edited Transfer}
    (h : Edited.Conserves (fun transfer => transfer.destination.shape) before edited) :
  Keeps before.destination (ofTransfer edited)
  := by
  use (Edited.state edited).destination, rfl, h.shape_state
  intro failed
  rw [h.state_of_failure failed]

theorem keeps_ofReturned {α β : Type} {transfer : List α → List β → Transfer} {source : Lent α}
    {destination : Lent β} {units : List β} {request : SignedRequest}
    {returned : Status × Option (List β)}
    (h : Lent.Refines transfer source destination request returned)
    (lent : destination.units?.getD units = units) {buffer : List β → Buffer}
    (congr : ∀ units', units'.length = units.length →
      (buffer units').shape = (buffer units).shape) :
  Keeps (buffer units) (ofReturned returned units buffer)
  := by
  use buffer (returned.2.getD units), rfl
  constructor
  · apply congr
    have same := congrArg (Option.getD · units.length) h.length_eq
    simp only [Option.getD_map, lent] at same
    apply same
  · intro failed
    rw [h.unchanged fun code => ne_of_beq_false failed (Status.eq_ok_of_code code), lent]

theorem shape_numeric (t : NumericType) {elements elements' : List t.Value}
    (h : elements'.length = elements.length) :
  (Buffer.numeric ⟨t, elements'⟩).shape = (Buffer.numeric ⟨t, elements⟩).shape
  := congrArg (Prod.mk _) h

theorem shape_bytes {units units' : List UInt8} (h : units'.length = units.length) :
  (Buffer.bytes units').shape = (Buffer.bytes units).shape
  := congrArg (Prod.mk _) h

/-! ### Steps that fit the store -/

/-- The step names buffers of the store, of the kinds that it needs, and lends no more of them than
there is. -/
def Fits (store : Store) : Step → Prop
  | decode _ source destination _ => store.HoldsBytes source ∧ store.HoldsNumbers destination
  | encode _ source destination _ => store.HoldsNumbers source ∧ store.HoldsBytes destination
  | copy source destination _ =>
    store.HoldsBytes source ∧ store.HoldsNumbers destination
      ∨ store.HoldsNumbers source ∧ store.HoldsBytes destination
  | copyLent source destination sourceLoan destinationLoan _ =>
    (store.HoldsBytes source ∧ store.HoldsNumbers destination
      ∨ store.HoldsNumbers source ∧ store.HoldsBytes destination)
    ∧ store.MayLend source sourceLoan ∧ store.MayLend destination destinationLoan
  | swapWindow destination _ _ | swapAll destination => store.HoldsNumbers destination
  | decodeFresh _ source _ _ _ => store.HoldsBytes source
  | encodeFresh source _ _ _ => store.HoldsNumbers source

variable {store : Store} {step : Step} {effect : Answer × Option Buffer}

/-- A step that fits the store has an effect. -/
theorem Fits.exists_effect? (fits : step.Fits store) :
  ∃ effect, step.effect? store = some effect
  := by
  cases step with
  | decode order source destination request =>
    obtain ⟨⟨units, hsource⟩, ⟨t, elements⟩, hdestination⟩ := fits
    rw [effect?, hsource, hdestination]
    exact ⟨_, rfl⟩
  | encode order source destination request =>
    obtain ⟨⟨⟨t, elements⟩, hsource⟩, units, hdestination⟩ := fits
    rw [effect?, hsource, hdestination]
    exact ⟨_, rfl⟩
  | copy source destination request =>
    rw [effect?]
    rcases fits with
      ⟨⟨units, hsource⟩, array, hdestination⟩ | ⟨⟨array, hsource⟩, units, hdestination⟩
    · rw [hsource, hdestination]
      exact ⟨_, rfl⟩
    · rw [hsource, hdestination]
      exact ⟨_, rfl⟩
  | copyLent source destination sourceLoan destinationLoan request =>
    obtain ⟨kinds, lend, lend'⟩ := fits
    rcases kinds with
      ⟨⟨units, hsource⟩, ⟨t, elements⟩, hdestination⟩
      | ⟨⟨⟨t, elements⟩, hsource⟩, units, hdestination⟩
    · obtain ⟨lentSource, hlent⟩ := Loan.exists_lend?_iff.mpr (lend _ hsource)
      obtain ⟨lentDestination, hlent'⟩ := Loan.exists_lend?_iff.mpr (lend' _ hdestination)
      rw [effect?, hsource, hdestination]
      dsimp only
      rw [hlent, hlent']
      exact ⟨_, rfl⟩
    · obtain ⟨lentSource, hlent⟩ := Loan.exists_lend?_iff.mpr (lend _ hsource)
      obtain ⟨lentDestination, hlent'⟩ := Loan.exists_lend?_iff.mpr (lend' _ hdestination)
      rw [effect?, hsource, hdestination]
      dsimp only
      rw [hlent, hlent']
      exact ⟨_, rfl⟩
  | swapWindow destination offset count =>
    obtain ⟨⟨t, elements⟩, hdestination⟩ := fits
    rw [effect?, hdestination]
    exact ⟨_, rfl⟩
  | swapAll destination =>
    obtain ⟨⟨t, elements⟩, hdestination⟩ := fits
    rw [effect?, hdestination]
    exact ⟨_, rfl⟩
  | decodeFresh t source destination offset count =>
    obtain ⟨units, hsource⟩ := fits
    rw [effect?, hsource]
    exact ⟨_, rfl⟩
  | encodeFresh source destination offset count =>
    obtain ⟨⟨t, elements⟩, hsource⟩ := fits
    rw [effect?, hsource]
    exact ⟨_, rfl⟩

/-- A step that has an effect fits the store.  It makes a fresh buffer, or edits the one that
its destination is. -/
theorem effect?_cases (h : step.effect? store = some effect) :
  step.Fits store
    ∧ ((step.makesFresh = true ∧ ∃ outcome, effect = (.made outcome, outcome.toOption))
      ∨ ∃ before, store.get? step.destination = some before ∧ Keeps before effect)
  := by
  cases step with
  | decode order source destination request =>
    rw [effect?] at h
    split at h
    · rename_i units t elements hsource hdestination
      obtain rfl := Option.some_inj.mp h
      constructor
      · use ⟨units, hsource⟩, ⟨t, elements⟩, hdestination
      · right
        use .numeric ⟨t, elements⟩, hdestination
        apply keeps_ofEdited (t.conserves_decodeInto order units request elements)
        intro elements' same
        apply shape_numeric t same
    · contradiction
  | encode order source destination request =>
    rw [effect?] at h
    split at h
    · rename_i t elements units hsource hdestination
      obtain rfl := Option.some_inj.mp h
      constructor
      · use ⟨⟨t, elements⟩, hsource⟩, units, hdestination
      · right
        use .bytes units, hdestination
        apply keeps_ofEdited (t.conserves_encodeInto order elements request units)
        intro units' same
        apply shape_bytes same
    · contradiction
  | copy source destination request =>
    obtain ⟨held, hsource, h⟩ := Option.bind_eq_some_iff.mp h
    obtain ⟨before, hdestination, h⟩ := Option.bind_eq_some_iff.mp h
    obtain ⟨transfer, htransfer, h⟩ := Option.bind_eq_some_iff.mp h
    obtain rfl := Option.some_inj.mp h
    obtain ⟨rfl, kinds⟩ := Transfer.eq_of_ofBuffers? htransfer
    constructor
    · rcases kinds with ⟨units, array, rfl, hnumbers⟩ | ⟨array, units, rfl, hbytes⟩
      · rw [hnumbers] at hdestination
        left
        use ⟨units, hsource⟩, array, hdestination
      · rw [hbytes] at hdestination
        right
        use ⟨array, hsource⟩, units, hdestination
    · right
      use transfer.destination, hdestination
      apply keeps_ofTransfer (transfer.conserves_copy request)
  | copyLent source destination sourceLoan destinationLoan request =>
    rw [effect?] at h
    split at h
    · rename_i units t elements hsource hdestination
      obtain ⟨lentSource, hlent, h⟩ := Option.bind_eq_some_iff.mp h
      obtain ⟨lentDestination, hlent', h⟩ := Option.bind_eq_some_iff.mp h
      obtain rfl := Option.some_inj.mp h
      constructor
      · use .inl ⟨⟨units, hsource⟩, ⟨t, elements⟩, hdestination⟩
        use Store.mayLend_of_lend? hsource rfl hlent
        apply Store.mayLend_of_lend? hdestination rfl hlent'
      · right
        use .numeric ⟨t, elements⟩, hdestination
        apply keeps_ofReturned (t.decodeLent_refines lentSource lentDestination request)
          (Loan.lends_of_lend? hlent').getD_units?
        intro elements' same
        apply shape_numeric t same
    · rename_i t elements units hsource hdestination
      obtain ⟨lentSource, hlent, h⟩ := Option.bind_eq_some_iff.mp h
      obtain ⟨lentDestination, hlent', h⟩ := Option.bind_eq_some_iff.mp h
      obtain rfl := Option.some_inj.mp h
      constructor
      · use .inr ⟨⟨⟨t, elements⟩, hsource⟩, units, hdestination⟩
        use Store.mayLend_of_lend? hsource rfl hlent
        apply Store.mayLend_of_lend? hdestination rfl hlent'
      · right
        use .bytes units, hdestination
        apply keeps_ofReturned (t.encodeLent_refines lentSource lentDestination request)
          (Loan.lends_of_lend? hlent').getD_units?
        intro units' same
        apply shape_bytes same
    · contradiction
  | swapWindow destination offset count =>
    rw [effect?] at h
    split at h
    · rename_i t elements hdestination
      obtain rfl := Option.some_inj.mp h
      constructor
      · use ⟨t, elements⟩, hdestination
      · right
        use .numeric ⟨t, elements⟩, hdestination
        apply keeps_ofEdited (t.conserves_swapWindow offset count elements)
        intro elements' same
        apply shape_numeric t same
    · contradiction
  | swapAll destination =>
    rw [effect?] at h
    split at h
    · rename_i t elements hdestination
      obtain rfl := Option.some_inj.mp h
      constructor
      · use ⟨t, elements⟩, hdestination
      · right
        use .numeric ⟨t, elements⟩, hdestination
        apply keeps_ofEdited (t.conserves_swapAll elements)
        intro elements' same
        apply shape_numeric t same
    · contradiction
  | decodeFresh t source destination offset count =>
    rw [effect?] at h
    split at h
    · rename_i units hsource
      obtain rfl := Option.some_inj.mp h
      constructor
      · use units, hsource
      · left
        exact ⟨rfl, _, rfl⟩
    · contradiction
  | encodeFresh source destination offset count =>
    rw [effect?] at h
    split at h
    · rename_i t elements hsource
      obtain rfl := Option.some_inj.mp h
      constructor
      · use ⟨t, elements⟩, hsource
      · left
        exact ⟨rfl, _, rfl⟩
    · contradiction

end Step

end NumericBytes
