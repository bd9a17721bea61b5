import NumericBytes.Proofs.CopyCall.Patterns
import NumericBytes.Proofs.Foreign.Integral
import NumericBytes.Store.Step

/-!
# Runs on integers

A store of numbers is carried to the store of the integers with their patterns, and what a step
does to the one it does to the other: `Step.run?_integral`, and `Store.run?_integral` of whole
runs.  That the patterns are those which the bytes spell is said by `NumericType.KeepsPatterns`.
So floating-point numbers are moved as bit patterns by every operation and by every composition of
operations: `floats_are_moved_as_integers`.
-/

namespace NumericBytes

/-! ### Buffers and stores -/

/-- The buffer with each number as the integer with its pattern. -/
def Buffer.integral : Buffer → Buffer
  | bytes units => bytes units
  | numeric array => numeric array.integral

namespace Store

/-- The store with each number as the integer with its pattern. -/
def integral (store : Store) : Store :=
  ⟨store.entries.map fun entry => (entry.1, entry.2.integral)⟩

theorem get?_integral (store : Store) (name : String) :
  store.integral.get? name = (store.get? name).map Buffer.integral
  := by
  obtain ⟨entries⟩ := store
  simp only [get?, integral]
  induction entries with
  | nil => rfl
  | cons entry entries ih =>
    rw [List.map_cons, List.lookup_cons, List.lookup_cons]
    split
    · rfl
    · apply ih

theorem put_integral (store : Store) (name : String) (buffer : Buffer) :
  (store.put name buffer).integral = store.integral.put name buffer.integral
  := by
  obtain ⟨entries⟩ := store
  simp only [put, integral, mk.injEq]
  induction entries with
  | nil => rfl
  | cons entry entries ih =>
    rw [List.map_cons, putEntry, putEntry]
    split
    · rfl
    · rw [List.map_cons, ih]

end Store

/-! ### Answers -/

/-- The answer about buffers of integers. -/
def Answer.integral : Answer → Answer
  | edited failure? contents => edited failure? contents.integral
  | copied direction t failure? contents => copied direction t.integral failure? contents.integral
  | returned status contents => returned status (contents.map Buffer.integral)
  | made outcome => made (outcome.map Buffer.integral)

namespace Step

/-- The effect of a step on integers. -/
def integralEffect : Answer × Option Buffer → Answer × Option Buffer :=
  Prod.map Answer.integral (Option.map Buffer.integral)

theorem ofEdited_integral (t : NumericType) (edited : Edited (List t.Value)) :
  ofEdited (Edited.map (List.map t.toIntegral) edited)
      (fun elements => .numeric ⟨t.integral, elements⟩)
    = integralEffect (ofEdited edited fun elements => .numeric ⟨t, elements⟩)
  := by
  rw [ofEdited, Edited.failure?_map, Edited.state_map]
  rfl

theorem ofReturned_integral (t : NumericType) (returned : Status × Option (List t.Value))
    (before : List t.Value) :
  ofReturned (returned.map id (Option.map (List.map t.toIntegral))) (before.map t.toIntegral)
      (fun elements => .numeric ⟨t.integral, elements⟩)
    = integralEffect (ofReturned returned before fun elements => .numeric ⟨t, elements⟩)
  := by
  obtain ⟨status, contents⟩ := returned
  cases contents with
  | none => rfl
  | some elements => rfl

theorem ofReturned_bytes (returned : Status × Option (List UInt8)) (before : List UInt8) :
  integralEffect (ofReturned returned before .bytes) = ofReturned returned before .bytes
  := by
  obtain ⟨status, contents⟩ := returned
  cases contents with
  | none => rfl
  | some units => rfl

theorem ofMade_integral (t : NumericType) (outcome : Except Failure (List t.Value)) :
  ofMade (outcome.map (List.map t.toIntegral)) (fun elements => .numeric ⟨t.integral, elements⟩)
    = integralEffect (ofMade outcome fun elements => .numeric ⟨t, elements⟩)
  := by
  cases outcome with
  | error failure => rfl
  | ok elements => rfl

theorem ofMade_bytes (outcome : Except Failure (List UInt8)) :
  integralEffect (ofMade outcome .bytes) = ofMade outcome .bytes
  := by
  cases outcome with
  | error failure => rfl
  | ok units => rfl

theorem ofTransfer_integral (edited : Edited Transfer) :
  ofTransfer (Edited.map Transfer.integral edited) = integralEffect (ofTransfer edited)
  := by
  rw [ofTransfer, Edited.failure?_map, Edited.state_map]
  cases h : Edited.state edited with
  | decoding source destination =>
    rw [ofTransfer, h]
    rfl
  | encoding source destination =>
    rw [ofTransfer, h]
    rfl

/-! ### Steps -/

/-- The step on integers: it makes integers where the step makes numbers. -/
def integral : Step → Step
  | decodeFresh t source destination offset count =>
    decodeFresh t.integral source destination offset count
  | step => step

theorem destination_integral (step : Step) :
  step.integral.destination = step.destination
  := by
  cases step <;> rfl

/-- A step has on integers the effect that it has on numbers. -/
theorem effect?_integral (store : Store) (step : Step) :
  step.integral.effect? store.integral = (step.effect? store).map integralEffect
  := by
  cases step with
  | decode order source destination request =>
    simp only [integral, effect?, Store.get?_integral]
    rcases store.get? source with _ | units | array
    · rfl
    · rcases store.get? destination with _ | units' | ⟨t, elements⟩
      · rfl
      · rfl
      · apply congrArg some
        apply Eq.trans (congrArg (ofEdited · _) (t.decodeInto_integral order units request elements))
        apply ofEdited_integral
    · rfl
  | encode order source destination request =>
    simp only [integral, effect?, Store.get?_integral]
    rcases store.get? source with _ | units | ⟨t, elements⟩
    · rfl
    · rfl
    · rcases store.get? destination with _ | units' | array
      · rfl
      · apply congrArg some
        apply congrArg (ofEdited · _) (t.encodeInto_integral order elements request units')
      · rfl
  | copy source destination request =>
    simp only [integral, effect?, Store.get?_integral]
    rcases store.get? source with _ | units | array
    · rfl
    · rcases store.get? destination with _ | units' | array
      · rfl
      · rfl
      · apply congrArg some
        apply Eq.trans (congrArg ofTransfer (Transfer.copy_integral request (.decoding units array)))
        apply ofTransfer_integral
    · rcases store.get? destination with _ | units | array'
      · rfl
      · apply congrArg some
        apply Eq.trans (congrArg ofTransfer (Transfer.copy_integral request (.encoding array units)))
        apply ofTransfer_integral
      · rfl
  | copyLent source destination sourceLoan destinationLoan request =>
    simp only [integral, effect?, Store.get?_integral]
    rcases store.get? source with _ | units | ⟨t, elements⟩
    · rfl
    · rcases store.get? destination with _ | units' | ⟨t, elements⟩
      · rfl
      · rfl
      · simp only [Option.map_some, Buffer.integral, NumericArray.integral, Lent.lend?_map]
        cases sourceLoan.lend? units with
        | none => rfl
        | some lentSource =>
          cases destinationLoan.lend? elements with
          | none => rfl
          | some lentDestination =>
            apply congrArg some
            have h := t.decodeLent_integral lentSource lentDestination request
            apply Eq.trans (congrArg (ofReturned · _ _) h)
            apply ofReturned_integral
    · rcases store.get? destination with _ | units | array
      · rfl
      · simp only [Option.map_some, Buffer.integral, NumericArray.integral, Lent.lend?_map]
        cases sourceLoan.lend? elements with
        | none => rfl
        | some lentSource =>
          cases destinationLoan.lend? units with
          | none => rfl
          | some lentDestination =>
            apply congrArg some
            have h := t.encodeLent_integral lentSource lentDestination request
            apply Eq.trans (congrArg (ofReturned · _ _) h)
            symm
            apply ofReturned_bytes
      · rfl
  | swapWindow destination offset count =>
    simp only [integral, effect?, Store.get?_integral]
    rcases store.get? destination with _ | units | ⟨t, elements⟩
    · rfl
    · rfl
    · apply congrArg some
      apply Eq.trans (congrArg (ofEdited · _) (t.swapWindow_integral offset count elements))
      apply ofEdited_integral
  | swapAll destination =>
    simp only [integral, effect?, Store.get?_integral]
    rcases store.get? destination with _ | units | ⟨t, elements⟩
    · rfl
    · rfl
    · apply congrArg some
      apply Eq.trans (congrArg (ofEdited · _) (t.swapAll_integral elements))
      apply ofEdited_integral
  | decodeFresh t source destination offset count =>
    simp only [integral, effect?, Store.get?_integral]
    rcases store.get? source with _ | units | array
    · rfl
    · apply congrArg some
      apply Eq.trans (congrArg (ofMade · _) (t.decodeFresh_integral units offset count))
      apply ofMade_integral
    · rfl
  | encodeFresh source destination offset count =>
    simp only [integral, effect?, Store.get?_integral]
    rcases store.get? source with _ | units | ⟨t, elements⟩
    · rfl
    · rfl
    · apply congrArg some
      apply Eq.trans (congrArg (ofMade · _) (t.encodeFresh_integral elements offset count))
      symm
      apply ofMade_bytes

/-- A step on integers gives the answer, and leaves the store, of the step on numbers. -/
theorem run?_integral (store : Store) (step : Step) :
  step.integral.run? store.integral
    = (step.run? store).map (Prod.map Answer.integral Store.integral)
  := by
  rw [run?, run?, effect?_integral]
  cases step.effect? store with
  | none => rfl
  | some effect =>
    obtain ⟨answer, contents⟩ := effect
    cases contents with
    | none => rfl
    | some buffer =>
      apply congrArg some
      apply congrArg (Prod.mk _)
      rw [destination_integral]
      symm
      apply Store.put_integral

end Step

/-- A run on integers gives the answers, and ends with the store, of the run on numbers. -/
theorem Store.run?_integral (store : Store) (steps : List Step) :
  store.integral.run? (steps.map Step.integral)
    = (store.run? steps).map (Prod.map (List.map Answer.integral) integral)
  := by
  induction steps generalizing store with
  | nil => rfl
  | cons step steps ih =>
    rw [List.map_cons, run?, run?, Step.run?_integral]
    cases step.run? store with
    | none => rfl
    | some first =>
      obtain ⟨answer, next⟩ := first
      simp only [Option.map_some, Prod.map_apply, Option.bind_eq_bind, Option.bind_some, ih]
      cases next.run? steps with
      | none => rfl
      | some rest => rfl

/-! ### All operations -/

namespace NumericType

/-- Values of one type are moved as those of another to which `f` takes them: the operations on
both have the same outcomes, make the same bytes and make values that correspond. -/
structure MovedAs (t u : NumericType) (f : t.Value → u.Value) : Prop where
  pattern : ∀ x, u.pattern (f x) = t.pattern x
  decodeInto : ∀ order source request destination,
    u.decodeInto order source request (destination.map f)
      = Edited.map (List.map f) (t.decodeInto order source request destination)
  encodeInto : ∀ order source request destination,
    u.encodeInto order (source.map f) request destination
      = t.encodeInto order source request destination
  swapWindow : ∀ offset count values,
    u.swapWindow offset count (values.map f)
      = Edited.map (List.map f) (t.swapWindow offset count values)
  decodeFresh : ∀ source offset count,
    u.decodeFresh source offset count = (t.decodeFresh source offset count).map (List.map f)
  encodeFresh : ∀ source offset count,
    u.encodeFresh (source.map f) offset count = t.encodeFresh source offset count
  decodeLent : ∀ source destination request,
    u.decodeLent source (destination.map f) request
      = (t.decodeLent source destination request).map id (Option.map (List.map f))
  encodeLent : ∀ source destination request,
    u.encodeLent (source.map f) destination request = t.encodeLent source destination request

theorem movedAs_integral (t : NumericType) :
  t.MovedAs t.integral t.toIntegral
  where
  pattern := t.pattern_toIntegral
  decodeInto := t.decodeInto_integral
  encodeInto := t.encodeInto_integral
  swapWindow := t.swapWindow_integral
  decodeFresh := t.decodeFresh_integral
  encodeFresh := t.encodeFresh_integral
  decodeLent := t.decodeLent_integral
  encodeLent := t.encodeLent_integral

end NumericType

/-- Floating-point numbers are moved as the integers with their bit patterns, by every operation on
numbers of one type, by copies along transfers, and by whole runs of steps on any buffers; and the
pattern of a value that is moved is the number that its bytes spell, whatever it stands for. -/
theorem floats_are_moved_as_integers :
  NumericType.float32.MovedAs .int32 NumericType.float32.toIntegral
  ∧ NumericType.float64.MovedAs .int64 NumericType.float64.toIntegral
  ∧ (∀ (request : SignedRequest) (transfer : Transfer),
    Transfer.copy request transfer.integral
      = Edited.map Transfer.integral (Transfer.copy request transfer))
  ∧ (∀ (store : Store) (steps : List Step),
    store.integral.run? (steps.map Step.integral)
      = (store.run? steps).map (Prod.map (List.map Answer.integral) Store.integral))
  ∧ ∀ t : NumericType, t.KeepsPatterns
  := by
  use NumericType.float32.movedAs_integral, NumericType.float64.movedAs_integral
  constructor
  · apply Transfer.copy_integral
  constructor
  · apply Store.run?_integral
  · apply NumericType.keepsPatterns

/-- The bytes of a signalling NaN spell the pattern that they are decoded to along a transfer; lent
out, the value is encoded as the same bytes; and a swap reverses the pattern and quiets nothing. -/
theorem floats_are_moved_as_integers_signalling :
  Binary32.rank? ⟨0x7fa00001⟩ = none
  ∧ ((CopyCall.along [9, 1, 0, 0xa0, 0x7f] ⟨1, 0, 1⟩).decode? .float32 [⟨0⟩]
      = some (true, [⟨0x7fa00001⟩])
    ∧ NumericType.float32.Spells .native [9, 1, 0, 0xa0, 0x7f] 1 [⟨0x7fa00001⟩] 0 1)
  ∧ (@CopyCall.encode? .float32 (.lent (.whole [⟨0x7fa00001⟩]) 4 ⟨0, 0, 1⟩) [0, 0, 0, 0, 9]
      = some (true, [1, 0, 0xa0, 0x7f, 9])
    ∧ NumericType.float32.Spells .native [1, 0, 0xa0, 0x7f, 9] 0 [⟨0x7fa00001⟩] 0 1)
  ∧ NumericType.float32.swapWindow 0 1 [⟨0x7fa00001⟩] = .ok () [⟨0x0100a07f⟩]
    ∧ [0x0100a07f] = [Digits.reversed 4 0x7fa00001]
  := by
  obtain ⟨-, -, -, -, keeps⟩ := floats_are_moved_as_integers
  have decoding : (CopyCall.along [9, 1, 0, 0xa0, 0x7f] ⟨1, 0, 1⟩).decode? .float32 [⟨0⟩]
      = some (true, [⟨0x7fa00001⟩]) := rfl
  have encoding : @CopyCall.encode? .float32 (.lent (.whole [⟨0x7fa00001⟩]) 4 ⟨0, 0, 1⟩)
      [0, 0, 0, 0, 9] = some (true, [1, 0, 0xa0, 0x7f, 9]) := rfl
  have swap : NumericType.float32.swapWindow 0 1 [⟨0x7fa00001⟩] = .ok () [⟨0x0100a07f⟩] := rfl
  constructor
  · decide
  constructor
  · use decoding
    apply (keeps .float32).decoded _ decoding
    trivial
  constructor
  · use encoding
    apply (keeps .float32).encoded _ encoding
    change 4 ≤ 5
    decide
  · use swap
    apply (keeps .float32).swapped swap

end NumericBytes
