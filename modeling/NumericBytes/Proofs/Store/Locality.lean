import NumericBytes.Proofs.Store.Footprint

/-!
# Steps touch their footprints only

Two stores have the same shapes if they hold buffers of the same kinds and lengths under the
same names (`Store.SameShape`).  Two runs of a step, on stores of the same shapes, are alike if
they have the same outcome and, when they succeed, change nothing outside the region that the
step writes, and leave the same in it if they have read the same (`Step.Alike`).
A step carries out an edit of lists of units, of one kind in its source and of one kind in its
destination (`Kind`); `Step.alike_ofEdited` says that runs of edits that end alike are alike.
-/

namespace NumericBytes

open Buffer

/-! ### Kinds of buffers -/

/-- A kind of buffer: lists of units of one type as buffers, and the patterns of the units. -/
structure Kind (α : Type) where
  elementType? : Option NumericType
  buffer : List α → Buffer
  pattern : α → Nat
  pattern_injective : Function.Injective pattern
  patterns_buffer : ∀ units, (buffer units).patterns = units.map pattern
  shape_buffer : ∀ units, (buffer units).shape = (elementType?, units.length)
  exists_units : ∀ held, held.elementType? = elementType? → ∃ units, held = buffer units

/-- Buffers of bytes. -/
def Kind.bytes : Kind UInt8 where
  elementType? := none
  buffer := .bytes
  pattern := UInt8.toNat
  pattern_injective _ _ := UInt8.toNat_inj.mp
  patterns_buffer _ := rfl
  shape_buffer _ := rfl
  exists_units
    | .bytes units, _ => ⟨units, rfl⟩

/-- Buffers of numbers of a type. -/
def Kind.numeric (t : NumericType) : Kind t.Value where
  elementType? := some t
  buffer elements := .numeric ⟨t, elements⟩
  pattern := t.pattern
  pattern_injective _ _ := t.pattern_injective
  patterns_buffer _ := rfl
  shape_buffer _ := rfl
  exists_units
    | .numeric ⟨_, elements⟩, rfl => ⟨elements, rfl⟩

namespace Store

/-- The buffers of the two stores have the same names and shapes. -/
def SameShape (store store' : Store) : Prop :=
  ∀ name, (store'.get? name).map Buffer.shape = (store.get? name).map Buffer.shape

theorem SameShape.refl (store : Store) :
  store.SameShape store
  := by
  intro name
  rfl

/-- A store of the same shapes has a buffer of the same kind and length under each name. -/
theorem SameShape.exists_units {store store' : Store} (same : store.SameShape store') {α : Type}
    (kind : Kind α) {name : String} {units : List α}
    (h : store.get? name = some (kind.buffer units)) :
  ∃ units', store'.get? name = some (kind.buffer units') ∧ units'.length = units.length
  := by
  have shapes := same name
  rw [h] at shapes
  obtain ⟨held, hheld, hshape⟩ := Option.map_eq_some_iff.mp shapes
  rw [kind.shape_buffer] at hshape
  obtain ⟨units', rfl⟩ := kind.exists_units held (congrArg Prod.fst hshape)
  rw [kind.shape_buffer] at hshape
  use units', hheld
  apply congrArg Prod.snd hshape

/-- The patterns of a buffer of a known kind. -/
theorem pattern?_of_get? {store : Store} {α : Type} {kind : Kind α} {name : String}
    {units : List α} (h : store.get? name = some (kind.buffer units)) (k : Nat) :
  store.pattern? name k = (units.map kind.pattern)[k]?
  := by
  rw [pattern?, h, ← kind.patterns_buffer]
  rfl

end Store

/-- Stores that hold the same in a region hold the same units there. -/
theorem Region.Same.sameIn {region : Region} {store store' : Store}
    (same : region.Same store store') {α : Type} {kind : Kind α} {units units' : List α}
    (h : store.get? region.name = some (kind.buffer units))
    (h' : store'.get? region.name = some (kind.buffer units')) :
  region.window.SameIn units units'
  := by
  apply Window.SameIn.of_map kind.pattern_injective
  intro k hk
  rw [← Store.pattern?_of_get? h, ← Store.pattern?_of_get? h']
  apply same k hk

/-! ### Runs of a step -/

/-- What a step answers, and what its destination holds before and after it. -/
structure Run where
  answer : Answer
  before : Buffer
  after : Buffer

/-- The run of an edit of a buffer, with the answer that is made of how the edit ends. -/
def Run.ofEdited {β : Type} (kind : Kind β) (answer : Option Failure → Buffer → Answer)
    (before : List β) (edited : Edited (List β)) : Run :=
  ⟨answer edited.failure? (kind.buffer edited.state), kind.buffer before, kind.buffer edited.state⟩

namespace Step

/-- The step edits its destination as the run says. -/
structure Performs (step : Step) (store : Store) (run : Run) : Prop where
  held : store.get? step.destination = some run.before
  effect : step.effect? store = some (run.answer, some run.after)

/-- On one store a step has one run. -/
theorem Performs.unique {step : Step} {store : Store} {run run' : Run} (h : step.Performs store run)
    (h' : step.Performs store run') :
  run' = run
  := by
  obtain ⟨answer, before, after⟩ := run
  obtain ⟨answer', before', after'⟩ := run'
  obtain ⟨held, effect⟩ := h
  obtain ⟨held', effect'⟩ := h'
  rw [held] at held'
  rw [effect] at effect'
  cases held'
  cases effect'
  rfl

/-- Two runs of a step change nothing outside the region that the footprint says is written, and
leave the same in it if the stores hold the same in the region that is read. -/
structure Touches (step : Step) (footprint : Footprint) (store store' : Store) (run run' : Run) :
    Prop where
  destination : footprint.written.name = step.destination
  outside : footprint.written.window.SameOutside run.before.patterns run.after.patterns
  outside' : footprint.written.window.SameOutside run'.before.patterns run'.after.patterns
  agree : footprint.read.Same store store' →
    footprint.written.window.SameIn run.after.patterns run'.after.patterns

/-- Two runs of a step end alike: both leave the destination as it is, or both touch what the
request of the step names. -/
inductive Alike (step : Step) (store store' : Store) (run run' : Run) : Prop
  | failed (outcome : run'.answer.outcome = run.answer.outcome) (kept : run.after = run.before)
      (kept' : run'.after = run'.before)
  | succeeded {footprint : Footprint} (outcome : run'.answer.outcome = run.answer.outcome)
      (succeeded : run.answer.succeeded = true) (named : step.named? store = some footprint)
      (touches : step.Touches footprint store store' run run')

theorem Alike.outcome_eq {step : Step} {store store' : Store} {run run' : Run}
    (h : step.Alike store store' run run') :
  run'.answer.outcome = run.answer.outcome
  := by
  cases h with
  | failed outcome _ _ => apply outcome
  | succeeded outcome _ _ _ => apply outcome

/-- The answer tells how an edit ended, and its outcome does so whatever the buffer holds. -/
structure Faithful (answer : Option Failure → Buffer → Answer) : Prop where
  outcome : ∀ failure? buffer buffer',
    (answer failure? buffer').outcome = (answer failure? buffer).outcome
  succeeded : ∀ failure? buffer, (answer failure? buffer).succeeded = failure?.isNone

/-- Runs of edits that end alike are alike, if the windows that the edits touch are those that
the step names. -/
theorem alike_ofEdited {step : Step} {store store' : Store} {α β : Type} (source : Kind α)
    (destination : Kind β) {answer : Option Failure → Buffer → Answer} (faithful : Faithful answer)
    {windows? : Option (Window × Window)} {units units' : List α} {before before' : List β}
    {edited edited' : Edited (List β)}
    (h : Edited.Alike windows? units units' before before' edited edited') {name : String}
    (hsource : store.get? name = some (source.buffer units))
    (hsource' : store'.get? name = some (source.buffer units'))
    (named : step.named? store = windows?.map (Footprint.between name step.destination)) :
  step.Alike store store' (.ofEdited destination answer before edited)
    (.ofEdited destination answer before' edited')
  := by
  have outcome := faithful.outcome edited.failure? (destination.buffer edited.state)
    (destination.buffer edited'.state)
  have succeeded := faithful.succeeded edited.failure? (destination.buffer edited.state)
  cases h with
  | refused error => apply Alike.failed outcome rfl rfl
  | @done read written after after' touched inside length length' outside outside' agree =>
    rw [touched] at named
    have whole := outside.map destination.pattern
    have whole' := outside'.map destination.pattern
    rw [← destination.patterns_buffer, ← destination.patterns_buffer] at whole whole'
    apply Alike.succeeded outcome succeeded named
    constructor
    · rfl
    · apply whole
    · apply whole'
    · intro seen
      have written := (agree (seen.sameIn hsource hsource')).map destination.pattern
      rw [← destination.patterns_buffer, ← destination.patterns_buffer] at written
      apply written

end Step

end NumericBytes
