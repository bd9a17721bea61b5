import NumericBytes.Proofs.Foreign.Safety
import NumericBytes.Proofs.Store.Failures

/-!
# Runs that misuse no primitive

A store is `Allocatable` if each of its buffers occupies no more bytes than a buffer may.  A step on
such a store misuses no primitive and leaves such a store (`Step.run?_allocatable`): an edit keeps
the size of its buffer, and a fresh buffer is no larger than its source.  So the same holds of the
steps of a run: `runs_never_misuse_primitives`.
-/

namespace NumericBytes

/-- The buffer occupies no more bytes than a buffer may. -/
def Buffer.Allocatable : Buffer → Prop
  | bytes units => NumericBytes.Allocatable 1 units
  | numeric array => NumericBytes.Allocatable array.elementType.width array.elements

/-- Whether a buffer is allocatable depends on its shape alone. -/
theorem Buffer.allocatable_of_shape {before after : Buffer} (same : after.shape = before.shape)
    (h : before.Allocatable) :
  after.Allocatable
  := by
  obtain ⟨kind, length⟩ := Prod.mk.inj same
  cases before with
  | bytes units =>
    cases after with
    | bytes units' =>
      change units'.length * 1 < _
      rw [show units'.length = units.length from length]
      apply h
    | numeric array => contradiction
  | numeric array =>
    cases after with
    | bytes units => contradiction
    | numeric array' =>
      change array'.elements.length * array'.elementType.width < _
      rw [show array'.elements.length = array.elements.length from length,
        show array'.elementType = array.elementType from Option.some_inj.mp kind]
      apply h

/-- Every buffer of the store occupies no more bytes than a buffer may. -/
def Store.Allocatable (store : Store) : Prop :=
  ∀ name buffer, store.get? name = some buffer → buffer.Allocatable

/-- An answer that does not tell of the misuse of a primitive. -/
def Answer.Unmisused : Answer → Prop
  | edited failure? _ => NumericBytes.Unmisused failure?
  | copied _ _ failure? _ => NumericBytes.Unmisused failure?
  | returned status _ => status ≠ .misused
  | made outcome => NumericBytes.Unmisused (Failure.of? outcome)

theorem Failure.of?_map {α β : Type} (f : α → β) (outcome : Except Failure α) :
  of? (outcome.map f) = of? outcome
  := by
  cases outcome with
  | ok value => rfl
  | error failure => rfl

namespace Step

variable {store after : Store} {step : Step} {answer : Answer} {contents : Option Buffer}
  {buffer : Buffer}

/-- A step on an allocatable store misuses no primitive. -/
theorem unmisused_effect? (allocatable : store.Allocatable)
    (h : step.effect? store = some (answer, contents)) :
  answer.Unmisused
  := by
  cases step with
  | decode order source destination request =>
    rw [effect?] at h
    split at h
    · rename_i units t elements hsource hdestination
      cases h
      apply t.safe.decodeInto
    · contradiction
  | encode order source destination request =>
    rw [effect?] at h
    split at h
    · rename_i t elements units hsource hdestination
      cases h
      apply t.safe.encodeInto
    · contradiction
  | copy source destination request =>
    obtain ⟨held, hsource, h⟩ := Option.bind_eq_some_iff.mp h
    obtain ⟨before, hdestination, h⟩ := Option.bind_eq_some_iff.mp h
    obtain ⟨transfer, htransfer, h⟩ := Option.bind_eq_some_iff.mp h
    cases h
    apply (transfer.conserves_copy request).unmisused
  | copyLent source destination sourceLoan destinationLoan request =>
    rw [effect?] at h
    split at h
    · rename_i units t elements hsource hdestination
      obtain ⟨lentSource, -, h⟩ := Option.bind_eq_some_iff.mp h
      obtain ⟨lentDestination, -, h⟩ := Option.bind_eq_some_iff.mp h
      cases h
      apply t.safe.decodeLent
    · rename_i t elements units hsource hdestination
      obtain ⟨lentSource, -, h⟩ := Option.bind_eq_some_iff.mp h
      obtain ⟨lentDestination, -, h⟩ := Option.bind_eq_some_iff.mp h
      cases h
      apply t.safe.encodeLent
    · contradiction
  | swapWindow destination offset count =>
    rw [effect?] at h
    split at h
    · rename_i t elements hdestination
      cases h
      apply t.safe.swapWindow
    · contradiction
  | swapAll destination =>
    rw [effect?] at h
    split at h
    · rename_i t elements hdestination
      cases h
      apply (t.conserves_swapAll elements).unmisused
    · contradiction
  | decodeFresh t source destination offset count =>
    rw [effect?] at h
    split at h
    · rename_i units hsource
      cases h
      rw [Answer.Unmisused, Failure.of?_map]
      apply t.safe.decodeFresh (allocatable source _ hsource)
    · contradiction
  | encodeFresh source destination offset count =>
    rw [effect?] at h
    split at h
    · rename_i t elements hsource
      cases h
      rw [Answer.Unmisused, Failure.of?_map]
      apply t.safe.encodeFresh (allocatable source _ hsource)
    · contradiction

theorem allocatable_ofMade {σ : Type} {outcome : Except Failure σ} {buffer : σ → Buffer}
    (h : ∀ value, outcome = .ok value → (buffer value).Allocatable) {made : Buffer}
    (hmade : (ofMade outcome buffer).2 = some made) :
  made.Allocatable
  := by
  cases outcome with
  | ok value =>
    obtain rfl := Option.some_inj.mp hmade
    apply h value rfl
  | error failure => contradiction

/-- What a step on an allocatable store leaves in its destination is allocatable. -/
theorem allocatable_effect? (allocatable : store.Allocatable)
    (h : step.effect? store = some (answer, some buffer)) :
  buffer.Allocatable
  := by
  rcases (effect?_cases h).2 with ⟨fresh, -⟩ | ⟨before, hbefore, after, hafter, same, -⟩
  · cases step with
    | decodeFresh t source destination offset count =>
      rw [effect?] at h
      split at h
      · rename_i units hsource
        have hmade := congrArg Prod.snd (Option.some_inj.mp h)
        apply allocatable_ofMade _ hmade
        intro values hvalues
        apply NumericType.allocatable_decodeFresh (allocatable source _ hsource) hvalues
      · contradiction
    | encodeFresh source destination offset count =>
      rw [effect?] at h
      split at h
      · rename_i t elements hsource
        have hmade := congrArg Prod.snd (Option.some_inj.mp h)
        apply allocatable_ofMade _ hmade
        intro bytes hbytes
        apply NumericType.allocatable_encodeFresh (allocatable source _ hsource) hbytes
      · contradiction
    | _ => contradiction
  · obtain rfl := Option.some_inj.mp hafter
    apply Buffer.allocatable_of_shape same (allocatable _ _ hbefore)

/-- A step on an allocatable store misuses no primitive, and leaves an allocatable store. -/
theorem run?_allocatable (allocatable : store.Allocatable)
    (h : step.run? store = some (answer, after)) :
  answer.Unmisused ∧ after.Allocatable
  := by
  obtain ⟨contents, heffect, ⟨buffer, rfl, rfl⟩ | ⟨rfl, rfl⟩⟩ := run?_eq_some h
  · use unmisused_effect? allocatable heffect
    intro name held hheld
    rw [Store.get?_put] at hheld
    split at hheld
    · obtain rfl := Option.some_inj.mp hheld
      apply allocatable_effect? allocatable heffect
    · apply allocatable name held hheld
  · use unmisused_effect? allocatable heffect

end Step

/-- The steps of a run on an allocatable store misuse no primitive, and the store at the end is
allocatable again. -/
theorem runs_never_misuse_primitives {store final : Store} {steps : List Step}
    {answers : List Answer} (allocatable : store.Allocatable)
    (h : store.run? steps = some (answers, final)) :
  (∀ answer ∈ answers, answer.Unmisused) ∧ final.Allocatable
  := by
  induction steps generalizing store answers with
  | nil =>
    obtain ⟨rfl, rfl⟩ := Prod.mk.inj (Option.some_inj.mp h)
    use nofun
  | cons step steps ih =>
    obtain ⟨answer, next, answers', hstep, hsteps, rfl⟩ := Store.run?_cons_eq_some_iff.mp h
    obtain ⟨unmisused, allocatable'⟩ := Step.run?_allocatable allocatable hstep
    obtain ⟨rest, final_allocatable⟩ := ih allocatable' hsteps
    constructor
    · intro answer' member
      rcases List.mem_cons.mp member with rfl | member
      · apply unmisused
      · apply rest answer' member
    · apply final_allocatable

end NumericBytes
