import NumericBytes.Proofs.Store.Effect

/-!
# Failed steps leave no trace

A step changes no buffer but its destination, and keeps the shape of every buffer unless it
makes a fresh one (`Step.get?_of_ne`, `Step.shape_get?`).  A step that fails changes nothing
at all (`Step.run?_of_failed`), so that a run from which the failed steps are left out gives
the same answers and ends with the same store: `failed_steps_leave_no_trace`.
-/

namespace NumericBytes

namespace Step

variable {store after : Store} {step : Step} {answer : Answer}

/-- A step puts into the store, under the name of its destination, what its effect leaves
there, if it leaves a buffer. -/
theorem run?_eq_some (h : step.run? store = some (answer, after)) :
  ∃ contents, step.effect? store = some (answer, contents)
    ∧ ((∃ buffer, contents = some buffer ∧ after = store.put step.destination buffer)
      ∨ contents = none ∧ after = store)
  := by
  obtain ⟨⟨answer', contents⟩, heffect, h⟩ := Option.bind_eq_some_iff.mp h
  cases contents with
  | some buffer =>
    obtain ⟨rfl, rfl⟩ := Prod.mk.inj (Option.some_inj.mp h)
    use some buffer, heffect
    left
    use buffer
  | none =>
    obtain ⟨rfl, rfl⟩ := Prod.mk.inj (Option.some_inj.mp h)
    use none, heffect
    right
    use rfl

/-- A step changes no buffer other than its destination. -/
theorem get?_of_ne (h : step.run? store = some (answer, after)) {name : String}
    (ne : name ≠ step.destination) :
  after.get? name = store.get? name
  := by
  obtain ⟨contents, heffect, ⟨buffer, rfl, rfl⟩ | ⟨rfl, rfl⟩⟩ := run?_eq_some h
  · rw [Store.get?_put, if_neg ne]
  · rfl

/-- A failed step leaves the store as it was. -/
theorem run?_of_failed (h : step.run? store = some (answer, after))
    (failed : answer.succeeded = false) :
  after = store
  := by
  obtain ⟨contents, heffect, ⟨buffer, rfl, rfl⟩ | ⟨rfl, rfl⟩⟩ := run?_eq_some h
  · rcases (effect?_cases heffect).2 with
      ⟨-, outcome, hmade⟩ | ⟨before, hbefore, buffer', hbuffer, -, unchanged⟩
    · obtain ⟨rfl, hbuffer⟩ := Prod.mk.inj hmade
      cases outcome with
      | ok made => contradiction
      | error failure => contradiction
    · obtain rfl := Option.some_inj.mp hbuffer
      rw [unchanged failed]
      apply Store.put_of_get? hbefore
  · rfl

/-- A step keeps the shape of every buffer, unless it makes a fresh one. -/
theorem shape_get? (h : step.run? store = some (answer, after))
    (edits : step.makesFresh = true → answer.succeeded = false) (name : String) :
  (after.get? name).map Buffer.shape = (store.get? name).map Buffer.shape
  := by
  obtain ⟨contents, heffect, ⟨buffer, rfl, rfl⟩ | ⟨rfl, rfl⟩⟩ := run?_eq_some h
  · rcases (effect?_cases heffect).2 with
      ⟨hfresh, -⟩ | ⟨before, hbefore, buffer', hbuffer, same, -⟩
    · rw [run?_of_failed h (edits hfresh)]
    · obtain rfl := Option.some_inj.mp hbuffer
      rw [Store.get?_put]
      split
      · rename_i hname
        rw [hname, hbefore]
        apply congrArg some same
      · rfl
  · rfl

/-- The steps that can be carried out on a store are those that fit it. -/
theorem exists_run?_iff_fits :
  (∃ answer after, step.run? store = some (answer, after)) ↔ step.Fits store
  := by
  constructor
  · rintro ⟨answer, after, h⟩
    obtain ⟨contents, heffect, -⟩ := run?_eq_some h
    apply (effect?_cases heffect).1
  · intro fits
    obtain ⟨⟨answer, contents⟩, heffect⟩ := fits.exists_effect?
    rw [run?, heffect]
    cases contents with
    | some buffer =>
      use answer, store.put step.destination buffer
      rfl
    | none =>
      use answer, store
      rfl

/-- The steps of a run that succeed, by the answers that they give. -/
def successes (steps : List Step) (answers : List Answer) : List Step :=
  ((steps.zip answers).filter fun run => run.2.succeeded).map Prod.fst

theorem successes_cons (step : Step) (steps : List Step) (answer : Answer)
    (answers : List Answer) :
  successes (step :: steps) (answer :: answers)
    = if answer.succeeded then step :: successes steps answers else successes steps answers
  := by
  rw [successes, List.zip_cons_cons, List.filter_cons]
  split
  · rfl
  · rfl

end Step

namespace Store

variable {store final : Store} {step : Step} {steps : List Step} {answers : List Answer}

/-- A run begins with its first step and goes on from the store that this leaves. -/
theorem run?_cons_eq_some_iff :
  store.run? (step :: steps) = some (answers, final)
    ↔ ∃ answer next answers', step.run? store = some (answer, next)
      ∧ next.run? steps = some (answers', final) ∧ answers = answer :: answers'
  := by
  constructor
  · intro h
    obtain ⟨⟨answer, next⟩, hstep, h⟩ := Option.bind_eq_some_iff.mp h
    obtain ⟨⟨answers', final'⟩, hsteps, h⟩ := Option.bind_eq_some_iff.mp h
    obtain ⟨rfl, rfl⟩ := Prod.mk.inj (Option.some_inj.mp h)
    use answer, next, answers', hstep, hsteps
  · rintro ⟨answer, next, answers', hstep, hsteps, rfl⟩
    simp [run?, hstep, hsteps]

/-- Every step fits the store that the steps before it leave. -/
def Admits (store : Store) : List Step → Prop
  | [] => True
  | step :: steps =>
    step.Fits store ∧ ∀ answer next, step.run? store = some (answer, next) → next.Admits steps

/-- The steps that a store admits are those that can be carried out on it. -/
theorem admits_iff_exists_run? :
  store.Admits steps ↔ ∃ answers final, store.run? steps = some (answers, final)
  := by
  induction steps generalizing store with
  | nil => apply iff_of_true trivial ⟨_, _, rfl⟩
  | cons step steps ih =>
    constructor
    · rintro ⟨fits, rest⟩
      obtain ⟨answer, next, hstep⟩ := Step.exists_run?_iff_fits.mpr fits
      obtain ⟨answers, final, hsteps⟩ := ih.mp (rest answer next hstep)
      use answer :: answers, final
      apply run?_cons_eq_some_iff.mpr
      use answer, next, answers, hstep, hsteps
    · rintro ⟨answers, final, h⟩
      obtain ⟨answer, next, answers', hstep, hsteps, rfl⟩ := run?_cons_eq_some_iff.mp h
      constructor
      · apply Step.exists_run?_iff_fits.mp ⟨_, _, hstep⟩
      · intro answer' next' hstep'
        rw [hstep] at hstep'
        obtain ⟨rfl, rfl⟩ := Prod.mk.inj (Option.some_inj.mp hstep')
        apply ih.mpr ⟨_, _, hsteps⟩

/-- A run from which the failed steps are left out gives the answers of the others and ends
with the same store. -/
theorem run?_successes (h : store.run? steps = some (answers, final)) :
  store.run? (Step.successes steps answers) = some (answers.filter Answer.succeeded, final)
  := by
  induction steps generalizing store answers with
  | nil =>
    obtain ⟨rfl, rfl⟩ := Prod.mk.inj (Option.some_inj.mp h)
    rfl
  | cons step steps ih =>
    obtain ⟨answer, next, answers', hstep, hsteps, rfl⟩ := run?_cons_eq_some_iff.mp h
    rw [Step.successes_cons, List.filter_cons]
    split
    · apply run?_cons_eq_some_iff.mpr
      exact ⟨answer, next, _, hstep, ih hsteps, rfl⟩
    · rename_i failed
      obtain rfl := Step.run?_of_failed hstep (Bool.not_eq_true _ ▸ failed)
      apply ih hsteps

end Store

/-- Steps that the store admits can be carried out, and leaving out those that fail changes
neither the answers of the others nor the store at the end.  A step changes no buffer other
than its destination, and keeps the kind and the length of every buffer unless it succeeds in
making a fresh one. -/
theorem failed_steps_leave_no_trace :
  (∀ (store : Store) (steps : List Step), store.Admits steps →
      ∃ answers final, store.run? steps = some (answers, final)
        ∧ store.run? (Step.successes steps answers)
          = some (answers.filter Answer.succeeded, final))
    ∧ ∀ (store : Store) (step : Step), step.Fits store →
      ∃ answer after, step.run? store = some (answer, after)
        ∧ (∀ name, name ≠ step.destination → after.get? name = store.get? name)
        ∧ ((step.makesFresh = true → answer.succeeded = false) →
          ∀ name, (after.get? name).map Buffer.shape = (store.get? name).map Buffer.shape)
  := by
  constructor
  · intro store steps admits
    obtain ⟨answers, final, h⟩ := Store.admits_iff_exists_run?.mp admits
    use answers, final, h
    apply Store.run?_successes h
  · intro store step fits
    obtain ⟨answer, after, h⟩ := Step.exists_run?_iff_fits.mpr fits
    use answer, after, h
    constructor
    · intro name ne
      apply Step.get?_of_ne h ne
    · intro edits name
      apply Step.shape_get? h edits name

/-- Of these four steps the second, whose source is too short, and the third, for which null is
given instead of three bytes, can be left out.  The first writes the numbers alone, and two of them
remain. -/
theorem failed_steps_left_out_of_a_run_of_four :
  (∃ answers final,
    Store.run?
        ⟨[("bytes", .bytes [1, 2, 3, 4]), ("numbers", .numeric ⟨.int16, [0, 0]⟩)]⟩
        [.decode .big "bytes" "numbers" ⟨0, 0, 2⟩, .decode .little "bytes" "numbers" ⟨3, 0, 1⟩,
          .copyLent "numbers" "bytes" .whole (.null 3) ⟨0, 0, 1⟩,
          .encode .little "numbers" "bytes" ⟨0, 0, 2⟩]
      = some (answers, final)
    ∧ Store.run?
        ⟨[("bytes", .bytes [1, 2, 3, 4]), ("numbers", .numeric ⟨.int16, [0, 0]⟩)]⟩
        [.decode .big "bytes" "numbers" ⟨0, 0, 2⟩, .encode .little "numbers" "bytes" ⟨0, 0, 2⟩]
      = some (answers.filter Answer.succeeded, final))
  ∧ ∃ answer after,
    Step.run?
        ⟨[("bytes", .bytes [1, 2, 3, 4]), ("numbers", .numeric ⟨.int16, [0, 0]⟩)]⟩
        (.decode .big "bytes" "numbers" ⟨0, 0, 2⟩)
      = some (answer, after)
    ∧ after.get? "bytes" = some (.bytes [1, 2, 3, 4])
    ∧ (after.get? "numbers").map Buffer.shape = some (some .int16, 2)
  := by
  let store : Store :=
    ⟨[("bytes", .bytes [1, 2, 3, 4]), ("numbers", .numeric ⟨.int16, [0, 0]⟩)]⟩
  let first : Step := .decode .big "bytes" "numbers" ⟨0, 0, 2⟩
  constructor
  · obtain ⟨answers, final, h, h'⟩ := failed_steps_leave_no_trace.1 store
      [first, .decode .little "bytes" "numbers" ⟨3, 0, 1⟩,
        .copyLent "numbers" "bytes" .whole (.null 3) ⟨0, 0, 1⟩,
        .encode .little "numbers" "bytes" ⟨0, 0, 2⟩]
      (Store.admits_iff_exists_run?.mpr ⟨_, _, rfl⟩)
    use answers, final, h
    obtain ⟨rfl, rfl⟩ := Prod.mk.inj (Option.some_inj.mp h)
    apply h'
  · obtain ⟨answer, after, h, frame, shapes⟩ := failed_steps_leave_no_trace.2 store first
      ⟨⟨_, rfl⟩, _, rfl⟩
    use answer, after, h
    constructor
    · apply frame "bytes" (by decide)
    · apply shapes nofun "numbers"

end NumericBytes
