import NumericBytes.Proofs.Store.Performance

/-!
# Independent steps commute

Two steps are independent on a store if neither writes where the other reads or writes.  Then
each of them finds the same in the region that it reads, whether it is carried out before the
other or after it (`Region.same_put`), and so it ends the same way and writes the same:
`independent_steps_commute`.
-/

namespace NumericBytes

/-- A change of a buffer in a window leaves the regions apart from the window as they are. -/
theorem Region.same_put {store : Store} {region written : Region} {before after : Buffer}
    (held : store.get? written.name = some before)
    (outside : written.window.SameOutside before.patterns after.patterns)
    (apart : region.Apart written) :
  region.Same store (store.put written.name after)
  := by
  intro k hk
  rw [Store.pattern?, Store.pattern?, Store.get?_put]
  split
  · rename_i name
    rw [name, held]
    apply outside k (apart name k hk)
  · rfl

namespace Step

/-! ### What a step leaves -/

section

variable {step : Step} {store store' : Store} {run run' : Run}

theorem Performs.run?_eq (h : step.Performs store run) :
  step.run? store = some (run.answer, store.put step.destination run.after)
  := by
  rw [run?, h.effect]
  rfl

/-- Two steps carried out one after the other. -/
theorem Performs.run?_pair {next : Step} (h : step.Performs store run)
    (h' : next.Performs (store.put step.destination run.after) run') :
  store.run? [step, next] = some ([run.answer, run'.answer],
    (store.put step.destination run.after).put next.destination run'.after)
  := by
  apply Store.run?_cons_eq_some_iff.mpr
  refine ⟨_, _, _, h.run?_eq, ?_, rfl⟩
  apply Store.run?_cons_eq_some_iff.mpr
  exact ⟨_, _, _, h'.run?_eq, rfl, rfl⟩

theorem Performs.sameShape (h : step.Performs store run) (edits : step.makesFresh = false) :
  store.SameShape (store.put step.destination run.after)
  := by
  apply shape_get? h.run?_eq
  intro fresh
  rw [edits] at fresh
  contradiction

theorem Performs.elementType?_after (h : step.Performs store run)
    (edits : step.makesFresh = false) :
  run.after.elementType? = run.before.elementType?
  := by
  have shapes := h.sameShape edits step.destination
  rw [Store.get?_put, if_pos rfl, h.held] at shapes
  apply congrArg Prod.fst (Option.some_inj.mp shapes)

theorem Fits.exists_performs (fits : step.Fits store) (edits : step.makesFresh = false) :
  ∃ run, step.Performs store run
  := by
  obtain ⟨run, -, h, -⟩ := fits.exists_alike edits (Store.SameShape.refl store)
  use run

/-- The run of a step on another store of the same shapes. -/
theorem Performs.exists_alike (h : step.Performs store run) (fits : step.Fits store)
    (edits : step.makesFresh = false) (same : store.SameShape store') :
  ∃ run', step.Performs store' run' ∧ step.Alike store store' run run'
  := by
  obtain ⟨run₀, run', h₀, h', alike⟩ := fits.exists_alike edits same
  obtain rfl := h₀.unique h
  use run'

/-- A step that succeeds has the footprint that its request names. -/
theorem Performs.footprint?_eq (h : step.Performs store run)
    (succeeded : run.answer.succeeded = true) :
  step.footprint? store = step.named? store
  := by
  rw [footprint?, h.effect]
  apply if_pos succeeded

/-- A run of a step begins with what the store holds. -/
theorem Performs.before_eq {held : Buffer} (h : step.Performs store run)
    (hheld : store.get? step.destination = some held) :
  run.before = held
  := by
  rw [h.held] at hheld
  apply Option.some_inj.mp hheld

/-- A step whose destination has just been put into the store finds what was put. -/
theorem Performs.before_of_eq {name : String} {buffer : Buffer}
    (h : step.Performs (store.put name buffer) run) (same : step.destination = name) :
  run.before = buffer
  := by
  apply h.before_eq
  rw [Store.get?_put, if_pos same]

/-- A step finds in its destination what was there before another buffer was put. -/
theorem Performs.before_of_ne {name : String} {buffer : Buffer} (h : step.Performs store run)
    (h' : step.Performs (store.put name buffer) run') (ne : step.destination ≠ name) :
  run'.before = run.before
  := by
  apply h'.before_eq
  rw [Store.get?_put, if_neg ne, h.held]

end

/-! ### Two steps in either order -/

/-- A step leaves the same in the region that it writes, whether another step comes before it or
not, if that step writes apart from the region that it reads. -/
theorem Touches.agree_of_apart {step other : Step} {store store' : Store}
    {footprint footprint' : Footprint} {run run' before before' : Run}
    (touches : step.Touches footprint store (store.put other.destination before.after) run run')
    (h : other.Performs store before)
    (touches' : other.Touches footprint' store store' before before')
    (apart : footprint.read.Apart footprint'.written) :
  footprint.written.window.SameIn run.after.patterns run'.after.patterns
  := by
  have held := h.held
  apply touches.agree
  rw [← touches'.destination] at held ⊢
  apply Region.same_put held touches'.outside apart

/-- Runs of a step that begin with one buffer end with one, if they leave the same in the region
that is written. -/
theorem Touches.after_eq {step : Step} {store store' : Store} {footprint : Footprint}
    {run run' : Run} (touches : step.Touches footprint store store' run run')
    (h : step.Performs store run) (h' : step.Performs store' run')
    (edits : step.makesFresh = false) (before : run'.before = run.before)
    (agree : footprint.written.window.SameIn run.after.patterns run'.after.patterns) :
  run'.after = run.after
  := by
  have outside' := touches.outside'
  rw [before] at outside'
  apply Buffer.eq_of_patterns
  · rw [h'.elementType?_after edits, h.elementType?_after edits, before]
  · apply Window.eq_of_sameOutside touches.outside outside' agree

section

variable {store : Store} {first second : Step} {run₁ run₁' run₂ run₂' : Run}
  (h₁ : first.Performs store run₁) (h₂ : second.Performs store run₂)
  (h₁' : first.Performs (store.put second.destination run₂.after) run₁')
  (h₂' : second.Performs (store.put first.destination run₁.after) run₂')

include h₁ h₂ h₁' h₂'

/-- A step that leaves its destination as it is, before the other step and after it, can be
carried out before it or after it. -/
theorem put_comm_of_kept (kept : run₁.after = run₁.before) (kept' : run₁'.after = run₁'.before) :
  (store.put first.destination run₁.after).put second.destination run₂'.after
    = (store.put second.destination run₂.after).put first.destination run₁'.after
  := by
  have unchanged : store.put first.destination run₁.after = store := by
    rw [kept]
    apply Store.put_of_get? h₁.held
  rw [unchanged] at h₂' ⊢
  rw [kept', Store.put_of_get? h₁'.held, h₂.unique h₂']

section

variable {footprint₁ footprint₂ : Footprint}
  (touches₁ : first.Touches footprint₁ store (store.put second.destination run₂.after) run₁ run₁')
  (touches₂ : second.Touches footprint₂ store (store.put first.destination run₁.after) run₂ run₂')
  (independent : footprint₁.Independent footprint₂) (edits₁ : first.makesFresh = false)
  (edits₂ : second.makesFresh = false)

include touches₁ touches₂ independent edits₁ edits₂

/-- Independent steps that edit one buffer leave the same in it in either order. -/
theorem after_eq_of_shared (shared : first.destination = second.destination)
    (agree₁ : footprint₁.written.window.SameIn run₁.after.patterns run₁'.after.patterns)
    (agree₂ : footprint₂.written.window.SameIn run₂.after.patterns run₂'.after.patterns) :
  run₂'.after = run₁'.after
  := by
  have before : run₂.before = run₁.before := h₂.before_eq (shared ▸ h₁.held)
  have before₁ := h₁'.before_of_eq shared
  have before₂ := h₂'.before_of_eq shared.symm
  have names : footprint₁.written.name = footprint₂.written.name := by
    rw [touches₁.destination, touches₂.destination, shared]
  have outside₂ := touches₂.outside
  have outside₁' := touches₁.outside'
  have outside₂' := touches₂.outside'
  rw [before] at outside₂
  rw [before₁] at outside₁'
  rw [before₂] at outside₂'
  apply Buffer.eq_of_patterns
  · rw [h₂'.elementType?_after edits₂, h₁'.elementType?_after edits₁, before₁, before₂,
      h₁.elementType?_after edits₁, h₂.elementType?_after edits₂, before]
  · apply Window.eq_of_disjoint (independent.written_written names) touches₁.outside outside₂
      outside₁' outside₂' agree₁ agree₂

/-- The store is the same after two independent steps that both succeed, in either order. -/
theorem put_comm_of_independent :
  (store.put first.destination run₁.after).put second.destination run₂'.after
    = (store.put second.destination run₂.after).put first.destination run₁'.after
  := by
  have agree₁ := touches₁.agree_of_apart h₂ touches₂ independent.read_written
  have agree₂ := touches₂.agree_of_apart h₁ touches₁ independent.symm.read_written
  by_cases shared : first.destination = second.destination
  · rw [after_eq_of_shared h₁ h₂ h₁' h₂' touches₁ touches₂ independent edits₁ edits₂ shared agree₁
      agree₂, shared, Store.put_put, Store.put_put]
  · have before₁ := h₁.before_of_ne h₁' shared
    have before₂ := h₂.before_of_ne h₂' (Ne.symm shared)
    rw [touches₁.after_eq h₁ h₁' edits₁ before₁ agree₁,
      touches₂.after_eq h₂ h₂' edits₂ before₂ agree₂]
    apply Store.put_comm shared h₁.held

end

/-- The store is the same after two independent steps, in either order, whether they succeed or
not. -/
theorem put_comm_of_alike
    (alike₁ : first.Alike store (store.put second.destination run₂.after) run₁ run₁')
    (alike₂ : second.Alike store (store.put first.destination run₁.after) run₂ run₂')
    (independent : Independent store first second) (edits₁ : first.makesFresh = false)
    (edits₂ : second.makesFresh = false) :
  (store.put first.destination run₁.after).put second.destination run₂'.after
    = (store.put second.destination run₂.after).put first.destination run₁'.after
  := by
  cases alike₁ with
  | failed outcome kept kept' => apply put_comm_of_kept h₁ h₂ h₁' h₂' kept kept'
  | succeeded outcome succeeded named touches =>
    cases alike₂ with
    | failed outcome' kept kept' =>
      symm
      apply put_comm_of_kept h₂ h₁ h₂' h₁' kept kept'
    | succeeded outcome' succeeded' named' touches' =>
      rw [← h₁.footprint?_eq succeeded] at named
      rw [← h₂.footprint?_eq succeeded'] at named'
      apply put_comm_of_independent h₁ h₂ h₁' h₂' touches touches'
        (independent _ named _ named') edits₁ edits₂

end

end Step

/-- Two steps, neither of which writes where the other reads or writes, can be carried out in
either order: each ends in the same way, and the store is the same at the end.  A step that fails
touches nothing. -/
theorem independent_steps_commute {store : Store} {first second : Step} (fits : first.Fits store)
    (fits' : second.Fits store) (edits : first.makesFresh = false)
    (edits' : second.makesFresh = false) (independent : Step.Independent store first second) :
  ∃ answer₁ answer₁' answer₂ answer₂' final,
    store.run? [first, second] = some ([answer₁, answer₂'], final)
    ∧ store.run? [second, first] = some ([answer₂, answer₁'], final)
    ∧ answer₁'.outcome = answer₁.outcome ∧ answer₂'.outcome = answer₂.outcome
  := by
  obtain ⟨run₁, h₁⟩ := fits.exists_performs edits
  obtain ⟨run₂, h₂⟩ := fits'.exists_performs edits'
  obtain ⟨run₁', h₁', alike₁⟩ := h₁.exists_alike fits edits (h₂.sameShape edits')
  obtain ⟨run₂', h₂', alike₂⟩ := h₂.exists_alike fits' edits' (h₁.sameShape edits)
  have final := Step.put_comm_of_alike h₁ h₂ h₁' h₂' alike₁ alike₂ independent edits edits'
  use run₁.answer, run₁'.answer, run₂.answer, run₂'.answer,
    (store.put first.destination run₁.after).put second.destination run₂'.after
  use h₁.run?_pair h₂', final ▸ h₂.run?_pair h₁', alike₁.outcome_eq
  apply alike₂.outcome_eq

/-- The first of these steps reads bytes in front of those that the second writes, and writes
numbers in front of those that the second reads; both begin at odd bytes, and the last byte is not
lent to the second. -/
theorem crossing_steps_commute :
  Step.Independent
      ⟨[("bytes", .bytes [1, 2, 3, 4, 5, 6, 7, 8, 9, 10]),
        ("numbers", .numeric ⟨.int16, [0, 0, -1, 2]⟩)]⟩
      (.decode .big "bytes" "numbers" ⟨1, 0, 2⟩)
      (.copyLent "numbers" "bytes" .whole (.front 9) ⟨2, 5, 2⟩)
    ∧ ∃ answer₁ answer₁' answer₂ answer₂' final,
      Store.run?
          ⟨[("bytes", .bytes [1, 2, 3, 4, 5, 6, 7, 8, 9, 10]),
            ("numbers", .numeric ⟨.int16, [0, 0, -1, 2]⟩)]⟩
          [.decode .big "bytes" "numbers" ⟨1, 0, 2⟩,
            .copyLent "numbers" "bytes" .whole (.front 9) ⟨2, 5, 2⟩]
        = some ([answer₁, answer₂'], final)
      ∧ Store.run?
          ⟨[("bytes", .bytes [1, 2, 3, 4, 5, 6, 7, 8, 9, 10]),
            ("numbers", .numeric ⟨.int16, [0, 0, -1, 2]⟩)]⟩
          [.copyLent "numbers" "bytes" .whole (.front 9) ⟨2, 5, 2⟩,
            .decode .big "bytes" "numbers" ⟨1, 0, 2⟩]
        = some ([answer₂, answer₁'], final)
      ∧ answer₁'.outcome = answer₁.outcome ∧ answer₂'.outcome = answer₂.outcome
  := by
  have independent : Step.Independent
      ⟨[("bytes", .bytes [1, 2, 3, 4, 5, 6, 7, 8, 9, 10]),
        ("numbers", .numeric ⟨.int16, [0, 0, -1, 2]⟩)]⟩
      (.decode .big "bytes" "numbers" ⟨1, 0, 2⟩)
      (.copyLent "numbers" "bytes" .whole (.front 9) ⟨2, 5, 2⟩) := by
    intro footprint h footprint' h'
    obtain rfl := Option.some_inj.mp h
    obtain rfl := Option.some_inj.mp h'
    constructor
    · intro name
      contradiction
    · intro _
      apply Window.disjoint_of_stop_le (by decide : 2 ≤ 2)
    · intro _
      apply Window.disjoint_of_stop_le (by decide : 5 ≤ 5)
  use independent
  refine independent_steps_commute ⟨⟨_, rfl⟩, _, rfl⟩ ⟨.inr ⟨⟨_, rfl⟩, _, rfl⟩, ?_, ?_⟩ rfl rfl
    independent
  · intro numbers _
    trivial
  · rintro bytes ⟨⟩
    apply (by decide : 9 ≤ 10)

end NumericBytes
