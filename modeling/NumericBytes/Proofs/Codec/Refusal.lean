import NumericBytes.Proofs.Codec.Acceptance

/-!
# What a refusal tells of its range

A range is refused for an overflow if its end is no word, whatever the buffer holds; if its end is
a word it is refused for exceeding a buffer that holds less, and accepted in any other
(`Extent.refusal?_cases`).  Ranges that are checked in turn are refused for the first one that is
refused alone (`Extent.verdict_pair_eq_refused_iff`).
-/

namespace NumericBytes.Extent

variable {extent first second : Extent} {side : Side} {stop capacity : Nat} {error : OutOfBounds}

/-! ### One range -/

/-- The end of the range is no word. -/
def Overflows (extent : Extent) : Prop := UInt64.size ≤ extent.stop

/-- A range overflows, exceeds its buffer or ends in it, and is judged accordingly. -/
theorem refusal?_cases (extent : Extent) :
  (extent.Overflows ∧ extent.refusal? = some ⟨extent.side, .overflow⟩)
    ∨ (¬ extent.Overflows ∧ extent.capacity < extent.stop
      ∧ extent.refusal? = some ⟨extent.side, .exceeds extent.stop extent.capacity⟩)
    ∨ (¬ extent.Overflows ∧ extent.stop ≤ extent.capacity ∧ extent.refusal? = none)
  := by
  rw [refusal?, Overflows]
  by_cases overflows : UInt64.size ≤ extent.stop
  · left
    use overflows, if_pos overflows
  · right
    rw [if_neg overflows]
    by_cases exceeds : extent.capacity < extent.stop
    · left
      use overflows, exceeds, if_pos exceeds
    · right
      use overflows, Nat.le_of_not_lt exceeds, if_neg exceeds

/-- A range is refused for an overflow if its end is no word, in the name of its side. -/
theorem refusal?_eq_overflow_iff :
  extent.refusal? = some ⟨side, .overflow⟩ ↔ side = extent.side ∧ extent.Overflows
  := by
  rcases extent.refusal?_cases with ⟨overflows, h⟩ | ⟨ends, -, h⟩ | ⟨ends, -, h⟩
  · rw [h]
    simp only [Option.some.injEq, OutOfBounds.mk.injEq, and_true, overflows]
    exact eq_comm
  · rw [h]
    simp only [Option.some.injEq, OutOfBounds.mk.injEq, reduceCtorEq, and_false, ends]
  · rw [h]
    simp only [reduceCtorEq, ends, and_false]

/-- A range is refused for exceeding its buffer if its end is a word and lies beyond the buffer, and
the refusal tells both. -/
theorem refusal?_eq_exceeds_iff :
  extent.refusal? = some ⟨side, .exceeds stop capacity⟩
    ↔ side = extent.side ∧ stop = extent.stop ∧ capacity = extent.capacity
      ∧ ¬ extent.Overflows ∧ extent.capacity < extent.stop
  := by
  rcases extent.refusal?_cases with ⟨overflows, h⟩ | ⟨ends, exceeds, h⟩ | ⟨ends, inside, h⟩
  · rw [h]
    simp only [Option.some.injEq, OutOfBounds.mk.injEq, reduceCtorEq, and_false, overflows,
      not_true_eq_false, false_and]
  · rw [h]
    simp only [Option.some.injEq, OutOfBounds.mk.injEq, Cause.exceeds.injEq, ends, exceeds,
      not_false_eq_true, and_self, and_true]
    constructor
    · rintro ⟨rfl, rfl, rfl⟩
      exact ⟨rfl, rfl, rfl⟩
    · rintro ⟨rfl, rfl, rfl⟩
      exact ⟨rfl, rfl, rfl⟩
  · rw [h]
    simp only [reduceCtorEq, Nat.not_lt_of_le inside, and_false]

/-- A range is accepted if its end is a word and lies in the buffer. -/
theorem refusal?_eq_none_iff :
  extent.refusal? = none ↔ ¬ extent.Overflows ∧ extent.stop ≤ extent.capacity
  := by
  rcases extent.refusal?_cases with ⟨overflows, h⟩ | ⟨-, exceeds, h⟩ | ⟨ends, inside, h⟩
  · rw [h]
    simp only [reduceCtorEq, overflows, not_true_eq_false, false_and]
  · rw [h]
    simp only [reduceCtorEq, Nat.not_le_of_lt exceeds, and_false]
  · rw [h]
    simp only [ends, inside, not_false_eq_true, and_self]

/-- A range that is accepted ends in its buffer. -/
theorem stop_le_of_accepted (h : extent.refusal? = none) :
  extent.stop ≤ extent.capacity
  := (refusal?_eq_none_iff.mp h).2

/-- A range is refused in the name of its side. -/
theorem side_of_refused (h : extent.refusal? = some error) :
  error.side = extent.side
  := by
  rcases extent.refusal?_cases with ⟨-, h'⟩ | ⟨-, -, h'⟩ | ⟨-, -, h'⟩
  · rw [h'] at h
    cases h
    rfl
  · rw [h'] at h
    cases h
    rfl
  · rw [h'] at h
    contradiction

/-! ### One range in other buffers -/

/-- The same range in a buffer of another capacity. -/
def inBuffer (extent : Extent) (capacity : Nat) : Extent :=
  { extent with capacity := capacity }

/-- A range that overflows does so in any buffer. -/
theorem refusal?_inBuffer_of_overflow (h : extent.refusal? = some ⟨side, .overflow⟩)
    (other : Nat) :
  (extent.inBuffer other).refusal? = some ⟨side, .overflow⟩
  := by
  apply refusal?_eq_overflow_iff.mpr
  apply refusal?_eq_overflow_iff.mp h

/-- A range that exceeds its buffer exceeds every buffer that is smaller than the end that is
told. -/
theorem refusal?_inBuffer_of_lt (h : extent.refusal? = some ⟨side, .exceeds stop capacity⟩)
    {other : Nat} (less : other < stop) :
  (extent.inBuffer other).refusal? = some ⟨side, .exceeds stop other⟩
  := by
  obtain ⟨rfl, rfl, -, word, -⟩ := refusal?_eq_exceeds_iff.mp h
  apply refusal?_eq_exceeds_iff.mpr
  exact ⟨rfl, rfl, rfl, word, less⟩

/-- A range that exceeds its buffer is accepted in every buffer that is not smaller than the end
that is told. -/
theorem refusal?_inBuffer_of_le (h : extent.refusal? = some ⟨side, .exceeds stop capacity⟩)
    {other : Nat} (enough : stop ≤ other) :
  (extent.inBuffer other).refusal? = none
  := by
  obtain ⟨-, rfl, -, word, -⟩ := refusal?_eq_exceeds_iff.mp h
  apply refusal?_eq_none_iff.mpr
  use word
  apply enough

/-! ### Ranges that are checked in turn -/

/-- Ranges that are checked in turn are refused for the first one, or for another one if the first
is accepted. -/
theorem verdict_cons_eq_refused_iff {extents : List Extent} :
  verdict (extent :: extents) = some (.outOfBounds error)
    ↔ extent.refusal? = some error
      ∨ extent.refusal? = none ∧ verdict extents = some (.outOfBounds error)
  := by
  cases h : extent.refusal? with
  | some first =>
    rw [verdict_cons_of_refused h]
    simp only [Option.some.injEq, Failure.outOfBounds.injEq, reduceCtorEq, false_and, or_false]
  | none =>
    rw [verdict_cons_of_accepted h]
    simp only [reduceCtorEq, true_and, false_or]

theorem verdict_pair_eq_refused_iff :
  verdict [first, second] = some (.outOfBounds error)
    ↔ first.refusal? = some error ∨ first.refusal? = none ∧ second.refusal? = some error
  := by
  have empty : ¬ verdict [] = some (.outOfBounds error) := nofun
  rw [verdict_cons_eq_refused_iff, verdict_cons_eq_refused_iff]
  simp only [empty, and_false, or_false]

/-- Two ranges are accepted if each of them is. -/
theorem verdict_pair_eq_none_iff :
  verdict [first, second] = none ↔ first.refusal? = none ∧ second.refusal? = none
  := by
  simp only [verdict, Option.map_eq_none_iff, List.findSome?_eq_none_iff, List.forall_mem_cons,
    List.not_mem_nil, false_implies, implies_true, and_true]

/-- Of two ranges of which the second does not overflow if the first is accepted, only the first
is refused for an overflow. -/
theorem verdict_pair_eq_overflow_iff (short : first.refusal? = none → ¬ second.Overflows) :
  verdict [first, second] = some (.outOfBounds ⟨side, .overflow⟩)
    ↔ side = first.side ∧ first.Overflows
  := by
  rw [verdict_pair_eq_refused_iff, refusal?_eq_overflow_iff, refusal?_eq_overflow_iff]
  constructor
  · rintro (overflow | ⟨accepted, -, overflows⟩)
    · apply overflow
    · exact absurd overflows (short accepted)
  · apply Or.inl

end NumericBytes.Extent
