import Mathlib.Tactic.Use
import NumericBytes.Request

/-!
# Conservative edits

An edit that ends as `edited` is conservative if it fails only by refusing, before it has
written anything, and if its success keeps the shape of the state, whatever is counted as
one.  `Edited.Conserves` says so of the ending of an edit, and `OnlyRefuses` of the outcome
of a check; what is made of conservative parts is conservative.
-/

namespace NumericBytes

namespace Edited

variable {σ τ κ ι : Type}

/-- The edit of `before` that ended as `edited` either was refused and left `before` as it
was, or succeeded and kept the shape of `before`. -/
structure Conserves (shape : σ → κ) (before : σ) (edited : Edited σ) : Prop where
  refused : ∀ {failure after}, edited = .error failure after →
    after = before ∧ ∃ error, failure = .outOfBounds error
  kept : ∀ {after}, edited = .ok () after → shape after = shape before

variable {shape : σ → κ} {before after : σ} {edited : Edited σ}

theorem conserves_ok (h : shape after = shape before) :
  Conserves shape before (.ok () after)
  := by
  constructor
  · intro failure after' h'
    contradiction
  · intro after' h'
    cases h'
    apply h

theorem conserves_error (shape : σ → κ) (before : σ) (error : OutOfBounds) :
  Conserves shape before (.error (.outOfBounds error) before)
  := by
  constructor
  · intro failure after h
    cases h
    use rfl, error
  · intro after h
    contradiction

namespace Conserves

/-- However the edit ended, the state has the shape that it had before. -/
theorem shape_state (h : Conserves shape before edited) :
  shape edited.state = shape before
  := by
  cases edited with
  | ok _ after => apply h.kept rfl
  | error failure after =>
    obtain ⟨rfl, -⟩ := h.refused rfl
    rfl

/-- A failed edit leaves the state as it was. -/
theorem state_of_failure (h : Conserves shape before edited)
    (failed : edited.failure?.isNone = false) :
  edited.state = before
  := by
  cases edited with
  | ok _ after => contradiction
  | error failure after => exact (h.refused rfl).1

/-- A conservative edit of a part is a conservative edit of the whole, if the shape of the
whole depends on that of the part alone. -/
theorem within {edit : Edit τ Unit} {part : τ} {partShape : τ → ι} {put : τ → σ} {whole : σ}
    (h : Conserves partShape part (edit part)) (hput : put part = whole)
    (congr : ∀ part', partShape part' = partShape part → shape (put part') = shape whole) :
  Conserves shape whole (edit.within part put)
  := by
  rw [Edit.within]
  cases hedit : edit part with
  | ok _ part' =>
    apply conserves_ok
    apply congr _ (h.kept hedit)
  | error failure part' =>
    obtain ⟨rfl, error, rfl⟩ := h.refused hedit
    rw [Edited.map, hput]
    apply conserves_error

end Conserves

end Edited

/-! ### Checks that only refuse -/

/-- An outcome is a value or the refusal of a request, and never the misuse of a primitive. -/
def OnlyRefuses {α : Type} (outcome : Except Failure α) : Prop :=
  ∀ failure, outcome = .error failure → ∃ error, failure = .outOfBounds error

theorem onlyRefuses_ok {α : Type} (value : α) :
  OnlyRefuses (.ok value)
  := by
  intro failure h
  contradiction

theorem onlyRefuses_bind {α β : Type} {outcome : Except Failure α} {next : α → Except Failure β}
    (first : OnlyRefuses outcome) (second : ∀ value, OnlyRefuses (next value)) :
  OnlyRefuses (outcome >>= next)
  := by
  cases outcome with
  | ok value => apply second value
  | error failure =>
    intro failure' h
    cases h
    apply first _ rfl

theorem Request.onlyRefuses_unsigned (side : Side) (n : Int64) :
  OnlyRefuses (unsigned side n)
  := by
  intro failure h
  rw [unsigned] at h
  split at h
  · contradiction
  · cases h
    exact ⟨_, rfl⟩

/-- A request in signed numbers is accepted or refused. -/
theorem SignedRequest.onlyRefuses_toRequest (request : SignedRequest) :
  OnlyRefuses request.toRequest
  := by
  apply onlyRefuses_bind (Request.onlyRefuses_unsigned _ _)
  intro sourceOffset
  apply onlyRefuses_bind (Request.onlyRefuses_unsigned _ _)
  intro destinationOffset
  apply onlyRefuses_bind (Request.onlyRefuses_unsigned _ _)
  intro count
  apply onlyRefuses_ok

/-- A check that only refuses can be made before a conservative edit. -/
theorem Edit.conserves_check_bind {σ κ α : Type} {shape : σ → κ} {before : σ}
    {outcome : Except Failure α} {edit : α → Edit σ Unit} (refusal : OnlyRefuses outcome)
    (h : ∀ value, outcome = .ok value → Edited.Conserves shape before (edit value before)) :
  Edited.Conserves shape before ((check outcome >>= edit) before)
  := by
  rw [check_bind]
  cases outcome with
  | ok value => apply h value rfl
  | error failure =>
    obtain ⟨error, rfl⟩ := refusal _ rfl
    apply Edited.conserves_error

end NumericBytes
