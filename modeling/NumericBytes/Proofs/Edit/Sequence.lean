import NumericBytes.Proofs.Edit.Conservation

/-!
# Edits in turn

`Edit.inTurn` carries out edits one after the other, each on the state that the one before it
leaves, whether that one succeeded or not.  An edit is `Edit.Judged` by a shape of the state if
the shape tells whether it fails and why, and the edit keeps it.  Edits that are judged by one
shape keep it in any sequence, and each of them fails in the sequence as it would alone, on the
state at the beginning (`shape_inTurn`, `failures_inTurn`).
-/

namespace NumericBytes.Edit

variable {σ κ : Type}

/-- Carries out edits one after the other: how each of them failed, if it did, and the state at
the end. -/
def inTurn : List (Edit σ Unit) → σ → List (Option Failure) × σ
  | [], state => ([], state)
  | edit :: edits, state =>
    let edited : Edited σ := edit state
    let (failures, final) := inTurn edits edited.state
    (edited.failure? :: failures, final)

theorem inTurn_cons (edit : Edit σ Unit) (edits : List (Edit σ Unit)) (state : σ) :
  inTurn (edit :: edits) state
    = (Edited.failure? (edit state) :: (inTurn edits (Edited.state (edit state))).1,
        (inTurn edits (Edited.state (edit state))).2)
  := rfl

/-- The edit is conservative, and fails for one reason, or not at all, on states of one shape. -/
structure Judged (shape : σ → κ) (edit : Edit σ Unit) : Prop where
  conserves : ∀ state, Edited.Conserves shape state (edit state)
  failure?_eq : ∀ {state state'}, shape state' = shape state →
    Edited.failure? (edit state') = Edited.failure? (edit state)

variable {shape : σ → κ} {edits : List (Edit σ Unit)}

theorem shape_inTurn (judged : ∀ edit ∈ edits, Judged shape edit) (state : σ) :
  shape (inTurn edits state).2 = shape state
  := by
  induction edits generalizing state with
  | nil => rfl
  | cons edit edits ih =>
    obtain ⟨first, rest⟩ := List.forall_mem_cons.mp judged
    rw [inTurn_cons, ih rest, (first.conserves state).shape_state]

/-- Each edit fails as it would on the state at the beginning. -/
theorem failures_inTurn (judged : ∀ edit ∈ edits, Judged shape edit) (state : σ) :
  (inTurn edits state).1 = edits.map fun edit => Edited.failure? (edit state)
  := by
  induction edits generalizing state with
  | nil => rfl
  | cons edit edits ih =>
    obtain ⟨first, rest⟩ := List.forall_mem_cons.mp judged
    rw [inTurn_cons, ih rest, List.map_cons]
    apply congrArg (List.cons _)
    apply List.map_congr_left
    intro later h
    apply (rest later h).failure?_eq (first.conserves state).shape_state

/-- Each of some edits that all succeed in turn succeeds on the state at the beginning. -/
theorem exists_ok_of_inTurn {ι : Type} {calls : List ι} {edit : ι → Edit σ Unit} {state : σ}
    (judged : ∀ call ∈ calls, Judged shape (edit call))
    (succeeded : (inTurn (calls.map edit) state).1 = calls.map fun _ => none) {call : ι}
    (member : call ∈ calls) :
  ∃ after, edit call state = .ok () after
  := by
  rw [failures_inTurn (List.forall_mem_map.mpr judged), List.map_map] at succeeded
  have unfailed : Edited.failure? (edit call state) = none := List.map_inj_left.mp succeeded _ member
  cases h : edit call state with
  | ok _ after => use after
  | error failure after =>
    rw [h] at unfailed
    contradiction

end NumericBytes.Edit
