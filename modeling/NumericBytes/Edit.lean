import NumericBytes.OutOfBounds

/-!
# Edits

An `Edit σ Unit` changes a state of type `σ` in place and may fail on the way; a failure
leaves the state as it is at that point, so that what a failed edit has already written
would show.  `Edit.check` makes an edit depend on a check that changes nothing, and
`Edit.within` carries out an edit on a part of a larger state.

A `Failure` is either a refusal of the request or the misuse of a primitive, which demands
more of its arguments than the types say.
-/

namespace NumericBytes

/-- How the precondition of a primitive is broken. -/
inductive Misuse where
  /-- A window is taken that does not lie in the list. -/
  | windowOutside
  /-- The bytes are not exactly those of the values. -/
  | lengthMismatch
  /-- The size of a fresh buffer is no 64-bit number. -/
  | sizeOverflow
  /-- A fresh buffer would occupy more bytes than a buffer may. -/
  | bufferTooLarge
  deriving DecidableEq, Repr

/-- How an operation fails. -/
inductive Failure where
  /-- The request is refused. -/
  | outOfBounds (error : OutOfBounds)
  /-- A primitive is misused. -/
  | misuse (kind : Misuse)
  deriving DecidableEq, Repr

/-- Changes of a state of type `σ` that may fail. -/
abbrev Edit (σ : Type) : Type → Type := EStateM Failure σ

/-- How an edit of a state ends: well or with a failure, and with which state. -/
abbrev Edited (σ : Type) : Type := EStateM.Result Failure σ Unit

namespace Edited

/-- The state at the end. -/
def state {σ : Type} : Edited σ → σ
  | .ok _ state => state
  | .error _ state => state

/-- The failure, if the edit failed. -/
def failure? {σ : Type} : Edited σ → Option Failure
  | .ok _ _ => none
  | .error failure _ => some failure

/-- The same ending, with the state inside a larger one. -/
def map {σ τ : Type} (put : τ → σ) : Edited τ → Edited σ
  | .ok _ part => .ok () (put part)
  | .error failure part => .error failure (put part)

@[simp]
theorem state_map {σ τ : Type} (put : τ → σ) (edited : Edited τ) :
  state (map put edited) = put (state edited)
  := by
  cases edited with
  | ok _ part => rfl
  | error failure part => rfl

@[simp]
theorem failure?_map {σ τ : Type} (put : τ → σ) (edited : Edited τ) :
  failure? (map put edited) = failure? edited
  := by
  cases edited with
  | ok _ part => rfl
  | error failure part => rfl

end Edited

namespace Edit

/-- The outcome of a check, as the first part of an edit. -/
def check {σ α : Type} (outcome : Except Failure α) : Edit σ α := fun state =>
  match outcome with
  | .ok value => .ok value state
  | .error failure => .error failure state

/-- An edit after a check is carried out on the state before it, or not at all. -/
theorem check_bind {σ α β : Type} (outcome : Except Failure α) (edit : α → Edit σ β) (state : σ) :
  (check outcome >>= edit) state
    = match outcome with
      | .ok value => edit value state
      | .error failure => .error failure state
  := by
  cases outcome <;> rfl

/-- An edit that begins by looking at the state. -/
theorem get_bind {σ β : Type} (edit : σ → Edit σ β) (state : σ) :
  (get >>= edit : Edit σ β) state = edit state state
  := rfl

/-- Carries out an edit on a part of the state, which `put` returns to its place. -/
def within {σ τ : Type} (edit : Edit τ Unit) (part : τ) (put : τ → σ) : Edited σ :=
  Edited.map put (edit part)

/-- The state that an edit of `state` ends with, if it succeeds. -/
def finish {σ : Type} (edit : Edit σ Unit) (state : σ) : Except Failure σ :=
  match edit state with
  | .ok _ state => .ok state
  | .error failure _ => .error failure

end Edit

end NumericBytes
