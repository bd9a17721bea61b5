import NumericBytes.Edit
import NumericBytes.Word

/-!
# Windows

A `Window` is a range of positions of a buffer.  `Window.fit` is the window that a request
names, or the reason why it does not lie in the buffer; it computes with 64-bit words, and
`fit_eq` says that it decides as exact arithmetic would.  `Window.slice` takes the units in
a window out of a buffer, `Window.splice` puts others in their place, and `Window.focus`
edits a buffer in a window only.
-/

namespace NumericBytes

/-- The positions from `start` to just before `stop`. -/
structure Window where
  start : Nat
  stop : Nat
  deriving DecidableEq, Repr

namespace Window

/-! ### Checking a request -/

/-- The window of `count` times `unit` positions from `offset` on, in a buffer that holds
`capacity`. -/
def fit (side : Side) (offset count : UInt64) (unit capacity : Nat) : Except Failure Window :=
  match (Word.scale? count unit).bind (Word.add? offset) with
  | none => .error (.outOfBounds ⟨side, .overflow⟩)
  | some stop =>
    if capacity < stop.toNat then .error (.outOfBounds ⟨side, .exceeds stop.toNat capacity⟩)
    else .ok ⟨offset.toNat, stop.toNat⟩

/-- The check decides as if it computed with numbers of any size. -/
theorem fit_eq (side : Side) (offset count : UInt64) (unit capacity : Nat) :
  fit side offset count unit capacity
    = let stop := offset.toNat + count.toNat * unit
      if UInt64.size ≤ stop then .error (.outOfBounds ⟨side, .overflow⟩)
      else if capacity < stop then .error (.outOfBounds ⟨side, .exceeds stop capacity⟩)
      else .ok ⟨offset.toNat, stop⟩
  := by
  unfold fit
  split
  · rename_i undefined
    have large : UInt64.size ≤ offset.toNat + count.toNat * unit := by
      apply Nat.le_of_not_lt
      intro small
      have small' : count.toNat * unit < UInt64.size :=
        Nat.lt_of_le_of_lt (Nat.le_add_left _ _) small
      have scaled : Word.scale? count unit = some (UInt64.ofNat (count.toNat * unit)) := by
        rw [Word.scale?_eq_some_iff, UInt64.toNat_ofNat', Nat.mod_eq_of_lt small']
      rw [scaled, Option.bind_some] at undefined
      have added : Word.add? offset (UInt64.ofNat (count.toNat * unit))
          = some (UInt64.ofNat (offset.toNat + count.toNat * unit)) := by
        rw [Word.add?_eq_some_iff, UInt64.toNat_ofNat', UInt64.toNat_ofNat',
          Nat.mod_eq_of_lt small, Nat.mod_eq_of_lt small']
      rw [added] at undefined
      contradiction
    simp only [large, ↓reduceIte]
  · rename_i stop defined
    obtain ⟨length, scaled, added⟩ := Option.bind_eq_some_iff.mp defined
    rw [Word.scale?_eq_some_iff] at scaled
    rw [Word.add?_eq_some_iff, ← scaled] at added
    have small : ¬ UInt64.size ≤ stop.toNat := Nat.not_le_of_lt stop.toNat_lt_size
    simp only [added, small, ↓reduceIte]

theorem fit_eq_ok_iff {side : Side} {offset count : UInt64} {unit capacity : Nat} {w : Window} :
  fit side offset count unit capacity = .ok w
    ↔ w = ⟨offset.toNat, offset.toNat + count.toNat * unit⟩
      ∧ w.stop < UInt64.size ∧ w.stop ≤ capacity
  := by
  rw [fit_eq]
  dsimp only
  constructor
  · intro h
    split at h
    · contradiction
    · split at h
      · contradiction
      · cases h
        exact ⟨rfl, Nat.lt_of_not_le ‹_›, Nat.le_of_not_lt ‹_›⟩
  · rintro ⟨rfl, small, inside⟩
    rw [if_neg (Nat.not_le_of_lt small), if_neg (Nat.not_lt_of_le inside)]

/-! ### The units in a window -/

variable {α : Type}

/-- The units of a buffer in the window. -/
def part (w : Window) (units : List α) : List α :=
  (units.take w.stop).drop w.start

/-- The units of a buffer in the window, which must lie in the buffer. -/
def slice (w : Window) (units : List α) : Except Failure (List α) :=
  if w.start ≤ w.stop ∧ w.stop ≤ units.length then .ok (w.part units)
  else .error (.misuse .windowOutside)

/-- The buffer with other units in place of those in the window. -/
def splice (w : Window) (part units : List α) : List α :=
  units.take w.start ++ part ++ units.drop w.stop

/-- Edits the units in the window and leaves those outside as they are. -/
def focus (w : Window) (edit : Edit (List α) Unit) : Edit (List α) Unit := fun units =>
  match w.slice units with
  | .ok part => edit.within part fun part => w.splice part units
  | .error failure => .error failure units

theorem length_part {w : Window} {units : List α} (inside : w.stop ≤ units.length) :
  (w.part units).length = w.stop - w.start
  := by
  rw [part, List.length_drop, List.length_take, Nat.min_eq_left inside]

theorem length_splice {w : Window} {part units : List α} (ordered : w.start ≤ w.stop)
    (inside : w.stop ≤ units.length) (h : part.length = w.stop - w.start) :
  (w.splice part units).length = units.length
  := by
  simp only [splice, List.length_append, List.length_take, List.length_drop, h]
  omega

/-! ### Windows that fit -/

/-- The window of an accepted request lies in its buffer. -/
theorem slice_of_fit {side : Side} {offset count : UInt64} {unit : Nat} {units : List α}
    {w : Window} (h : fit side offset count unit units.length = .ok w) :
  w.slice units = .ok (w.part units)
  := by
  obtain ⟨rfl, _, inside⟩ := fit_eq_ok_iff.mp h
  exact if_pos ⟨Nat.le_add_right _ _, inside⟩

theorem length_part_of_fit {side : Side} {offset count : UInt64} {unit : Nat} {units : List α}
    {w : Window} (h : fit side offset count unit units.length = .ok w) :
  (w.part units).length = count.toNat * unit
  := by
  obtain ⟨rfl, _, inside⟩ := fit_eq_ok_iff.mp h
  rw [length_part inside, Nat.add_sub_cancel_left]

end Window

end NumericBytes
