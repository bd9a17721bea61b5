import Mathlib.Tactic.Use
import NumericBytes.Window

/-!
# What windows hold

`Window.span offset count unit` is the window that a request names, and `w.Inside capacity`
holds if the window `w` lies in a buffer of that capacity; `Window.fit` accepts exactly the
spans that lie inside and refuses the others (`fit_of_inside`, `fit_cases`).  The other
statements say what is found at a position of a part that has been taken out of a buffer, and
of a buffer in which a part has been replaced.
-/

namespace NumericBytes.Window

/-! ### Requests that fit -/

/-- The window of `count` times `unit` positions from `offset` on. -/
def span (offset count : UInt64) (unit : Nat) : Window :=
  ⟨offset.toNat, offset.toNat + count.toNat * unit⟩

/-- The window lies in a buffer of the given capacity, and its end is a word. -/
structure Inside (w : Window) (capacity : Nat) : Prop where
  stop_lt : w.stop < UInt64.size
  stop_le : w.stop ≤ capacity

theorem span_ordered (offset count : UInt64) (unit : Nat) :
  (span offset count unit).start ≤ (span offset count unit).stop
  := Nat.le_add_right _ _

theorem size_span (offset count : UInt64) (unit : Nat) :
  (span offset count unit).stop - (span offset count unit).start = count.toNat * unit
  := Nat.add_sub_cancel_left ..

/-- In a buffer whose length is a word, a span lies inside if it ends there. -/
theorem Inside.ofAddressable {w : Window} {capacity : Nat} (addressable : capacity < UInt64.size)
    (room : w.stop ≤ capacity) :
  w.Inside capacity
  := by
  constructor
  · apply Nat.lt_of_le_of_lt room addressable
  · apply room

theorem fit_of_inside {side : Side} {offset count : UInt64} {unit capacity : Nat}
    (inside : (span offset count unit).Inside capacity) :
  fit side offset count unit capacity = .ok (span offset count unit)
  := fit_eq_ok_iff.mpr ⟨rfl, inside.stop_lt, inside.stop_le⟩

/-- A request that does not fit is refused, in the name of the given side. -/
theorem fit_error {side : Side} {offset count : UInt64} {unit capacity : Nat}
    {failure : Failure} (h : fit side offset count unit capacity = .error failure) :
  ∃ cause, failure = .outOfBounds ⟨side, cause⟩
  := by
  rw [fit] at h
  split at h
  · cases h
    use .overflow
  · split at h
    · cases h
      exact ⟨_, rfl⟩
    · contradiction

/-- A request fits and its span lies inside, or it is refused. -/
theorem fit_cases (side : Side) (offset count : UInt64) (unit capacity : Nat) :
  (fit side offset count unit capacity = .ok (span offset count unit)
      ∧ (span offset count unit).Inside capacity)
    ∨ ∃ cause, fit side offset count unit capacity = .error (.outOfBounds ⟨side, cause⟩)
  := by
  cases h : fit side offset count unit capacity with
  | ok w =>
    left
    obtain ⟨rfl, stop_lt, stop_le⟩ := fit_eq_ok_iff.mp h
    use rfl, stop_lt, stop_le
  | error failure =>
    right
    obtain ⟨cause, rfl⟩ := fit_error h
    use cause

/-! ### Positions of a part -/

variable {α : Type}

/-- A part holds, from its beginning on, what the buffer holds in the window. -/
theorem getElem?_part {w : Window} {units : List α} {k : Nat} (h : w.start + k < w.stop) :
  (w.part units)[k]? = units[w.start + k]?
  := by
  rw [part, List.getElem?_drop, List.getElem?_take_of_lt h]

/-- Two windows of one size have the same part if their positions hold the same units. -/
theorem part_congr {w w' : Window} {units units' : List α} (ordered : w.start ≤ w.stop)
    (ordered' : w'.start ≤ w'.stop) {size : Nat} (hsize : w.stop - w.start = size)
    (hsize' : w'.stop - w'.start = size)
    (agree : ∀ k < size, units[w.start + k]? = units'[w'.start + k]?) :
  w.part units = w'.part units'
  := by
  ext1 k
  rcases Nat.lt_or_ge k size with hk | hk
  · rw [getElem?_part (by omega), getElem?_part (by omega), agree k hk]
  · rw [List.getElem?_eq_none, List.getElem?_eq_none]
    · simp only [part, List.length_drop, List.length_take]
      omega
    · simp only [part, List.length_drop, List.length_take]
      omega

/-! ### Buffers whose units are replaced one by one -/

variable {β : Type}

/-- The part of a buffer whose units have been replaced one by one. -/
theorem part_map (w : Window) (f : α → β) (units : List α) :
  w.part (units.map f) = (w.part units).map f
  := by
  rw [part, part, List.map_drop, List.map_take]

theorem splice_map (w : Window) (f : α → β) (inserted units : List α) :
  w.splice (inserted.map f) (units.map f) = (w.splice inserted units).map f
  := by
  rw [splice, splice, List.map_append, List.map_append, List.map_take, List.map_drop]

/-! ### Positions of a buffer in which a part has been replaced -/

variable {w : Window} {inserted units : List α}

/-- The units in front of the window are as many as its first position. -/
theorem length_front (ordered : w.start ≤ w.stop) (inside : w.stop ≤ units.length) :
  (units.take w.start).length = w.start
  := by
  rw [List.length_take]
  omega

/-- The units in front of the window, and what is put into it, reach to its end. -/
theorem length_front_inserted (ordered : w.start ≤ w.stop) (inside : w.stop ≤ units.length)
    (same : inserted.length = w.stop - w.start) :
  (units.take w.start ++ inserted).length = w.stop
  := by
  rw [List.length_append, length_front ordered inside]
  omega

/-- Replacing a part by another of the same size leaves every position outside the window
as it is. -/
theorem getElem?_splice_outside (ordered : w.start ≤ w.stop) (inside : w.stop ≤ units.length)
    (same : inserted.length = w.stop - w.start) {k : Nat} (h : k < w.start ∨ w.stop ≤ k) :
  (w.splice inserted units)[k]? = units[k]?
  := by
  have before := length_front ordered inside
  rcases h with h | h
  · rw [splice, List.append_assoc, List.getElem?_append_left (by omega),
      List.getElem?_take_of_lt h]
  · have middle := length_front_inserted ordered inside same
    rw [splice, List.getElem?_append_right (by omega), middle, List.getElem?_drop,
      Nat.add_sub_cancel' h]

/-- The part that has been put in is the part that is found there. -/
theorem part_splice (ordered : w.start ≤ w.stop) (inside : w.stop ≤ units.length)
    (same : inserted.length = w.stop - w.start) :
  w.part (w.splice inserted units) = inserted
  := by
  have before := length_front ordered inside
  have middle := length_front_inserted ordered inside same
  rw [part, splice, List.take_left' middle, List.drop_left' before]

/-- A part that is put in a second time leaves nothing of the first. -/
theorem splice_splice (ordered : w.start ≤ w.stop) (inside : w.stop ≤ units.length)
    (same : inserted.length = w.stop - w.start) (inserted' : List α) :
  w.splice inserted' (w.splice inserted units) = w.splice inserted' units
  := by
  have before := length_front ordered inside
  have middle := length_front_inserted ordered inside same
  have front : (w.splice inserted units).take w.start = units.take w.start := by
    rw [splice, List.append_assoc, List.take_left' before]
  have back : (w.splice inserted units).drop w.stop = units.drop w.stop := by
    rw [splice, List.drop_left' middle]
  rw [splice, front, back, splice]

end NumericBytes.Window
