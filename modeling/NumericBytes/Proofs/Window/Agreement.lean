import NumericBytes.Proofs.Window.Contents

/-!
# Agreement in a window

Two buffers agree in a window if they hold the same at each of its positions
(`Window.SameIn`), and outside a window if they do at every other position
(`Window.SameOutside`).  Parts of buffers that agree in a window are equal
(`part_eq_of_sameIn`), and a part that is put in leaves the buffer the same outside
(`sameOutside_splice`).  Changes in two windows that are `Disjoint` can be made in either order
(`eq_of_disjoint`).
-/

namespace NumericBytes.Window

instance : Membership Nat Window where
  mem w k := w.start ≤ k ∧ k < w.stop

theorem mem_iff {w : Window} {k : Nat} :
  k ∈ w ↔ w.start ≤ k ∧ k < w.stop
  := Iff.rfl

instance (w : Window) (k : Nat) : Decidable (k ∈ w) :=
  inferInstanceAs (Decidable (w.start ≤ k ∧ k < w.stop))

/-- No position is in both windows. -/
def Disjoint (w w' : Window) : Prop := ∀ k ∈ w, k ∉ w'

theorem Disjoint.symm {w w' : Window} (h : w.Disjoint w') :
  w'.Disjoint w
  := fun k hk' hk => h k hk hk'

/-- A window that ends before another begins has no position in it. -/
theorem disjoint_of_stop_le {w w' : Window} (h : w.stop ≤ w'.start) :
  w.Disjoint w'
  := by
  intro k hk hk'
  rw [mem_iff] at hk hk'
  omega

variable {α β : Type}

/-- The buffers hold the same at each position of the window. -/
def SameIn (w : Window) (units units' : List α) : Prop := ∀ k ∈ w, units'[k]? = units[k]?

/-- The buffers hold the same at each position outside the window. -/
def SameOutside (w : Window) (units units' : List α) : Prop := ∀ k, k ∉ w → units'[k]? = units[k]?

variable {w : Window} {units units' : List α}

/-! ### Parts -/

/-- Buffers that agree in a window have the same part there. -/
theorem part_eq_of_sameIn (ordered : w.start ≤ w.stop) (same : w.SameIn units units') :
  w.part units' = w.part units
  := by
  apply part_congr ordered ordered rfl rfl
  intro k hk
  apply same
  apply mem_iff.mpr
  omega

/-- Buffers with the same part in a window agree there. -/
theorem sameIn_of_part_eq (h : w.part units' = w.part units) :
  w.SameIn units units'
  := by
  intro k hk
  obtain ⟨first, last⟩ := mem_iff.mp hk
  obtain ⟨d, rfl⟩ := Nat.exists_eq_add_of_le first
  rw [← getElem?_part last, h, getElem?_part last]

/-- Putting a part into a window leaves the buffer the same outside. -/
theorem sameOutside_splice {inserted : List α} (ordered : w.start ≤ w.stop)
    (inside : w.stop ≤ units.length) (same : inserted.length = w.stop - w.start) :
  w.SameOutside units (w.splice inserted units)
  := by
  intro k hk
  apply getElem?_splice_outside ordered inside same
  rw [mem_iff] at hk
  omega

/-! ### Buffers that are changed in windows -/

/-- Two ways to change a window of a buffer are one if they leave the same in the window. -/
theorem eq_of_sameOutside {before after after' : List α} (outside : w.SameOutside before after)
    (outside' : w.SameOutside before after') (agree : w.SameIn after after') :
  after' = after
  := by
  ext1 k
  by_cases hk : k ∈ w
  · apply agree k hk
  · rw [outside k hk, outside' k hk]

/-- If a buffer is changed in two windows without a common position, it does not matter which
of the changes comes first, as long as each leaves the same in its window either way. -/
theorem eq_of_disjoint {w' : Window} (disjoint : w.Disjoint w')
    {before first second secondThenFirst firstThenSecond : List α}
    (outside : w.SameOutside before first) (outside' : w'.SameOutside before second)
    (later : w.SameOutside second secondThenFirst) (later' : w'.SameOutside first firstThenSecond)
    (agree : w.SameIn first secondThenFirst) (agree' : w'.SameIn second firstThenSecond) :
  firstThenSecond = secondThenFirst
  := by
  ext1 k
  by_cases hk : k ∈ w
  · rw [later' k (disjoint k hk), agree k hk]
  · by_cases hk' : k ∈ w'
    · rw [agree' k hk', later k hk]
    · rw [later' k hk', outside k hk, later k hk, outside' k hk']

/-! ### Other views of the units -/

theorem SameIn.map (same : w.SameIn units units') (f : α → β) :
  w.SameIn (units.map f) (units'.map f)
  := by
  intro k hk
  rw [List.getElem?_map, List.getElem?_map, same k hk]

theorem SameIn.of_map {f : α → β} (injective : Function.Injective f)
    (same : w.SameIn (units.map f) (units'.map f)) :
  w.SameIn units units'
  := by
  intro k hk
  have h := same k hk
  rw [List.getElem?_map, List.getElem?_map] at h
  apply Option.map_injective injective h

theorem SameOutside.map (same : w.SameOutside units units') (f : α → β) :
  w.SameOutside (units.map f) (units'.map f)
  := by
  intro k hk
  rw [List.getElem?_map, List.getElem?_map, same k hk]

/-! ### Buffers of which only the first units are seen -/

theorem SameIn.take (same : w.SameIn units units') (n : Nat) :
  w.SameIn (units.take n) (units'.take n)
  := by
  intro k hk
  rw [List.getElem?_take, List.getElem?_take, same k hk]

variable {first first' : List α} {n : Nat}

/-- A window among the first units is the same in the whole buffer. -/
theorem SameIn.append (same : w.SameIn first first') (inside : w.stop ≤ first.length)
    (inside' : w.stop ≤ first'.length) (rest rest' : List α) :
  w.SameIn (first ++ rest) (first' ++ rest')
  := by
  intro k hk
  obtain ⟨-, last⟩ := mem_iff.mp hk
  rw [List.getElem?_append_left (by omega), List.getElem?_append_left (by omega), same k hk]

/-- If the first units stay the same outside a window, and the others as they are, the whole
buffer stays the same outside the window. -/
theorem SameOutside.append (same : w.SameOutside first first')
    (length : first'.length = first.length) (rest : List α) :
  w.SameOutside (first ++ rest) (first' ++ rest)
  := by
  intro k hk
  rcases Nat.lt_or_ge k first.length with h | h
  · rw [List.getElem?_append_left (by omega), List.getElem?_append_left h, same k hk]
  · rw [List.getElem?_append_right (by omega), List.getElem?_append_right h, length]

end NumericBytes.Window
