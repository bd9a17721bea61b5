import Mathlib.Algebra.Ring.Parity
import NumericBytes.Proofs.Codec.Locality
import NumericBytes.Proofs.Codec.OppositeOrder
import NumericBytes.Proofs.Edit.Sequence

/-!
# The parity of swaps

Swapping the bytes of a value twice gives the value back (`swapped_involutive`).  So of any swaps
of windows, carried out in turn, only their number counts at each position: a value that an even
number of successful swaps has reached is as it was, and one that an odd number has reached is
swapped.  `swaps_obey_parity` says so, and that the order of the swaps does not matter.
-/

namespace NumericBytes

/-- A swap of the bytes of `count` values from `offset` on. -/
structure Swap where
  offset : UInt64
  count : UInt64
  deriving DecidableEq, Repr

namespace Swap

/-- The positions of the values that a swap names. -/
def window (swap : Swap) : Window := .span swap.offset swap.count 1

/-- How many swaps of a sequence succeeded and name a position, by the failures of all. -/
def reaching (swaps : List Swap) (failures : List (Option Failure)) (i : Nat) : Nat :=
  (swaps.zip failures).countP fun run => run.2.isNone && decide (i ∈ run.1.window)

theorem reaching_map (swaps : List Swap) (outcome : Swap → Option Failure) (i : Nat) :
  reaching swaps (swaps.map outcome) i
    = swaps.countP fun swap => (outcome swap).isNone && decide (i ∈ swap.window)
  := by
  induction swaps with
  | nil => rfl
  | cons swap swaps ih =>
    rw [reaching] at ih
    rw [reaching, List.map_cons, List.zip_cons_cons, List.countP_cons, List.countP_cons, ih]

end Swap

namespace NumericType

variable {t : NumericType}

/-! ### Single values -/

/-- A value that is swapped is written with its bytes reversed. -/
theorem toBytes_swapped_eq_reverse (t : NumericType) (x : t.Value) :
  t.toBytes .native (t.swapped x) = (t.toBytes .native x).reverse
  := by
  apply Eq.trans (t.toBytes_swapped x)
  apply t.toBytes_big

/-- A value that is swapped twice is as it was. -/
theorem swapped_involutive (t : NumericType) :
  Function.Involutive t.swapped
  := by
  intro x
  rw [← t.ofBytes_toBytes .native (t.swapped (t.swapped x)), toBytes_swapped_eq_reverse,
    toBytes_swapped_eq_reverse, List.reverse_reverse, ofBytes_toBytes]

/-! ### One swap -/

/-- Carries out a swap. -/
def swap (t : NumericType) (swap : Swap) : Edit (List t.Value) Unit :=
  t.swapWindow swap.offset swap.count

/-- Whether a swap succeeds is judged by the number of values. -/
theorem judged_swap (t : NumericType) (swap : Swap) :
  Edit.Judged List.length (t.swap swap)
  := by
  constructor
  · apply t.conserves_swapWindow
  · intro values values' length
    rw [NumericType.swap, failure?_swapWindow, failure?_swapWindow, length]

/-- A swap reaches a position if it succeeds on the given values and names the position. -/
def reaches (t : NumericType) (values : List t.Value) (i : Nat) (swap : Swap) : Bool :=
  (Edited.failure? (t.swap swap values)).isNone && decide (i ∈ swap.window)

theorem reaches_congr {values values' : List t.Value} (length : values'.length = values.length)
    (i : Nat) :
  t.reaches values' i = t.reaches values i
  := by
  funext swap
  rw [reaches, reaches, (t.judged_swap swap).failure?_eq length]

/-- A swap leaves a position with its value swapped, if it reaches the position, and as it was if
not. -/
theorem getElem?_swap (swap : Swap) (values : List t.Value) (i : Nat) :
  (Edited.state (t.swap swap values))[i]?
    = if t.reaches values i swap then values[i]?.map t.swapped else values[i]?
  := by
  have conserves := (t.judged_swap swap).conserves values
  rw [reaches]
  cases h : t.swap swap values with
  | error failure after =>
    obtain ⟨rfl, -⟩ := conserves.refused h
    rfl
  | ok _ after =>
    obtain ⟨part, outside⟩ := touched_swapWindow h
    by_cases named : i ∈ swap.window
    · have inside : Window.SameIn swap.window (values.map t.swapped) after := by
        apply Window.sameIn_of_part_eq
        apply Eq.trans part
        symm
        apply Window.part_map
      rw [decide_eq_true named]
      apply Eq.trans (inside i named)
      apply List.getElem?_map
    · rw [decide_eq_false named]
      apply outside i named

/-- A swap that has succeeded and is repeated restores the values. -/
theorem swap_of_swap {swap : Swap} {values after : List t.Value}
    (h : t.swap swap values = .ok () after) :
  t.swap swap after = .ok () values
  := by
  have length := ((t.judged_swap swap).conserves values).kept h
  have failures := (t.judged_swap swap).failure?_eq length
  have once (i : Nat) := getElem?_swap swap values i
  have twice (i : Nat) := getElem?_swap swap after i
  rw [h] at failures once
  cases hagain : t.swap swap after with
  | error failure state =>
    rw [hagain] at failures
    contradiction
  | ok _ restored =>
    rw [hagain] at twice
    apply congrArg (EStateM.Result.ok ())
    ext1 i
    apply Eq.trans (twice i)
    rw [reaches_congr length, show after[i]? = _ from once i]
    split
    · rw [Option.map_map, t.swapped_involutive.comp_self, Option.map_id_fun, id]
    · rfl

/-! ### Swaps in turn -/

/-- Carries out swaps in turn: how each of them failed, if it did, and the values at the end. -/
def swapInTurn (t : NumericType) (swaps : List Swap) (values : List t.Value) :
    List (Option Failure) × List t.Value :=
  Edit.inTurn (swaps.map t.swap) values

theorem judged_of_mem_map {swaps : List Swap} :
  ∀ edit ∈ swaps.map t.swap, Edit.Judged List.length edit
  := by
  rintro _ h
  obtain ⟨swap, -, rfl⟩ := List.mem_map.mp h
  apply t.judged_swap

theorem length_swapInTurn (swaps : List Swap) (values : List t.Value) :
  (t.swapInTurn swaps values).2.length = values.length
  := Edit.shape_inTurn judged_of_mem_map values

/-- Each of some swaps fails as it would if it came first. -/
theorem failures_swapInTurn (swaps : List Swap) (values : List t.Value) :
  (t.swapInTurn swaps values).1 = swaps.map fun swap => Edited.failure? (t.swap swap values)
  := by
  rw [swapInTurn, Edit.failures_inTurn judged_of_mem_map, List.map_map]
  rfl

/-- A value is swapped as many times as swaps reach it. -/
theorem getElem?_swapInTurn (swaps : List Swap) (values : List t.Value) (i : Nat) :
  (t.swapInTurn swaps values).2[i]? = values[i]?.map t.swapped^[swaps.countP (t.reaches values i)]
  := by
  induction swaps generalizing values with
  | nil => exact (congrFun Option.map_id_fun _).symm
  | cons swap swaps ih =>
    have length : (Edited.state (t.swap swap values)).length = values.length :=
      ((t.judged_swap swap).conserves values).shape_state
    apply Eq.trans (ih (Edited.state (t.swap swap values)))
    rw [reaches_congr length, getElem?_swap, List.countP_cons]
    split
    · rw [Option.map_map, ← Function.iterate_succ]
    · rfl

/-- The successful swaps of a sequence that name a position are those that reach it. -/
theorem reaching_swapInTurn (swaps : List Swap) (values : List t.Value) (i : Nat) :
  Swap.reaching swaps (t.swapInTurn swaps values).1 i = swaps.countP (t.reaches values i)
  := by
  rw [failures_swapInTurn]
  apply Swap.reaching_map

/-- The values at the end are the same in whichever order the swaps are carried out. -/
theorem swapInTurn_of_perm {swaps swaps' : List Swap} (h : swaps'.Perm swaps)
    (values : List t.Value) :
  (t.swapInTurn swaps' values).2 = (t.swapInTurn swaps values).2
  := by
  ext1 i
  rw [getElem?_swapInTurn, getElem?_swapInTurn, h.countP_eq]

/-- After swaps in turn there are as many values as before.  A value is as it was if the number of
successful swaps that name its position is even, and is written with its bytes reversed if it is
odd.  Carried out in another order each swap ends as it would alone, and the values are the same;
and a swap that is repeated restores the values. -/
theorem swaps_obey_parity (t : NumericType) (swaps : List Swap) (values : List t.Value) :
  (t.swapInTurn swaps values).2.length = values.length
  ∧ (∀ i x, values[i]? = some x → ∃ y, (t.swapInTurn swaps values).2[i]? = some y
    ∧ (Even (Swap.reaching swaps (t.swapInTurn swaps values).1 i) → y = x)
    ∧ (Odd (Swap.reaching swaps (t.swapInTurn swaps values).1 i) →
      t.toBytes .native y = (t.toBytes .native x).reverse))
  ∧ (∀ swaps' : List Swap, swaps'.Perm swaps → t.swapInTurn swaps' values
      = (swaps'.map fun swap => Edited.failure? (t.swapWindow swap.offset swap.count values),
          (t.swapInTurn swaps values).2))
  ∧ ∀ offset count after, t.swapWindow offset count values = .ok () after →
    t.swapWindow offset count after = .ok () values
  := by
  use length_swapInTurn swaps values
  constructor
  · intro i x hx
    use t.swapped^[swaps.countP (t.reaches values i)] x
    rw [getElem?_swapInTurn, hx, reaching_swapInTurn]
    use rfl
    constructor
    · intro even
      rw [t.swapped_involutive.iterate_even even, id]
    · intro odd
      rw [t.swapped_involutive.iterate_odd odd]
      apply toBytes_swapped_eq_reverse
  · constructor
    · intro swaps' h
      apply Prod.ext
      · apply failures_swapInTurn
      · apply swapInTurn_of_perm h
    · intro offset count after h
      exact @swap_of_swap t ⟨offset, count⟩ values after h

/-- Of these swaps, of which the third is out of bounds, two reach the second value, which stays,
and one reaches the third; the last value is reached by an empty window only. -/
theorem swaps_obey_parity_int16 :
  int16.swapInTurn [⟨0, 2⟩, ⟨1, 2⟩, ⟨2, 3⟩, ⟨3, 0⟩] [0x0102, 0x0304, -2, 5]
      = ([none, none, some (.outOfBounds ⟨.destination, .exceeds 5 4⟩), none],
          [0x0201, 0x0304, -0x101, 5])
    ∧ [(0x0201 : Int16), 0x0304, -0x101, 5][1]? = some 0x0304
    ∧ (∃ y, [(0x0201 : Int16), 0x0304, -0x101, 5][2]? = some y
      ∧ int16.toBytes .native y = (int16.toBytes .native (-2 : Int16)).reverse)
    ∧ int16.swapInTurn [⟨3, 0⟩, ⟨2, 3⟩, ⟨1, 2⟩, ⟨0, 2⟩] [0x0102, 0x0304, -2, 5]
      = ([none, some (.outOfBounds ⟨.destination, .exceeds 5 4⟩), none, none],
          [0x0201, 0x0304, -0x101, 5])
    ∧ int16.swapWindow 0 2 [0x0201, 0x0403, -2, 5] = .ok () [0x0102, 0x0304, -2, 5]
  := by
  have run : int16.swapInTurn [⟨0, 2⟩, ⟨1, 2⟩, ⟨2, 3⟩, ⟨3, 0⟩] [0x0102, 0x0304, -2, 5]
      = ([none, none, some (.outOfBounds ⟨.destination, .exceeds 5 4⟩), none],
          [0x0201, 0x0304, -0x101, 5]) := rfl
  obtain ⟨-, parity, reorder, restore⟩ := swaps_obey_parity int16
    [⟨0, 2⟩, ⟨1, 2⟩, ⟨2, 3⟩, ⟨3, 0⟩] [0x0102, 0x0304, -2, 5]
  rw [run] at parity reorder
  use run
  constructor
  · obtain ⟨y, hy, even, -⟩ := parity 1 0x0304 rfl
    obtain rfl := even (by decide)
    apply hy
  · constructor
    · obtain ⟨y, hy, -, odd⟩ := parity 2 (-2) rfl
      use y, hy
      apply odd (by decide)
    · constructor
      · apply reorder [⟨3, 0⟩, ⟨2, 3⟩, ⟨1, 2⟩, ⟨0, 2⟩] (by decide)
      · apply restore 0 2 [0x0201, 0x0403, -2, 5] rfl

end NumericType

end NumericBytes
