import Mathlib.Tactic.SplitIfs
import NumericBytes.Proofs.Edit.Cells

/-!
# Chunks

An operation on a number of values may be cut into operations on chunks of them.  `Chunk.ofSizes`
are the chunks of given sizes, one behind the other; the windows of the chunks tile the window of
all the values (`Chunk.tile_ofSizes`).  An operation is `Edit.Divisible` if it does what its pieces
do in any order, and succeeds if they do.
-/

namespace NumericBytes

/-- One of the chunks into which values are cut: how many values are passed in front of it, and
how many there are in it. -/
structure Chunk where
  passed : Nat
  size : UInt64
  deriving DecidableEq, Repr

namespace Chunk

/-- The number of values in chunks of the given sizes. -/
def total : List UInt64 → Nat
  | [] => 0
  | size :: sizes => size.toNat + total sizes

/-- The chunks of the given sizes, one behind the other, with `passed` values in front of all. -/
def ofSizes : Nat → List UInt64 → List Chunk
  | _, [] => []
  | passed, size :: sizes => ⟨passed, size⟩ :: ofSizes (passed + size.toNat) sizes

/-- Every chunk ends among the values. -/
theorem stop_le_total {sizes : List UInt64} {passed : Nat} {chunk : Chunk}
    (h : chunk ∈ ofSizes passed sizes) :
  chunk.passed + chunk.size.toNat ≤ passed + total sizes
  := by
  induction sizes generalizing passed with
  | nil => contradiction
  | cons size sizes ih =>
    rw [total, ← Nat.add_assoc]
    rcases List.mem_cons.mp h with rfl | later
    · apply Nat.le_add_right
    · apply ih later

/-- Some chunk ends where all the values end, if there is one at all. -/
theorem exists_last {sizes : List UInt64} (nonempty : sizes ≠ []) (passed : Nat) :
  ∃ chunk ∈ ofSizes passed sizes, chunk.passed + chunk.size.toNat = passed + total sizes
  := by
  induction sizes generalizing passed with
  | nil => contradiction
  | cons size sizes ih =>
    rw [total, ← Nat.add_assoc]
    by_cases last : sizes = []
    · subst last
      use ⟨passed, size⟩, List.mem_cons_self
      rfl
    · obtain ⟨chunk, later, hstop⟩ := ih last (passed + size.toNat)
      use chunk, List.mem_cons_of_mem _ later

/-! ### Chunks in a buffer -/

/-- The position where a chunk begins is a word, if the values begin at `start` and take `unit`
positions each. -/
def Addressed (chunk : Chunk) (start : UInt64) (unit : Nat) : Prop :=
  start.toNat + chunk.passed * unit < UInt64.size

/-- The position where a chunk begins. -/
def offset (chunk : Chunk) (start : UInt64) (unit : Nat) : UInt64 :=
  UInt64.ofNat (start.toNat + chunk.passed * unit)

/-- The positions of the values in a chunk. -/
def window (chunk : Chunk) (start : UInt64) (unit : Nat) : Window :=
  ⟨start.toNat + chunk.passed * unit,
    start.toNat + (chunk.passed + chunk.size.toNat) * unit⟩

variable {chunk : Chunk} {start : UInt64} {unit : Nat}

theorem toNat_offset (addressed : chunk.Addressed start unit) :
  (chunk.offset start unit).toNat = start.toNat + chunk.passed * unit
  := by
  rw [offset, UInt64.toNat_ofNat_of_lt' addressed]

/-- The window that is named by the offset and the size of a chunk is that of the chunk. -/
theorem span_offset (addressed : chunk.Addressed start unit) :
  Window.span (chunk.offset start unit) chunk.size unit = chunk.window start unit
  := by
  rw [Window.span, toNat_offset addressed, window, Nat.add_mul, Nat.add_assoc]

/-- The windows of chunks tile the window of all their values. -/
theorem tile_ofSizes (sizes : List UInt64) (passed : Nat) (start : UInt64) (unit : Nat) :
  Window.Tile
    ⟨start.toNat + passed * unit, start.toNat + (passed + total sizes) * unit⟩
    (fun chunk => chunk.window start unit) (ofSizes passed sizes)
  := by
  intro i
  induction sizes generalizing passed with
  | nil =>
    have outside : ¬ (start.toNat + passed * unit ≤ i ∧ i < start.toNat + (passed + 0) * unit) := by
      rw [Nat.add_zero]
      omega
    exact (if_neg outside).symm
  | cons size sizes ih =>
    have first : passed * unit ≤ (passed + size.toNat) * unit :=
      Nat.mul_le_mul_right _ (Nat.le_add_right _ _)
    have rest : (passed + size.toNat) * unit ≤ (passed + size.toNat + total sizes) * unit :=
      Nat.mul_le_mul_right _ (Nat.le_add_right _ _)
    rw [ofSizes, List.countP_cons, ih, total, ← Nat.add_assoc]
    -- The first chunk ends where the others begin, so that no position is counted twice.
    simp only [window, Window.mem_iff, decide_eq_true_eq]
    split_ifs <;> omega

/-! ### Chunks of as many values as a word counts -/

section Counted

variable {count : UInt64} {capacity : Nat} {sizes : List UInt64}

/-- The windows of the chunks of counted values tile the window of these values. -/
theorem tile_span (hcount : count.toNat = total sizes) (start : UInt64) (unit : Nat) :
  (Window.span start count unit).Tile (fun chunk => chunk.window start unit) (ofSizes 0 sizes)
  := by
  have h := tile_ofSizes sizes 0 start unit
  rw [Nat.zero_mul, Nat.zero_add, Nat.add_zero, ← hcount] at h
  apply h

theorem stop_le_count (hcount : count.toNat = total sizes) (h : chunk ∈ ofSizes 0 sizes) :
  chunk.passed + chunk.size.toNat ≤ count.toNat
  := by
  rw [hcount, ← Nat.zero_add (total sizes)]
  apply stop_le_total h

/-- If the values lie inside a buffer, every chunk of them can be addressed and lies inside it. -/
theorem inside_of_span (within : chunk.passed + chunk.size.toNat ≤ count.toNat)
    (inside : (Window.span start count unit).Inside capacity) :
  chunk.Addressed start unit ∧ (chunk.window start unit).Inside capacity
  := by
  obtain ⟨stop_lt, stop_le⟩ := inside
  have passed : chunk.passed * unit ≤ (chunk.passed + chunk.size.toNat) * unit :=
    Nat.mul_le_mul_right _ (Nat.le_add_right _ _)
  have counted : (chunk.passed + chunk.size.toNat) * unit ≤ count.toNat * unit :=
    Nat.mul_le_mul_right _ within
  change start.toNat + count.toNat * unit < _ at stop_lt
  change start.toNat + count.toNat * unit ≤ _ at stop_le
  constructor
  · change start.toNat + chunk.passed * unit < _
    omega
  · constructor
    · change start.toNat + (chunk.passed + chunk.size.toNat) * unit < _
      omega
    · change start.toNat + (chunk.passed + chunk.size.toNat) * unit ≤ _
      omega

/-- If a chunk that ends where the values end lies inside a buffer, so do all the values. -/
theorem span_inside_of_last (last : count.toNat = chunk.passed + chunk.size.toNat)
    (inside : (chunk.window start unit).Inside capacity) :
  (Window.span start count unit).Inside capacity
  := by
  rw [window, ← last] at inside
  obtain ⟨stop_lt, stop_le⟩ := inside
  constructor
  · apply stop_lt
  · apply stop_le

end Counted

/-- The values up to the end of a chunk that lies inside a buffer can be counted by a word. -/
theorem exists_count {capacity : Nat} (unit_pos : 0 < unit)
    (inside : (chunk.window start unit).Inside capacity) :
  ∃ count : UInt64, count.toNat = chunk.passed + chunk.size.toNat
  := by
  have stop_lt : start.toNat + (chunk.passed + chunk.size.toNat) * unit < UInt64.size :=
    inside.stop_lt
  have counted : chunk.passed + chunk.size.toNat ≤ (chunk.passed + chunk.size.toNat) * unit :=
    Nat.le_mul_of_pos_right _ unit_pos
  have word : chunk.passed + chunk.size.toNat < UInt64.size := by omega
  use UInt64.ofNat (chunk.passed + chunk.size.toNat)
  apply UInt64.toNat_ofNat_of_lt' word

end Chunk

open Chunk

/-- An operation on some number of values may be cut into pieces for chunks of the given sizes.  If
the operation on all their values succeeds, the pieces can be addressed, and in whichever order they
are carried out all succeed and leave the same.  If all the pieces can be addressed and succeed in
some order, the operation on all their values succeeds. -/
structure Edit.Divisible {σ : Type} (whole : UInt64 → Edit σ Unit) (piece : Chunk → Edit σ Unit)
    (addressed : Chunk → Prop) (sizes : List UInt64) (before : σ) : Prop where
  cut : ∀ count after, count.toNat = total sizes → whole count before = .ok () after →
    (∀ chunk ∈ ofSizes 0 sizes, addressed chunk)
      ∧ ∀ chunks : List Chunk, chunks.Perm (ofSizes 0 sizes) →
        inTurn (chunks.map piece) before = (chunks.map fun _ => none, after)
  joined : sizes ≠ [] → (∀ chunk ∈ ofSizes 0 sizes, addressed chunk) →
    ∀ chunks : List Chunk, chunks.Perm (ofSizes 0 sizes) →
    (inTurn (chunks.map piece) before).1 = (chunks.map fun _ => none) →
    ∃ count after, count.toNat = total sizes ∧ whole count before = .ok () after

/-- An operation may be cut into chunks if it changes the cells of the window of its values as its
pieces change those of their windows, and succeeds if the piece does that ends where it ends. -/
theorem Edit.Divisible.ofPieces {α : Type} {whole : UInt64 → Edit (List α) Unit}
    {piece : Chunk → Edit (List α) Unit} {addressed : Chunk → Prop} {sizes : List UInt64}
    {before : List α} {start : UInt64} {unit : Nat} {change : List α → Nat → Option α → Option α}
    (judged : ∀ chunk, Judged List.length (piece chunk))
    (pieces : ∀ count after, whole count before = .ok () after → ∀ chunk : Chunk,
      chunk.passed + chunk.size.toNat ≤ count.toNat → addressed chunk
        ∧ Changes before.length (chunk.window start unit) (change after) (piece chunk))
    (cells : ∀ count after, whole count before = .ok () after → ∀ i,
      after[i]? = if i ∈ Window.span start count unit then change after i before[i]?
        else before[i]?)
    (last : ∀ chunk result, addressed chunk → piece chunk before = .ok () result →
      ∃ count after, count.toNat = chunk.passed + chunk.size.toNat
        ∧ whole count before = .ok () after) :
  Divisible whole piece addressed sizes before
  := by
  constructor
  · intro count after hcount h
    constructor
    · intro chunk member
      apply (pieces count after h chunk (stop_le_count hcount member)).1
    · intro chunks perm
      have changes : ∀ chunk ∈ chunks,
          Changes before.length (chunk.window start unit) (change after) (piece chunk) := by
        intro chunk member
        apply (pieces count after h chunk (stop_le_count hcount (perm.mem_iff.mp member))).2
      have tile := (tile_span hcount start unit).perm perm
      apply inTurn_eq_of_tile changes tile rfl (cells count after h)
  · intro nonempty addressed chunks perm succeeded
    obtain ⟨chunk, member, hstop⟩ := exists_last nonempty 0
    obtain ⟨result, hpiece⟩ := exists_ok_of_inTurn (fun chunk _ => judged chunk) succeeded
      (perm.mem_iff.mpr member)
    obtain ⟨count, after, hcount, h⟩ := last chunk result (addressed chunk member) hpiece
    rw [hstop, Nat.zero_add] at hcount
    use count, after, hcount, h

end NumericBytes
