import Mathlib.Logic.Function.Iterate
import NumericBytes.Proofs.Edit.Sequence
import NumericBytes.Proofs.Window.Agreement

/-!
# Edits that change cells

The units of a buffer are its cells.  An edit of a buffer `Changes` the cells of a window if it
succeeds on every buffer of a certain length and makes of each cell of the window what is told,
and nothing of the others.  Of such edits in turn only their number counts at each cell
(`exists_inTurn_of_changes`).  So edits whose windows `Tile` a window do in any order what one
change of the whole window does (`inTurn_eq_of_tile`).
-/

namespace NumericBytes

variable {α κ : Type}

/-- The windows of some calls tile a window: each of its positions is in exactly one of them, and
no other position is in any. -/
def Window.Tile (whole : Window) (window : κ → Window) (calls : List κ) : Prop :=
  ∀ i, calls.countP (fun call => decide (i ∈ window call)) = if i ∈ whole then 1 else 0

/-- The windows tile the same window in whichever order they come. -/
theorem Window.Tile.perm {whole : Window} {window : κ → Window} {calls calls' : List κ}
    (h : whole.Tile window calls) (perm : calls'.Perm calls) :
  whole.Tile window calls'
  := by
  intro i
  rw [perm.countP_eq, h i]

namespace Edit

/-- The edit succeeds on the buffers of the given length and keeps the length; it changes each cell
of the window as told and leaves the others as they are. -/
def Changes (length : Nat) (w : Window) (change : Nat → Option α → Option α)
    (edit : Edit (List α) Unit) : Prop :=
  ∀ before : List α, before.length = length → ∃ after, edit before = .ok () after
    ∧ after.length = length
    ∧ ∀ i, after[i]? = if i ∈ w then change i before[i]? else before[i]?

variable {length : Nat} {window : κ → Window} {change : Nat → Option α → Option α}
  {edit : κ → Edit (List α) Unit} {calls : List κ} {initial : List α}

/-- Edits that change cells succeed in turn, and change each cell as many times as they have it in
their windows. -/
theorem exists_inTurn_of_changes
    (changes : ∀ call ∈ calls, Changes length (window call) change (edit call))
    (hlength : initial.length = length) :
  ∃ final, inTurn (calls.map edit) initial = (calls.map fun _ => none, final)
    ∧ ∀ i, final[i]?
      = (change i)^[calls.countP fun call => decide (i ∈ window call)] initial[i]?
  := by
  induction calls generalizing initial with
  | nil =>
    use initial, rfl
    intro i
    rfl
  | cons call calls ih =>
    obtain ⟨first, rest⟩ := List.forall_mem_cons.mp changes
    obtain ⟨after, hcall, hafter, cells⟩ := first initial hlength
    obtain ⟨final, hcalls, counted⟩ := ih rest hafter
    use final
    constructor
    · rw [List.map_cons, inTurn_cons, hcall]
      exact congrArg (fun run => (none :: run.1, run.2)) hcalls
    · intro i
      rw [counted i, cells i, List.countP_cons]
      by_cases covers : i ∈ window call
      · rw [if_pos covers, decide_eq_true covers, ← Function.iterate_succ_apply]
        rfl
      · rw [if_neg covers, decide_eq_false covers]
        rfl

/-- Edits whose windows tile a window do in turn what one change of the whole window does. -/
theorem inTurn_eq_of_tile {whole : Window} {after : List α}
    (changes : ∀ call ∈ calls, Changes length (window call) change (edit call))
    (tile : whole.Tile window calls) (hlength : initial.length = length)
    (cells : ∀ i, after[i]? = if i ∈ whole then change i initial[i]? else initial[i]?) :
  inTurn (calls.map edit) initial = (calls.map fun _ => none, after)
  := by
  obtain ⟨final, run, counted⟩ := exists_inTurn_of_changes changes hlength
  have same : final = after := by
    ext1 i
    rw [counted i, tile i, cells i]
    split
    · rfl
    · rfl
  rw [run, same]

end Edit

end NumericBytes
