import NumericBytes.Proofs.Foreign.Refinement

/-!
# Loans

A loan that fits a buffer lends a front part of it, or null instead of it.  `Loan.Lends` says all
that is to be known of what is lent: how many units are (`Loan.reach`), what is seen of the whole
buffer (`Loan.shown`), and whether a buffer is missing.  A copy between lent buffers is then an edit
of the whole of the second, `Conversion.lentCopy`, of which the part that is not lent is kept
(`copyLent_of_lends`).
-/

namespace NumericBytes

namespace Loan

variable {α : Type} {loan : Loan} {units : List α} {lent : Lent α}

/-- A buffer of the given capacity has the units that are to be lent. -/
def Fits (capacity : Nat) : Loan → Prop
  | whole | null _ => True
  | front length => length.toNat ≤ capacity

/-- Null is given, although under a length other than `0`. -/
def Missing : Loan → Prop
  | whole | front _ => False
  | null length => length ≠ 0

/-- How many units of a buffer of the given capacity are lent. -/
def reach (capacity : Nat) : Loan → Nat
  | whole => (UInt64.ofNat capacity).toNat
  | front length => length.toNat
  | null _ => 0

/-- What is seen of a buffer.  Nothing is, if null is given instead of it. -/
def shown {σ : Type} (held : σ) : Loan → Option σ
  | whole | front _ => some held
  | null _ => none

theorem map_shown {σ τ : Type} (f : σ → τ) (held : σ) (loan : Loan) :
  (loan.shown held).map f = loan.shown (f held)
  := by
  cases loan <;> rfl

/-- A loan lends something of the buffers that it fits. -/
theorem exists_lend?_iff :
  (∃ lent, loan.lend? units = some lent) ↔ loan.Fits units.length
  := by
  cases loan with
  | whole => apply iff_of_true ⟨_, rfl⟩ trivial
  | front length =>
    rw [lend?]
    split
    · rename_i length_le
      apply iff_of_true ⟨_, rfl⟩ length_le
    · rename_i beyond
      apply iff_of_false _ beyond
      rintro ⟨lent, h⟩
      contradiction
  | null length => apply iff_of_true ⟨_, rfl⟩ trivial

/-- What is lent of a buffer: its first units, or null. -/
structure Lends (loan : Loan) (units : List α) (lent : Lent α) : Prop where
  missing_iff : lent.Missing ↔ loan.Missing
  reach_le : loan.reach units.length ≤ units.length
  visible : lent.visible = units.take (loan.reach units.length)
  units? : lent.units? = loan.shown units
  restored : ∀ first,
    lent.restored first = loan.shown (first ++ units.drop (loan.reach units.length))

theorem lends_of_lend? (h : loan.lend? units = some lent) :
  loan.Lends units lent
  := by
  cases loan with
  | whole =>
    obtain rfl := Option.some_inj.mp h
    constructor
    · rfl
    · rw [reach, UInt64.toNat_ofNat']
      apply Nat.mod_le
    · rfl
    · rfl
    · intro first
      rfl
  | front length =>
    rw [lend?] at h
    split at h
    · rename_i length_le
      obtain rfl := Option.some_inj.mp h
      constructor
      · rfl
      · apply length_le
      · rfl
      · rfl
      · intro first
        rfl
    · contradiction
  | null length =>
    obtain rfl := Option.some_inj.mp h
    constructor
    · rfl
    · apply Nat.zero_le
    · rfl
    · rfl
    · intro first
      rfl

theorem Fits.exists_lends (fits : loan.Fits units.length) :
  ∃ lent, loan.lend? units = some lent ∧ loan.Lends units lent
  := by
  obtain ⟨lent, h⟩ := exists_lend?_iff.mpr fits
  exact ⟨lent, h, lends_of_lend? h⟩

/-- A buffer that is lent is what is seen of it, or else it is not seen. -/
theorem Lends.getD_units? (lends : loan.Lends units lent) :
  lent.units?.getD units = units
  := by
  rw [lends.units?]
  cases loan <;> rfl

/-- A buffer of which the units in reach are overwritten is what is seen of it: if it is not seen,
no unit is in reach. -/
theorem getD_shown {first : List α}
    (length : first.length = (units.take (loan.reach units.length)).length) :
  (loan.shown (first ++ units.drop (loan.reach units.length))).getD units
    = first ++ units.drop (loan.reach units.length)
  := by
  cases loan with
  | whole => rfl
  | front length => rfl
  | null _ =>
    obtain rfl := List.eq_nil_of_length_eq_zero length
    rfl

end Loan

/-! ### Copies between buffers on loan -/

namespace Conversion

variable {α β : Type}

/-- The edit that a copy between lent buffers is to the whole of the second: one of the
units that are lent. -/
def lentCopy (conversion : Conversion α β) (sourceLoan destinationLoan : Loan) (source : List α)
    (request : SignedRequest) (destination : List β) : Edited (List β) :=
  Edited.map (· ++ destination.drop (destinationLoan.reach destination.length))
    (Edit.signed (conversion.copy (source.take (sourceLoan.reach source.length))) request
      (destination.take (destinationLoan.reach destination.length)))

variable {conversion : Conversion α β} {sourceLoan destinationLoan : Loan} {source : List α}
  {destination : List β} {lentSource : Lent α} {lentDestination : Lent β} {request : SignedRequest}

/-- A copy between buffers that are lent has the status of the edit of the whole destination, and
shows what it leaves. -/
theorem copyLent_of_lends (lends : sourceLoan.Lends source lentSource)
    (lends' : destinationLoan.Lends destination lentDestination)
    (present : ¬(lentSource.Missing ∨ lentDestination.Missing)) :
  copyLent conversion.copy lentSource lentDestination request
    = let edited := conversion.lentCopy sourceLoan destinationLoan source request destination
      (.ofEdited edited, destinationLoan.shown edited.state)
  := by
  obtain ⟨hsource, hdestination⟩ := not_or.mp present
  rw [copyLent_of_not_missing hsource hdestination, lends.visible, lends'.visible]
  dsimp only
  rw [lends'.restored, lentCopy, Status.ofEdited, Status.ofEdited, Edited.failure?_map,
    Edited.state_map]

/-- The whole destination is what is seen of it after a copy between lent buffers, or else it is as
it was. -/
theorem getD_shown_lentCopy :
  (destinationLoan.shown (Edited.state
      (conversion.lentCopy sourceLoan destinationLoan source request destination))).getD destination
    = Edited.state (conversion.lentCopy sourceLoan destinationLoan source request destination)
  := by
  rw [lentCopy, Edited.state_map]
  apply Loan.getD_shown
  apply Edited.Conserves.shape_state
  apply Edit.conserves_signed
  intro accepted
  apply conserves_copy

end Conversion

end NumericBytes
