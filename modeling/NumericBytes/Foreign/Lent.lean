/-!
# Lent buffers

A caller on the other side of a language boundary lends a buffer as a place and a length.
The place may be null, and then the length may be anything; otherwise the buffer holds at
least that many units.  `Lent.borrow?` is the list of units that are lent, and
`Lent.restored` is what the whole buffer holds when they have been overwritten.
A `Loan` says how a caller lends a buffer that it has.
-/

namespace NumericBytes

/-- A buffer lent by a caller. -/
inductive Lent (α : Type) where
  /-- No buffer, under some length. -/
  | null (length : UInt64)
  /-- The first `length` units of a buffer. -/
  | place (units : List α) (length : UInt64) (length_le : length.toNat ≤ units.length)

namespace Lent

variable {α : Type}

/-- A buffer lent as a whole. -/
def whole (units : List α) : Lent α :=
  place units (UInt64.ofNat units.length) <| by
    rw [UInt64.toNat_ofNat']
    exact Nat.mod_le _ _

/-- The whole buffer, if there is one. -/
def units? : Lent α → Option (List α)
  | null _ => none
  | place units _ _ => some units

/-- The length under which a buffer is lent. -/
def length : Lent α → UInt64
  | null length => length
  | place _ length _ => length

/-- The units that are lent.  A buffer of length `0` is empty wherever it is; no units can be
had of a null buffer of any other length. -/
def borrow? (lent : Lent α) : Option (List α) :=
  if lent.length = 0 then some []
  else lent.units?.map (List.take lent.length.toNat)

/-- The whole buffer, if there is one, after the lent units have been overwritten. -/
def restored (lent : Lent α) (lentUnits : List α) : Option (List α) :=
  lent.units?.map fun units => lentUnits ++ units.drop lent.length.toNat

end Lent

/-- How a caller lends a buffer that it has. -/
inductive Loan where
  /-- As a whole. -/
  | whole
  /-- The first units, as many as the length says. -/
  | front (length : UInt64)
  /-- Null is given instead of the buffer, under some length. -/
  | null (length : UInt64)
  deriving DecidableEq, Repr

/-- What is lent of a buffer.  No more units than it holds can be lent. -/
def Loan.lend? {α : Type} (units : List α) : Loan → Option (Lent α)
  | whole => some (.whole units)
  | front length =>
    if length_le : length.toNat ≤ units.length then some (.place units length length_le) else none
  | null length => some (.null length)

end NumericBytes
