import NumericBytes.NumericArray

/-!
# Views of numeric arrays

A `NumericView` is a borrowed numeric array.  The array may be borrowed to be read, together with
other readers, or to be written by the borrower alone; what can be asked of a view is the same in
both cases.
-/

namespace NumericBytes

/-- How an array is borrowed. -/
inductive Access where
  /-- To be read. -/
  | shared
  /-- To be read and written, by the borrower alone. -/
  | exclusive
  deriving DecidableEq, Repr

/-- A numeric array that is borrowed under the given access. -/
structure NumericView (access : Access) where
  array : NumericArray
  deriving DecidableEq

namespace NumericView

variable {access : Access}

/-- The numeric type of a view. -/
def elementType (view : NumericView access) : NumericType := view.array.elementType

/-- The number of elements. -/
def length (view : NumericView access) : Nat := view.array.length

/-- Whether there are no elements. -/
def isEmpty (view : NumericView access) : Bool := view.array.isEmpty

/-- Whether two views of one access are of the same numbers. -/
def same (view view' : NumericView access) : Bool := view.array.same view'.array

/-- The literal of a view of integers. -/
def literal? (view : NumericView access) : Option String := view.array.literal?

end NumericView

end NumericBytes
