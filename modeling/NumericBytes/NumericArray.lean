import NumericBytes.NumericType.Value
import NumericBytes.Text.Literal

/-!
# Numeric arrays

A `NumericArray` is a list of values of one numeric type, which it carries along.
`NumericArray.same` compares two arrays as numbers: it holds of arrays of one type and one
length whose values have equal keys, so that the two zeros of a floating-point type are the
same and a value that is not a number is the same as none, not even itself.
-/

namespace NumericBytes

/-- Values of one numeric type. -/
structure NumericArray where
  elementType : NumericType
  elements : List elementType.Value
  deriving DecidableEq

namespace NumericArray

/-- The number of elements. -/
def length (array : NumericArray) : Nat := array.elements.length

/-- Whether there are no elements. -/
def isEmpty (array : NumericArray) : Bool := array.length == 0

/-- The integers by which the elements are compared. -/
def keys (array : NumericArray) : List (Option Int) :=
  array.elements.map array.elementType.key?

/-- Whether two elements with the given keys are the same number. -/
def sameKey (a b : Option Int) : Bool := a.isSome && a == b

/-- Whether two arrays hold the same numbers. -/
def same (a b : NumericArray) : Bool :=
  a.elementType == b.elementType && a.keys.isEqv b.keys sameKey

/-- The literal of an array of integers. -/
def literal? (array : NumericArray) : Option String := do
  let numbers ← array.elements.mapM array.elementType.toInt?
  return Text.Literal.applied array.elementType.literal (Text.Literal.list (numbers.map Int.repr))

example : literal? ⟨.int16, [1, -2]⟩ = some "Int16([1, -2])" := by decide

end NumericArray

end NumericBytes
