import NumericBytes.NumericArray

/-!
# Buffers

A `Buffer` holds either bytes or the values of a numeric array.
-/

namespace NumericBytes

/-- A buffer of bytes or of numbers. -/
inductive Buffer where
  | bytes (units : List UInt8)
  | numeric (array : NumericArray)
  deriving DecidableEq

namespace Buffer

/-- The type of the numbers that a buffer holds, if it holds numbers. -/
def elementType? : Buffer → Option NumericType
  | bytes _ => none
  | numeric array => some array.elementType

/-- The number of units that a buffer holds. -/
def length : Buffer → Nat
  | bytes units => units.length
  | numeric array => array.length

/-- The literal of a list of bytes. -/
def bytesLiteral (units : List UInt8) : String :=
  Text.Literal.list (units.map fun byte => byte.toNat.repr)

end Buffer

end NumericBytes
