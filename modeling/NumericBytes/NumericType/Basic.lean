/-!
# Numeric types

`NumericType` lists the types of number that arrays hold.  Each has a width in bytes and a
name; `NumericType.all` is the list of them, narrowest integers first.
-/

namespace NumericBytes

/-- A type of fixed-width numbers. -/
inductive NumericType where
  | int16
  | int32
  | int64
  | float32
  | float64
  deriving DecidableEq, Repr

namespace NumericType

/-- Every numeric type, narrowest integers first. -/
def all : List NumericType := [int16, int32, int64, float32, float64]

theorem mem_all (t : NumericType) :
  t ∈ all
  := by
  cases t <;> decide

/-- The number of bytes that a value occupies. -/
def width : NumericType → Nat
  | int16 => 2
  | int32 => 4
  | int64 => 8
  | float32 => 4
  | float64 => 8

theorem width_pos (t : NumericType) :
  0 < t.width
  := by
  cases t <;> decide

/-- The name by which a type is asked for. -/
def name : NumericType → String
  | int16 => "int16"
  | int32 => "int32"
  | int64 => "int64"
  | float32 => "float32"
  | float64 => "float64"

/-- The type of a given name. -/
def ofName? (name : String) : Option NumericType :=
  all.find? fun t => t.name = name

theorem ofName?_name (t : NumericType) :
  ofName? t.name = some t
  := by
  cases t <;> decide

/-- The name under which a type heads a literal. -/
def literal : NumericType → String
  | int16 => "Int16"
  | int32 => "Int32"
  | int64 => "Int64"
  | float32 => "Float32"
  | float64 => "Float64"

end NumericType

end NumericBytes
