/-!
# Literals

The text of a value in the notation of a literal: `list` writes `[a, b]`, `applied` writes
`Name(a)`, and `labelled` writes `Name`, then its labelled fields in braces.
-/

namespace NumericBytes.Text.Literal

/-- The items, with a comma and a space between each two. -/
def separated : List String → String
  | [] => ""
  | [item] => item
  | item :: items => item ++ ", " ++ separated items

/-- A list of items, in square brackets. -/
def list (items : List String) : String :=
  "[" ++ separated items ++ "]"

/-- A name applied to one argument. -/
def applied (name argument : String) : String :=
  name ++ "(" ++ argument ++ ")"

/-- A name followed by labelled fields. -/
def labelled (name : String) (fields : List (String × String)) : String :=
  name ++ " \x7b " ++ separated (fields.map fun field => field.1 ++ ": " ++ field.2) ++ " \x7d"

example : list ["1", "-2"] = "[1, -2]" := by decide

example : labelled "Pair" [("left", "1"), ("right", list [])] = "Pair \x7b left: 1, right: [] \x7d" :=
  by decide

end NumericBytes.Text.Literal
