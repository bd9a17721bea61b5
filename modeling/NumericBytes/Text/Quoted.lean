/-!
# Quoted arguments

The text by which an argument of a command is shown.  An argument is written as it is
unless it holds a blank; then it is put in double quotes and every character in it is
escaped, by `escape`, into printable ASCII.
-/

namespace NumericBytes.Text.Quoted

/-- Whether a character is an ASCII blank: a space, a tab, a line feed, a carriage return or a
form feed. -/
def isBlank (c : Char) : Bool :=
  c == ' ' || c == '\t' || c == '\n' || c == '\r' || c == '\x0c'

/-- The escaped form of a character: a backslash before the characters that have a name or a
meaning of their own, the number in hexadecimal of any other that is not printable ASCII. -/
def escapeChar (c : Char) : List Char :=
  if c = '\t' then ['\\', 't']
  else if c = '\r' then ['\\', 'r']
  else if c = '\n' then ['\\', 'n']
  else if c = '\x27' ∨ c = '\x22' ∨ c = '\\' then ['\\', c]
  else if ' ' ≤ c ∧ c ≤ '~' then [c]
  else ['\\', 'u', '\x7b'] ++ Nat.toDigits 16 c.toNat ++ ['\x7d']

/-- The escaped form of a text. -/
def escape (text : List Char) : List Char :=
  text.flatMap escapeChar

/-- The text by which an argument is shown. -/
def shown (argument : String) : String :=
  if argument.toList.any isBlank then
    String.ofList (['\x22'] ++ escape argument.toList ++ ['\x22'])
  else argument

example : shown "a'b" = "a'b" := by decide

example : shown "a 'b'\n" = "\"a \\'b\\'\\n\"" := by decide

end NumericBytes.Text.Quoted
