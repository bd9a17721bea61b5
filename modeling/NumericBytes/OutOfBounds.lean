import NumericBytes.Text.Literal

/-!
# Requests out of bounds

An `OutOfBounds` says why a request was refused: which of its two buffers it does not fit,
and the `Cause`.  `message` is the sentence for people, `literal` the text that shows each
field.
-/

namespace NumericBytes

/-- The buffer that a request does not fit. -/
inductive Side where
  | source
  | destination
  deriving DecidableEq, Repr

/-- Why a request does not fit a buffer.  Ends and capacities are counted in the units of
the buffer. -/
inductive Cause where
  /-- An offset or a count is negative. -/
  | negative
  /-- The end of the range is no 64-bit number. -/
  | overflow
  /-- The range ends at `stop`, beyond the `capacity` of the buffer. -/
  | exceeds (stop capacity : Nat)
  deriving DecidableEq, Repr

/-- The refusal of a request: the buffer it does not fit, and why. -/
structure OutOfBounds where
  side : Side
  cause : Cause
  deriving DecidableEq, Repr

/-! ### Messages -/

/-- The word for a side. -/
def Side.name : Side → String
  | source => "source"
  | destination => "destination"

/-- The clause for a cause. -/
def Cause.message : Cause → String
  | negative => "negative offset or count"
  | overflow => "offset plus length overflows"
  | exceeds stop capacity =>
    "range ends at " ++ stop.repr ++ " but the buffer holds " ++ capacity.repr

/-- The sentence for a refusal. -/
def OutOfBounds.message (error : OutOfBounds) : String :=
  error.side.name ++ " range out of bounds: " ++ error.cause.message

/-! ### Literals -/

open Text

/-- The literal of a side. -/
def Side.literal : Side → String
  | source => "Source"
  | destination => "Destination"

/-- The literal of a cause. -/
def Cause.literal : Cause → String
  | negative => "Negative"
  | overflow => "Overflow"
  | exceeds stop capacity =>
    Literal.labelled "Exceeds" [("end", stop.repr), ("capacity", capacity.repr)]

/-- The literal of a refusal. -/
def OutOfBounds.literal (error : OutOfBounds) : String :=
  Literal.labelled "OutOfBoundsError"
    [("side", error.side.literal), ("cause", error.cause.literal)]

end NumericBytes
