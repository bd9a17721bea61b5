import NumericBytes.Edit
import NumericBytes.Word

/-!
# Copy requests

A `Request` says where a copy begins in its source and in its destination, each in the units
of that buffer, and how many values it moves.  A `SignedRequest` says so in signed numbers,
and `SignedRequest.toRequest` accepts it if none of them is negative.
-/

namespace NumericBytes

/-- Where a copy begins in its two buffers, and how many values it moves. -/
structure Request where
  sourceOffset : UInt64
  destinationOffset : UInt64
  count : UInt64
  deriving DecidableEq, Repr

/-- A request in signed numbers. -/
structure SignedRequest where
  sourceOffset : Int64
  destinationOffset : Int64
  count : Int64
  deriving DecidableEq, Repr

/-- A signed number as an offset or a count, or the refusal that names a side. -/
def Request.unsigned (side : Side) (n : Int64) : Except Failure UInt64 :=
  match Word.ofSigned? n with
  | some m => .ok m
  | none => .error (.outOfBounds ⟨side, .negative⟩)

/-- The request, unless one of its numbers is negative.  The first negative one is reported,
and a negative count as one of the source. -/
def SignedRequest.toRequest (request : SignedRequest) : Except Failure Request := do
  let sourceOffset ← Request.unsigned .source request.sourceOffset
  let destinationOffset ← Request.unsigned .destination request.destinationOffset
  let count ← Request.unsigned .source request.count
  return ⟨sourceOffset, destinationOffset, count⟩

end NumericBytes
