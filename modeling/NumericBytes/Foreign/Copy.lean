import NumericBytes.Codec.Checked
import NumericBytes.Foreign.Lent

/-!
# Copies between lent buffers

`t.decodeLent` and `t.encodeLent` are the copies offered across a language boundary.  They
answer with a `Status`, whose code is a small number, and with the whole destination
afterwards.  Lent buffers come first: a null buffer under a length other than `0` makes the
arguments invalid, whatever the request says.
-/

namespace NumericBytes

/-- How a copy between lent buffers ends. -/
inductive Status where
  | ok
  /-- A buffer is null and its length is not `0`. -/
  | invalidArguments
  /-- A primitive was misused. -/
  | misused
  /-- The request was refused. -/
  | outOfBounds
  deriving DecidableEq, Repr

namespace Status

/-- The number that stands for a status. -/
def code : Status → Nat
  | ok => 0
  | invalidArguments => 1
  | misused => 2
  | outOfBounds => 3

/-- The status of a failure. -/
def ofFailure : Failure → Status
  | .outOfBounds _ => outOfBounds
  | .misuse _ => misused

/-- The status of an edit that has ended. -/
def ofEdited {σ : Type} (edited : Edited σ) : Status :=
  match edited.failure? with
  | none => ok
  | some failure => ofFailure failure

end Status

/-- Copies from what is lent of `source` to what is lent of `destination` with the given
copy. -/
def copyLent {α β : Type} (copy : List α → Request → Edit (List β) Unit) (source : Lent α)
    (destination : Lent β) (request : SignedRequest) : Status × Option (List β) :=
  match source.borrow?, destination.borrow? with
  | some lentSource, some lentDestination =>
    let edited : Edited (List β) :=
      (do copy lentSource (← Edit.check request.toRequest)) lentDestination
    (.ofEdited edited, destination.restored edited.state)
  | _, _ => (.invalidArguments, destination.units?)

namespace NumericType

/-- Decodes lent bytes into lent values. -/
def decodeLent (t : NumericType) :
    Lent UInt8 → Lent t.Value → SignedRequest → Status × Option (List t.Value) :=
  copyLent t.decodeNative

/-- Encodes lent values into lent bytes. -/
def encodeLent (t : NumericType) :
    Lent t.Value → Lent UInt8 → SignedRequest → Status × Option (List UInt8) :=
  copyLent t.encodeNative

end NumericType

end NumericBytes
