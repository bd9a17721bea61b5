import NumericBytes.Buffer
import NumericBytes.Codec.Checked

/-!
# Transfers

A `Transfer` is a pair of buffers of which one holds bytes and the other numbers, and which
of them is the source.  Its direction and its numeric type are data, so that a caller may
choose them late: `Transfer.copy` picks the copy to make and takes its offsets and its count
in signed numbers.
-/

namespace NumericBytes

/-- Which way a transfer goes. -/
inductive Direction where
  /-- From bytes to numbers. -/
  | decoding
  /-- From numbers to bytes. -/
  | encoding
  deriving DecidableEq, Repr

/-- The literal of a direction. -/
def Direction.literal : Direction → String
  | decoding => "BytesToNumeric"
  | encoding => "NumericToBytes"

/-- A source and a destination, one of bytes and one of numbers. -/
inductive Transfer where
  | decoding (source : List UInt8) (destination : NumericArray)
  | encoding (source : NumericArray) (destination : List UInt8)
  deriving DecidableEq

namespace Transfer

/-- The transfer from one buffer to another, if one holds bytes and the other numbers. -/
def ofBuffers? : Buffer → Buffer → Option Transfer
  | .bytes source, .numeric destination => some (decoding source destination)
  | .numeric source, .bytes destination => some (encoding source destination)
  | _, _ => none

/-- The direction of a transfer. -/
def direction : Transfer → Direction
  | decoding _ _ => .decoding
  | encoding _ _ => .encoding

/-- The numeric type of a transfer. -/
def elementType : Transfer → NumericType
  | decoding _ destination => destination.elementType
  | encoding source _ => source.elementType

/-- The numbers of a transfer. -/
def array : Transfer → NumericArray
  | decoding _ array | encoding array _ => array

/-- The bytes of a transfer. -/
def bytes : Transfer → List UInt8
  | decoding bytes _ | encoding _ bytes => bytes

/-- The buffer that a transfer writes. -/
def destination : Transfer → Buffer
  | decoding _ destination => .numeric destination
  | encoding _ destination => .bytes destination

/-- The literal of a transfer of integers. -/
def literal? (transfer : Transfer) : Option String := do
  let (source, destination) ← match transfer with
    | decoding source destination =>
      destination.literal?.map fun array => (Buffer.bytesLiteral source, array)
    | encoding source destination =>
      source.literal?.map fun array => (array, Buffer.bytesLiteral destination)
  return Text.Literal.labelled transfer.direction.literal
    [("source", source), ("destination", destination)]

/-- Copies from the source to the destination as an accepted request says. -/
def copyAt (request : Request) : Edit Transfer Unit
  | decoding source destination =>
    (destination.elementType.decodeNative source request).within destination.elements
      fun elements => decoding source ⟨destination.elementType, elements⟩
  | encoding source destination =>
    (source.elementType.encodeNative source.elements request).within destination
      fun bytes => encoding source bytes

/-- Copies from the source to the destination, unless a number of the request is negative. -/
def copy (request : SignedRequest) : Edit Transfer Unit := do
  copyAt (← Edit.check request.toRequest)

end Transfer

end NumericBytes
