import NumericBytes.Codec.Exact
import NumericBytes.Window

/-!
# Copies into fresh buffers

`t.decodeFresh` and `t.encodeFresh` copy a window of a buffer, in the order of the host,
into a fresh buffer of just the size that is needed.  Only the window of the source is
checked; `fresh` insists that no buffer occupies more bytes than a buffer may.
-/

namespace NumericBytes

/-- A fresh buffer of `count` units, each of `unit` bytes; a buffer occupies less than `2 ^ 63`
bytes. -/
def fresh {α : Type} (count unit : Nat) (filler : α) : Except Failure (List α) :=
  if count * unit < 0x8000000000000000 then .ok (List.replicate count filler)
  else .error (.misuse .bufferTooLarge)

namespace NumericType

/-- Decodes `count` values from `offset` on into a fresh buffer. -/
def decodeFresh (t : NumericType) (source : List UInt8) (offset count : UInt64) :
    Except Failure (List t.Value) := do
  let read ← Window.fit .source offset count t.width source.length
  let buffer ← fresh count.toNat t.width t.zero
  let bytes ← read.slice source
  (t.decodeExact .native bytes).finish buffer

/-- Encodes `count` values from `offset` on into a fresh buffer. -/
def encodeFresh (t : NumericType) (source : List t.Value) (offset count : UInt64) :
    Except Failure (List UInt8) := do
  let read ← Window.fit .source offset count 1 source.length
  let size ← match Word.scale? count t.width with
    | some size => .ok size
    | none => .error (.misuse .sizeOverflow)
  let buffer ← fresh size.toNat 1 (0 : UInt8)
  let values ← read.slice source
  (t.encodeExact .native values).finish buffer

end NumericType

end NumericBytes
