import NumericBytes.Codec.Exact
import NumericBytes.Request
import NumericBytes.Window

/-!
# Checked copies

`t.decodeInto` overwrites a window of a numeric buffer with the values that a window of a
byte buffer spells, `t.encodeInto` a window of a byte buffer with the bytes of a window of
values, and `t.swapWindow` reverses the bytes of the values in a window.  A request that
does not fit its buffers is refused; the source is checked first.  `decodeInto_apply`,
`encodeInto_apply` and `swapWindow_apply` say what each does to the buffer it edits.
-/

namespace NumericBytes.NumericType

/-- Decodes a window of `source` into a window of the numeric buffer. -/
def decodeInto (t : NumericType) (order : ByteOrder) (source : List UInt8) (request : Request) :
    Edit (List t.Value) Unit := do
  let read ← Edit.check <|
    Window.fit .source request.sourceOffset request.count t.width source.length
  let written ← Edit.check <|
    Window.fit .destination request.destinationOffset request.count 1 (← get).length
  let bytes ← Edit.check (read.slice source)
  written.focus (t.decodeExact order bytes)

/-- Encodes a window of `source` into a window of the byte buffer. -/
def encodeInto (t : NumericType) (order : ByteOrder) (source : List t.Value) (request : Request) :
    Edit (List UInt8) Unit := do
  let read ← Edit.check <|
    Window.fit .source request.sourceOffset request.count 1 source.length
  let written ← Edit.check <|
    Window.fit .destination request.destinationOffset request.count t.width (← get).length
  let values ← Edit.check (read.slice source)
  written.focus (t.encodeExact order values)

/-- Reverses the bytes of `count` values from `offset` on. -/
def swapWindow (t : NumericType) (offset count : UInt64) : Edit (List t.Value) Unit := do
  let written ← Edit.check (Window.fit .destination offset count 1 (← get).length)
  written.focus t.swapAll

/-! ### The order of the host -/

/-- Decodes bytes in the order of the host. -/
def decodeNative (t : NumericType) (source : List UInt8) (request : Request) :
    Edit (List t.Value) Unit :=
  t.decodeInto .native source request

/-- Encodes values in the order of the host. -/
def encodeNative (t : NumericType) (source : List t.Value) (request : Request) :
    Edit (List UInt8) Unit :=
  t.encodeInto .native source request

/-! ### What the copies do -/

theorem decodeInto_apply (t : NumericType) (order : ByteOrder) (source : List UInt8)
    (request : Request) (destination : List t.Value) :
  t.decodeInto order source request destination
    = match Window.fit .source request.sourceOffset request.count t.width source.length with
      | .error failure => .error failure destination
      | .ok read =>
        match
          Window.fit .destination request.destinationOffset request.count 1 destination.length
        with
        | .error failure => .error failure destination
        | .ok written =>
          .ok () <| written.splice (t.decode order request.count.toNat (read.part source))
            destination
  := by
  rw [decodeInto, Edit.check_bind]
  generalize hread : Window.fit .source _ _ _ _ = outcome
  cases outcome with
  | error failure => rfl
  | ok read =>
    simp only [Edit.get_bind, Edit.check_bind]
    generalize hwritten : Window.fit .destination _ _ _ _ = outcome
    cases outcome with
    | error failure => rfl
    | ok written =>
      have hpart := Window.length_part_of_fit hread
      have hpart' := Window.length_part_of_fit hwritten
      rw [Nat.mul_one] at hpart'
      simp only [Window.slice_of_fit hread, Window.focus, Window.slice_of_fit hwritten,
        Edit.within, decodeExact, hpart, hpart', ↓reduceIte, Edited.map]

theorem encodeInto_apply (t : NumericType) (order : ByteOrder) (source : List t.Value)
    (request : Request) (destination : List UInt8) :
  t.encodeInto order source request destination
    = match Window.fit .source request.sourceOffset request.count 1 source.length with
      | .error failure => .error failure destination
      | .ok read =>
        match
          Window.fit .destination request.destinationOffset request.count t.width
            destination.length
        with
        | .error failure => .error failure destination
        | .ok written => .ok () (written.splice (t.encode order (read.part source)) destination)
  := by
  rw [encodeInto, Edit.check_bind]
  generalize hread : Window.fit .source _ _ _ _ = outcome
  cases outcome with
  | error failure => rfl
  | ok read =>
    simp only [Edit.get_bind, Edit.check_bind]
    generalize hwritten : Window.fit .destination _ _ _ _ = outcome
    cases outcome with
    | error failure => rfl
    | ok written =>
      have hpart := Window.length_part_of_fit hread
      have hpart' := Window.length_part_of_fit hwritten
      rw [Nat.mul_one] at hpart
      simp only [Window.slice_of_fit hread, Window.focus, Window.slice_of_fit hwritten,
        Edit.within, encodeExact, hpart, hpart', ↓reduceIte, Edited.map]

theorem swapWindow_apply (t : NumericType) (offset count : UInt64) (values : List t.Value) :
  t.swapWindow offset count values
    = match Window.fit .destination offset count 1 values.length with
      | .error failure => .error failure values
      | .ok written => .ok () (written.splice ((written.part values).map t.swapped) values)
  := by
  rw [swapWindow, Edit.get_bind, Edit.check_bind]
  generalize hwritten : Window.fit .destination _ _ _ _ = outcome
  cases outcome with
  | error failure => rfl
  | ok written => simp only [Window.focus, Window.slice_of_fit hwritten, Edit.within, swapAll,
      Edited.map]

end NumericBytes.NumericType
