import NumericBytes.Proofs.Codec.Acceptance

/-!
# The primitives that the operations call

The primitives demand more of their arguments than the types say: a window that is taken out of a
buffer lies in it, the bytes that are converted are exactly those of the values, and a fresh buffer
is not too large.  An operation checks each of its windows against one buffer alone.  That the two
parts which it hands to a primitive belong together follows from both windows being those of one
count: `exact_decoding`, `exact_encoding`, `exact_decodeFresh` and `exact_encodeFresh`.  The
statements about calls say which primitive it is that an accepted request leads to, and with which
arguments; `Unmisused` holds of a failure that is not the misuse of a primitive.
-/

namespace NumericBytes

/-- An operation that fails in this way, if it fails, has not misused a primitive. -/
def Unmisused (failure? : Option Failure) : Prop :=
  ∀ kind, failure? ≠ some (.misuse kind)

theorem Edited.Conserves.unmisused {σ κ : Type} {shape : σ → κ} {before : σ} {edited : Edited σ}
    (h : Conserves shape before edited) :
  Unmisused edited.failure?
  := by
  intro kind misused
  cases edited with
  | ok _ after => contradiction
  | error failure after =>
    obtain ⟨-, error, rfl⟩ := h.refused rfl
    cases Option.some_inj.mp misused

/-- The verdict on ranges is never that a primitive is misused. -/
theorem Extent.unmisused_verdict (extents : List Extent) :
  Unmisused (verdict extents)
  := by
  intro kind misused
  obtain ⟨error, -, h⟩ := Option.map_eq_some_iff.mp misused
  contradiction

/-! ### Windows -/

namespace Window

/-- The window lies in a buffer of the given length. -/
structure LiesIn (w : Window) (length : Nat) : Prop where
  ordered : w.start ≤ w.stop
  inside : w.stop ≤ length

/-- A window that is accepted lies in its buffer. -/
theorem liesIn_of_fit {side : Side} {offset count : UInt64} {unit capacity : Nat} {w : Window}
    (h : fit side offset count unit capacity = .ok w) :
  w.LiesIn capacity
  := by
  obtain ⟨rfl, -, inside⟩ := fit_eq_ok_iff.mp h
  use Nat.le_add_right _ _

/-- An edit in a window that is accepted is carried out on the units in it. -/
theorem focus_of_fit {α : Type} {side : Side} {offset count : UInt64} {unit : Nat} {units : List α}
    {w : Window} (h : fit side offset count unit units.length = .ok w)
    (edit : Edit (List α) Unit) :
  w.focus edit units = edit.within (w.part units) fun part => w.splice part units
  := by
  rw [focus, slice_of_fit h]

/-- A copy whose two windows are accepted carries out its primitive on what is in them. -/
theorem copy_of_fit {α β : Type} {source : List α} {destination : List β}
    {sourceOffset destinationOffset count : UInt64} {unit unit' : Nat} {read written : Window}
    (hread : fit .source sourceOffset count unit source.length = .ok read)
    (hwritten : fit .destination destinationOffset count unit' destination.length = .ok written)
    {primitive : List α → Edit (List β) Unit} :
  (do
      let read ← Edit.check (fit .source sourceOffset count unit source.length)
      let written ← Edit.check (fit .destination destinationOffset count unit' (← get).length)
      let units ← Edit.check (read.slice source)
      written.focus (primitive units) : Edit (List β) Unit) destination
    = (primitive (read.part source)).within (written.part destination)
        fun part => written.splice part destination
  := by
  rw [Edit.check_bind, hread]
  dsimp only
  rw [Edit.get_bind, Edit.check_bind, hwritten]
  dsimp only
  rw [Edit.check_bind, slice_of_fit hread]
  apply focus_of_fit hwritten

end Window

namespace NumericType

variable {t : NumericType} {request : Request} {offset count : UInt64} {read written : Window}

/-! ### Decoding -/

section Decoding

variable {source : List UInt8} {destination : List t.Value}

/-- The bytes that an accepted request reads are exactly those of the values that it
overwrites. -/
theorem exact_decoding
    (hread : Window.fit .source request.sourceOffset request.count t.width source.length
      = .ok read)
    (hwritten : Window.fit .destination request.destinationOffset request.count 1
      destination.length = .ok written) :
  (read.part source).length = (written.part destination).length * t.width
  := by
  rw [Window.length_part_of_fit hread, Window.length_part_of_fit hwritten, Nat.mul_one]

/-- An accepted request decodes the bytes in its one window over the values in the other. -/
theorem decodeInto_calls (order : ByteOrder)
    (hread : Window.fit .source request.sourceOffset request.count t.width source.length
      = .ok read)
    (hwritten : Window.fit .destination request.destinationOffset request.count 1
      destination.length = .ok written) :
  t.decodeInto order source request destination
    = (t.decodeExact order (read.part source)).within (written.part destination)
        fun part => written.splice part destination
  := by
  rw [decodeInto]
  apply Window.copy_of_fit hread hwritten

/-- The bytes that a fresh decoding reads are exactly those of the values that it makes. -/
theorem exact_decodeFresh
    (hread : Window.fit .source offset count t.width source.length = .ok read) :
  (read.part source).length = (List.replicate count.toNat t.zero).length * t.width
  := by
  rw [Window.length_part_of_fit hread, List.length_replicate]

/-- A fresh decoding of an allocatable source decodes the bytes in its window over as many fresh
values. -/
theorem decodeFresh_calls (allocatable : Allocatable 1 source)
    (hread : Window.fit .source offset count t.width source.length = .ok read) :
  t.decodeFresh source offset count
    = (t.decodeExact .native (read.part source)).finish (List.replicate count.toNat t.zero)
  := by
  rw [decodeFresh, hread]
  dsimp only [bind, Except.bind]
  rw [fresh, if_pos (fresh_decoding_small allocatable hread)]
  dsimp only
  rw [Window.slice_of_fit hread]

end Decoding

/-! ### Encoding -/

section Encoding

variable {source : List t.Value} {destination : List UInt8}

/-- The bytes that an accepted request overwrites are exactly those of the values that it
reads. -/
theorem exact_encoding
    (hread : Window.fit .source request.sourceOffset request.count 1 source.length = .ok read)
    (hwritten : Window.fit .destination request.destinationOffset request.count t.width
      destination.length = .ok written) :
  (written.part destination).length = (read.part source).length * t.width
  := by
  rw [Window.length_part_of_fit hread, Window.length_part_of_fit hwritten, Nat.mul_one]

/-- An accepted request encodes the values in its one window over the bytes in the other. -/
theorem encodeInto_calls (order : ByteOrder)
    (hread : Window.fit .source request.sourceOffset request.count 1 source.length = .ok read)
    (hwritten : Window.fit .destination request.destinationOffset request.count t.width
      destination.length = .ok written) :
  t.encodeInto order source request destination
    = (t.encodeExact order (read.part source)).within (written.part destination)
        fun part => written.splice part destination
  := by
  rw [encodeInto]
  apply Window.copy_of_fit hread hwritten

/-- The bytes that a fresh encoding makes are exactly those of the values that it reads. -/
theorem exact_encodeFresh (hread : Window.fit .source offset count 1 source.length = .ok read) :
  (List.replicate (count.toNat * t.width) (0 : UInt8)).length
    = (read.part source).length * t.width
  := by
  rw [Window.length_part_of_fit hread, List.length_replicate, Nat.mul_one]

/-- A fresh encoding of an allocatable source encodes the values in its window over as many fresh
bytes as they take. -/
theorem encodeFresh_calls (allocatable : Allocatable t.width source)
    (hread : Window.fit .source offset count 1 source.length = .ok read) :
  t.encodeFresh source offset count
    = (t.encodeExact .native (read.part source)).finish
        (List.replicate (count.toNat * t.width) 0)
  := by
  have small := fresh_encoding_small allocatable hread
  obtain ⟨size, scaled, hsize⟩ := Word.exists_scale? small
  rw [encodeFresh, hread]
  dsimp only [bind, Except.bind]
  rw [scaled]
  dsimp only
  rw [fresh, Nat.mul_one, hsize, if_pos small]
  dsimp only
  rw [Window.slice_of_fit hread]

end Encoding

/-! ### Swapping -/

/-- An accepted swap reverses the bytes of the values in its window. -/
theorem swapWindow_calls {values : List t.Value}
    (hwritten : Window.fit .destination offset count 1 values.length = .ok written) :
  t.swapWindow offset count values
    = t.swapAll.within (written.part values) fun part => written.splice part values
  := by
  rw [swapWindow, Edit.get_bind, Edit.check_bind, hwritten]
  apply Window.focus_of_fit hwritten

/-! ### Sizes of fresh buffers -/

/-- A fresh decoding of an allocatable source is allocatable. -/
theorem allocatable_decodeFresh {source : List UInt8} {values : List t.Value}
    (allocatable : Allocatable 1 source) (h : t.decodeFresh source offset count = .ok values) :
  Allocatable t.width values
  := by
  rw [t.decodeFresh_apply allocatable] at h
  split at h
  · contradiction
  · rename_i read hread
    cases h
    rw [Allocatable, length_decode]
    apply fresh_decoding_small allocatable hread

/-- A fresh encoding of an allocatable source is allocatable. -/
theorem allocatable_encodeFresh {source : List t.Value} {bytes : List UInt8}
    (allocatable : Allocatable t.width source) (h : t.encodeFresh source offset count = .ok bytes) :
  Allocatable 1 bytes
  := by
  rw [t.encodeFresh_apply allocatable] at h
  split at h
  · contradiction
  · rename_i read hread
    cases h
    rw [Allocatable, length_encode, Window.length_part_of_fit hread, Nat.mul_one, Nat.mul_one]
    apply fresh_encoding_small allocatable hread

end NumericType

end NumericBytes
