import NumericBytes.Codec.Fresh
import NumericBytes.Proofs.Window.Contents

/-!
# Fresh buffers in closed form

A copy into a fresh buffer is decided by the check of its window and by the size of the fresh
buffer: `decodeFresh_eq` and `encodeFresh_eq`.  A list of units of a given size is `Allocatable`
if it occupies no more bytes than a buffer may.  What is copied out of an allocatable buffer is no
larger than it, so that the fresh buffer for it can be had: `decodeFresh_apply` and
`encodeFresh_apply` say that then the check of the window is all that decides.
-/

namespace NumericBytes

/-- The units, each of `unit` bytes, occupy no more bytes than a buffer may. -/
def Allocatable {α : Type} (unit : Nat) (units : List α) : Prop :=
  units.length * unit < 0x8000000000000000

/-- As many units as an accepted request names are in the buffer. -/
theorem Window.counted_le_of_fit {α : Type} {side : Side} {offset count : UInt64} {unit : Nat}
    {units : List α} {w : Window} (h : fit side offset count unit units.length = .ok w) :
  count.toNat * unit ≤ units.length
  := by
  obtain ⟨rfl, -, inside⟩ := fit_eq_ok_iff.mp h
  apply Nat.le_trans (Nat.le_add_left _ _) inside

/-- A size that a buffer may have is a word. -/
theorem Word.exists_scale? {count : UInt64} {unit : Nat}
    (small : count.toNat * unit < 0x8000000000000000) :
  ∃ size, scale? count unit = some size ∧ size.toNat = count.toNat * unit
  := by
  have word : count.toNat * unit < UInt64.size := Nat.lt_trans small (by decide)
  use UInt64.ofNat (count.toNat * unit), if_pos word
  rw [UInt64.toNat_ofNat', Nat.mod_eq_of_lt word]

namespace NumericType

/-- A fresh decoding is refused if its window does not lie in the source, and fails if the fresh
buffer would be too large. -/
theorem decodeFresh_eq (t : NumericType) (source : List UInt8) (offset count : UInt64) :
  t.decodeFresh source offset count
    = match Window.fit .source offset count t.width source.length with
      | .error failure => .error failure
      | .ok read =>
        if count.toNat * t.width < 0x8000000000000000 then
          .ok (t.decode .native count.toNat (read.part source))
        else .error (.misuse .bufferTooLarge)
  := by
  rw [decodeFresh]
  cases hread : Window.fit .source offset count t.width source.length with
  | error failure => rfl
  | ok read =>
    have hpart := Window.length_part_of_fit hread
    dsimp only [bind, Except.bind]
    rw [fresh]
    by_cases small : count.toNat * t.width < 0x8000000000000000
    · rw [if_pos small, if_pos small]
      simp only [Window.slice_of_fit hread, Edit.finish, decodeExact, List.length_replicate, hpart,
        ↓reduceIte]
    · rw [if_neg small, if_neg small]

/-- A fresh encoding is refused if its window does not lie in the source, and fails if the number
of its bytes is no word or the fresh buffer would be too large. -/
theorem encodeFresh_eq (t : NumericType) (source : List t.Value) (offset count : UInt64) :
  t.encodeFresh source offset count
    = match Window.fit .source offset count 1 source.length with
      | .error failure => .error failure
      | .ok read =>
        match Word.scale? count t.width with
        | none => .error (.misuse .sizeOverflow)
        | some size =>
          if size.toNat < 0x8000000000000000 then .ok (t.encode .native (read.part source))
          else .error (.misuse .bufferTooLarge)
  := by
  rw [encodeFresh]
  cases hread : Window.fit .source offset count 1 source.length with
  | error failure => rfl
  | ok read =>
    have hpart := Window.length_part_of_fit hread
    rw [Nat.mul_one] at hpart
    dsimp only [bind, Except.bind]
    cases scaled : Word.scale? count t.width with
    | none => rfl
    | some size =>
      have hsize := Word.scale?_eq_some_iff.mp scaled
      dsimp only
      rw [fresh, Nat.mul_one]
      by_cases small : size.toNat < 0x8000000000000000
      · rw [if_pos small, if_pos small]
        simp only [Window.slice_of_fit hread, Edit.finish, encodeExact, List.length_replicate,
          hpart, hsize, ↓reduceIte]
      · rw [if_neg small, if_neg small]

/-- What a fresh decoding of an allocatable source makes occupies no more bytes than the source. -/
theorem fresh_decoding_small {t : NumericType} {source : List UInt8} {offset count : UInt64}
    {read : Window} (allocatable : Allocatable 1 source)
    (hread : Window.fit .source offset count t.width source.length = .ok read) :
  count.toNat * t.width < 0x8000000000000000
  := by
  rw [Allocatable, Nat.mul_one] at allocatable
  apply Nat.lt_of_le_of_lt (Window.counted_le_of_fit hread) allocatable

/-- What a fresh encoding of an allocatable source makes occupies no more bytes than the source. -/
theorem fresh_encoding_small {t : NumericType} {source : List t.Value} {offset count : UInt64}
    {read : Window} (allocatable : Allocatable t.width source)
    (hread : Window.fit .source offset count 1 source.length = .ok read) :
  count.toNat * t.width < 0x8000000000000000
  := by
  have counted := Window.counted_le_of_fit hread
  rw [Nat.mul_one] at counted
  apply Nat.lt_of_le_of_lt (Nat.mul_le_mul_right _ counted) allocatable

/-- A fresh decoding holds the values of the window of the source, unless the window does not
lie in the source. -/
theorem decodeFresh_apply (t : NumericType) {source : List UInt8}
    (allocatable : Allocatable 1 source) (offset count : UInt64) :
  t.decodeFresh source offset count
    = match Window.fit .source offset count t.width source.length with
      | .error failure => .error failure
      | .ok read => .ok (t.decode .native count.toNat (read.part source))
  := by
  rw [decodeFresh_eq]
  cases hread : Window.fit .source offset count t.width source.length with
  | error failure => rfl
  | ok read => apply if_pos (fresh_decoding_small allocatable hread)

/-- A fresh encoding holds the bytes of the window of the source, unless the window does not
lie in the source. -/
theorem encodeFresh_apply (t : NumericType) {source : List t.Value}
    (allocatable : Allocatable t.width source) (offset count : UInt64) :
  t.encodeFresh source offset count
    = match Window.fit .source offset count 1 source.length with
      | .error failure => .error failure
      | .ok read => .ok (t.encode .native (read.part source))
  := by
  rw [encodeFresh_eq]
  cases hread : Window.fit .source offset count 1 source.length with
  | error failure => rfl
  | ok read =>
    have small := fresh_encoding_small allocatable hread
    obtain ⟨size, scaled, hsize⟩ := Word.exists_scale? small
    rw [scaled]
    apply if_pos
    rw [hsize]
    apply small

end NumericType

end NumericBytes
