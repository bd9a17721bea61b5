import NumericBytes.Proofs.Codec.WholeBuffers

/-!
# The primitives are the copies of whole buffers

A primitive fails exactly if the bytes are not those of the values, `t.width` for each.  Otherwise
it does what the checked copy does that is asked for all the values of its two buffers, from the
beginning of each: both succeed, and end with a buffer that does not depend on what it has held.
Reversing the bytes of all values never fails, and is the checked swap of a whole buffer.  The main
statement is `primitives_are_whole_copies`.
-/

namespace NumericBytes

open Window

/-- The number of units that are allocatable, as a word. -/
theorem Allocatable.toNat_length {α : Type} {unit : Nat} {units : List α}
    (h : Allocatable unit units) (positive : 0 < unit) :
  (UInt64.ofNat units.length).toNat = units.length
  := UInt64.toNat_ofNat_of_lt (h.addressable positive)

/-- An edit with a precondition is a misuse exactly if the precondition is broken. -/
theorem Edited.misused_iff {σ : Type} {condition : Prop} [Decidable condition] {before after : σ}
    {kind : Misuse} :
  failure? (if condition then .ok () after else .error (.misuse kind) before)
      = some (.misuse kind)
    ↔ ¬ condition
  := by
  by_cases holds : condition
  · rw [if_pos holds]
    simp only [failure?, holds, reduceCtorEq, not_true_eq_false]
  · rw [if_neg holds]
    simp only [failure?, holds, not_false_eq_true]

namespace NumericType

variable {t : NumericType} {order : ByteOrder}

/-! ### Decoding -/

section Decoding

variable {source : List UInt8} {destination : List t.Value}

theorem decodeExact_of_length (exact : source.length = destination.length * t.width) :
  t.decodeExact order source destination = .ok () (t.decode order destination.length source)
  := if_pos exact

/-- The copy of as many values as the buffer holds decodes the bytes that are those of them. -/
theorem decodeInto_whole (exact : source.length = destination.length * t.width)
    (allocatable : Allocatable 1 source) (allocatable' : Allocatable t.width destination) :
  t.decodeInto order source ⟨0, 0, UInt64.ofNat destination.length⟩ destination
    = .ok () (t.decode order destination.length source)
  := by
  have count := allocatable'.toNat_length t.width_pos
  rw [decodeInto_eq_copy, Conversion.copy_whole, count]
  · rfl
  · rw [count]
    exact exact
  · rw [count]
    symm
    apply Nat.mul_one
  · apply allocatable.addressable Nat.one_pos
  · apply allocatable'.addressable t.width_pos

end Decoding

/-! ### Encoding -/

section Encoding

variable {source : List t.Value} {destination : List UInt8}

theorem encodeExact_of_length (exact : destination.length = source.length * t.width) :
  t.encodeExact order source destination = .ok () (t.encode order source)
  := if_pos exact

/-- The copy of all values encodes them over the bytes that are those of them. -/
theorem encodeInto_whole (exact : destination.length = source.length * t.width)
    (allocatable : Allocatable t.width source) :
  t.encodeInto order source ⟨0, 0, UInt64.ofNat source.length⟩ destination
    = .ok () (t.encode order source)
  := by
  have count := allocatable.toNat_length t.width_pos
  rw [encodeInto_eq_copy, Conversion.copy_whole]
  · rfl
  · rw [count]
    symm
    apply Nat.mul_one
  · rw [count]
    exact exact
  · apply allocatable.addressable t.width_pos
  · rw [exact]
    apply Nat.lt_trans allocatable (by decide)

end Encoding

/-! ### Swapping -/

/-- The swap of as many values as there are reverses the bytes of all. -/
theorem swapWindow_whole {values : List t.Value} (allocatable : Allocatable t.width values) :
  t.swapWindow 0 (UInt64.ofNat values.length) values = t.swapAll values
  := by
  have stop : (span 0 (UInt64.ofNat values.length) 1).stop = values.length := by
    rw [stop_span_zero, Nat.mul_one, allocatable.toNat_length t.width_pos]
  have inside : (span 0 (UInt64.ofNat values.length) 1).Inside values.length :=
    .ofAddressable (allocatable.addressable t.width_pos) (Nat.le_of_eq stop)
  rw [t.swapWindow_of_inside inside, splice_whole rfl stop, part_whole rfl stop]
  rfl

/-- A primitive is misused exactly if the bytes are not those of the values.  Otherwise it succeeds,
whatever the buffer has held, with the units with which the copy of the whole buffers succeeds.
Reversing the bytes of all values succeeds, as the swap of the whole buffer. -/
theorem primitives_are_whole_copies (t : NumericType) (order : ByteOrder) :
  (∀ (source : List UInt8) (destination : List t.Value),
    Allocatable 1 source → Allocatable t.width destination →
    (Edited.failure? (t.decodeExact order source destination) = some (.misuse .lengthMismatch)
      ↔ source.length ≠ destination.length * t.width)
    ∧ (source.length = destination.length * t.width →
      ∃ values, ∀ former : List t.Value, former.length = destination.length →
        t.decodeExact order source former = .ok () values
        ∧ t.decodeInto order source ⟨0, 0, UInt64.ofNat destination.length⟩ former
          = .ok () values))
  ∧ (∀ (source : List t.Value) (destination : List UInt8),
    Allocatable t.width source → Allocatable 1 destination →
    (Edited.failure? (t.encodeExact order source destination) = some (.misuse .lengthMismatch)
      ↔ destination.length ≠ source.length * t.width)
    ∧ (destination.length = source.length * t.width →
      ∃ bytes, ∀ former : List UInt8, former.length = destination.length →
        t.encodeExact order source former = .ok () bytes
        ∧ t.encodeInto order source ⟨0, 0, UInt64.ofNat source.length⟩ former = .ok () bytes))
  ∧ ∀ values : List t.Value, Allocatable t.width values →
    ∃ swapped, t.swapAll values = .ok () swapped
      ∧ t.swapWindow 0 (UInt64.ofNat values.length) values = .ok () swapped
  := by
  constructor
  · intro source destination allocatable allocatable'
    use Edited.misused_iff
    intro exact
    use t.decode order destination.length source
    intro former length
    have allocatable'' : Allocatable t.width former := by
      rw [Allocatable, length]
      exact allocatable'
    rw [← length] at exact ⊢
    use decodeExact_of_length exact, decodeInto_whole exact allocatable allocatable''
  constructor
  · intro source destination allocatable allocatable'
    use Edited.misused_iff
    intro exact
    use t.encode order source
    intro former length
    rw [← length] at exact
    use encodeExact_of_length exact, encodeInto_whole exact allocatable
  · intro values allocatable
    use values.map t.swapped, rfl
    apply swapWindow_whole allocatable

/-- Five bytes are too many for two values and three too few; and four are decoded and encoded, and
two values swapped, as copies and swaps of whole buffers do that, over whatever there was. -/
theorem primitives_are_whole_copies_int16 :
  (Edited.failure? (int16.decodeExact .big [1, 2, 3, 4, 5] [7, 7])
      = some (.misuse .lengthMismatch)
    ∧ int16.decodeExact .big [1, 2, 0xff, 0xfe] [7, 7] = .ok () [0x0102, -2]
    ∧ int16.decodeInto .big [1, 2, 0xff, 0xfe] ⟨0, 0, 2⟩ [8, 9] = .ok () [0x0102, -2])
  ∧ (Edited.failure? (int16.encodeExact .little [1, -2] [7, 7, 7])
      = some (.misuse .lengthMismatch)
    ∧ int16.encodeExact .little [1, -2] [7, 7, 7, 7] = .ok () [1, 0, 0xfe, 0xff]
    ∧ int16.encodeInto .little [1, -2] ⟨0, 0, 2⟩ [6, 7, 8, 9] = .ok () [1, 0, 0xfe, 0xff])
  ∧ int16.swapAll [1, -2] = .ok () [0x0100, -0x0101]
    ∧ int16.swapWindow 0 2 [1, -2] = .ok () [0x0100, -0x0101]
  := by
  obtain ⟨decoding, -⟩ := primitives_are_whole_copies int16 .big
  obtain ⟨-, encoding, swapping⟩ := primitives_are_whole_copies int16 .little
  have numbers (values : List Int16) (two : values.length = 2) :
      Allocatable int16.width values := by
    rw [Allocatable, two]
    decide
  have bytes (units : List UInt8) (few : units.length ≤ 5) : Allocatable 1 units := by
    rw [Allocatable, Nat.mul_one]
    apply Nat.lt_of_le_of_lt few
    decide
  constructor
  · constructor
    · apply (decoding [1, 2, 3, 4, 5] [7, 7] (bytes _ (by decide)) (numbers _ rfl)).1.mpr
      decide
    · obtain ⟨values, agree⟩ :=
        (decoding [1, 2, 0xff, 0xfe] [7, 7] (bytes _ (by decide)) (numbers _ rfl)).2 rfl
      obtain rfl : [0x0102, -2] = values := (EStateM.Result.ok.inj (agree [7, 7] rfl).1).2
      exact ⟨(agree [7, 7] rfl).1, (agree [8, 9] rfl).2⟩
  constructor
  · constructor
    · apply (encoding [1, -2] [7, 7, 7] (numbers _ rfl) (bytes _ (by decide))).1.mpr
      decide
    · obtain ⟨encoded, agree⟩ :=
        (encoding [1, -2] [7, 7, 7, 7] (numbers _ rfl) (bytes _ (by decide))).2 rfl
      obtain rfl : [1, 0, 0xfe, 0xff] = encoded :=
        (EStateM.Result.ok.inj (agree [7, 7, 7, 7] rfl).1).2
      exact ⟨(agree [7, 7, 7, 7] rfl).1, (agree [6, 7, 8, 9] rfl).2⟩
  · obtain ⟨swapped, all, window⟩ := swapping [1, -2] (numbers _ rfl)
    obtain rfl : [0x0100, -0x0101] = swapped := (EStateM.Result.ok.inj all).2
    exact ⟨all, window⟩

end NumericType

end NumericBytes
