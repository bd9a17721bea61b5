import Mathlib.Data.List.Forall2
import NumericBytes.NumericView
import NumericBytes.Proofs.Codec.ExactCopies
import NumericBytes.Proofs.NumericType.Comparison

/-!
# Arrays of the same numbers

Two arrays are the same exactly if they are of one type and have the same keys, none of which is
missing (`same_iff_keys`).  So sameness is symmetric and transitive, and an array is the same as
itself exactly if all its elements are numbers.  Arrays of integers are the same exactly if they are
equal (`same_iff_eq`), or of one type and encoded as the same bytes (`same_iff_encode`), arrays of
floating-point numbers exactly if they are of one type and have, position by position, patterns of
one number (`same_iff_sameNumber`).  The main statement is `NumericView.same_compares_numbers`.
-/

namespace NumericBytes

/-- A list is equivalent to another one exactly if their elements are, one by one. -/
theorem isEqv_iff_forall₂ {α : Type} {xs ys : List α} {r : α → α → Bool} :
  xs.isEqv ys r ↔ List.Forall₂ (fun x y => r x y) xs ys
  := by
  induction xs generalizing ys with
  | nil =>
    rw [List.forall₂_nil_left_iff]
    cases ys with
    | nil => simp only [List.isEqv]
    | cons y ys => simp only [List.isEqv, Bool.false_eq_true, reduceCtorEq]
  | cons x xs ih =>
    cases ys with
    | nil => simp only [List.isEqv, List.forall₂_nil_right_iff, Bool.false_eq_true, reduceCtorEq]
    | cons y ys => rw [List.isEqv, Bool.and_eq_true, ih, List.forall₂_cons]

/-! ### Bytes of values -/

namespace NumericType

/-- The bytes of a list of values tell how many there are, and which. -/
theorem encode_injective (t : NumericType) (order : ByteOrder) :
  Function.Injective (t.encode order)
  := by
  intro xs ys equal
  have length : xs.length = ys.length := by
    apply Nat.eq_of_mul_eq_mul_right t.width_pos
    rw [← t.length_encode order, ← t.length_encode order, equal]
  rw [← t.decode_encode order xs, ← t.decode_encode order ys, equal, length]

end NumericType

namespace NumericArray

variable {a b c : NumericArray} {format : FloatFormat}

/-! ### Keys -/

theorem sameKey_iff {key key' : Option Int} :
  sameKey key key' ↔ key ≠ none ∧ key = key'
  := by
  rw [sameKey, Bool.and_eq_true, beq_iff_eq, Option.ne_none_iff_isSome]

theorem same_iff_forall₂ :
  a.same b
    ↔ a.elementType = b.elementType
      ∧ List.Forall₂ (fun key key' => key ≠ none ∧ key = key') a.keys b.keys
  := by
  rw [same, Bool.and_eq_true, beq_iff_eq, isEqv_iff_forall₂]
  simp only [sameKey_iff]

/-- Two arrays are the same exactly if they are of one type and have the same keys, none of which
is missing. -/
theorem same_iff_keys :
  a.same b ↔ a.elementType = b.elementType ∧ none ∉ a.keys ∧ a.keys = b.keys
  := by
  rw [same_iff_forall₂, List.forall₂_and_left, List.forall₂_eq_eq_eq]
  simp only [ne_eq, List.forall_mem_ne']

theorem same_symm (h : a.same b) :
  b.same a
  := by
  obtain ⟨elementType, present, keys⟩ := same_iff_keys.mp h
  apply same_iff_keys.mpr
  use elementType.symm, keys ▸ present, keys.symm

theorem same_trans (h : a.same b) (h' : b.same c) :
  a.same c
  := by
  obtain ⟨elementType, present, keys⟩ := same_iff_keys.mp h
  obtain ⟨elementType', -, keys'⟩ := same_iff_keys.mp h'
  apply same_iff_keys.mpr
  use elementType.trans elementType', present, keys.trans keys'

theorem length_keys (array : NumericArray) :
  array.keys.length = array.length
  := List.length_map _

theorem length_eq_of_same (h : a.same b) :
  a.length = b.length
  := by
  obtain ⟨-, -, keys⟩ := same_iff_keys.mp h
  rw [← length_keys, keys, length_keys]

/-! ### Patterns -/

/-- The bit patterns of the elements. -/
def patterns (array : NumericArray) : List Nat :=
  array.elements.map array.elementType.pattern

theorem length_patterns (array : NumericArray) :
  array.patterns.length = array.length
  := List.length_map _

/-- No key is missing exactly if all elements are numbers. -/
theorem none_notMem_keys_iff :
  none ∉ a.keys ↔ ∀ pattern ∈ a.patterns, ¬ a.elementType.IsNaN pattern
  := by
  simp only [keys, patterns, List.mem_map, forall_exists_index, and_imp,
    forall_apply_eq_imp_iff₂, ← NumericType.key?_eq_none_iff, not_exists, not_and]

/-- Arrays of an integer type are the same exactly if they are equal. -/
theorem same_iff_eq (h : a.elementType.format? = none) :
  a.same b ↔ a = b
  := by
  rw [same_iff_keys]
  constructor
  · obtain ⟨t, xs⟩ := a
    obtain ⟨t', ys⟩ := b
    rintro ⟨rfl, -, keys⟩
    congr
    apply List.map_injective_iff.mpr (NumericType.key?_injective h) keys
  · rintro rfl
    use rfl
    constructor
    · apply none_notMem_keys_iff.mpr
      intro pattern _
      apply NumericType.not_isNaN_of_format? h
    · rfl

/-- An array is the same as itself exactly if all its elements are numbers. -/
theorem same_self_iff :
  a.same a ↔ ∀ pattern ∈ a.patterns, ¬ a.elementType.IsNaN pattern
  := by
  rw [same_iff_keys, none_notMem_keys_iff]
  simp only [true_and, and_true]

/-- Arrays of a floating-point type are the same exactly if they are of one type and have, position
by position, patterns of one number. -/
theorem same_iff_sameNumber (h : a.elementType.format? = some format) :
  a.same b
    ↔ a.elementType = b.elementType ∧ List.Forall₂ format.SameNumber a.patterns b.patterns
  := by
  rw [same_iff_forall₂]
  apply and_congr_right
  obtain ⟨t, xs⟩ := a
  obtain ⟨t', ys⟩ := b
  rintro rfl
  dsimp only at h
  simp only [keys, patterns, List.forall₂_map_left_iff, List.forall₂_map_right_iff,
    NumericType.sameNumber_pattern_iff h]

/-! ### Encodings -/

/-- The array is encoded as the bytes in every buffer that they fill, whatever it has held. -/
def EncodedAs (array : NumericArray) (bytes : List UInt8) : Prop :=
  ∀ destination : List UInt8, destination.length = array.length * array.elementType.width →
    array.elementType.encodeNative array.elements ⟨0, 0, UInt64.ofNat array.length⟩ destination
      = .ok () bytes

theorem encodedAs_encode (allocatable : Allocatable a.elementType.width a.elements) :
  a.EncodedAs (a.elementType.encode .native a.elements)
  := by
  intro destination filled
  apply NumericType.encodeInto_whole filled allocatable

/-- Arrays of an integer type are the same exactly if they are of one type and encoded as the same
bytes. -/
theorem same_iff_encode (h : a.elementType.format? = none) (order : ByteOrder) :
  a.same b
    ↔ a.elementType = b.elementType
      ∧ a.elementType.encode order a.elements = b.elementType.encode order b.elements
  := by
  rw [same_iff_eq h]
  constructor
  · rintro rfl
    use rfl
  · obtain ⟨t, xs⟩ := a
    obtain ⟨t', ys⟩ := b
    rintro ⟨rfl, bytes⟩
    congr
    apply t.encode_injective order bytes

end NumericArray

/-! ### Views -/

namespace NumericView

/-- Sameness of views is a partial equivalence, which an array enters by itself exactly if it holds
numbers alone, and which keeps types and lengths apart.  Views of integers are the same exactly if
they are of one type and the arrays are encoded as the same bytes; both encodings succeed if no
array is larger than a buffer may be.  Views of floating-point numbers are the same exactly if they
are of one type and of one length and every two patterns at one position are of one number.  The
access under which the arrays are borrowed makes no difference. -/
theorem same_compares_numbers {access : Access} (a b c : NumericView access) :
  a.same b = b.same a
  ∧ (a.same b → b.same c → a.same c)
  ∧ (a.same a ↔ ∀ pattern ∈ a.array.patterns, ¬ a.elementType.IsNaN pattern)
  ∧ (a.same b → a.elementType = b.elementType ∧ a.length = b.length)
  ∧ (a.elementType.format? = none →
      Allocatable a.elementType.width a.array.elements →
      Allocatable b.elementType.width b.array.elements →
      ∃ bytes bytes', a.array.EncodedAs bytes ∧ b.array.EncodedAs bytes'
        ∧ (a.same b ↔ a.elementType = b.elementType ∧ bytes = bytes'))
  ∧ (∀ format, a.elementType.format? = some format →
      (a.same b ↔ a.elementType = b.elementType ∧ a.length = b.length
        ∧ ∀ i (h : i < a.array.patterns.length) (h' : i < b.array.patterns.length),
          format.SameNumber a.array.patterns[i] b.array.patterns[i]))
  ∧ ∀ other : Access, (⟨a.array⟩ : NumericView other).same ⟨b.array⟩ = a.same b
  := by
  constructor
  · apply Bool.eq_iff_iff.mpr
    constructor
    · apply NumericArray.same_symm
    · apply NumericArray.same_symm
  constructor
  · apply NumericArray.same_trans
  constructor
  · apply NumericArray.same_self_iff
  constructor
  · intro h
    use (NumericArray.same_iff_keys.mp h).1, NumericArray.length_eq_of_same h
  constructor
  · intro h allocatable allocatable'
    use a.elementType.encode .native a.array.elements,
      b.elementType.encode .native b.array.elements,
      NumericArray.encodedAs_encode allocatable, NumericArray.encodedAs_encode allocatable'
    apply NumericArray.same_iff_encode h
  constructor
  · intro format h
    rw [length, length, ← NumericArray.length_patterns, ← NumericArray.length_patterns]
    exact (NumericArray.same_iff_sameNumber h).trans (and_congr_right' List.forall₂_iff_get)
  · intro other
    rfl

/-- The two zeros are the same number, a signalling NaN is not even the same as itself, no array of
integers is the same as one of other integers, and empty arrays of two types differ. -/
theorem same_compares_numbers_zeros :
  ((⟨⟨.float32, [⟨0⟩]⟩⟩ : NumericView .shared).same ⟨⟨.float32, [⟨0⟩]⟩⟩
    ∧ (⟨⟨.float32, [⟨0⟩]⟩⟩ : NumericView .shared).same ⟨⟨.float32, [⟨0x80000000⟩]⟩⟩
    ∧ (⟨⟨.float32, [⟨0⟩]⟩⟩ : NumericView .exclusive).same ⟨⟨.float32, [⟨0x80000000⟩]⟩⟩)
  ∧ ¬ (⟨⟨.float64, [⟨0x7ff0000000000001⟩]⟩⟩ : NumericView .shared).same
      ⟨⟨.float64, [⟨0x7ff0000000000001⟩]⟩⟩
  ∧ (∃ bytes bytes', (⟨.int16, [-1]⟩ : NumericArray).EncodedAs bytes
      ∧ (⟨.int16, [1]⟩ : NumericArray).EncodedAs bytes' ∧ bytes ≠ bytes')
  ∧ ¬ (⟨⟨.int16, []⟩⟩ : NumericView .exclusive).same ⟨⟨.int32, []⟩⟩
  := by
  let zero : NumericView .shared := ⟨⟨.float32, [⟨0⟩]⟩⟩
  let negated : NumericView .shared := ⟨⟨.float32, [⟨0x80000000⟩]⟩⟩
  let signalling : NumericView .shared := ⟨⟨.float64, [⟨0x7ff0000000000001⟩]⟩⟩
  obtain ⟨symmetric, transitive, -, -, -, floats, access⟩ :=
    same_compares_numbers zero negated zero
  have number : FloatFormat.SameNumber ⟨8, 23⟩ 0 0x80000000 := by decide
  have same : zero.same negated := by
    apply (floats ⟨8, 23⟩ rfl).mpr
    use rfl, rfl
    intro i h h'
    obtain rfl : i = 0 := Nat.lt_one_iff.mp h
    apply number
  constructor
  · exact ⟨transitive same (symmetric ▸ same), same, (access .exclusive).trans same⟩
  constructor
  · obtain ⟨-, -, reflexive, -⟩ := same_compares_numbers signalling signalling signalling
    intro same
    apply reflexive.mp same 0x7ff0000000000001 (by decide)
    use ⟨11, 52⟩, rfl
    decide
  constructor
  · let minus : NumericView .shared := ⟨⟨.int16, [-1]⟩⟩
    let one : NumericView .shared := ⟨⟨.int16, [1]⟩⟩
    obtain ⟨-, -, -, -, integers, -⟩ := same_compares_numbers minus one one
    obtain ⟨bytes, bytes', encoded, encoded', same⟩ := integers rfl
      (by unfold Allocatable; decide) (by unfold Allocatable; decide)
    use bytes, bytes', encoded, encoded'
    rintro rfl
    have := same.mpr ⟨rfl, rfl⟩
    contradiction
  · obtain ⟨-, -, -, types, -⟩ := same_compares_numbers (⟨⟨.int16, []⟩⟩ : NumericView .exclusive)
      ⟨⟨.int32, []⟩⟩ ⟨⟨.int32, []⟩⟩
    intro same
    have := (types same).1
    contradiction

end NumericView

end NumericBytes
