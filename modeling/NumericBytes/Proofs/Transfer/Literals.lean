import NumericBytes.NumericView
import NumericBytes.Proofs.NumericArray.Literals
import NumericBytes.Proofs.NumericArray.Sameness
import NumericBytes.Transfer

/-!
# Literals of transfers of integers

A transfer of integers has a literal (`OfIntegers.literal?_eq`), which tells the direction, the type,
the elements of its array and its bytes (`OfIntegers.selfDelimited_literal`): the directions have
names that begin differently, and a literal of either direction has the two buffers in its fields.
The main statement is `integer_literals_identify`, which also tells views of integers by their
literals.
-/

namespace NumericBytes

open Text

/-- The literal of a list of bytes tells the bytes. -/
theorem Buffer.selfDelimited_bytesLiteral :
  SelfDelimited bytesLiteral
  := by
  have byte : Delimited IsNumeral fun byte : UInt8 => byte.toNat.repr := by
    apply delimited_repr.comp fun _ _ => UInt8.toNat_inj.mp
    intro byte
    rfl
  apply byte.list (by decide) (by decide)
  intro byte
  apply exists_begins_repr

namespace Transfer

/-- Transfers are equal exactly if they have one direction, one type, and the same elements and
bytes. -/
theorem eq_iff {a b : Transfer} :
  a = b
    ↔ a.direction = b.direction ∧ a.elementType = b.elementType
      ∧ a.array.elements ≍ b.array.elements ∧ a.bytes = b.bytes
  := by
  constructor
  · rintro rfl
    use rfl, rfl, .rfl
  · rintro ⟨direction, elementType, elements, bytes⟩
    cases a with
    | decoding source array =>
      cases b with
      | decoding source' array' =>
        obtain ⟨t, xs⟩ := array
        obtain ⟨t', ys⟩ := array'
        obtain rfl : t = t' := elementType
        obtain rfl := eq_of_heq elements
        obtain rfl : source = source' := bytes
        rfl
      | encoding => contradiction
    | encoding array destination =>
      cases b with
      | decoding => contradiction
      | encoding array' destination' =>
        obtain ⟨t, xs⟩ := array
        obtain ⟨t', ys⟩ := array'
        obtain rfl : t = t' := elementType
        obtain rfl := eq_of_heq elements
        obtain rfl : destination = destination' := bytes
        rfl

/-- The transfers of an integer type. -/
abbrev OfIntegers : Type := { transfer : Transfer // transfer.elementType.format? = none }

namespace OfIntegers

/-- The name of the direction, with the literals of the source and the destination. -/
def literal : OfIntegers → String
  | ⟨decoding source destination, h⟩ =>
    Literal.labelled Direction.decoding.literal
      [("source", Buffer.bytesLiteral source),
        ("destination", NumericArray.OfIntegers.literal ⟨destination, h⟩)]
  | ⟨encoding source destination, h⟩ =>
    Literal.labelled Direction.encoding.literal
      [("source", NumericArray.OfIntegers.literal ⟨source, h⟩),
        ("destination", Buffer.bytesLiteral destination)]

/-- A transfer of integers has a literal. -/
theorem literal?_eq (transfer : OfIntegers) :
  transfer.val.literal? = some transfer.literal
  := by
  obtain ⟨transfer, h⟩ := transfer
  cases transfer with
  | decoding source destination =>
    have array := NumericArray.OfIntegers.literal?_eq ⟨destination, h⟩
    rw [literal?]
    dsimp only
    rw [array]
    rfl
  | encoding source destination =>
    have array := NumericArray.OfIntegers.literal?_eq ⟨source, h⟩
    rw [literal?]
    dsimp only
    rw [array]
    rfl

/-- The literal of a transfer tells the transfer. -/
theorem selfDelimited_literal :
  SelfDelimited literal
  := by
  have bytes := Buffer.selfDelimited_bytesLiteral
  have array := NumericArray.OfIntegers.selfDelimited_literal
  have decoding := bytes.labelled array not_false not_false Direction.decoding.literal
    "source" "destination"
  have encoding := array.labelled bytes not_false not_false Direction.encoding.literal
    "source" "destination"
  have b : Begins 'B' Direction.decoding.literal := rfl
  have n : Begins 'N' Direction.encoding.literal := rfl
  rintro ⟨transfer, h⟩ ⟨transfer', h'⟩ rest rest' ends ends' equal
  cases transfer with
  | decoding source destination =>
    cases transfer' with
    | decoding source' destination' =>
      obtain ⟨same, after⟩ :=
        @decoding (source, ⟨destination, h⟩) (source', ⟨destination', h'⟩) _ _ ends ends' equal
      cases same
      use rfl
    | encoding source' destination' =>
      cases ((b.labelled _).append _).ne ((n.labelled _).append _) (by decide) equal
  | encoding source destination =>
    cases transfer' with
    | decoding source' destination' =>
      cases ((n.labelled _).append _).ne ((b.labelled _).append _) (by decide) equal
    | encoding source' destination' =>
      obtain ⟨same, after⟩ :=
        @encoding (⟨source, h⟩, destination) (⟨source', h'⟩, destination') _ _ ends ends' equal
      cases same
      use rfl

end OfIntegers

end Transfer

/-- Transfers of integers have literals, which are equal exactly if the transfers have one
direction, one type, and the same elements and the same bytes in the same order.  Views of integers
have literals, which are equal exactly if the views are the same. -/
theorem integer_literals_identify :
  (∀ a b : Transfer, a.elementType.format? = none → b.elementType.format? = none →
    ∃ text text', a.literal? = some text ∧ b.literal? = some text'
      ∧ (text = text'
        ↔ a.direction = b.direction ∧ a.elementType = b.elementType
          ∧ a.array.elements ≍ b.array.elements ∧ a.bytes = b.bytes))
  ∧ ∀ {access : Access} (a b : NumericView access),
    a.elementType.format? = none → b.elementType.format? = none →
    ∃ text text', a.literal? = some text ∧ b.literal? = some text' ∧ (text = text' ↔ a.same b)
  := by
  constructor
  · intro a b ha hb
    let a' : Transfer.OfIntegers := ⟨a, ha⟩
    let b' : Transfer.OfIntegers := ⟨b, hb⟩
    use a'.literal, b'.literal, a'.literal?_eq, b'.literal?_eq
    rw [← Transfer.eq_iff, Transfer.OfIntegers.selfDelimited_literal.injective.eq_iff]
    apply Subtype.ext_iff
  · intro access a b ha hb
    let a' : NumericArray.OfIntegers := ⟨a.array, ha⟩
    let b' : NumericArray.OfIntegers := ⟨b.array, hb⟩
    use a'.literal, b'.literal, a'.literal?_eq, b'.literal?_eq
    rw [NumericView.same, NumericArray.same_iff_eq ha,
      NumericArray.OfIntegers.selfDelimited_literal.injective.eq_iff]
    apply Subtype.ext_iff

/-- The place of a comma shows, and so do a sign and the type of an array that has no elements. -/
theorem integer_literals_identify_edges :
  (Transfer.decoding [1, 23] ⟨.int16, []⟩).literal?
    ≠ (Transfer.decoding [12, 3] ⟨.int16, []⟩).literal?
  ∧ (Transfer.encoding ⟨.int64, [1, -2]⟩ []).literal?
    ≠ (Transfer.encoding ⟨.int64, [1, 2]⟩ []).literal?
  ∧ (⟨⟨.int16, []⟩⟩ : NumericView .shared).literal?
    ≠ (⟨⟨.int32, []⟩⟩ : NumericView .shared).literal?
  := by
  obtain ⟨transfers, views⟩ := integer_literals_identify
  constructor
  · obtain ⟨text, text', spelled, spelled', equal_iff⟩ :=
      transfers (.decoding [1, 23] ⟨.int16, []⟩) (.decoding [12, 3] ⟨.int16, []⟩) rfl rfl
    rw [spelled, spelled', Ne, Option.some.injEq, equal_iff]
    rintro ⟨-, -, -, bytes⟩
    contradiction
  constructor
  · obtain ⟨text, text', spelled, spelled', equal_iff⟩ :=
      transfers (.encoding ⟨.int64, [1, -2]⟩ []) (.encoding ⟨.int64, [1, 2]⟩ []) rfl rfl
    rw [spelled, spelled', Ne, Option.some.injEq, equal_iff]
    rintro ⟨-, -, elements, -⟩
    have equal : ([1, -2] : List Int64) = [1, 2] := eq_of_heq elements
    contradiction
  · obtain ⟨text, text', spelled, spelled', equal_iff⟩ :=
      views (⟨⟨.int16, []⟩⟩ : NumericView .shared) ⟨⟨.int32, []⟩⟩ rfl rfl
    rw [spelled, spelled', Ne, Option.some.injEq, equal_iff]
    decide

end NumericBytes
