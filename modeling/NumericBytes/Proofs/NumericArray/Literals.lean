import NumericBytes.Proofs.NumericType.Comparison
import NumericBytes.Proofs.Text.Literals
import NumericBytes.NumericArray

/-!
# Literals of arrays of integers

An array of an integer type has a literal (`OfIntegers.literal?_eq`), which tells the type, the
elements, and where it ends (`OfIntegers.selfDelimited_literal`): the name of the type ends before
the parenthesis, each element stands for one integer, and the integers are told as the items of a
list.
-/

namespace NumericBytes

open Text

namespace NumericType

theorem selfDelimited_literal :
  SelfDelimited literal
  := by
  apply selfDelimited_of_isPrefix
  intro t t'
  cases t <;> cases t' <;> decide

/-- The values of an integer type stand for integers, different values for different ones. -/
theorem exists_integer {t : NumericType} (h : t.format? = none) :
  ∃ integer : t.Value → Int, Function.Injective integer ∧ t.toInt? = some ∘ integer
  := by
  cases t with
  | int16 => use Int16.toInt, fun _ _ => Int16.toInt_inj.mp; rfl
  | int32 => use Int32.toInt, fun _ _ => Int32.toInt_inj.mp; rfl
  | int64 => use Int64.toInt, fun _ _ => Int64.toInt_inj.mp; rfl
  | float32 => contradiction
  | float64 => contradiction

end NumericType

namespace NumericArray

/-- The integers that the elements stand for. -/
def integers (array : NumericArray) : List Int :=
  array.elements.filterMap array.elementType.toInt?

/-- The arrays of an integer type. -/
abbrev OfIntegers : Type := { array : NumericArray // array.elementType.format? = none }

namespace OfIntegers

/-- The name of the type, applied to the list of the integers. -/
def literal (array : OfIntegers) : String :=
  Literal.applied array.val.elementType.literal (Literal.list (array.val.integers.map Int.repr))

/-- An array of an integer type has a literal. -/
theorem literal?_eq (array : OfIntegers) :
  array.val.literal? = some array.literal
  := by
  obtain ⟨integer, -, spells⟩ := NumericType.exists_integer array.property
  have read : array.val.elements.mapM array.val.elementType.toInt?
      = some (array.val.elements.map integer) := by
    rw [spells]
    apply List.mapM_pure
  rw [literal?, read, literal, integers, spells, List.filterMap_eq_map]
  rfl

/-- The type of an array and the integers for which its elements stand. -/
def parts (array : OfIntegers) : NumericType × List Int :=
  (array.val.elementType, array.val.integers)

theorem parts_injective :
  Function.Injective parts
  := by
  rintro ⟨⟨t, xs⟩, h⟩ ⟨⟨t', ys⟩, h'⟩ same
  obtain ⟨rfl, same⟩ := Prod.mk.inj same
  obtain ⟨integer, injective, spells⟩ := NumericType.exists_integer h
  congr
  simp only [integers, spells, List.filterMap_eq_map] at same
  apply List.map_injective_iff.mpr injective same

/-- The literal of an array tells the array. -/
theorem selfDelimited_literal :
  SelfDelimited literal
  := by
  have numbers := delimited_intRepr.list (by decide) (by decide) exists_begins_intRepr
  have array := NumericType.selfDelimited_literal.applied numbers not_false
  apply array.comp parts_injective
  intro array
  rfl

end OfIntegers

end NumericArray

end NumericBytes
