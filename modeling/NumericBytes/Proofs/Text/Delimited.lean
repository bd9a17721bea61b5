import Mathlib
import NumericBytes.Text.Literal

/-!
# Texts that are told from what follows them

A family of texts is `Delimited` if one of its texts, followed by a rest, tells which text it is and
what the rest is.  Numbers are delimited only from rests that do not go on with a numeral
(`delimited_repr`), so that the notion has the characters as a parameter that a rest must not begin
with; a `SelfDelimited` family is told from any rest, since none of its texts is the beginning of
another one.  Texts that are put together from delimited texts are delimited
(`Delimited.append`, `Delimited.close`), if no part goes on with the part before it.
-/

namespace NumericBytes.Text

variable {α β γ : Type} {more more' : Char → Prop} {write : α → String} {write' : β → String}

/-! ### Beginnings -/

/-- The text begins with the character. -/
def Begins (c : Char) (text : String) : Prop :=
  text.toList.head? = some c

/-- The text does not begin with one of the given characters. -/
def Stops (more : Char → Prop) (rest : String) : Prop :=
  ∀ c, Begins c rest → ¬ more c

theorem Begins.append {c : Char} {first : String} (h : Begins c first) (rest : String) :
  Begins c (first ++ rest)
  := by
  rw [Begins, String.toList_append, List.head?_append, h]
  rfl

theorem Begins.stops {c : Char} {rest : String} (h : Begins c rest) (stopped : ¬ more c) :
  Stops more rest
  := by
  intro c' h'
  obtain rfl := Option.some.inj (h.symm.trans h')
  exact stopped

/-- Texts that begin with different characters are different. -/
theorem Begins.ne {c c' : Char} {text text' : String} (h : Begins c text) (h' : Begins c' text')
    (different : c ≠ c') :
  text ≠ text'
  := by
  rintro rfl
  apply different (Option.some.inj (h.symm.trans h'))

/-- A text of the given characters begins with one of them, unless it is empty. -/
theorem exists_begins {text : String} (nonempty : text ≠ "") (all : ∀ c ∈ text.toList, more c) :
  ∃ c, Begins c text ∧ more c
  := by
  cases characters : text.toList with
  | nil =>
    exfalso
    apply nonempty (String.toList_eq_nil_iff.mp characters)
  | cons c tail =>
    use c
    constructor
    · rw [Begins, characters]
      rfl
    · apply all
      rw [characters]
      apply List.mem_cons_self

theorem stops_empty (more : Char → Prop) :
  Stops more ""
  := by
  intro c h
  contradiction

theorem stops_false (rest : String) :
  Stops (fun _ => False) rest
  := by
  intro c _
  exact not_false

/-! ### Delimited texts -/

/-- A text of the family tells which one it is, and what follows it, unless that goes on with one
of the given characters. -/
def Delimited (more : Char → Prop) (write : α → String) : Prop :=
  ∀ ⦃a b : α⦄ ⦃rest rest' : String⦄, Stops more rest → Stops more rest' →
    write a ++ rest = write b ++ rest' → a = b ∧ rest = rest'

/-- A text of the family tells which one it is, and what follows it. -/
abbrev SelfDelimited (write : α → String) : Prop := Delimited (fun _ => False) write

/-- A delimited text is told by itself. -/
theorem Delimited.injective (h : Delimited more write) :
  Function.Injective write
  := by
  intro a b equal
  have equal' : write a ++ "" = write b ++ "" := by rw [equal]
  exact (h (stops_empty more) (stops_empty more) equal').1

/-- What follows a text is told if the text is. -/
theorem delimited_of_told
    (told : ∀ ⦃a b rest rest'⦄, Stops more rest → Stops more rest' →
      write a ++ rest = write b ++ rest' → a = b) :
  Delimited more write
  := by
  intro a b rest rest' ends ends' equal
  obtain rfl := told ends ends' equal
  use rfl, (String.append_right_inj _).mp equal

/-! ### Families of texts -/

theorem toList_append_eq {text text' rest rest' : String} (equal : text ++ rest = text' ++ rest') :
  text.toList ++ rest.toList = text'.toList ++ rest'.toList
  := by
  rw [← String.toList_append, equal, String.toList_append]

/-- Texts of which none is the beginning of another one are told from any rest. -/
theorem selfDelimited_of_isPrefix
    (h : ∀ a b, (write a).toList <+: (write b).toList → a = b) :
  SelfDelimited write
  := by
  apply delimited_of_told
  intro a b rest rest' _ _ equal
  have beginning : (write a).toList <+: (write b).toList ++ rest'.toList := by
    rw [← toList_append_eq equal]
    apply List.prefix_append
  rcases List.prefix_or_prefix_of_prefix beginning (List.prefix_append ..) with first | second
  · apply h a b first
  · symm
    apply h b a second

/-- A text of the given characters cannot reach into a rest that does not begin with one. -/
theorem eq_of_stops {rest : String} {text text' surplus tail : List Char} (stops : Stops more rest)
    (all : ∀ c ∈ text', more c) (h : text' = text ++ surplus) (h' : rest.toList = surplus ++ tail) :
  text' = text
  := by
  cases surplus with
  | nil => rw [h, List.append_nil]
  | cons c surplus =>
    exfalso
    have begins : Begins c rest := by
      rw [Begins, h']
      rfl
    apply stops c begins
    apply all
    rw [h]
    apply List.mem_append_right _ List.mem_cons_self

/-- Texts of the given characters are told from a rest that does not go on with one. -/
theorem delimited_of_forall_mem (injective : Function.Injective write)
    (all : ∀ a, ∀ c ∈ (write a).toList, more c) :
  Delimited more write
  := by
  apply delimited_of_told
  intro a b rest rest' stops stops' equal
  apply injective
  apply String.toList_injective
  -- The longer text is the other one, followed by a surplus with which the rest of that one begins.
  rcases List.append_eq_append_iff.mp (toList_append_eq equal) with
    ⟨surplus, h, h'⟩ | ⟨surplus, h, h'⟩
  · symm
    apply eq_of_stops stops (all b) h h'
  · apply eq_of_stops stops' (all a) h h'

/-! ### Texts put together -/

/-- One text after another tells both, if the second one does not go on with the first. -/
theorem Delimited.append (h : Delimited more write) (h' : Delimited more' write')
    (stops : ∀ b rest, Stops more (write' b ++ rest)) :
  Delimited more' fun pair : α × β => write pair.1 ++ write' pair.2
  := by
  rintro ⟨a, b⟩ ⟨a', b'⟩ rest rest' ends ends' equal
  simp only [String.append_assoc] at equal
  obtain ⟨rfl, after⟩ := h (stops b rest) (stops b' rest') equal
  obtain ⟨rfl, after'⟩ := h' ends ends' after
  use rfl

/-- A text before the texts of a family makes no difference. -/
theorem Delimited.prepend (h : Delimited more write) (first : String) :
  Delimited more fun a => first ++ write a
  := by
  intro a b rest rest' ends ends' equal
  rw [String.append_assoc, String.append_assoc, String.append_right_inj] at equal
  apply h ends ends' equal

/-- A text after the texts of a family makes no difference, if it does not go on with them. -/
theorem Delimited.close (h : Delimited more write) (last : String)
    (stops : ∀ rest, Stops more (last ++ rest)) :
  SelfDelimited fun a => write a ++ last
  := by
  intro a b rest rest' _ _ equal
  rw [String.append_assoc, String.append_assoc] at equal
  obtain ⟨rfl, after⟩ := h (stops rest) (stops rest') equal
  use rfl, (String.append_right_inj _).mp after

/-- Texts by which a delimited family tells all that there is to be told are delimited. -/
theorem Delimited.comp (h : Delimited more write) {f : γ → α} (injective : Function.Injective f)
    {text : γ → String} (same : ∀ c, text c = write (f c)) :
  Delimited more text
  := by
  intro c c' rest rest' ends ends' equal
  rw [same, same] at equal
  obtain ⟨told, after⟩ := h ends ends' equal
  use injective told

/-! ### Numbers -/

/-- The characters of which decimal numbers consist. -/
def IsNumeral (c : Char) : Prop :=
  c.isDigit ∨ c = '-'

instance : DecidablePred IsNumeral :=
  fun c => inferInstanceAs (Decidable (c.isDigit ∨ c = '-'))

theorem isNumeral_of_mem_repr (n : Nat) :
  ∀ c ∈ n.repr.toList, IsNumeral c
  := by
  intro c mem
  left
  rw [Nat.toList_repr] at mem
  apply Nat.isDigit_of_mem_toDigits (by decide) (by decide) mem

theorem isNumeral_of_mem_intRepr (z : Int) :
  ∀ c ∈ z.repr.toList, IsNumeral c
  := by
  cases z with
  | ofNat n => apply isNumeral_of_mem_repr
  | negSucc n =>
    rw [Int.repr, String.toList_append, List.forall_mem_append]
    constructor
    · intro c mem
      right
      apply List.mem_singleton.mp mem
    · apply isNumeral_of_mem_repr

/-- A number begins with a numeral. -/
theorem exists_begins_repr (n : Nat) :
  ∃ c, Begins c n.repr ∧ IsNumeral c
  := exists_begins Nat.repr_ne_empty (isNumeral_of_mem_repr n)

/-- An integer begins with a numeral. -/
theorem exists_begins_intRepr (z : Int) :
  ∃ c, Begins c z.repr ∧ IsNumeral c
  := by
  cases z with
  | ofNat n => apply exists_begins_repr
  | negSucc n =>
    have minus : Begins '-' "-" := rfl
    use '-', minus.append _
    right
    rfl

/-- A number tells which one it is, unless it is followed by a numeral. -/
theorem delimited_repr :
  Delimited IsNumeral Nat.repr
  := by
  apply delimited_of_forall_mem
  · apply Nat.repr_injective
  · apply isNumeral_of_mem_repr

/-- An integer tells which one it is, unless it is followed by a numeral. -/
theorem delimited_intRepr :
  Delimited IsNumeral Int.repr
  := by
  apply delimited_of_forall_mem
  · apply Int.repr_injective
  · apply isNumeral_of_mem_intRepr

end NumericBytes.Text
