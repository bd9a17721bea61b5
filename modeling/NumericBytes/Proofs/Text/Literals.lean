import NumericBytes.Proofs.Text.Delimited

/-!
# Literals are told from what follows them

A list of delimited items is self-delimited, whatever its length is, if no item goes on with a comma
or with the closing bracket (`Delimited.list`).  So are a name that is applied to an argument and a
name with two labelled fields (`Delimited.applied`, `Delimited.labelled`).
-/

namespace NumericBytes.Text

variable {α β : Type} {more more' : Char → Prop} {write : α → String} {write' : β → String}

/-! ### Lists -/

namespace Literal

/-- What follows an item of a list: the items that are left, and the closing bracket. -/
def following : List String → String
  | [] => "]"
  | item :: items => ", " ++ item ++ following items

theorem separated_append_bracket (item : String) (items : List String) :
  separated (item :: items) ++ "]" = item ++ following items
  := by
  induction items generalizing item with
  | nil => rfl
  | cons next items ih =>
    rw [separated, String.append_assoc, ih, following]
    · simp only [String.append_assoc]
    · apply List.cons_ne_nil

theorem list_cons (item : String) (items : List String) :
  list (item :: items) = "[" ++ item ++ following items
  := by
  rw [list, String.append_assoc, separated_append_bracket, String.append_assoc]

/-- What follows an item goes on with a comma or with the closing bracket. -/
theorem stops_following (comma : ¬ more ',') (bracket : ¬ more ']') (items : List String)
    (rest : String) :
  Stops more (following items ++ rest)
  := by
  cases items with
  | nil =>
    have closing : Begins ']' "]" := rfl
    apply (closing.append rest).stops bracket
  | cons item items =>
    have separator : Begins ',' ", " := rfl
    rw [following, String.append_assoc, String.append_assoc]
    apply (separator.append _).stops comma

/-- A list that goes on does not end. -/
theorem following_nil_ne_cons (item : String) (items : List String) (rest rest' : String) :
  following [] ++ rest ≠ following (item :: items) ++ rest'
  := by
  have closing : Begins ']' "]" := rfl
  have separator : Begins ',' ", " := rfl
  simp only [following, String.append_assoc]
  apply (closing.append _).ne (separator.append _) (by decide)

end Literal

open Literal

/-- What follows an item tells which items are left, and where the list ends. -/
theorem Delimited.following (h : Delimited more write) (comma : ¬ more ',') (bracket : ¬ more ']') :
  SelfDelimited fun xs : List α => following (xs.map write)
  := by
  intro xs ys rest rest' ends ends' equal
  induction xs generalizing ys with
  | nil =>
    cases ys with
    | nil => use rfl, (String.append_right_inj _).mp equal
    | cons y ys => cases following_nil_ne_cons _ _ _ _ equal
  | cons x xs ih =>
    cases ys with
    | nil => cases following_nil_ne_cons _ _ _ _ equal.symm
    | cons y ys =>
      simp only [List.map_cons, Literal.following, String.append_assoc, String.append_right_inj]
        at equal
      obtain ⟨rfl, after⟩ :=
        h (stops_following comma bracket _ _) (stops_following comma bracket _ _) equal
      obtain ⟨rfl, after'⟩ := ih after
      use rfl

/-- A list tells its items, and where it ends, if each item tells which one it is. -/
theorem Delimited.list (h : Delimited more write) (comma : ¬ more ',') (bracket : ¬ more ']')
    (opens : ∀ a, ∃ c, Begins c (write a) ∧ more c) :
  SelfDelimited fun xs : List α => list (xs.map write)
  := by
  have closing : Begins ']' "]" := rfl
  -- A list that has an item does not close where the item is to begin.
  have filled : ∀ x rest rest', "]" ++ rest ≠ write x ++ rest' := by
    intro x rest rest'
    obtain ⟨c, begins, continues⟩ := opens x
    apply (closing.append rest).ne (begins.append rest')
    rintro rfl
    exact bracket continues
  have empty : Literal.list [] = "[" ++ "]" := rfl
  intro xs ys rest rest' ends ends' equal
  cases xs with
  | nil =>
    cases ys with
    | nil => use rfl, (String.append_right_inj _).mp equal
    | cons y ys =>
      simp only [List.map_nil, List.map_cons, empty, list_cons, String.append_assoc,
        String.append_right_inj] at equal
      cases filled _ _ _ equal
  | cons x xs =>
    cases ys with
    | nil =>
      simp only [List.map_nil, List.map_cons, empty, list_cons, String.append_assoc,
        String.append_right_inj] at equal
      cases filled _ _ _ equal.symm
    | cons y ys =>
      simp only [List.map_cons, list_cons, String.append_assoc, String.append_right_inj] at equal
      obtain ⟨rfl, after⟩ :=
        h (stops_following comma bracket _ _) (stops_following comma bracket _ _) equal
      obtain ⟨rfl, after'⟩ := h.following comma bracket ends ends' after
      use rfl

/-! ### Names with arguments -/

/-- An applied name tells the name and the argument, if names tell which they are and no argument
goes on with the closing parenthesis. -/
theorem Delimited.applied (h : SelfDelimited write) (h' : Delimited more write')
    (parenthesis : ¬ more ')') :
  SelfDelimited fun pair : α × β => applied (write pair.1) (write' pair.2)
  := by
  have closing : Begins ')' ")" := rfl
  have argument := h'.close ")" fun rest => (closing.append rest).stops parenthesis
  have both := h.append (argument.prepend "(") fun _ _ => stops_false _
  simp only [Literal.applied, String.append_assoc]
  exact both

/-- A name with labelled fields begins as the name. -/
theorem Begins.labelled {c : Char} {name : String} (h : Begins c name)
    (fields : List (String × String)) :
  Begins c (labelled name fields)
  := ((h.append _).append _).append _

/-- Two labelled fields tell what is in them, if the first one does not go on with a comma nor the
second one with a space. -/
theorem Delimited.labelled (h : Delimited more write) (h' : Delimited more' write')
    (comma : ¬ more ',') (space : ¬ more' ' ') (name label label' : String) :
  SelfDelimited fun pair : α × β =>
    labelled name [(label, write pair.1), (label', write' pair.2)]
  := by
  have separator : Begins ',' ", " := rfl
  have closing : Begins ' ' " \x7d" := rfl
  have second := h'.close " \x7d" fun rest => (closing.append rest).stops space
  have both := h.append (second.prepend (", " ++ label' ++ ": ")) <| by
    intro b rest
    simp only [String.append_assoc]
    apply (separator.append _).stops comma
  have all := both.prepend (name ++ " \x7b " ++ label ++ ": ")
  simp only [String.append_assoc] at all
  simp only [Literal.labelled, List.map, separated, String.append_assoc]
  exact all

end NumericBytes.Text
