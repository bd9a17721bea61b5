import NumericBytes.Task.CommandLine
import Mathlib.Data.List.Basic

/-!
# Flags

The arguments that are read as flags (`Flags`) are more than the words `-h` and `--help`
(`Flags.words`): the short word may begin a group of letters, and a value may be given to the long
one (`Flags.groups`).  The tests for flags decide just this: `beginsWithHelp_iff`, `isHelpFlag_iff`
and `isHelpWithValue_iff`.
-/

namespace NumericBytes.CommandLine

/-- Which arguments are read as flags. -/
structure Flags where
  /-- In front of a task, and after one without arguments, it asks for help. -/
  Help : String → Prop
  /-- In front of the arguments of the benchmarks, it asks for help. -/
  BenchHelp : String → Prop
  /-- In front of the arguments of the benchmarks, it is a mistake. -/
  BenchMistake : String → Prop

namespace Flags

/-- The only flags are the two words. -/
def words : Flags where
  Help argument := argument = "-h" ∨ argument = "--help"
  BenchHelp argument := argument = "-h" ∨ argument = "--help"
  BenchMistake _ := False

/-- The short word may begin a group of letters, and a value may be given to the long one.  A group
asks for help by its first letter, whatever follows, but the benchmarks take it for an argument of
theirs unless all its letters are that one.  A value is a mistake. -/
def groups : Flags where
  Help argument := argument = "--help" ∨ ∃ letters, argument = "-h" ++ letters
  BenchHelp argument :=
    argument = "--help" ∨ ∃ more, argument = "-h" ++ String.ofList (List.replicate more 'h')
  BenchMistake argument := ∃ value, argument = "--help=" ++ value

/-- The benchmarks take the argument for the first of theirs. -/
structure PassedOn (flags : Flags) (argument : String) : Prop where
  not_separator : argument ≠ "--"
  not_help : ¬ flags.BenchHelp argument
  not_mistake : ¬ flags.BenchMistake argument

end Flags

/-! ### Flags as they are read -/

/-- An argument begins with a text if its letters begin with those of the text. -/
theorem exists_eq_append_iff {start argument : String} :
  (∃ rest, argument = start ++ rest) ↔ start.toList <+: argument.toList
  := by
  constructor
  · rintro ⟨rest, rfl⟩
    rw [String.toList_append]
    apply List.prefix_append
  · rintro ⟨rest, h⟩
    use String.ofList rest
    rw [← String.toList_inj, String.toList_append, String.toList_ofList, h]

/-- A group is a hyphen before letters of which the first is no hyphen. -/
theorem shortFlags?_eq_some_iff {argument : String} {letters : List Char} :
  shortFlags? argument = some letters
    ↔ argument.toList = '-' :: letters ∧ letters ≠ [] ∧ letters.head? ≠ some '-'
  := by
  fun_cases shortFlags? argument with
  | case1 rest word => grind
  | case2 letter rest hyphen group => grind
  | case3 _ other =>
    simp only [reduceCtorEq, false_iff]
    rintro ⟨group, nonempty, -⟩
    obtain ⟨letter, rest, rfl⟩ := List.exists_cons_of_ne_nil nonempty
    exact other letter rest group

theorem any_shortFlags?_iff {argument : String} {test : List Char → Bool} :
  (shortFlags? argument).any test
    ↔ ∃ letters, argument.toList = '-' :: letters ∧ letters ≠ [] ∧ letters.head? ≠ some '-'
      ∧ test letters
  := by
  simp only [Option.any_eq_true, shortFlags?_eq_some_iff, and_assoc]

/-- Where only a flag may stand, help is asked for by the long word and by each group that begins
with the short one. -/
theorem beginsWithHelp_iff {argument : String} :
  beginsWithHelp argument ↔ Flags.groups.Help argument
  := by
  rw [beginsWithHelp, Bool.or_eq_true, beq_iff_eq, any_shortFlags?_iff]
  apply or_congr_right
  rw [exists_eq_append_iff]
  constructor
  · rintro ⟨letters, group, -, -, first⟩
    obtain ⟨rest, rfl⟩ := List.head?_eq_some_iff.mp (beq_iff_eq.mp first)
    rw [group]
    apply List.prefix_append ['-', 'h']
  · rintro ⟨rest, group⟩
    use 'h' :: rest, group.symm
    simp

/-- In front of arguments that are passed on, help is asked for by the long word and by each group
of which all letters are that of the short one. -/
theorem isHelpFlag_iff {argument : String} :
  isHelpFlag argument ↔ Flags.groups.BenchHelp argument
  := by
  rw [isHelpFlag, Bool.or_eq_true, beq_iff_eq, any_shortFlags?_iff]
  apply or_congr_right
  constructor
  · rintro ⟨letters, group, nonempty, -, all⟩
    have same : ∀ letter ∈ letters, letter = 'h' := by simpa using all
    obtain ⟨more, count⟩ :=
      Nat.exists_eq_succ_of_ne_zero (List.length_eq_zero_iff.not.mpr nonempty)
    use more
    rw [← String.toList_inj, group, List.eq_replicate_of_mem same, count]
    simp [List.replicate_succ]
  · rintro ⟨more, rfl⟩
    use List.replicate (more + 1) 'h'
    simp [List.replicate_succ]

/-- A value is given to the long word by the arguments that begin with it and an equals sign. -/
theorem isHelpWithValue_iff {argument : String} :
  isHelpWithValue argument ↔ Flags.groups.BenchMistake argument
  := by
  rw [isHelpWithValue, List.isPrefixOf_iff_prefix]
  symm
  apply exists_eq_append_iff

end NumericBytes.CommandLine
