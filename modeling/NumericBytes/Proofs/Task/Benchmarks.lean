import NumericBytes.Proofs.Task.Grammar

/-!
# Arguments of the benchmarks

What follows the separator after `bench` is passed on to the benchmarks as it is, and so is what
follows `bench` itself, unless its first argument is a separator or a flag
(`passed_on_unchanged`).
-/

namespace NumericBytes

namespace Transcript

open CommandLine

/-- Arguments after the separator are those of the benchmarks. -/
theorem ofArguments_separator (toolchain : Toolchain) (arguments : List String) :
  ofArguments toolchain ("bench" :: "--" :: arguments)
    = ofCalls toolchain [⟨["bench", "--bench", "benchmarks", "--"] ++ arguments, none⟩]
  := by
  rfl

/-- With a build tool, one call is made for arguments after the separator. -/
theorem calls_separator
    {toolchain : Toolchain} (present : toolchain ≠ .missing) (arguments : List String) :
  (ofArguments toolchain ("bench" :: "--" :: arguments)).calls
    = [⟨["bench", "--bench", "benchmarks", "--"] ++ arguments, none⟩]
  := by
  rw [ofArguments_separator, calls_ofCalls present, Toolchain.attempted_singleton]

/-- Without the separator the first argument has to be passed on for the same call to be made. -/
theorem passedOn_of_same {first : String} {rest : List String}
    (same : ofArguments .succeeding ("bench" :: first :: rest)
      = ofArguments .succeeding ("bench" :: "--" :: first :: rest)) :
  Flags.groups.PassedOn first
  := by
  have calls := congrArg Transcript.calls same
  rw [calls_separator (by decide), ofArguments, ofArguments_bench] at calls
  have run : ofBenchArguments (first :: rest) = .run (.bench (first :: rest)) := by
    rw [ofBenchArguments] at calls ⊢
    split_ifs at calls ⊢ with help mistake separator
    · simp [ofCommandLine] at calls
    · simp [ofCommandLine] at calls
    · simp [ofCommandLine, ofCalls, Task.plan, Toolchain.outcome, separator] at calls
    · rfl
  apply ofBenchArguments_eq_iff.mp run

/-- If the first argument is passed on, the separator makes no difference. -/
theorem ofArguments_bench_of_passedOn
    (toolchain : Toolchain) {arguments : List String}
    (passed : ∀ first ∈ arguments.head?, Flags.groups.PassedOn first) :
  ofArguments toolchain ("bench" :: arguments)
    = ofArguments toolchain ("bench" :: "--" :: arguments)
  := by
  cases arguments with
  | nil => rfl
  | cons first rest =>
    rw [ofArguments, ofArguments, ofArguments_bench, ofArguments_bench,
      ofBenchArguments_eq_iff.mpr (passed first rfl), ofBenchArguments_separator]

/-- Every list of arguments is passed on to the benchmarks as it is after a separator: with a build
tool, one call is made, and its arguments end with just that list.  The separator makes no
difference, whether there is a build tool or not, exactly if the first argument is no separator
and is not read as a flag. -/
theorem passed_on_unchanged :
  (∀ (arguments : List String) (toolchain : Toolchain), toolchain ≠ .missing →
      (ofArguments toolchain ("bench" :: "--" :: arguments)).calls
        = [⟨["bench", "--bench", "benchmarks", "--"] ++ arguments, none⟩])
    ∧ ∀ arguments : List String,
      (∀ toolchain, ofArguments toolchain ("bench" :: arguments)
        = ofArguments toolchain ("bench" :: "--" :: arguments))
      ↔ ∀ first ∈ arguments.head?, Flags.groups.PassedOn first
  := by
  constructor
  · intro arguments toolchain present
    apply calls_separator present
  · intro arguments
    constructor
    · rintro same first mem
      obtain ⟨rest, rfl⟩ := List.head?_eq_some_iff.mp mem
      apply passedOn_of_same (same .succeeding)
    · intro passed toolchain
      apply ofArguments_bench_of_passedOn toolchain passed

/-- An empty argument, a separator, a flag and line feeds arrive after the separator, also if the
benchmarks fail; and a group of letters that is no flag needs none, also without a build tool. -/
theorem passed_on_unchanged_flags :
  (Toolchain.failingOn ["bench", "--bench", "benchmarks", "--", "", "--", "--help", "\n\""] 3
        ≠ .missing
      ∧ (ofArguments
          (.failingOn ["bench", "--bench", "benchmarks", "--", "", "--", "--help", "\n\""] 3)
          ["bench", "--", "", "--", "--help", "\n\""]).calls
        = [⟨["bench", "--bench", "benchmarks", "--", "", "--", "--help", "\n\""], none⟩])
    ∧ (∀ first ∈ ["-hx", "-h"].head?, Flags.groups.PassedOn first)
    ∧ ofArguments .missing ["bench", "-hx", "-h"]
      = ofArguments .missing ["bench", "--", "-hx", "-h"]
  := by
  have present : Toolchain.failingOn
      ["bench", "--bench", "benchmarks", "--", "", "--", "--help", "\n\""] 3 ≠ .missing := by
    decide
  have passed : ∀ first ∈ ["-hx", "-h"].head?, Flags.groups.PassedOn first := by
    intro first mem
    obtain rfl := Option.some_inj.mp mem
    have run : ofBenchArguments ["-hx", "-h"] = .run (.bench ["-hx", "-h"]) := rfl
    exact ofBenchArguments_eq_iff.mp run
  obtain ⟨separated, unseparated⟩ := passed_on_unchanged
  use ⟨present, separated _ _ present⟩, passed
  apply (unseparated _).mpr passed

/-- Arguments that are none of the words are read as flags all the same: a group of letters asks for
help, and the long word with a value is a mistake. -/
theorem groups_and_values_are_not_passed_on :
  ("-hh" ∉ ["--", "-h", "--help"]
      ∧ ofArguments .succeeding ["bench", "-hh"] = ⟨0, [], []⟩
      ∧ ofArguments .succeeding ["bench", "-hh"] ≠ ofArguments .succeeding ["bench", "--", "-hh"])
    ∧ ("--help=" ∉ ["--", "-h", "--help"]
      ∧ ofArguments .succeeding ["bench", "--help="] = ⟨2, [], []⟩
      ∧ ofArguments .succeeding ["bench", "--help="]
        ≠ ofArguments .succeeding ["bench", "--", "--help="])
  := by
  decide

end Transcript

end NumericBytes
