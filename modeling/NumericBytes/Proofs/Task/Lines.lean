import NumericBytes.Proofs.Task.Attempts

/-!
# Lines of the log

The logged text is cut at its line feeds into the entries of the log and an empty rest
(`pieces_text`).  Each call that is attempted is therefore on one line, whatever its arguments hold,
and a last line tells the failure, if there is one (`each_attempt_is_one_line`).
-/

namespace NumericBytes

namespace Transcript

/-! ### Entries of the log -/

/-- The line of a call begins with the prompt and the name of the build tool. -/
theorem exists_echo_eq (call : Call) :
  ∃ rest, echo call = "$ cargo" ++ rest
  := by
  have prompt : "$ cargo" = "$ " ++ "cargo" := by decide
  unfold echo
  rw [call.command_eq, prompt]
  use String.join (call.arguments.map fun argument => " " ++ Text.Quoted.shown argument)
  rw [String.append_assoc]

/-- The only blanks in the entries of the log are spaces, whatever the arguments. -/
theorem onlySpaces_of_mem_log_ofArguments (toolchain : Toolchain) (arguments : List String) :
  ∀ line ∈ (ofArguments toolchain arguments).log, Text.OnlySpaces line
  := by
  rw [ofArguments]
  cases CommandLine.ofArguments arguments with
  | run task => exact onlySpaces_of_mem_log toolchain task
  | help => exact List.forall_mem_nil _
  | mistake => exact List.forall_mem_nil _

/-- The blanks of the logged text are those of the entries of the log, and a line feed after
each. -/
theorem eq_of_isBlank {transcript : Transcript}
    (h : ∀ line ∈ transcript.log, Text.OnlySpaces line) {c : Char}
    (mem : c ∈ transcript.text.toList) (blank : Text.Quoted.isBlank c) :
  c = ' ' ∨ c = '\n'
  := by
  rw [text, String.toList_join, List.mem_flatMap] at mem
  obtain ⟨ended, hended, mem⟩ := mem
  obtain ⟨line, hline, rfl⟩ := List.mem_map.mp hended
  rw [String.toList_append, List.mem_append] at mem
  rcases mem with inside | lineFeed
  · left
    exact h line hline c inside blank
  · right
    simpa using lineFeed

/-- A report logs its calls and then, just if the program fails, an error. -/
theorem Reports.exists_errors {attempted : List Call} {transcript : Transcript}
    (reports : Reports attempted transcript) :
  ∃ errors, transcript.log = attempted.map echo ++ errors
    ∧ (transcript.exitCode = 1 → ∃ message, errors = ["Error: " ++ message])
    ∧ (transcript.exitCode ≠ 1 → errors = [])
  := by
  cases reports with
  | completed calls =>
    use []
    simp
  | failed calls message =>
    use ["Error: " ++ message], rfl
    constructor
    · intro _
      use message
    · intro fine
      contradiction

/-! ### Attempts -/

theorem calls_ofCommandLine {toolchain : Toolchain} (present : toolchain ≠ .missing)
    (commandLine : CommandLine) :
  (ofCommandLine toolchain commandLine).calls = toolchain.attempted commandLine.plan
  := by
  cases commandLine with
  | run task => exact calls_ofCalls present task.plan
  | help => rfl
  | mistake => rfl

/-- Cut at its line feeds, the text that is logged for arguments that are no mistake is one line for
each call that is attempted, and then, just if the program fails, an error.  The calls that are
attempted are those that are made, or the first one if there is no build tool, and a single one for
the benchmarks, whatever is passed on to them.  No other line feed is in the text, nor any blank
that is no space. -/
theorem each_attempt_is_one_line
    (toolchain : Toolchain) {arguments : List String}
    (accepted : CommandLine.ofArguments arguments ≠ .mistake) :
  ∃ (attempted : List Call) (errors : List String),
    (toolchain ≠ .missing → attempted = (ofArguments toolchain arguments).calls)
    ∧ (toolchain = .missing → attempted = (CommandLine.ofArguments arguments).plan.take 1)
    ∧ (∀ passed, CommandLine.ofArguments arguments = .run (.bench passed) → attempted.length = 1)
    ∧ Text.pieces (ofArguments toolchain arguments).text = attempted.map echo ++ errors ++ [""]
    ∧ (∀ call ∈ attempted, ∃ rest, echo call = "$ cargo" ++ rest)
    ∧ ((ofArguments toolchain arguments).exitCode = 1 → ∃ message, errors = ["Error: " ++ message])
    ∧ ((ofArguments toolchain arguments).exitCode ≠ 1 → errors = [])
    ∧ ∀ c ∈ (ofArguments toolchain arguments).text.toList, Text.Quoted.isBlank c →
      c = ' ' ∨ c = '\n'
  := by
  have reports := ofCommandLine_reports toolchain accepted
  obtain ⟨errors, log, failed, completed⟩ := reports.exists_errors
  have spaces := onlySpaces_of_mem_log_ofArguments toolchain arguments
  use toolchain.attempted (CommandLine.ofArguments arguments).plan, errors
  refine ⟨?_, ?_, ?_, ?_, ?_, failed, completed, ?_⟩
  · intro present
    symm
    apply calls_ofCommandLine present
  · rintro rfl
    apply Toolchain.attempted_missing
  · intro passed bench
    rw [bench]
    exact congrArg List.length (toolchain.attempted_singleton _)
  · rw [← log]
    apply pieces_text
    intro line mem
    exact (spaces line mem).isLine
  · intro call _
    exact exists_echo_eq call
  · intro c mem blank
    exact eq_of_isBlank spaces mem blank

/-- Arguments that imitate a call and an error on lines of their own stay on the line of the only
call that is attempted, in front of the only error. -/
theorem each_attempt_is_one_line_imitated :
  CommandLine.ofArguments ["bench", "--", "x\n$ cargo fmt\n", "Error:\r"] ≠ .mistake
    ∧ ∃ message, Text.pieces (ofArguments
        (.failingOn ["bench", "--bench", "benchmarks", "--", "x\n$ cargo fmt\n", "Error:\r"] 7)
        ["bench", "--", "x\n$ cargo fmt\n", "Error:\r"]).text
      = ["$ cargo bench --bench benchmarks -- \"x\\n$ cargo fmt\\n\" \"Error:\\r\"",
          "Error: " ++ message, ""]
  := by
  have accepted : CommandLine.ofArguments ["bench", "--", "x\n$ cargo fmt\n", "Error:\r"]
      ≠ .mistake := by
    decide
  have present : Toolchain.failingOn
      ["bench", "--bench", "benchmarks", "--", "x\n$ cargo fmt\n", "Error:\r"] 7 ≠ .missing := by
    decide
  obtain ⟨attempted, errors, made, -, -, pieces, -, failed, -, -⟩ := each_attempt_is_one_line
    (.failingOn ["bench", "--bench", "benchmarks", "--", "x\n$ cargo fmt\n", "Error:\r"] 7) accepted
  obtain ⟨message, rfl⟩ := failed rfl
  use accepted, message
  rw [pieces, made present]
  rfl

end Transcript

end NumericBytes
