import NumericBytes.Proofs.Task.FirstFailure

/-!
# Attempted calls

Calls are attempted in order up to the first that does not succeed (`Toolchain.attempted`): with a
build tool these are the calls that are made, and without one it is the first that was planned.
The log tells just these calls, one after the other, and then the failure, if there is one
(`Transcript.Reports`, `ofCalls_reports`).
-/

namespace NumericBytes

/-- The calls that are attempted, in order up to the first that does not succeed. -/
def Toolchain.attempted (toolchain : Toolchain) : List Call → List Call
  | [] => []
  | call :: calls =>
    if toolchain.outcome call = .exited 0 then call :: toolchain.attempted calls else [call]

/-- The calls that carry out what a command line asks for. -/
def CommandLine.plan : CommandLine → List Call
  | run task => task.plan
  | help => []
  | mistake => []

namespace Toolchain

/-- The first of the calls is attempted. -/
theorem mem_attempted_cons (toolchain : Toolchain) (call : Call) (calls : List Call) :
  call ∈ toolchain.attempted (call :: calls)
  := by
  rw [attempted]
  split_ifs
  · apply List.mem_cons_self
  · apply List.mem_singleton_self

/-- A single call is attempted in any case. -/
theorem attempted_singleton (toolchain : Toolchain) (call : Call) :
  toolchain.attempted [call] = [call]
  := by
  rw [attempted]
  apply ite_self

/-- Without a build tool, the first call is the only one that is attempted. -/
theorem attempted_missing (calls : List Call) :
  missing.attempted calls = calls.take 1
  := by
  cases calls with
  | nil => rfl
  | cons call calls => rfl

end Toolchain

namespace Transcript

/-- With a build tool, the calls that are attempted are those that are made. -/
theorem calls_ofCalls {toolchain : Toolchain} (present : toolchain ≠ .missing) (calls : List Call) :
  (ofCalls toolchain calls).calls = toolchain.attempted calls
  := by
  induction calls with
  | nil => rfl
  | cons call calls ih =>
    rw [Toolchain.attempted]
    rcases toolchain.outcome_cases present call with ⟨code, -, nonzero, outcome⟩ | ⟨-, outcome⟩
    · rw [ofCalls_cons_of_fails outcome nonzero, outcome, if_neg]
      simpa using nonzero
    · rw [ofCalls_cons_of_succeeds outcome, ih, if_pos outcome]

/-- A call has been attempted: it is logged, whether it was made or not. -/
def Attempts (transcript : Transcript) : Prop :=
  ∃ call, echo call ∈ transcript.log

/-- What is attempted leaves a text. -/
theorem Attempts.text_ne_empty {transcript : Transcript} (attempts : transcript.Attempts) :
  transcript.text ≠ ""
  := by
  obtain ⟨call, logged⟩ := attempts
  intro empty
  have characters : '\n' ∈ transcript.text.toList := by
    rw [text, String.toList_join, List.mem_flatMap]
    use echo call ++ "\n", List.mem_map_of_mem logged
    simp
  rw [empty] at characters
  contradiction

/-! ### Reports -/

/-- A transcript that logs the calls that were attempted, one after the other, and in a last line
the failure, if the program fails. -/
inductive Reports (attempted : List Call) : Transcript → Prop where
  | completed (calls : List Call) : Reports attempted ⟨0, calls, attempted.map echo⟩
  | failed (calls : List Call) (message : String) :
    Reports attempted ⟨1, calls, attempted.map echo ++ ["Error: " ++ message]⟩

/-- A call that is logged before the others is reported with them. -/
theorem Reports.cons {attempted : List Call} {transcript : Transcript}
    (reports : Reports attempted transcript) (call : Call) :
  Reports (call :: attempted)
    ⟨transcript.exitCode, call :: transcript.calls, echo call :: transcript.log⟩
  := by
  cases reports with
  | completed calls => exact completed (call :: calls)
  | failed calls message => exact failed (call :: calls) message

/-- A call that is reported has been attempted. -/
theorem Reports.attempts {attempted : List Call} {transcript : Transcript}
    (reports : Reports attempted transcript) {call : Call} (mem : call ∈ attempted) :
  transcript.Attempts
  := by
  have logged : echo call ∈ attempted.map echo := List.mem_map_of_mem mem
  use call
  cases reports with
  | completed calls => exact logged
  | failed calls message => exact List.mem_append_left _ logged

/-- A report is no mistake. -/
theorem Reports.exitCode_ne {attempted : List Call} {transcript : Transcript}
    (reports : Reports attempted transcript) :
  transcript.exitCode ≠ 2
  := by
  cases reports <;> simp

/-- A call that exited with a code other than `0` is an error. -/
theorem exitedLine_eq (call : Call) (code : UInt8) :
  exitedLine call code
    = "Error: " ++ ("command exited with non-zero code `" ++ call.command ++ "`: "
        ++ code.toNat.repr)
  := by
  have prefixed : "Error: command exited with non-zero code `"
      = "Error: " ++ "command exited with non-zero code `" := by decide
  unfold exitedLine
  rw [prefixed]
  simp only [String.append_assoc]

/-- A build tool that is not found is an error. -/
theorem notFoundLine_eq :
  notFoundLine = "Error: " ++ "command not found: `cargo`"
  := by
  decide

/-- The transcript of calls reports those that are attempted. -/
theorem ofCalls_reports (toolchain : Toolchain) (calls : List Call) :
  Reports (toolchain.attempted calls) (ofCalls toolchain calls)
  := by
  induction calls with
  | nil => exact .completed []
  | cons call calls ih =>
    rw [Toolchain.attempted]
    cases outcome : toolchain.outcome call with
    | notFound =>
      rw [ofCalls, outcome, notFoundLine_eq]
      exact .failed [] _
    | exited code =>
      by_cases zero : code = 0
      · rw [zero] at outcome ⊢
        rw [ofCalls_cons_of_succeeds outcome, if_pos rfl]
        exact ih.cons call
      · rw [ofCalls_cons_of_fails outcome zero, if_neg (by simpa using zero), exitedLine_eq]
        exact .failed [call] _

/-- The transcript of what a command line asks for reports the calls that are attempted, unless
the command line is a mistake. -/
theorem ofCommandLine_reports (toolchain : Toolchain) {commandLine : CommandLine}
    (accepted : commandLine ≠ .mistake) :
  Reports (toolchain.attempted commandLine.plan) (ofCommandLine toolchain commandLine)
  := by
  cases commandLine with
  | run task => exact ofCalls_reports toolchain task.plan
  | help => exact .completed []
  | mistake => contradiction

end Transcript

end NumericBytes
