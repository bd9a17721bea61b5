import NumericBytes.Task.Transcript
import NumericBytes.Proofs.Text.Printable
import Mathlib.Tactic.Use

/-!
# Where a task ends

The calls of a task are made in order up to the first that fails, and the transcript tells just
these calls (`StopsAtFirstFailure`).  One call is added in front of a list at a time
(`ofCalls_cons_of_succeeds`, `ofCalls_cons_of_fails`); that a whole list stops at its first failure
follows by induction on the list, and so for every task, whichever arguments ask for it.  What is
written is the log, one line for each entry (`pieces_text`).
-/

namespace NumericBytes

/-! ### Failures -/

/-- A call fails with a code: it is the call that the toolchain fails on, and the code with
which it exits is not `0`. -/
def Toolchain.Fails : Toolchain → Call → UInt8 → Prop
  | succeeding, _, _ => False
  | failingOn arguments code, call, reported =>
    call.arguments = arguments ∧ code ≠ 0 ∧ reported = code
  | missing, _, _ => False

/-- A call does not fail, with whatever code. -/
def Toolchain.Succeeds (toolchain : Toolchain) (call : Call) : Prop :=
  ∀ code, ¬ toolchain.Fails call code

/-- With a build tool, a call fails with the code with which it exits, or exits with `0`. -/
theorem Toolchain.outcome_cases
    {toolchain : Toolchain} (present : toolchain ≠ .missing) (call : Call) :
  (∃ code, toolchain.Fails call code ∧ code ≠ 0 ∧ toolchain.outcome call = .exited code)
    ∨ (toolchain.Succeeds call ∧ toolchain.outcome call = .exited 0)
  := by
  cases toolchain with
  | succeeding =>
    right
    constructor
    · intro code fails
      exact fails
    · rfl
  | failingOn arguments code =>
    by_cases same : call.arguments = arguments
    · by_cases zero : code = 0
      · right
        constructor
        · rintro reported ⟨-, nonzero, -⟩
          exact nonzero zero
        · rw [outcome, if_pos same, zero]
      · left
        use code, ⟨same, zero, rfl⟩, zero
        rw [outcome, if_pos same]
    · right
      constructor
      · rintro reported ⟨same', -⟩
        exact same same'
      · rw [outcome, if_neg same]
  | missing => contradiction

/-! ### Calls and plans -/

/-- A call is shown as the name of the build tool and its arguments, each after a space. -/
theorem Call.command_eq (call : Call) :
  call.command
    = "cargo" ++ String.join (call.arguments.map fun argument => " " ++ Text.Quoted.shown argument)
  := by
  -- The arguments are put one by one after any text.
  suffices ∀ text, call.arguments.foldl
      (fun text argument => text ++ " " ++ Text.Quoted.shown argument) text
      = text ++ String.join (call.arguments.map fun argument => " " ++ Text.Quoted.shown argument)
    from this "cargo"
  induction call.arguments with
  | nil => simp
  | cons argument arguments ih =>
    intro text
    rw [List.foldl_cons, ih, List.map_cons, String.join_cons, String.append_assoc,
      String.append_assoc, String.append_assoc]

/-- The only blanks of a call that is shown are spaces. -/
theorem Call.onlySpaces_command (call : Call) :
  Text.OnlySpaces call.command
  := by
  rw [command_eq]
  apply Text.OnlySpaces.append (by decide)
  apply Text.OnlySpaces.join
  rw [List.forall_mem_map]
  intro argument _
  apply Text.OnlySpaces.append (by decide) (Text.Quoted.onlySpaces_shown argument)

namespace Task

/-- A task has a first call. -/
theorem exists_plan_eq_cons (task : Task) :
  ∃ first rest, task.plan = first :: rest
  := by
  cases task <;> exact ⟨_, _, rfl⟩

end Task

namespace Transcript

/-! ### Up to the first failure -/

/-- A transcript of calls that are made in order up to the first that fails. -/
inductive StopsAtFirstFailure (toolchain : Toolchain) (calls : List Call) : Transcript → Prop where
  /-- No call fails, and each is made and logged. -/
  | completed (succeed : ∀ call ∈ calls, toolchain.Succeeds call) :
    StopsAtFirstFailure toolchain calls ⟨0, calls, calls.map echo⟩
  /-- A call fails after others that do not.  It is the last that is made, and its failure
  stands after the calls in the log. -/
  | stopped (before : List Call) (call : Call) (after : List Call) (code : UInt8)
      (split : calls = before ++ call :: after)
      (succeed : ∀ earlier ∈ before, toolchain.Succeeds earlier)
      (fails : toolchain.Fails call code) :
    StopsAtFirstFailure toolchain calls
      ⟨1, before ++ [call], (before ++ [call]).map echo ++ [exitedLine call code]⟩

/-- A call that succeeds is made and logged before the others. -/
theorem ofCalls_cons_of_succeeds
    {toolchain : Toolchain} {call : Call} (outcome : toolchain.outcome call = .exited 0)
    (calls : List Call) :
  ofCalls toolchain (call :: calls)
    = ⟨(ofCalls toolchain calls).exitCode, call :: (ofCalls toolchain calls).calls,
        echo call :: (ofCalls toolchain calls).log⟩
  := by
  rw [ofCalls, outcome]
  rfl

/-- No call is made after one that fails. -/
theorem ofCalls_cons_of_fails
    {toolchain : Toolchain} {call : Call} {code : UInt8}
    (outcome : toolchain.outcome call = .exited code) (nonzero : code ≠ 0) (calls : List Call) :
  ofCalls toolchain (call :: calls) = ⟨1, [call], [echo call, exitedLine call code]⟩
  := by
  rw [ofCalls, outcome]
  exact if_neg nonzero

/-- A call that succeeds does not change where the others stop. -/
theorem StopsAtFirstFailure.cons
    {toolchain : Toolchain} {call : Call} {calls : List Call} {transcript : Transcript}
    (succeeds : toolchain.Succeeds call)
    (stops : StopsAtFirstFailure toolchain calls transcript) :
  StopsAtFirstFailure toolchain (call :: calls)
    ⟨transcript.exitCode, call :: transcript.calls, echo call :: transcript.log⟩
  := by
  cases stops with
  | completed succeed =>
    exact completed (List.forall_mem_cons.mpr ⟨succeeds, succeed⟩)
  | stopped before failing after code split succeed fails =>
    apply stopped (call :: before) failing after code _ _ fails
    · rw [split]
      rfl
    · exact List.forall_mem_cons.mpr ⟨succeeds, succeed⟩

/-- With a build tool, calls are made up to the first that fails. -/
theorem ofCalls_stops {toolchain : Toolchain} (present : toolchain ≠ .missing) (calls : List Call) :
  StopsAtFirstFailure toolchain calls (ofCalls toolchain calls)
  := by
  induction calls with
  | nil =>
    apply StopsAtFirstFailure.completed
    simp
  | cons call calls ih =>
    rcases toolchain.outcome_cases present call with
      ⟨code, fails, nonzero, outcome⟩ | ⟨succeeds, outcome⟩
    · rw [ofCalls_cons_of_fails outcome nonzero]
      apply StopsAtFirstFailure.stopped [] call calls code rfl _ fails
      simp
    · rw [ofCalls_cons_of_succeeds outcome]
      exact ih.cons succeeds

/-- Without a build tool, the first call is logged and none is made. -/
theorem ofCalls_missing (call : Call) (calls : List Call) :
  ofCalls .missing (call :: calls) = ⟨1, [], [echo call, notFoundLine]⟩
  := by
  rfl

/-! ### Lines -/

theorem onlySpaces_echo (call : Call) :
  Text.OnlySpaces (echo call)
  := by
  apply Text.OnlySpaces.append (by decide) call.onlySpaces_command

theorem onlySpaces_exitedLine (call : Call) (code : UInt8) :
  Text.OnlySpaces (exitedLine call code)
  := by
  apply Text.OnlySpaces.append _ (Text.onlySpaces_repr code.toNat)
  apply Text.OnlySpaces.append _ (by decide)
  apply Text.OnlySpaces.append (by decide) call.onlySpaces_command

theorem onlySpaces_of_mem_map_echo (calls : List Call) :
  ∀ line ∈ calls.map echo, Text.OnlySpaces line
  := by
  rw [List.forall_mem_map]
  intro call _
  exact onlySpaces_echo call

/-- The only blanks in the entries of the log are spaces if calls are made up to the first that
fails. -/
theorem StopsAtFirstFailure.onlySpaces_of_mem_log
    {toolchain : Toolchain} {calls : List Call} {transcript : Transcript}
    (stops : StopsAtFirstFailure toolchain calls transcript) :
  ∀ line ∈ transcript.log, Text.OnlySpaces line
  := by
  cases stops with
  | completed => exact onlySpaces_of_mem_map_echo calls
  | stopped before call after code =>
    rw [List.forall_mem_append, List.forall_mem_singleton]
    use onlySpaces_of_mem_map_echo (before ++ [call])
    exact onlySpaces_exitedLine call code

/-- The only blanks in the entries of the log of a task are spaces. -/
theorem onlySpaces_of_mem_log (toolchain : Toolchain) (task : Task) :
  ∀ line ∈ (ofCalls toolchain task.plan).log, Text.OnlySpaces line
  := by
  by_cases missing : toolchain = .missing
  · obtain ⟨first, rest, plan⟩ := task.exists_plan_eq_cons
    rw [missing, plan, ofCalls_missing, List.forall_mem_cons, List.forall_mem_singleton]
    use onlySpaces_echo first
    decide
  · exact (ofCalls_stops missing task.plan).onlySpaces_of_mem_log

/-- The text that is written is cut at its line feeds into the entries of the log and an empty
rest. -/
theorem pieces_text {transcript : Transcript} (h : ∀ line ∈ transcript.log, Text.IsLine line) :
  Text.pieces transcript.text = transcript.log ++ [""]
  := Text.pieces_join h

/-! ### Tasks -/

end Transcript

end NumericBytes
