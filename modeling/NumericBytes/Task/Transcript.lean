import NumericBytes.Task.CommandLine

/-!
# Transcripts

A `Toolchain` says how calls of the build tool end.  A `Transcript` is what a run of the
program leaves behind: its exit code, the calls that were made, and the lines that it logged.
Calls are made in order up to the first that does not succeed; each is logged before it is
made, and a failure in a last line.
-/

namespace NumericBytes

/-- How a call of the build tool ends. -/
inductive CallOutcome where
  /-- The tool ran and exited with a code. -/
  | exited (code : UInt8)
  /-- There is no such tool. -/
  | notFound
  deriving DecidableEq, Repr

/-- How calls of the build tool end. -/
inductive Toolchain where
  /-- Every call succeeds. -/
  | succeeding
  /-- The call with just these arguments exits with a code, and every other call succeeds. -/
  | failingOn (arguments : List String) (code : UInt8)
  /-- There is no build tool. -/
  | missing
  deriving DecidableEq, Repr

/-- How a call ends. -/
def Toolchain.outcome : Toolchain → Call → CallOutcome
  | succeeding, _ => .exited 0
  | failingOn arguments code, call => .exited (if call.arguments = arguments then code else 0)
  | missing, _ => .notFound

/-- What a run of the program leaves behind. -/
structure Transcript where
  exitCode : UInt8
  calls : List Call
  log : List String
  deriving DecidableEq, Repr

namespace Transcript

/-- The line that is logged before a call. -/
def echo (call : Call) : String := "$ " ++ call.command

/-- The last line after a call that exited with a code other than `0`. -/
def exitedLine (call : Call) (code : UInt8) : String :=
  "Error: command exited with non-zero code `" ++ call.command ++ "`: " ++ code.toNat.repr

/-- The last line when there is no build tool. -/
def notFoundLine : String := "Error: command not found: `cargo`"

/-- The transcript of a list of calls. -/
def ofCalls (toolchain : Toolchain) : List Call → Transcript
  | [] => ⟨0, [], []⟩
  | call :: calls =>
    match toolchain.outcome call with
    | .notFound => ⟨1, [], [echo call, notFoundLine]⟩
    | .exited code =>
      if code = 0 then
        let rest := ofCalls toolchain calls
        ⟨rest.exitCode, call :: rest.calls, echo call :: rest.log⟩
      else ⟨1, [call], [echo call, exitedLine call code]⟩

/-- The transcript of what a command line asks for. -/
def ofCommandLine (toolchain : Toolchain) : CommandLine → Transcript
  | .run task => ofCalls toolchain task.plan
  | .help => ⟨0, [], []⟩
  | .mistake => ⟨2, [], []⟩

/-- The transcript of the program with the given arguments. -/
def ofArguments (toolchain : Toolchain) (arguments : List String) : Transcript :=
  ofCommandLine toolchain (CommandLine.ofArguments arguments)

/-- The logged text. -/
def text (transcript : Transcript) : String :=
  String.join (transcript.log.map fun line => line ++ "\n")

end Transcript

end NumericBytes
