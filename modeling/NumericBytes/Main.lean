import NumericBytes.Task.Transcript

/-!
# The program

The program rehearses a task: it logs to standard error the calls that carry the task out, as
they are when every one of them succeeds, and makes none of them.
-/

/-- Rehearses the task that the arguments ask for. -/
def main (arguments : List String) : IO UInt32 := do
  let usage := "Usage: task [ci | format | build | clippy | test | miri | bench [ARGUMENT...] | help]"
  match NumericBytes.CommandLine.ofArguments arguments with
  | .help => IO.println usage
  | .mistake => IO.eprintln usage
  | .run _ => pure ()
  let transcript := NumericBytes.Transcript.ofArguments .succeeding arguments
  IO.eprint transcript.text
  return transcript.exitCode.toUInt32
