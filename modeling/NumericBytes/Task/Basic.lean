import NumericBytes.Text.Quoted

/-!
# Tasks

A `Task` is a chore of a developer, and its `plan` the list of calls of the build tool that
carry it out, in order.  `Call.command` is the text by which a call is shown.
-/

namespace NumericBytes

/-- One call of the build tool. -/
structure Call where
  arguments : List String
  /-- How many cases each randomised test is to try, if that is set. -/
  cases? : Option String
  deriving DecidableEq, Repr

/-- The text by which a call is shown. -/
def Call.command (call : Call) : String :=
  call.arguments.foldl (fun text argument => text ++ " " ++ Text.Quoted.shown argument) "cargo"

/-- A chore of a developer. -/
inductive Task where
  /-- Everything that has to pass before a change goes in. -/
  | ci
  /-- Format the code. -/
  | format
  /-- Build every combination of features. -/
  | build
  /-- Look for dubious code. -/
  | clippy
  /-- Run the tests. -/
  | test
  /-- Run the tests in an interpreter that checks memory accesses. -/
  | miri
  /-- Run the benchmarks, with further arguments for them. -/
  | bench (arguments : List String)
  deriving DecidableEq, Repr

namespace Task

/-- The calls of the build task. -/
def buildPlan : List Call :=
  [⟨["build", "--no-default-features"], none⟩,
    ⟨["build", "--all-targets", "--all-features"], none⟩]

/-- The calls of the task that looks for dubious code. -/
def clippyPlan : List Call :=
  [⟨["clippy", "--all-features", "--tests", "--benches"], none⟩,
    ⟨["clippy", "--no-default-features"], none⟩]

/-- The calls of the test task. -/
def testPlan : List Call :=
  [⟨["test", "--all-features"], none⟩, ⟨["test", "--no-default-features", "--lib"], none⟩]

/-- The calls that carry out a task, in order. -/
def plan : Task → List Call
  | ci => ⟨["fmt", "--check"], none⟩ :: (buildPlan ++ clippyPlan ++ testPlan)
  | format => [⟨["fmt", "--all"], none⟩]
  | build => buildPlan
  | clippy => clippyPlan
  | test => testPlan
  | miri => [⟨["+nightly", "miri", "test", "--all-features", "--lib"], some "16"⟩]
  | bench arguments => [⟨["bench", "--bench", "benchmarks", "--"] ++ arguments, none⟩]

end Task

end NumericBytes
