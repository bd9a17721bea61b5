import NumericBytes.Task.Basic

/-!
# The command line

`CommandLine.ofArguments` reads the arguments of the program: which task to carry out, a
wish for help, or a mistake.  The first argument names a task, no argument means `ci`, and
only `bench` takes arguments of its own.  The only flags are `-h` and `--help`.  Where short
flags must stand, a group of them asks for help if it begins with `-h`; as the first argument
of `bench` it does so only if it consists of that flag, and any other group is passed on.
-/

namespace NumericBytes

/-- What the arguments of the program ask for. -/
inductive CommandLine where
  | run (task : Task)
  | help
  | mistake
  deriving DecidableEq, Repr

namespace CommandLine

/-! ### Flags -/

/-- The letters of a group of short flags, which follow a single hyphen. -/
def shortFlags? (argument : String) : Option (List Char) :=
  match argument.toList with
  | '-' :: '-' :: _ => none
  | '-' :: letter :: letters => some (letter :: letters)
  | _ => none

/-- Whether an argument that can only be a flag asks for help.  A group of short flags does so by
its first letter, since help is given before the next one is looked at. -/
def beginsWithHelp (argument : String) : Bool :=
  argument == "--help" || (shortFlags? argument).any fun letters => letters.head? == some 'h'

/-- Whether an argument that is passed on unless it is a flag asks for help.  A group of short
flags does so if each of its letters is that of a flag. -/
def isHelpFlag (argument : String) : Bool :=
  argument == "--help" || (shortFlags? argument).any fun letters => letters.all (· == 'h')

/-- Whether an argument gives a value to `--help`, which takes none: a mistake where flags may
stand. -/
def isHelpWithValue (argument : String) : Bool :=
  "--help=".toList.isPrefixOf argument.toList

example : beginsWithHelp "-hx" ∧ isHelpFlag "-hh" ∧ ¬ isHelpFlag "-hx" := by decide

/-! ### Tasks and their arguments -/

/-- The task of a given name, if it is one without arguments. -/
def plainTask? (name : String) : Option Task :=
  [("ci", Task.ci), ("format", .format), ("build", .build), ("clippy", .clippy),
    ("test", .test), ("miri", .miri)].lookup name

/-- Whether a name may follow the word `help`. -/
def isSubcommand (name : String) : Bool :=
  (plainTask? name).isSome || name == "bench" || name == "help"

/-- What is asked for by the arguments after the name of a task that takes none. -/
def ofPlainArguments (task : Task) : List String → CommandLine
  | [] => run task
  | ["--"] => run task
  | argument :: _ => if beginsWithHelp argument then help else mistake

/-- What is asked for by the arguments after `bench`; a leading `--` is not passed on. -/
def ofBenchArguments : List String → CommandLine
  | [] => run (.bench [])
  | argument :: arguments =>
    if isHelpFlag argument then help
    else if isHelpWithValue argument then mistake
    else if argument = "--" then run (.bench arguments)
    else run (.bench (argument :: arguments))

/-- What is asked for by the arguments after `help`. -/
def ofHelpArguments : List String → CommandLine
  | [] => help
  | [name] => if isSubcommand name then help else mistake
  | _ => mistake

/-- What the arguments of the program ask for. -/
def ofArguments : List String → CommandLine
  | [] => run .ci
  | ["--"] => run .ci
  | argument :: arguments =>
    if beginsWithHelp argument then help
    else if argument = "help" then ofHelpArguments arguments
    else if argument = "bench" then ofBenchArguments arguments
    else match plainTask? argument with
      | some task => ofPlainArguments task arguments
      | none => mistake

end CommandLine

end NumericBytes
