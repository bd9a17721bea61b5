import NumericBytes.Proofs.Task.Attempts
import NumericBytes.Proofs.Task.Flags

/-!
# The grammar of the command line

The command lines that run a task and those that ask for help are two families of lists of
arguments, `Runs` and `AsksForHelp`, and every other list is a mistake.  Both families depend on
which arguments are read as flags (`Flags`): the program reads groups of letters besides the
words `-h` and `--help` (`Flags.groups`).  `ofArguments_eq_run_iff` and `ofArguments_eq_help_iff`
say that the arguments are read by this grammar, whatever they are.
-/

namespace NumericBytes

/-- The name of a task that takes no arguments. -/
def Task.plainName? : Task → Option String
  | ci => some "ci"
  | format => some "format"
  | build => some "build"
  | clippy => some "clippy"
  | test => some "test"
  | miri => some "miri"
  | bench _ => none

namespace CommandLine

/-! ### The grammar -/

/-- The arguments that run a task. -/
inductive Runs (flags : Flags) : List String → Task → Prop where
  | nothing : Runs flags [] .ci
  | separator : Runs flags ["--"] .ci
  | plain {name : String} {task : Task} (named : task.plainName? = some name) :
    Runs flags [name] task
  | plainSeparator {name : String} {task : Task} (named : task.plainName? = some name) :
    Runs flags [name, "--"] task
  | bench : Runs flags ["bench"] (.bench [])
  | benchSeparator (passed : List String) : Runs flags ("bench" :: "--" :: passed) (.bench passed)
  | benchPassed {first : String} (rest : List String) (passed : flags.PassedOn first) :
    Runs flags ("bench" :: first :: rest) (.bench (first :: rest))

/-- The arguments that ask for help. -/
inductive AsksForHelp (flags : Flags) : List String → Prop where
  | flag {first : String} (rest : List String) (help : flags.Help first) :
    AsksForHelp flags (first :: rest)
  | plain {name : String} {task : Task} (named : task.plainName? = some name) {first : String}
      (rest : List String) (help : flags.Help first) :
    AsksForHelp flags (name :: first :: rest)
  | bench {first : String} (rest : List String) (help : flags.BenchHelp first) :
    AsksForHelp flags ("bench" :: first :: rest)
  | word : AsksForHelp flags ["help"]
  | wordName {name : String}
      (listed : name ∈ ["ci", "format", "build", "clippy", "test", "miri", "bench", "help"]) :
    AsksForHelp flags ["help", name]

/-! ### Names -/

theorem plainTask?_eq_some_iff {name : String} {task : Task} :
  plainTask? name = some task ↔ task.plainName? = some name
  := by
  constructor
  · intro found
    obtain ⟨before, after, table, -⟩ := List.lookup_eq_some_iff.mp found
    have listed : (name, task) ∈ before ++ (name, task) :: after := by simp
    rw [← table] at listed
    simp only [List.mem_cons, Prod.mk.injEq, List.not_mem_nil, or_false] at listed
    rcases listed with ⟨rfl, rfl⟩ | ⟨rfl, rfl⟩ | ⟨rfl, rfl⟩ | ⟨rfl, rfl⟩ | ⟨rfl, rfl⟩ | ⟨rfl, rfl⟩
      <;> rfl
  · intro named
    cases task <;> cases named <;> rfl

theorem isSubcommand_iff {name : String} :
  isSubcommand name
    ↔ name ∈ ["ci", "format", "build", "clippy", "test", "miri", "bench", "help"]
  := by
  constructor
  · intro subcommand
    rw [isSubcommand, Bool.or_eq_true, Bool.or_eq_true, beq_iff_eq, beq_iff_eq,
      Option.isSome_iff_exists] at subcommand
    rcases subcommand with (⟨task, found⟩ | rfl) | rfl
    · have named := plainTask?_eq_some_iff.mp found
      cases task <;> cases named <;> decide
    · decide
    · decide
  · have all : ∀ name ∈ ["ci", "format", "build", "clippy", "test", "miri", "bench", "help"],
        isSubcommand name := by decide
    exact all name

/-! ### Arguments as they are read -/

/-- A flag in front of everything else asks for help. -/
theorem ofArguments_flag {first : String} (help : Flags.groups.Help first) (rest : List String) :
  ofArguments (first :: rest) = .help
  := by
  have begins := beginsWithHelp_iff.mpr help
  have not_separator : first ≠ "--" := by
    rintro rfl
    contradiction
  simp [ofArguments, not_separator, begins]

theorem ofArguments_plain
    {name : String} {task : Task} (named : task.plainName? = some name) (rest : List String) :
  ofArguments (name :: rest) = ofPlainArguments task rest
  := by
  cases task <;> cases named <;> cases rest <;> rfl

theorem ofArguments_bench (rest : List String) :
  ofArguments ("bench" :: rest) = ofBenchArguments rest
  := by
  cases rest <;> rfl

theorem ofArguments_help (rest : List String) :
  ofArguments ("help" :: rest) = ofHelpArguments rest
  := by
  cases rest <;> rfl

/-- A flag after a task without arguments asks for help. -/
theorem ofPlainArguments_flag
    (task : Task) {first : String} (help : Flags.groups.Help first) (rest : List String) :
  ofPlainArguments task (first :: rest) = .help
  := by
  have begins := beginsWithHelp_iff.mpr help
  have not_separator : first ≠ "--" := by
    rintro rfl
    contradiction
  simp [ofPlainArguments, not_separator, begins]

theorem ofBenchArguments_flag
    {first : String} (help : Flags.groups.BenchHelp first) (rest : List String) :
  ofBenchArguments (first :: rest) = .help
  := by
  rw [ofBenchArguments, if_pos (isHelpFlag_iff.mpr help)]

/-- The separator in front of the arguments of the benchmarks is not passed on. -/
theorem ofBenchArguments_separator (rest : List String) :
  ofBenchArguments ("--" :: rest) = .run (.bench rest)
  := by
  rfl

/-- The arguments after `bench` are passed on just if the first of them is. -/
theorem ofBenchArguments_eq_iff {first : String} {rest : List String} :
  ofBenchArguments (first :: rest) = .run (.bench (first :: rest)) ↔ Flags.groups.PassedOn first
  := by
  constructor
  · intro run
    rw [ofBenchArguments] at run
    split_ifs at run with help mistake separator
    · simp [separator] at run
    · constructor
      · exact separator
      · exact isHelpFlag_iff.not.mp help
      · exact isHelpWithValue_iff.not.mp mistake
  · intro passed
    rw [ofBenchArguments, if_neg (isHelpFlag_iff.not.mpr passed.not_help),
      if_neg (isHelpWithValue_iff.not.mpr passed.not_mistake), if_neg passed.not_separator]

/-! ### Reading by the grammar -/

variable {arguments : List String} {task : Task}

theorem ofArguments_of_runs (runs : Runs .groups arguments task) :
  ofArguments arguments = .run task
  := by
  cases runs with
  | nothing => rfl
  | separator => rfl
  | plain named => rw [ofArguments_plain named, ofPlainArguments]
  | plainSeparator named => rw [ofArguments_plain named, ofPlainArguments]
  | bench => rfl
  | benchSeparator passed => rw [ofArguments_bench, ofBenchArguments_separator]
  | benchPassed rest passed => rw [ofArguments_bench, ofBenchArguments_eq_iff.mpr passed]

theorem ofArguments_of_asksForHelp (asks : AsksForHelp .groups arguments) :
  ofArguments arguments = .help
  := by
  cases asks with
  | flag rest help => exact ofArguments_flag help rest
  | plain named rest help => rw [ofArguments_plain named, ofPlainArguments_flag _ help]
  | bench rest help => rw [ofArguments_bench, ofBenchArguments_flag help]
  | word => rfl
  | wordName listed =>
    rw [ofArguments_help, ofHelpArguments, if_pos (isSubcommand_iff.mpr listed)]

/-- The arguments after a task without arguments are none, a flag or a mistake. -/
theorem plain_cases
    {name : String} (named : task.plainName? = some name) (rest : List String) :
  Runs .groups (name :: rest) task ∨ AsksForHelp .groups (name :: rest)
    ∨ ofPlainArguments task rest = .mistake
  := by
  fun_cases ofPlainArguments task rest with
  | case1 => exact .inl (.plain named)
  | case2 => exact .inl (.plainSeparator named)
  | case3 first rest _ help => exact .inr (.inl (.plain named rest (beginsWithHelp_iff.mp help)))
  | case4 first rest _ other => exact .inr (.inr rfl)

/-- The arguments after `bench` are passed on, unless a flag stands in front of them. -/
theorem bench_cases (rest : List String) :
  (∃ task, Runs .groups ("bench" :: rest) task) ∨ AsksForHelp .groups ("bench" :: rest)
    ∨ ofBenchArguments rest = .mistake
  := by
  fun_cases ofBenchArguments rest with
  | case1 => exact .inl ⟨_, .bench⟩
  | case2 first rest help => exact .inr (.inl (.bench rest (isHelpFlag_iff.mp help)))
  | case3 first rest _ mistake => exact .inr (.inr rfl)
  | case4 rest => exact .inl ⟨_, .benchSeparator rest⟩
  | case5 first rest help mistake separator =>
    have run : ofBenchArguments (first :: rest) = .run (.bench (first :: rest)) := by
      rw [ofBenchArguments, if_neg help, if_neg mistake, if_neg separator]
    exact .inl ⟨_, .benchPassed rest (ofBenchArguments_eq_iff.mp run)⟩

/-- The arguments after `help` are none, the name of a subcommand or a mistake. -/
theorem help_cases (rest : List String) :
  AsksForHelp .groups ("help" :: rest) ∨ ofHelpArguments rest = .mistake
  := by
  fun_cases ofHelpArguments rest with
  | case1 => exact .inl .word
  | case2 name listed => exact .inl (.wordName (isSubcommand_iff.mp listed))
  | case3 name unlisted => exact .inr rfl
  | case4 => exact .inr rfl

/-- Arguments that neither run a task nor ask for help are a mistake. -/
theorem ofArguments_cases (arguments : List String) :
  (∃ task, Runs .groups arguments task) ∨ AsksForHelp .groups arguments
    ∨ ofArguments arguments = .mistake
  := by
  fun_cases ofArguments arguments with
  | case1 => exact .inl ⟨_, .nothing⟩
  | case2 => exact .inl ⟨_, .separator⟩
  | case3 first rest _ help => exact .inr (.inl (.flag rest (beginsWithHelp_iff.mp help)))
  | case4 rest => exact .inr (help_cases rest)
  | case5 rest => exact bench_cases rest
  | case6 first rest _ _ _ _ task found =>
    rcases plain_cases (plainTask?_eq_some_iff.mp found) rest with runs | other
    · exact .inl ⟨task, runs⟩
    · exact .inr other
  | case7 => exact .inr (.inr rfl)

theorem ofArguments_eq_run_iff :
  ofArguments arguments = .run task ↔ Runs .groups arguments task
  := by
  constructor
  · intro run
    rcases ofArguments_cases arguments with ⟨task', runs⟩ | asks | mistake
    · rw [ofArguments_of_runs runs] at run
      cases run
      exact runs
    · rw [ofArguments_of_asksForHelp asks] at run
      contradiction
    · rw [mistake] at run
      contradiction
  · exact ofArguments_of_runs

theorem ofArguments_eq_help_iff :
  ofArguments arguments = .help ↔ AsksForHelp .groups arguments
  := by
  constructor
  · intro help
    rcases ofArguments_cases arguments with ⟨task, runs⟩ | asks | mistake
    · rw [ofArguments_of_runs runs] at help
      contradiction
    · exact asks
    · rw [mistake] at help
      contradiction
  · exact ofArguments_of_asksForHelp

end CommandLine

namespace Transcript

/-! ### Answers -/

open CommandLine

variable {arguments : List String}

/-- A task is asked for by the grammar, and then its calls are attempted. -/
theorem attempts_of_runs
    (toolchain : Toolchain) {task : Task} (runs : Runs .groups arguments task) :
  (ofArguments toolchain arguments).Attempts
  := by
  obtain ⟨first, rest, plan⟩ := task.exists_plan_eq_cons
  rw [ofArguments, ofArguments_of_runs runs, ofCommandLine, plan]
  apply (ofCalls_reports toolchain (first :: rest)).attempts
  apply toolchain.mem_attempted_cons

theorem exitCode_ne_of_runs
    (toolchain : Toolchain) {task : Task} (runs : Runs .groups arguments task) :
  (ofArguments toolchain arguments).exitCode ≠ 2
  := by
  rw [ofArguments, ofArguments_of_runs runs]
  apply (ofCalls_reports toolchain task.plan).exitCode_ne

/-- Unless a task is run nothing is done, whatever the build tool, and the exit code tells help
from a mistake. -/
theorem exists_ofArguments_of_idle (idle : ¬ ∃ task, Runs .groups arguments task) :
  ∃ code, (∀ toolchain, ofArguments toolchain arguments = ⟨code, [], []⟩)
    ∧ (code = 0 ↔ AsksForHelp .groups arguments) ∧ (code = 2 ↔ ¬ AsksForHelp .groups arguments)
  := by
  rcases ofArguments_cases arguments with runs | asks | mistake
  · contradiction
  · use 0
    refine ⟨?_, iff_of_true rfl asks, iff_of_false (by decide) (not_not_intro asks)⟩
    intro toolchain
    rw [ofArguments, ofArguments_of_asksForHelp asks]
    rfl
  · have unasked : ¬ AsksForHelp .groups arguments := by
      rw [← ofArguments_eq_help_iff, mistake]
      simp only [reduceCtorEq, not_false_eq_true]
    use 2
    refine ⟨?_, iff_of_false (by decide) unasked, iff_of_true rfl unasked⟩
    intro toolchain
    rw [ofArguments, mistake]
    rfl

theorem not_attempts_of_log {transcript : Transcript} (empty : transcript.log = []) :
  ¬ transcript.Attempts
  := by
  rintro ⟨call, logged⟩
  rw [empty] at logged
  contradiction

/-- The arguments are read by the grammar in which flags come in groups: a call is attempted for
those that run a task, and just its plan is carried out; the program ends well and silently for
those that ask for help; and it ends with `2` for all others.  Unless a task is run, no call is
made, and the answer does not depend on the build tool. -/
theorem obeys_grammar (toolchain : Toolchain) (arguments : List String) :
  ((ofArguments toolchain arguments).Attempts ↔ ∃ task, Runs .groups arguments task)
    ∧ ((ofArguments toolchain arguments).exitCode = 0 ∧ (ofArguments toolchain arguments).text = ""
      ↔ AsksForHelp .groups arguments)
    ∧ ((ofArguments toolchain arguments).exitCode = 2
      ↔ (¬ ∃ task, Runs .groups arguments task) ∧ ¬ AsksForHelp .groups arguments)
    ∧ (∀ task, Runs .groups arguments task →
        ofArguments toolchain arguments = ofCalls toolchain task.plan)
    ∧ ((¬ ∃ task, Runs .groups arguments task) →
        (ofArguments toolchain arguments).calls = []
          ∧ ∀ other, ofArguments other arguments = ofArguments toolchain arguments)
  := by
  by_cases running : ∃ task, Runs .groups arguments task
  · obtain ⟨task, runs⟩ := running
    have attempts := attempts_of_runs toolchain runs
    have unasked : ¬ AsksForHelp .groups arguments := by
      rw [← ofArguments_eq_help_iff, ofArguments_of_runs runs]
      simp only [reduceCtorEq, not_false_eq_true]
    refine ⟨?_, ?_, ?_, ?_, ?_⟩
    · exact iff_of_true attempts ⟨task, runs⟩
    · exact iff_of_false (fun silent => attempts.text_ne_empty silent.2) unasked
    · exact iff_of_false (exitCode_ne_of_runs toolchain runs) (fun idle => idle.1 ⟨task, runs⟩)
    · intro task' runs'
      rw [ofArguments, ofArguments_of_runs runs']
      rfl
    · intro idle
      exact absurd ⟨task, runs⟩ idle
  · obtain ⟨code, answers, help, mistake⟩ := exists_ofArguments_of_idle running
    rw [answers toolchain]
    refine ⟨?_, ?_, ?_, ?_, ?_⟩
    · exact iff_of_false (not_attempts_of_log rfl) running
    · rw [← help]
      exact and_iff_left rfl
    · rw [mistake, and_iff_right running]
    · intro task runs
      exact absurd ⟨task, runs⟩ running
    · intro _
      use rfl, answers

/-- A group of letters that is not only made of that of help is passed on to the benchmarks, and
asks for help in front of a task, whether there is a build tool or not. -/
theorem obeys_grammar_groups :
  (Runs .groups ["bench", "-hx"] (.bench ["-hx"])
      ∧ ofArguments .missing ["bench", "-hx"] = ofCalls .missing (Task.bench ["-hx"]).plan)
    ∧ (¬ ∃ task, Runs .groups ["-hx", "ci"] task)
    ∧ (ofArguments .missing ["-hx", "ci"]).calls = []
    ∧ ofArguments .succeeding ["-hx", "ci"] = ofArguments .missing ["-hx", "ci"]
  := by
  have runs : Runs .groups ["bench", "-hx"] (.bench ["-hx"]) := ofArguments_eq_run_iff.mp rfl
  have idle : ¬ ∃ task, Runs .groups ["-hx", "ci"] task := by
    rintro ⟨task, runs⟩
    have run := ofArguments_of_runs runs
    contradiction
  obtain ⟨-, -, -, carried, -⟩ := obeys_grammar .missing ["bench", "-hx"]
  obtain ⟨-, -, -, -, unchanged⟩ := obeys_grammar .missing ["-hx", "ci"]
  use ⟨runs, carried _ runs⟩, idle, (unchanged idle).1
  apply (unchanged idle).2

/-- The words are not the only flags: by their grammar a group of letters in front of everything
else is a mistake, but the program ends well, and a group or a word with a value is passed on to
the benchmarks, but no call is attempted. -/
theorem words_are_not_the_only_flags :
  ((¬ ∃ task, Runs .words ["-hh"] task) ∧ ¬ AsksForHelp .words ["-hh"]
      ∧ (ofArguments .succeeding ["-hh"]).exitCode = 0)
    ∧ (Runs .words ["bench", "-hh"] (.bench ["-hh"])
      ∧ ¬ (ofArguments .succeeding ["bench", "-hh"]).Attempts)
    ∧ (Runs .words ["bench", "--help="] (.bench ["--help="])
      ∧ ¬ (ofArguments .succeeding ["bench", "--help="]).Attempts)
  := by
  have passed (first : String) (separator : first ≠ "--") (short : first ≠ "-h")
      (long : first ≠ "--help") : Flags.words.PassedOn first :=
    ⟨separator, not_or_intro short long, not_false⟩
  refine ⟨⟨?_, ?_, rfl⟩, ⟨?_, not_attempts_of_log rfl⟩, ?_, not_attempts_of_log rfl⟩
  · rintro ⟨task, runs⟩
    generalize group : ["-hh"] = arguments at runs
    cases runs with
    | plain named =>
      obtain rfl := List.singleton_inj.mp group
      cases task <;> simp [Task.plainName?] at named
    | _ => simp at group
  · intro asks
    generalize group : ["-hh"] = arguments at asks
    cases asks with
    | flag rest help =>
      obtain ⟨rfl, -⟩ := List.cons.inj group
      simp [Flags.words] at help
    | _ => simp at group
  · exact .benchPassed [] (passed "-hh" (by decide) (by decide) (by decide))
  · exact .benchPassed [] (passed "--help=" (by decide) (by decide) (by decide))

end Transcript

end NumericBytes
