import BlockFolding.CommandLine
import BlockFolding.Run

/-
  The program

  The program reads its arguments, adds what the environment switches on, and runs on the sample
  text. What it prints and how it ends is a function of the arguments and the environment; the
  log goes to the error output and bears on nothing else.
-/

namespace BlockFolding.Program

/-- How the program ends and what it prints. -/
structure Exit where
  code : Nat
  output : String
  errors : String
  deriving DecidableEq, Repr

def help : String := "\n".intercalate [
  "Finds large dictionary blocks in the sample Python module and prints how they are folded",
  "",
  "Usage: dict_fold [OPTIONS]",
  "",
  "Options:",
  "      --json                   Print the fold plan as JSON",
  "      --show-source            Print the numbered sample before the plan",
  "      --open-pattern <REGEX>   Regex for lines that open a block (default: a '\x7b' anywhere)",
  "      --close-pattern <REGEX>  Regex for lines that close a block (default: a '\x7d' anywhere)",
  "      --column <LINE_INDEX>    Only print the end column of the given 0-based line",
  "      --verbose                Enable verbose logging",
  "  -h, --help                   Print help",
  "  -V, --version                Print version",
  ""]

def version : String := "dict_fold 0.1.0\n"

/-- The variable that sets which records of the log are shown. -/
def logVariable : String := "RUST_LOG"

/-- The rules for the log: the details if the run is verbose, warnings if not, and what the
environment asks for. -/
def logRules (settings : Settings) (env : Environment) : List Log.Rule :=
  let base : Log.Rule := ⟨none, some (if settings.verbose then .debug else .warn)⟩
  match env logVariable with
  | none => [base]
  | some text => Log.readRules [base] text

def firstLine (text : String) : String := String.ofList (text.toList.takeWhile (· ≠ '\n'))

def indented (text : String) : String :=
  "\n".intercalate ((Text.lines text).map ("    " ++ ·))

def failureText (failure : Failure) : String :=
  "Error: " ++ failure.context ++ "\n\nCaused by:\n" ++ indented failure.cause.message ++ "\n"

/-- How the program ends after a run, with the log as it is shown. -/
def ending (log : String) : Except Failure String → Exit
  | .ok text => { code := 0, output := text ++ "\n", errors := log }
  | .error failure => { code := 1, output := "", errors := log ++ failureText failure }

/-- How the program ends with settings. An overflow, which the sample text does not cause, would end
it with a code of its own. -/
def runWith (settings : Settings) (env : Environment) (compiler : Pattern.Compiler) : Exit :=
  match runSample settings compiler with
  | .ok outcome => ending (Log.shown (logRules settings env) outcome.records) outcome.result
  | .error overflow => { code := 101, output := "", errors := overflow.message ++ "\n" }

/-- How the program ends with arguments in an environment. -/
def run (arguments : List String) (env : Environment) (compiler : Pattern.Compiler := .direct) :
    Exit :=
  match CommandLine.read arguments with
  | .ok settings => runWith (settings.withEnvironment env) env compiler
  | .error .help => { code := 0, output := help, errors := "" }
  | .error .version => { code := 0, output := version, errors := "" }
  | .error (.usage error) => { code := 2, output := "", errors := firstLine error.message }

theorem run_eq_runWith {arguments : List String} {settings : Settings}
    (h : CommandLine.read arguments = .ok settings) (env : Environment)
    (compiler : Pattern.Compiler) :
    run arguments env compiler = runWith (settings.withEnvironment env) env compiler := by
  rw [run, h]

end BlockFolding.Program
