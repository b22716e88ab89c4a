import RetailMarket.FileAccess
import RetailMarket.Scenario.Schema
import RetailMarket.Simulation.Export
import RetailMarket.Simulation.Run

/-!
# The command line

Options choose a scenario and override parts of it; the program validates it, runs it, prints a
line for every cycle and the report, and exports what was asked for. It reaches files only through
`FileAccess`.
-/

namespace RetailMarket

namespace CommandLine

structure Outcome where
  exitCode : Nat := 0
  output : String := ""
  errors : String := ""
  deriving DecidableEq, Repr

structure Options where
  scenario : Option String := none
  preset : Option String := none
  seed : Option Nat := none
  cycles : Option Nat := none
  transactionsPath : Option String := none
  summaryPath : Option String := none
  deriving DecidableEq, Repr

def line (text : String) : String := text ++ "\n"

def failure (text : String) : Outcome := { exitCode := 1, errors := line text }

def helpText : String :=
  "".intercalate <| List.map line
    ["tariff-sim: retail electricity tariff market simulator",
      "",
      "Usage: tariff-sim [OPTIONS]",
      "",
      "Options:",
      "  --scenario <path>          Load market from TOML config file",
      "  --preset <name>            Use a built-in preset (" ++ ", ".intercalate presetNames ++ ")",
      "  --seed <u64>               Override random seed",
      "  --cycles <n>               Override number of evaluation cycles",
      "  --transactions-out <path>  Export settled transactions to CSV",
      "  --summary-out <path>       Export per-cycle summaries to CSV",
      "  --help                     Show this help message",
      "",
      "If no --scenario or --preset is given, the baseline preset is used.",
      "Log verbosity follows RUST_LOG (default: tariff_sim=info,warn)."]

/-! ## Options -/

/-- A natural number below `2 ^ 64` in decimal digits, which a plus sign may precede. -/
def word? (text : String) : Option Nat :=
  let digits := match text.toList with
    | '+' :: digits => digits
    | digits => digits
  if digits.isEmpty then none
  else if digits.all Char.isDigit then
    let value := digits.foldl (fun value c => value * 10 + (c.toNat - '0'.toNat)) 0
    if value < UInt64.size then some value else none
  else none

inductive OptionKind where
  | help
  | scenario
  | preset
  | seed
  | cycles
  | transactions
  | summary
  deriving DecidableEq, Repr

def kind? (argument : String) : Option OptionKind :=
  [("--help", .help), ("-h", .help), ("--scenario", .scenario), ("--preset", .preset),
    ("--seed", .seed), ("--cycles", .cycles), ("--transactions-out", .transactions),
    ("--summary-out", .summary)].lookup argument

def OptionKind.argument : OptionKind → String
  | help => "no argument"
  | preset => "a name argument"
  | seed => "a u64 argument"
  | cycles => "a count argument"
  | scenario | transactions | summary => "a path argument"

def invalid (argument value what : String) : Outcome :=
  failure ("error: " ++ argument ++ " value \"" ++ value ++ "\" is not a valid " ++ what)

def Options.take (options : Options) (kind : OptionKind) (argument value : String) :
    Except Outcome Options :=
  match kind with
  | .help => .ok options
  | .scenario => .ok { options with scenario := some value }
  | .preset => .ok { options with preset := some value }
  | .transactions => .ok { options with transactionsPath := some value }
  | .summary => .ok { options with summaryPath := some value }
  | .seed =>
    match word? value with
    | some seed => .ok { options with seed := some seed }
    | none => .error (invalid argument value "u64")
  | .cycles =>
    match word? value with
    | some cycles => .ok { options with cycles := some cycles }
    | none => .error (invalid argument value "count")

/-- Reads the options in order; the first that asks for help or is wrong ends the program. -/
def parse (options : Options) : List String → Except Outcome Options
  | [] => .ok options
  | argument :: rest =>
    match kind? argument with
    | none =>
      .error
        { exitCode := 1,
          errors := line ("error: unknown argument \"" ++ argument ++ "\"") ++ helpText }
    | some .help => .error { errors := helpText }
    | some kind =>
      match rest with
      | [] => .error (failure ("error: " ++ argument ++ " requires " ++ kind.argument))
      | value :: rest =>
        match options.take kind argument value with
        | .error outcome => .error outcome
        | .ok options => parse options rest

/-! ## Running -/

variable {m : Type → Type} [Monad m] [FileAccess m]

/-- A scenario file goes before a preset, and a preset before the baseline. -/
def load (options : Options) : m (Except Problem (Scenario Float)) :=
  match options.scenario, options.preset with
  | some path, _ => do
    match ← FileAccess.read path with
    | .error reason => return .error ⟨"scenario", .unreadable path reason⟩
    | .ok text => return Scenario.ofToml text
  | none, some name => return Scenario.ofPreset name
  | none, none => return .ok Scenario.baseline

def override (options : Options) (scenario : Scenario Float) : Scenario Float :=
  let run := scenario.run
  { scenario with
    run :=
      { run with
        seed := options.seed.elim run.seed UInt64.ofNat
        cycles := options.cycles.getD run.cycles } }

/-- Writes an export if there is a path for it, and says so. -/
def writeTo (path : Option String) (what contents : String) : m (Except String String) :=
  match path with
  | none => return .ok ""
  | some path => do
    match ← FileAccess.write path contents with
    | .error reason => return .error ("io error: " ++ reason)
    | .ok () => return .ok (line (what ++ " written to " ++ path))

/-- What is printed: a line for every cycle, and the report after an empty line. -/
def report (summaries : List (CycleSummary Float)) : String :=
  "".intercalate (summaries.map fun summary => line summary.text)
    ++ line ("\n" ++ (MarketReport.ofSummaries summaries).text)

def simulate (options : Options) (simulation : Simulation ChaChaStream Float) : m Outcome := do
  let (result, finished) := simulation.run
  match result with
  | .error error => return failure ("error: " ++ error.text)
  | .ok summaries =>
    let transactions := Export.transactions finished.books.journal.transactions.toList
    match ← writeTo options.transactionsPath "Transactions" transactions with
    | .error reason => return failure ("error: " ++ reason)
    | .ok transactionsNote =>
      let output := report summaries
      match ← writeTo options.summaryPath "Summary" (Export.summaries summaries) with
      | .error reason =>
        return { exitCode := 1, output,
                 errors := transactionsNote ++ line ("error: failed to write CSV: " ++ reason) }
      | .ok summaryNote => return { output, errors := transactionsNote ++ summaryNote }

def run (arguments : List String) : m Outcome := do
  match parse {} arguments with
  | .error outcome => return outcome
  | .ok options =>
    match ← load options with
    | .error problem => return failure problem.text
    | .ok loaded =>
      let scenario := override options loaded
      let problems := scenario.problems
      if problems.isEmpty then simulate options (Simulation.fresh scenario)
      else
        return { exitCode := 1,
                 errors := "".intercalate (problems.map fun problem => line problem.text) }

end CommandLine

end RetailMarket
