-- The commands of the program. Reading a command line gives a command or nothing; running a command
-- needs the clock, the content of the files it names, and what the libraries say about a text that
-- they refuse.
import Predefined.CommandLine.Token
import Predefined.Context
import Predefined.Expr.Evaluation
import Predefined.Function.Catalogue

namespace Predefined.CommandLine

/-- A call to evaluate. -/
structure Request where
  function : String
  /-- Each one is a JSON text, or stands for itself as a string. -/
  arguments : List String
  contextFile : Option String
  settingsFile : Option String
  pretty : Bool

inductive Command where
  | help
  | version
  /-- The catalogue, as JSON or as Markdown. -/
  | functions (json : Bool)
  | eval (request : Request)

structure Invocation where
  /-- How often more log records were asked for. -/
  verbosity : Nat
  command : Command

/-! ## Reading -/

def verboseFlag : Flag := ⟨"verbose", some 'v', false, true, false⟩

def helpFlag : Flag := ⟨"help", some 'h', false, true, true⟩

def programFlags : List Flag :=
  [verboseFlag, helpFlag, ⟨"version", some 'V', false, true, true⟩]

def evalFlags : List Flag :=
  [verboseFlag, helpFlag, ⟨"context", some 'c', true, false, false⟩,
    ⟨"config", none, true, false, false⟩, ⟨"pretty", some 'p', false, false, false⟩]

def functionsFlags : List Flag :=
  [verboseFlag, helpFlag, ⟨"json", none, false, false, false⟩]

def evalCommand? (ts : List Token) : Option Command :=
  match ts.filterMap Token.operand? with
  | function :: arguments => some (.eval {
      function, arguments
      contextFile := valueOf? "context" ts
      settingsFile := valueOf? "config" ts
      pretty := ts.contains (.flag "pretty") })
  | [] => none

def functionsCommand? (ts : List Token) : Option Command :=
  some (.functions (ts.contains (.flag "json")))

/-- How often the log is asked for. -/
def verbosity (ts : List Token) : Nat :=
  ts.count (.flag "verbose")

/-- A command from its own arguments. What is wrong with an argument counts before a wish for help
that stands behind it, and what is missing does not. -/
def ofTokens? (flags : List Flag) (takesOperands : Bool) (read : List Token → Option Command)
    (arguments : List String) : Option Invocation := do
  let ts ← tokens flags none arguments
  if !noneRepeated flags ts then none
  else if !takesOperands && ts.any (·.operand?.isSome) then none
  else if ts.contains (.flag "help") then pure ⟨0, .help⟩
  else pure ⟨verbosity ts, ← read ts⟩

def subcommand? (name : String) (arguments : List String) : Option Invocation :=
  match name with
  | "eval" => ofTokens? evalFlags true evalCommand? arguments
  | "functions" => ofTokens? functionsFlags false functionsCommand? arguments
  | "help" =>
    match arguments with
    | [] => some ⟨0, .help⟩
    | [topic] => if ["eval", "functions", "help"].contains topic then some ⟨0, .help⟩ else none
    | _ => none
  | _ => none

/-- Reads a command line: options of the program, the name of a command, and its arguments. -/
def parse? (arguments : List String) : Option Invocation := do
  let isOption (a : String) : Bool := match Form.of a with
    | .plain => false
    | _ => true
  let leading := arguments.takeWhile isOption
  let ts ← tokens programFlags none leading
  if ts.contains (.flag "help") then pure ⟨0, .help⟩
  else if ts.contains (.flag "version") then pure ⟨0, .version⟩
  else if leading.contains "--" then none
  else
    match arguments.dropWhile isOption with
    | name :: rest =>
      let found ← subcommand? name rest
      pure { found with verbosity := verbosity ts + found.verbosity }
    | [] => none

/-! ## Running -/

/-- Why a command fails: what was being done, and what stood in its way. -/
structure Report where
  what : String
  cause : Option String
deriving DecidableEq

/-- The lines of a cause are indented. -/
def indented (s : String) : String :=
  String.ofList (' ' :: ' ' :: ' ' :: ' ' :: s.toList.flatMap fun c =>
    if c = '\n' then ['\n', ' ', ' ', ' ', ' '] else [c])

def Report.text (r : Report) : String :=
  "Error: " ++ r.what ++ match r.cause with
    | some cause => "\n\nCaused by:\n" ++ indented cause
    | none => ""

inductive Outcome where
  | printed (output : String)
  | failed (report : Report)
  /-- The command line is refused. -/
  | rejected
deriving DecidableEq

def Outcome.exitCode : Outcome → Nat
  | printed _ => 0
  | failed _ => 1
  | rejected => 2

/-- The text of the failure quotes its cause, and the report names the cause again. -/
def Report.ofSettingsError (d : Diagnostics) (e : SettingsError) : Report where
  what := e.text d
  cause := match e with
    | .unreadable _ reason => some reason.text
    | .malformed document => some (d.settings document)

def readSettings (d : Diagnostics) (read : ReadFile) : Option String → Except Report Settings
  | none => .ok .default
  | some path => (Settings.load read path).mapError (.ofSettingsError d)

def readContext (d : Diagnostics) (read : ReadFile) : Option String → Except Report Context
  | none => .ok .empty
  | some path =>
    match read path with
    | .error reason => .error ⟨"Error reading context file '" ++ path ++ "'", some reason.text⟩
    | .ok document =>
      match Context.parse? document with
      | some context => .ok context
      | none =>
        .error ⟨"Error parsing context file '" ++ path ++ "'", some (d.context document)⟩

/-- An argument as a value. -/
def argumentValue (argument : String) : Value :=
  match Json.parse? argument with
  | some j => Value.ofJson j
  | none => .string argument

def Request.expr (r : Request) (settings : Settings) : Expr :=
  .call r.function (r.arguments.map fun a => .literal (argumentValue a)) settings

/-- The value of a request and the log of its evaluation. The settings are read before the context,
and their mark of an unknown alias takes the place of the one in the context. -/
def Request.run (d : Diagnostics) (clock : Int64) (read : ReadFile) (r : Request) :
    Except Report Value × List LogRecord :=
  match readSettings d read r.settingsFile with
  | .error report => (.error report, [])
  | .ok settings =>
    match readContext d read r.contextFile with
    | .error report => (.error report, [])
    | .ok context =>
      let start := Run.start (context.withVaultPrefix settings.vaultPrefix)
      let (result, run) := ((r.expr settings).eval (Context.host clock)).run start
      match result with
      | .ok v => (.ok v, run.log.toList ++ [.returned r.function v.typeName])
      | .error e =>
        (.error ⟨"Error evaluating " ++ r.function, some (e.text d)⟩, run.log.toList)

def Request.outcome (d : Diagnostics) (clock : Int64) (read : ReadFile) (r : Request) : Outcome :=
  match (r.run d clock read).1 with
  | .ok v => .printed ((if r.pretty then v.toJson.pretty else v.toJson.compact) ++ "\n")
  | .error report => .failed report

def usage : String :=
  "Evaluate predefined mediation-expression functions\n\n"
    ++ "Usage: synapse-expr [-v] eval FUNCTION [ARGUMENTS] [-c FILE] [--config FILE] [-p]\n"
    ++ "       synapse-expr [-v] functions [--json]\n"
    ++ "       synapse-expr --version\n"

def Command.outcome (d : Diagnostics) (clock : Int64) (read : ReadFile) : Command → Outcome
  | .help => .printed usage
  | .version => .printed "synapse-expr 0.1.0\n"
  | .functions true => .printed (Catalogue.document.pretty ++ "\n")
  | .functions false => .printed Catalogue.markdown
  | .eval request => request.outcome d clock read

/-- What a command line does. -/
def outcome (d : Diagnostics) (clock : Int64) (read : ReadFile) (arguments : List String) :
    Outcome :=
  match parse? arguments with
  | some i => i.command.outcome d clock read
  | none => .rejected

/-! ## The log -/

/-- Whether records of a level are shown: warnings always, the others when they are asked for. -/
def isShown (verbosity : Nat) : LogLevel → Bool
  | .warn => true
  | .debug => 1 ≤ verbosity
  | .trace => 2 ≤ verbosity

/-- The records that an invocation shows. -/
def Invocation.log (d : Diagnostics) (clock : Int64) (read : ReadFile) (i : Invocation) :
    List LogRecord :=
  match i.command with
  | .eval request => (request.run d clock read).2.filter fun r => isShown i.verbosity r.level
  | _ => []

/-- The files that an invocation reads, in order. -/
def Invocation.files (i : Invocation) : List String :=
  match i.command with
  | .eval request => request.settingsFile.toList ++ request.contextFile.toList
  | _ => []

end Predefined.CommandLine
