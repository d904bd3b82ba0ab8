-- The program: reads the clock and the files that a command names, and prints what comes of it.
import Predefined.CommandLine.Command
import Std.Time.DateTime.Timestamp

open Predefined Predefined.CommandLine

namespace Predefined.Program

/-- A reason of the system by its number. -/
def fileError (e : IO.Error) : FileError :=
  match e with
  | .noFileOrDirectory .. => .notFound
  | .inappropriateType _ 20 _ => .notDirectory
  | .inappropriateType _ 21 _ => .isDirectory
  | .invalidArgument _ 36 _ | .resourceExhausted _ 36 _ => .nameTooLong
  | e => .other (toString e)

/-- The content of a file, or the reason of the system for not giving it. -/
def readFile (path : String) : IO (Except FileError String) := do
  try
    pure (.ok (← IO.FS.readFile path))
  catch e =>
    pure (.error (fileError e))

/-- The time in milliseconds of the epoch. -/
def now : IO Int64 := do
  let t ← Std.Time.Timestamp.now
  pure (Int64.ofInt t.toMillisecondsSinceUnixEpoch.val)

/-- The readers of this program do not say where a text goes wrong, so it says no more than that. -/
def diagnostics : Diagnostics where
  pattern _ _ := "not a regular expression"
  settings _ := "not a document of settings"
  context _ := "not a document of a context"

def run (arguments : List String) : IO UInt32 := do
  let clock ← now
  let invocation := parse? arguments
  let paths := (invocation.map Invocation.files).getD []
  let files ← paths.mapM fun path => do pure (path, ← readFile path)
  let read (path : String) : Except FileError String :=
    match files.find? (·.1 = path) with
    | some (_, content) => content
    | none => .error .notFound
  let stderr ← IO.getStderr
  for r in (invocation.map (Invocation.log diagnostics clock read)).getD [] do
    stderr.putStrLn (r.text diagnostics)
  let result := outcome diagnostics clock read arguments
  match result with
  | .printed s => (← IO.getStdout).putStr s
  | .failed report => stderr.putStrLn report.text
  | .rejected => stderr.putStr usage
  pure (UInt32.ofNat result.exitCode)

end Predefined.Program

def main (arguments : List String) : IO UInt32 :=
  Predefined.Program.run arguments
