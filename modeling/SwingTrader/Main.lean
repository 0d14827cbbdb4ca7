import SwingTrader.CommandLine.Program

/-!
# SwingTrader — the command line

Runs the program on the files of the system.
-/

namespace SwingTrader.CommandLine

/-- The reason of the system for not giving a file, by its code. -/
def fileErrorOf : IO.Error → FileError
  | .noFileOrDirectory .. => .notFound
  | .inappropriateType _ 20 _ => .notADirectory
  | .inappropriateType _ 21 _ => .isADirectory
  | .invalidArgument _ 36 _ => .nameTooLong
  | error => .other (toString error)

/-- The files of the system. -/
def systemFiles : Files IO where
  read path := do
    match ← (IO.FS.readFile path).toBaseIO with
    | .ok text => return .ok text
    | .error error => return .error (fileErrorOf error)
  write path text := do
    match ← (IO.FS.writeFile path text).toBaseIO with
    | .ok () => return .ok ()
    | .error error => return .error (fileErrorOf error)

/-- What is said of a failure. -/
def failureText (failure : Failure) : String :=
  "Error: " ++ failure.reason
    ++ (failure.cause.elim "" fun cause => "\n\nCaused by:\n    " ++ cause)

end SwingTrader.CommandLine

open SwingTrader.CommandLine

/-- Runs the program and answers its exit code. -/
def main (arguments : List String) : IO UInt32 := do
  let outcome ← Program.run systemFiles arguments
  IO.print outcome.output
  match outcome with
  | .done _ => pure ()
  | .failed _ failure => IO.eprintln (failureText failure)
  | .refused => IO.eprint HelpTopic.program.text
  return outcome.exitCode.toUInt32
