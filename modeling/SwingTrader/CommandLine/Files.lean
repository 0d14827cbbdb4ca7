/-!
# SwingTrader — files

The program reads and writes whole files of text. Where they are kept is left
open, so that the program can be run on files held in memory as well.

* `FileError` — why a file cannot be used;
* `Files` — the two things done with files.
-/

namespace SwingTrader.CommandLine

/-- Why a file cannot be read or written. -/
inductive FileError where
  | notFound
  | notADirectory
  | isADirectory
  | nameTooLong
  | other (reason : String)
  deriving DecidableEq, Repr

/-- The text of the error. -/
def FileError.message : FileError → String
  | notFound => "No such file or directory (os error 2)"
  | notADirectory => "Not a directory (os error 20)"
  | isADirectory => "Is a directory (os error 21)"
  | nameTooLong => "File name too long (os error 36)"
  | other reason => reason

/-- Reading and writing whole files, which has effects `m`. -/
structure Files (m : Type → Type) where
  read : (path : String) → m (Except FileError String)
  write : (path text : String) → m (Except FileError Unit)

end SwingTrader.CommandLine
