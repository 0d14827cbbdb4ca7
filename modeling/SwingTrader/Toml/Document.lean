import SwingTrader.Toml.Basic
import SwingTrader.Toml.Number
import SwingTrader.Toml.Text

/-!
# SwingTrader — TOML documents

Reads a document as TOML 1.0 defines it.

* `Toml.Reading.value` — a value, with the values inside it;
* `Toml.parse?` — the table a document makes, if it is well formed.
-/

namespace SwingTrader.Toml

open Text (Reader)
open Text.Reader

namespace Reading

/-- A setting: a key, and a value to be read. -/
def setting (value : Reader Toml) : Reader (List String × Toml) := do
  let path ← key
  char '='
  spaces
  return (path, ← value)

/-- Values between square brackets; a comma may follow the last one. -/
def array (value : Reader Toml) : Reader Toml := do
  char '['
  let items ← separated (char ',') (gap *> value <* gap)
  if !items.isEmpty then
    let _ ← optional (char ',')
  gap
  char ']'
  return .array items

/-- A table in one place, on one line. -/
def inlineTable (value : Reader Toml) : Reader Toml := do
  char '\x7b'
  let settings ← separated (char ',') (setting value <* spaces)
  spaces
  char '\x7d'
  match inlineTable? settings with
  | some made => return made
  | none => failure

/-- A value with nothing inside it. -/
def scalar : Reader Toml :=
  .text <$> string
    <|> (fun _ => .flag true) <$> exactly "true"
    <|> (fun _ => .flag false) <$> exactly "false"
    <|> (fun _ => .moment) <$> moment
    <|> .number <$> number
    <|> .integer <$> integer

/-- A value in which values stand in one another up to a depth. -/
def value : (depth : Nat) → Reader Toml
  | 0 => scalar
  | depth + 1 => scalar <|> array (value depth) <|> inlineTable (value depth)

/-- One line: a header, a setting, or nothing. -/
def line : Reader (Option Statement) := do
  spaces
  let statement ← optional <|
    (fun path => .element path) <$> (exactly "[[" *> key <* exactly "]]")
      <|> (fun path => .table path) <$> (char '[' *> key <* char ']')
      <|> (fun (path, value) => .setting path value) <$> setting (value deepest)
  trailing
  return statement

/-- A line that is not the empty end of the text. -/
def nextLine : Reader (Option Statement) := fun text =>
  if text.isEmpty then none else line text

/-- The statements of a document, which may begin with a byte order mark. -/
def document : Reader (List Statement) := do
  let _ ← optional (char '\uFEFF')
  return (← many nextLine).filterMap id

end Reading

/-- The table that a document makes. -/
def parse? (document : String) : Option Entries := do
  assemble? (← Reading.document.all? document)

end SwingTrader.Toml
