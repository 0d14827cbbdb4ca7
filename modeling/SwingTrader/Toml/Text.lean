import SwingTrader.Text.Digits
import SwingTrader.Text.Reader

/-!
# SwingTrader — text in TOML documents

Blanks, comments, keys and the four kinds of string. A string in single quotes
stands for itself, one in double quotes has escapes, and three quotes of either
kind may span lines.

* `Toml.Reading.gap` — what may stand between the parts of an array;
* `Toml.Reading.string` — a string of any kind;
* `Toml.Reading.key` — a key of one or more parts.
-/

namespace SwingTrader.Toml.Reading

open Text (Reader)
open Text.Reader

/-! ## Blanks, lines and comments -/

/-- A character that may stand in a comment, and for itself in a string: a tab, or no control
character of ASCII. -/
def isPlain (c : Char) : Bool :=
  c == '\t' || (0x20 ≤ c.toNat && c.toNat != 0x7F)

/-- A space or a tab. -/
def isSpace (c : Char) : Bool :=
  c == ' ' || c == '\t'

/-- Passes over spaces and tabs. -/
def spaces : Reader Unit := do
  let _ ← span isSpace

/-- The end of a line. -/
def newline : Reader Unit
  | '\n' :: rest => some ((), rest)
  | '\x0d' :: '\n' :: rest => some ((), rest)
  | _ => none

/-- A comment, up to the end of its line. -/
def comment : Reader Unit := do
  char '#'
  let _ ← span isPlain

/-- The end of a line, or of the text. -/
def lineEnd : Reader Unit
  | [] => some ((), [])
  | rest => newline rest

/-- What may follow on a line that says something. -/
def trailing : Reader Unit := do
  spaces
  let _ ← optional comment
  lineEnd

/-- Blanks, line ends, and comments with the end of their lines. -/
def gap : Reader Unit := do
  let _ ← many (span1 isSpace *> pure () <|> newline <|> comment *> newline)

/-! ## Strings -/

/-- The value of a hexadecimal digit. -/
def hexValue? (c : Char) : Option Nat :=
  if c.isDigit then some (c.toNat - '0'.toNat)
  else if 'a' ≤ c ∧ c ≤ 'f' then some (c.toNat - 'a'.toNat + 10)
  else if 'A' ≤ c ∧ c ≤ 'F' then some (c.toNat - 'A'.toNat + 10)
  else none

/-- The character of a number of hexadecimal digits. -/
def codePoint (digits : Nat) : Reader Char := fun text => do
  let written := text.take digits
  let values ← written.mapM hexValue?
  let code := values.foldl (fun n digit => n * 16 + digit) 0
  if written.length = digits ∧ code.isValidChar then
    some (Char.ofNat code, text.drop digits)
  else none

/-- An escaped character, after the backslash. -/
def escaped : Reader Char := do
  match ← oneOf fun _ => true with
  | 'b' => return '\x08'
  | 't' => return '\t'
  | 'n' => return '\n'
  | 'f' => return '\x0c'
  | 'r' => return '\x0d'
  | '"' => return '"'
  | '\\' => return '\\'
  | 'u' => codePoint 4
  | 'U' => codePoint 8
  | _ => failure

/-- A character of a string in double quotes. -/
def basicChar : Reader Char :=
  oneOf (fun c => isPlain c && c != '"' && c != '\\') <|> char '\\' *> escaped

/-- A string in double quotes. -/
def basicString : Reader (List Char) :=
  char '"' *> many basicChar <* char '"'

/-- A string in single quotes. -/
def literalString : Reader (List Char) :=
  char '\'' *> span (fun c => isPlain c && c != '\'') <* char '\''

/-- One or two quotes inside a string of three. -/
def innerQuotes (quote : Char) : Reader (List Char) := do
  let quotes ← span1 (· == quote)
  if quotes.length ≤ 2 then return quotes else failure

/-- The quotes that end a string of three, and up to two more before them that belong to it. -/
def closingQuotes (quote : Char) : Reader (List Char) := do
  let quotes ← span1 (· == quote)
  if 3 ≤ quotes.length ∧ quotes.length ≤ 5 then return quotes.drop 3 else failure

/-- A line end inside a string of three quotes. -/
def innerLine : Reader (List Char) := do
  newline
  return ['\n']

/-- A backslash at the end of a line, which takes away all blanks up to the next character. -/
def joinedLines : Reader (List Char) := do
  char '\\'
  spaces
  newline
  let _ ← many (span1 isSpace *> pure () <|> newline)
  return []

/-- A string in three quotes, made of pieces. -/
def longString (quote : Char) (piece : Reader (List Char)) : Reader (List Char) := do
  exactly (String.ofList [quote, quote, quote])
  let _ ← optional newline
  let pieces ← many (piece <|> innerLine <|> innerQuotes quote)
  return pieces.flatten ++ (← closingQuotes quote)

/-- A string of any kind. -/
def string : Reader String :=
  String.ofList <$>
    (longString '"' (joinedLines <|> (fun c => [c]) <$> basicChar)
      <|> longString '\'' (span1 fun c => isPlain c && c != '\'')
      <|> basicString
      <|> literalString)

/-! ## Keys -/

/-- A character of a key without quotes. -/
def isBare (c : Char) : Bool :=
  c.isAlphanum || c == '_' || c == '-'

/-- One part of a key, and the blanks around it. -/
def keyPart : Reader String := do
  spaces
  let part ← span1 isBare <|> basicString <|> literalString
  spaces
  return String.ofList part

/-- How many parts a key may have, and how deep values may stand in one another. -/
def deepest : Nat := 79

/-- A key of one or more parts. -/
def key : Reader (List String) := do
  let first ← keyPart
  let others ← many (char '.' *> keyPart)
  if others.length < deepest then return first :: others else failure

end SwingTrader.Toml.Reading
