import SwingTrader.Decimal.Layout
import SwingTrader.Text.Digits

/-!
# SwingTrader — JSON documents

* `JsonValue` — the values that reports are made of;
* `JsonValue.pretty` — their text, one entry a line and two blanks deeper for each level.
-/

namespace SwingTrader

/-- A JSON value. -/
inductive JsonValue where
  | number (x : Float)
  | count (n : Nat)
  | text (s : String)
  | list (items : List JsonValue)
  | object (fields : List (String × JsonValue))

namespace JsonValue

/-- The hexadecimal digit of a number below sixteen. -/
def hexDigit (n : Nat) : Char :=
  if n < 10 then Char.ofNat ('0'.toNat + n) else Char.ofNat ('a'.toNat + n - 10)

/-- A character inside quotes. Quotes, backslashes and control characters are escaped. -/
def escape (c : Char) : List Char :=
  match c with
  | '"' => ['\\', '"']
  | '\\' => ['\\', '\\']
  | '\n' => ['\\', 'n']
  | '\x0d' => ['\\', 'r']
  | '\t' => ['\\', 't']
  | '\x08' => ['\\', 'b']
  | '\x0c' => ['\\', 'f']
  | c =>
    if c.toNat < 0x20 then ['\\', 'u', '0', '0', hexDigit (c.toNat / 16), hexDigit (c.toNat % 16)]
    else [c]

/-- A text between quotes. -/
def quote (s : String) : String :=
  String.ofList ('"' :: s.toList.flatMap escape ++ ['"'])

/-- Numbers are laid out as in other files, but for the sign that every exponent has. -/
def numberLayout : Decimal.Layout :=
  { Decimal.fileLayout with exponentSign := .always }

/-- A number; JSON has no NaN and no infinities. -/
def numberText (x : Float) : String :=
  if x.isFinite then Decimal.text numberLayout x else "null"

/-- The start of a line at a level. -/
def lineStart (level : Nat) : String :=
  "\n" ++ String.ofList (List.replicate (2 * level) ' ')

/-- Entries between brackets, one to a line. -/
def enclose (opening closing : String) (level : Nat) (entries : List String) : String :=
  if entries.isEmpty then opening ++ closing
  else
    let start := lineStart (level + 1)
    opening ++ start ++ ("," ++ start).intercalate entries ++ lineStart level ++ closing

mutual

/-- The text of a value that stands at a level. -/
def prettyAt (level : Nat) : JsonValue → String
  | number x => numberText x
  | count n => toString n
  | text s => quote s
  | list items => enclose "[" "]" level (prettyItems level items)
  | object fields => enclose "\x7b" "\x7d" level (prettyFields level fields)

/-- The texts of the items of a list that stands at a level. -/
def prettyItems (level : Nat) : List JsonValue → List String
  | [] => []
  | item :: rest => prettyAt (level + 1) item :: prettyItems level rest

/-- The texts of the fields of an object that stands at a level. -/
def prettyFields (level : Nat) : List (String × JsonValue) → List String
  | [] => []
  | (name, value) :: rest =>
    (quote name ++ ": " ++ prettyAt (level + 1) value) :: prettyFields level rest

end

/-- The text of a document. -/
def pretty (value : JsonValue) : String :=
  prettyAt 0 value

end JsonValue

end SwingTrader
