import SwingTrader.Decimal.Reader
import SwingTrader.Instant.Civil
import SwingTrader.Text.Reader

/-!
# SwingTrader — numbers, dates and times in TOML documents

Integers have 64 bits and may be written in four bases. Underscores may stand
between digits, and no zero before the first of them. Numbers with a fraction or
an exponent are doubles; one that is too large for a double is refused.

* `Toml.Reading.integer`, `Toml.Reading.number` — the two kinds of number;
* `Toml.Reading.moment` — a date, a time, or both.
-/

namespace SwingTrader.Toml.Reading

open Text (Reader)
open Text.Reader

/-! ## Digits -/

/-- Digits with single underscores between them. -/
def digitRun (isDigit : Char → Bool) : Reader (List Char) := do
  let first ← oneOf isDigit
  return first :: (← many (oneOf isDigit <|> char '_' *> oneOf isDigit))

/-- A sign, which may be missing. -/
def sign : Reader (List Char) := do
  return (← optional (oneOf fun c => c == '+' || c == '-')).toList

/-- Decimal digits without a zero in front. -/
def wholeDigits : Reader (List Char) := do
  let digits ← digitRun Char.isDigit
  if digits.length = 1 ∨ digits.head? ≠ some '0' then return digits
  else failure

/-! ## Integers -/

/-- The value of a letter or a digit. -/
def digitValue (c : Char) : Nat :=
  if c.isDigit then c.toNat - '0'.toNat else c.toLower.toNat - 'a'.toNat + 10

/-- The value of digits in a base. -/
def valueIn (base : Nat) (digits : List Char) : Nat :=
  digits.foldl (fun n c => n * base + digitValue c) 0

/-- A whole number in a base, after the letter of that base. -/
def based (letter : Char) (base : Nat) : Reader Int := do
  char '0'
  char letter
  let digits ← digitRun fun c => c.isAlphanum && digitValue c < base
  return (valueIn base digits : Int)

/-- A decimal whole number. -/
def decimal : Reader Int := do
  let sign ← sign
  let digits ← wholeDigits
  return if sign = ['-'] then -(Text.digitsValue digits : Int) else Text.digitsValue digits

/-- A whole number of 64 bits. -/
def integer : Reader Int := do
  let n ← based 'x' 16 <|> based 'o' 8 <|> based 'b' 2 <|> decimal
  if Int64.minValue.toInt ≤ n ∧ n ≤ Int64.maxValue.toInt then return n else failure

/-! ## Doubles -/

/-- The fraction of a number. -/
def fraction : Reader (List Char) := do
  char '.'
  return '.' :: (← digitRun Char.isDigit)

/-- The exponent of a number. -/
def exponent : Reader (List Char) := do
  let _ ← oneOf fun c => c == 'e' || c == 'E'
  let sign ← sign
  return 'e' :: sign ++ (← digitRun Char.isDigit)

/-- A number with a fraction or an exponent. -/
def fractional : Reader Float := do
  let sign ← sign
  let whole ← wholeDigits
  let fraction := (← optional fraction).getD []
  let exponent := (← optional exponent).getD []
  if fraction.isEmpty && exponent.isEmpty then failure
  match Decimal.read? (String.ofList (sign ++ whole ++ fraction ++ exponent)) with
  | some x => if x == 1.0 / 0.0 then failure else return x
  | none => failure

/-- An infinity or NaN by name. -/
def named : Reader Float := do
  let sign ← sign
  let x ← (fun _ => 1.0 / 0.0) <$> exactly "inf" <|> (fun _ => 0.0 / 0.0) <$> exactly "nan"
  return if sign = ['-'] then -x else x

/-- A double. -/
def number : Reader Float :=
  fractional <|> named

/-! ## Dates and times -/

/-- A number of a fixed count of digits, within bounds. -/
def fixedDigits (count least most : Nat) : Reader Nat := fun text =>
  let digits := text.take count
  let n := Text.digitsValue digits
  if digits.length = count ∧ digits.all Char.isDigit ∧ least ≤ n ∧ n ≤ most then
    some (n, text.drop count)
  else none

/-- A calendar date. -/
def date : Reader Unit := do
  let year ← fixedDigits 4 0 9999
  char '-'
  let month ← fixedDigits 2 1 12
  char '-'
  let day ← fixedDigits 2 1 31
  if CivilDate.isValid ⟨year, month, day⟩ then return () else failure

/-- A time of day. -/
def time : Reader Unit := do
  let _ ← fixedDigits 2 0 23
  char ':'
  let _ ← fixedDigits 2 0 59
  char ':'
  let _ ← fixedDigits 2 0 60
  let _ ← optional (char '.' *> span1 Char.isDigit)

/-- The distance from universal time. -/
def offset : Reader Unit := do
  match ← oneOf fun _ => true with
  | 'Z' | 'z' => return ()
  | '+' | '-' => do
    let _ ← fixedDigits 2 0 23
    char ':'
    let _ ← fixedDigits 2 0 59
  | _ => failure

/-- The time after a date. -/
def timeAfterDate : Reader Unit := do
  let _ ← oneOf fun c => c == 'T' || c == 't' || c == ' '
  time
  let _ ← optional offset

/-- A date, a date with a time, or a time. -/
def moment : Reader Unit := do
  (do date; let _ ← optional timeAfterDate) <|> time

end SwingTrader.Toml.Reading
