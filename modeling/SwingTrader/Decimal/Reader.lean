import SwingTrader.Text.Digits

/-!
# SwingTrader — reading a double

A decimal is read as the double nearest to it. Its text is a sign, digits with
a point before, among or after them, and an exponent, of which only some digits
are required; or it is the name of an infinity or of NaN in any case of letters.

* `Decimal.nearest` — the double nearest to a decimal;
* `Decimal.read?` — the double that a text writes.
-/

namespace SwingTrader.Decimal

/-- A double with its sign chosen. -/
def withSign (negative : Bool) (magnitude : Float) : Float :=
  if negative then -magnitude else magnitude

/--
The double nearest to `coefficient * 10 ^ exponent`. Numbers beyond the range
of doubles are told by their length, before the power is formed.
-/
def nearest (coefficient : Nat) (exponent : Int) : Float :=
  if coefficient == 0 then 0.0
  else
    let places : Int := (toString coefficient).length + exponent
    if 400 < places then 1.0 / 0.0
    else if places < -400 then 0.0
    else Float.ofScientific coefficient (exponent < 0) exponent.natAbs

/-- An exponent: a letter `e`, a sign that may be missing, and digits. -/
def readExponent? : List Char → Option Int
  | [] => some 0
  | e :: rest =>
    if e != 'e' && e != 'E' then none
    else
      let (negative, digits) := match rest with
        | '-' :: digits => (true, digits)
        | '+' :: digits => (false, digits)
        | digits => (false, digits)
      if digits.isEmpty || !digits.all Char.isDigit then none
      else some (if negative then -(Text.digitsValue digits : Int) else Text.digitsValue digits)

/-- A number without its sign. -/
def readMagnitude? (text : List Char) : Option Float :=
  let whole := text.takeWhile Char.isDigit
  let afterWhole := text.dropWhile Char.isDigit
  let (fraction, afterFraction) := match afterWhole with
    | '.' :: rest => (rest.takeWhile Char.isDigit, rest.dropWhile Char.isDigit)
    | rest => ([], rest)
  if whole.isEmpty && fraction.isEmpty then none
  else (readExponent? afterFraction).map fun exponent =>
    nearest (Text.digitsValue (whole ++ fraction)) (exponent - fraction.length)

/-- The double that a text writes. -/
def read? (text : String) : Option Float :=
  let (negative, magnitude) := match text.toList with
    | '-' :: rest => (true, rest)
    | '+' :: rest => (false, rest)
    | rest => (false, rest)
  let name := String.ofList (magnitude.map Char.toLower)
  (withSign negative ·) <$>
    if name == "inf" || name == "infinity" then some (1.0 / 0.0)
    else if name == "nan" then some (0.0 / 0.0)
    else readMagnitude? magnitude

end SwingTrader.Decimal
