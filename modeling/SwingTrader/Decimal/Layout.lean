import SwingTrader.Decimal.Shortest

/-!
# SwingTrader — doubles as text

Messages and files both write a double with the fewest digits that read back,
and differ in how those digits are laid out. Tables write a fixed number of
places instead.

* `Decimal.Layout` — where the point, the exponent and the sign go;
* `Decimal.message`, `Decimal.file` — the texts of messages and of files;
* `Decimal.fixed` — a fixed number of places.
-/

namespace SwingTrader.Decimal

/-- Whether a number that is not negative carries a plus sign. -/
inductive SignRule where
  | onlyMinus
  | always
  deriving DecidableEq, Repr

/-- The text of a negative or a positive number. -/
def SignRule.signed (rule : SignRule) (negative : Bool) (magnitude : String) : String :=
  if negative then "-" ++ magnitude
  else match rule with
    | .onlyMinus => magnitude
    | .always => "+" ++ magnitude

/-- How the digits of a double are laid out. -/
structure Layout where
  /-- Which of two equally near shortest decimals is written. -/
  tie : Tie
  /-- Whether a number whose point stands after `places` digits is written without an exponent. -/
  isPositional : (places : Int) → Bool
  /-- Whether a whole number keeps a point and a zero. -/
  keepsPoint : Bool
  /-- The signs of exponents. -/
  exponentSign : SignRule := .onlyMinus

/-- Messages write every digit between the first and the point, and no more. -/
def messageLayout : Layout where
  tie := .up
  isPositional _ := true
  keepsPoint := false

/-- Files keep a decimal in every number, and an exponent below `1e-5` and from `1e16` on. -/
def fileLayout : Layout where
  tie := .even
  isPositional places := -5 < places && places ≤ 16
  keepsPoint := true

/-- A text of a number of zeros. -/
def zeros (n : Nat) : String :=
  String.ofList (List.replicate n '0')

/-- The digits of a positive number in a layout. -/
def Digits.text (layout : Layout) (number : Digits) : String :=
  let digits := (toString number.coefficient).toList
  let places : Int := digits.length + number.exponent
  if layout.isPositional places then
    if 0 ≤ number.exponent then
      String.ofList digits ++ zeros number.exponent.toNat ++
        (if layout.keepsPoint then ".0" else "")
    else if 0 < places then
      String.ofList (digits.take places.toNat) ++ "." ++ String.ofList (digits.drop places.toNat)
    else "0." ++ zeros (-places).toNat ++ String.ofList digits
  else
    let fraction := digits.drop 1
    String.ofList (digits.take 1) ++
      (if fraction.isEmpty then "" else "." ++ String.ofList fraction)
      ++ "e" ++ layout.exponentSign.signed (places < 1) (toString (places - 1).natAbs)

/-- The shortest text of a double in a layout. -/
def text (layout : Layout) (x : Float) : String :=
  match Double.ofFloat x with
  | .notANumber => "NaN"
  | .infinite negative => SignRule.onlyMinus.signed negative "inf"
  | .finite negative significand exponent =>
    SignRule.onlyMinus.signed negative <|
      if significand == 0 then (if layout.keepsPoint then "0.0" else "0")
      else (shortest layout.tie significand exponent).text layout

/-- The text of a double in a message. -/
def message (x : Float) : String :=
  text messageLayout x

/-- The text of a double in a file. -/
def file (x : Float) : String :=
  text fileLayout x

/-! ## Fixed places -/

/-- The whole number nearest to a quotient; of two equally near ones the even one. -/
def roundDiv (numerator denominator : Nat) : Nat :=
  let quotient := numerator / denominator
  let twice := 2 * (numerator % denominator)
  if twice < denominator || (twice == denominator && quotient % 2 == 0) then quotient
  else quotient + 1

/--
A double with a fixed number of places, rounded from its exact value. The sign
stays on numbers that round to zero, and NaN never has one.
-/
def fixed (places : Nat) (x : Float) (rule : SignRule := .onlyMinus) : String :=
  match Double.ofFloat x with
  | .notANumber => "NaN"
  | .infinite negative => rule.signed negative "inf"
  | .finite negative significand exponent =>
    let scaled := significand * Nat.pow 2 exponent.toNat * Nat.pow 10 places
    let units := roundDiv scaled (Nat.pow 2 (-exponent).toNat)
    let digits := (toString units).toList
    let digits := List.replicate (places + 1 - digits.length) '0' ++ digits
    let whole := digits.take (digits.length - places)
    let fraction := digits.drop (digits.length - places)
    rule.signed negative <|
      String.ofList whole ++ (if places == 0 then "" else "." ++ String.ofList fraction)

/-- A text moved to the right end of a column. -/
def rightAligned (width : Nat) (text : String) : String :=
  String.ofList (List.replicate (width - text.length) ' ') ++ text

/-- A text moved to the left end of a column. -/
def leftAligned (width : Nat) (text : String) : String :=
  text ++ String.ofList (List.replicate (width - text.length) ' ')

end SwingTrader.Decimal
