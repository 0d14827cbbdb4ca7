/-!
# SwingTrader — the exact value of a double

A double is a sign and a whole number times a power of two, an infinity, or no
number at all. Everything that is written about a double in decimal digits is
computed from this form, in whole numbers.

* `Double` — the form;
* `Double.ofFloat` — reads it off the bits.
-/

namespace SwingTrader

/-- What the bits of a double stand for: `finite` is `significand * 2 ^ exponent`. -/
inductive Double where
  | notANumber
  | infinite (negative : Bool)
  | finite (negative : Bool) (significand : Nat) (exponent : Int)
  deriving DecidableEq, Repr

namespace Double

/-- The least exponent a finite double has. -/
def leastExponent : Int := -1074

/-- The least significand of a double whose exponent is above the least one. -/
def leastNormal : Nat := Nat.pow 2 52

/-- The form of a double. -/
def ofFloat (x : Float) : Double :=
  let bits := x.toBits.toNat
  let negative := bits / Nat.pow 2 63 == 1
  let biased := bits / leastNormal % Nat.pow 2 11
  let fraction := bits % leastNormal
  if biased == 2047 then
    if fraction == 0 then .infinite negative else .notANumber
  else if biased == 0 then .finite negative fraction leastExponent
  else .finite negative (fraction + leastNormal) (leastExponent + (biased - 1 : Nat))

end Double

end SwingTrader
