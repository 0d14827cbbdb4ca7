/-!
# SwingTrader — the arithmetic of prices and quantities

A running program reckons in doubles; a statement about money is read in exact
rationals. The formulas of the library that both readings share are written
once, over `Arithmetic`, and used at both instances.

* `Arithmetic` — the operations the formulas need, and nothing else;
* `Arithmetic Float` and `Arithmetic Rat` — the two readings;
* `minNumber`, `maxNumber` — extremes of doubles that step over NaN.
-/

namespace SwingTrader

/--
The operations on prices and quantities that formulas are written with.
`dust` is the size below which a remainder counts as nothing, and `isFinite`
says which values are numbers at all.
-/
class Arithmetic (α : Type) extends
    Zero α, One α, Add α, Sub α, Neg α, Mul α, Div α, LT α, LE α where
  decidableLT : DecidableLT α
  decidableLE : DecidableLE α
  isFinite : α → Bool
  dust : α

attribute [reducible, instance] Arithmetic.decidableLT Arithmetic.decidableLE

/-- Doubles: each operation rounds once, and NaN and the infinities are not finite. -/
instance : Arithmetic Float where
  zero := 0.0
  one := 1.0
  decidableLT := inferInstance
  decidableLE := inferInstance
  isFinite := Float.isFinite
  dust := 1e-12

/-- Exact rationals: nothing rounds and every value is finite. -/
instance : Arithmetic Rat where
  zero := 0
  one := 1
  decidableLT := inferInstance
  decidableLE := inferInstance
  isFinite _ := true
  dust := 1e-12

/-- The value of an indicator that does not apply, and of a price that is not known. -/
def notANumber : Float := 0.0 / 0.0

/-- The lesser of two doubles, or the other one when one of them is NaN. -/
def minNumber (x y : Float) : Float :=
  if y < x then y else if x.isNaN then y else x

/-- The greater of two doubles, or the other one when one of them is NaN. -/
def maxNumber (x y : Float) : Float :=
  if x < y then y else if x.isNaN then y else x

end SwingTrader
