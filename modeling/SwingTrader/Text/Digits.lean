/-!
# SwingTrader — decimal digits

* `Text.digitsValue` — the value of a run of digits;
* `Text.zeroPadded` — a number in digits, filled with zeros to a width.
-/

namespace SwingTrader.Text

/-- The value of a run of decimal digits. -/
def digitsValue (digits : List Char) : Nat :=
  digits.foldl (fun n c => n * 10 + (c.toNat - '0'.toNat)) 0

/-- A number with at least `width` digits, filled with zeros on the left. -/
def zeroPadded (width n : Nat) : String :=
  let digits := toString n
  String.ofList (List.replicate (width - digits.length) '0') ++ digits

end SwingTrader.Text
