import SwingTrader.Text.Uppercase

/-!
# SwingTrader — markets

A market trades a base currency against a counter currency and is named by the
two of them, `BASE-COUNTER`.

* `Market.ofCurrencies` — the market of two currencies;
* `Market.parse` — the market a user names, in either case of letters.
-/

namespace SwingTrader

/-- A traded pair. The id is what a venue knows the market by. -/
structure Market where
  id : String
  base : String
  counter : String
  deriving DecidableEq, Repr

/-- A name that is not two currencies joined by a hyphen. -/
structure MarketNameError where
  name : String

/-- The text of the error. -/
def MarketNameError.message (error : MarketNameError) : String :=
  s!"market id '{error.name}' is not of the form BASE-COUNTER"

namespace Market

/-- The market of two currencies, exactly as they are written. -/
def ofCurrencies (base counter : String) : Market :=
  ⟨base ++ "-" ++ counter, base, counter⟩

/--
Reads a market name: the base is what stands before the first hyphen, the
counter all that follows it, both in upper case, and neither may be empty.
-/
def parse (name : String) : Except MarketNameError Market :=
  let letters := name.toList
  match letters.takeWhile (· != '-'), letters.dropWhile (· != '-') with
  | base@(_ :: _), _ :: counter@(_ :: _) =>
    .ok (ofCurrencies (Text.uppercase (String.ofList base))
      (Text.uppercase (String.ofList counter)))
  | _, _ => .error ⟨name⟩

end Market

end SwingTrader
