import SwingTrader.Arithmetic

/-!
# SwingTrader — balances by currency

* `Balances.get` — the balance in a currency, zero where none was ever set;
* `Balances.set`, `Balances.credit` — change one balance;
* `Balances.get_set` — and leave all others as they are.
-/

namespace SwingTrader

/-- Amounts held in several currencies. -/
structure Balances (α : Type) where
  entries : List (String × α) := []

namespace Balances

variable {α : Type} [Arithmetic α]

/-- The balance in a currency. -/
def get (balances : Balances α) (currency : String) : α :=
  (balances.entries.lookup currency).getD 0

/-- Replaces the first entry of a currency, or adds one. -/
def put (currency : String) (amount : α) : List (String × α) → List (String × α)
  | [] => [(currency, amount)]
  | entry :: rest =>
    if entry.1 = currency then (currency, amount) :: rest else entry :: put currency amount rest

/-- Sets the balance in a currency. -/
def set (balances : Balances α) (currency : String) (amount : α) : Balances α :=
  ⟨put currency amount balances.entries⟩

/-- Adds to the balance in a currency. -/
def credit (balances : Balances α) (currency : String) (amount : α) : Balances α :=
  balances.set currency (balances.get currency + amount)

omit [Arithmetic α] in
/-- An amount that was put in reads back under its own currency, and under no other. -/
theorem lookup_put (currency other : String) (amount : α) (entries : List (String × α)) :
    (put currency amount entries).lookup other =
      if other = currency then some amount else entries.lookup other := by
  induction entries with
  | nil =>
    by_cases h : other = currency
    · simp [put, h]
    · simp [put, List.lookup_cons, beq_false_of_ne h, h]
  | cons entry rest ih =>
    obtain ⟨name, held⟩ := entry
    rw [put]
    by_cases hname : name = currency
    · subst hname
      by_cases h : other = name
      · simp [h]
      · simp [List.lookup_cons, beq_false_of_ne h, h]
    · rw [if_neg hname, List.lookup_cons, List.lookup_cons, ih]
      by_cases h : other = name
      · subst h
        simp [hname]
      · simp [beq_false_of_ne h]

/-- Setting one balance leaves those of all other currencies. -/
theorem get_set (balances : Balances α) (currency other : String) (amount : α) :
    (balances.set currency amount).get other =
      if other = currency then amount else balances.get other := by
  rw [get, set, lookup_put]
  split
  · rfl
  · rfl

/-- Crediting one balance leaves those of all other currencies. -/
theorem get_credit (balances : Balances α) (currency other : String) (amount : α) :
    (balances.credit currency amount).get other =
      if other = currency then balances.get currency + amount else balances.get other :=
  get_set balances currency other _

end Balances

end SwingTrader
