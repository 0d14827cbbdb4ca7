import SwingTrader.Text.UppercaseTable

/-!
# SwingTrader — upper-casing text

Upper-casing works character by character through the tables of
`Text.UppercaseTable`; a character that no table lists is its own upper case.

* `Text.uppercase` — the upper case of a text;
* `Text.uppercase_append` — the upper case of a text is that of its parts.
-/

namespace SwingTrader.Text

/-- A code point belongs to a run when it lies in its range, on one of its steps. -/
def CaseRun.contains (run : CaseRun) (code : Nat) : Bool :=
  run.first ≤ code && code ≤ run.last && (code - run.first) % run.step == 0

/-- The upper case of one character. -/
def uppercaseChar (c : Char) : List Char :=
  match specialCasings.find? (·.1 == c.toNat) with
  | some (_, codes) => codes.map Char.ofNat
  | none =>
    match caseRuns.find? (·.contains c.toNat) with
    | some run => [Char.ofNat (c.toNat + run.distance).toNat]
    | none => [c]

/-- The upper case of a text. -/
def uppercase (text : String) : String :=
  String.ofList (text.toList.flatMap uppercaseChar)

/-- Upper case is taken letter by letter, so it is taken in parts. -/
theorem uppercase_append (s t : String) : uppercase (s ++ t) = uppercase s ++ uppercase t := by
  simp [uppercase, String.ofList_append]

end SwingTrader.Text
