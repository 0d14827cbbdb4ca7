/-!
# SwingTrader — blank characters

The characters with the property White_Space of Unicode, and trimming by them.

* `Text.isBlank` — the property;
* `Text.trimStart` — a text without its leading blanks;
* `Text.isBlank_of_isWhitespace` — every blank of ASCII is one.
-/

namespace SwingTrader.Text

/-- The property White_Space. -/
def isBlank (c : Char) : Bool :=
  let code := c.toNat
  (0x09 ≤ code && code ≤ 0x0D) || code == 0x20 || code == 0x85 || code == 0xA0
    || code == 0x1680 || (0x2000 ≤ code && code ≤ 0x200A) || code == 0x2028 || code == 0x2029
    || code == 0x202F || code == 0x205F || code == 0x3000

/-- White space is blank. -/
theorem isBlank_of_isWhitespace {c : Char} (h : c.isWhitespace = true) : isBlank c = true := by
  simp only [Char.isWhitespace, Bool.or_eq_true, decide_eq_true_eq] at h
  rcases h with ((h | h) | h) | h <;> subst h <;> decide

/-- A text without its leading blanks. -/
def trimStart (text : List Char) : List Char :=
  text.dropWhile isBlank

/-- Trimming makes no text longer. -/
theorem trimStart_length_le (text : List Char) : (trimStart text).length ≤ text.length :=
  List.IsSuffix.length_le (List.dropWhile_suffix _)

end SwingTrader.Text
