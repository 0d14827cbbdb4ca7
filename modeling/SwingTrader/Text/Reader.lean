/-!
# SwingTrader — reading from the start of a text

A reader takes something from the start of a text and leaves the rest, or fails
and leaves everything. Readers are put together from a few small ones.

* `Text.Reader` — the type;
* `Reader.many` — one thing after another, for as long as there is one;
* `Reader.all?` — what a whole text holds.
-/

namespace SwingTrader.Text

/-- Takes an `α` from the start of a text, if there is one. -/
abbrev Reader (α : Type) := StateT (List Char) Option α

namespace Reader

variable {α : Type}

/-- One character of a class. -/
def oneOf (accepts : Char → Bool) : Reader Char
  | c :: rest => if accepts c then some (c, rest) else none
  | [] => none

/-- One given character. -/
def char (c : Char) : Reader Unit := do
  let _ ← oneOf (· == c)

/-- A given text. -/
def exactly (word : String) : Reader Unit :=
  word.toList.forM char

/-- As many characters of a class as there are. -/
def span (accepts : Char → Bool) : Reader (List Char) := fun text =>
  some (text.takeWhile accepts, text.dropWhile accepts)

/-- As many characters of a class as there are, and at least one. -/
def span1 (accepts : Char → Bool) : Reader (List Char) := do
  let first ← oneOf accepts
  return first :: (← span accepts)

/-- What comes next, without taking it. -/
def peek? : Reader (Option Char) := do
  return (← get).head?

/-- Up to `bound` things in a row. -/
def upTo (item : Reader α) : (bound : Nat) → Reader (List α)
  | 0 => pure []
  | bound + 1 => fun text =>
    match item text with
    | some (value, rest) => (fun (values, rest) => (value :: values, rest)) <$> upTo item bound rest
    | none => some ([], text)

/-- One thing after another. A reader that takes something every time can do so no oftener than
there are characters. -/
def many (item : Reader α) : Reader (List α) := fun text =>
  upTo item text.length text

/-- Two or more things with something between them, or one, or none. -/
def separated (separator : Reader Unit) (item : Reader α) : Reader (List α) := do
  match ← optional item with
  | none => return []
  | some first => return first :: (← many (separator *> item))

/-- What a whole text holds, if nothing is left of it. -/
def all? (item : Reader α) (text : String) : Option α :=
  match item text.toList with
  | some (value, []) => some value
  | _ => none

/-- What is taken and what is left over are the text. -/
theorem span_append (accepts : Char → Bool) {text taken rest : List Char}
    (h : span accepts text = some (taken, rest)) : taken ++ rest = text := by
  simp only [span, Option.some.injEq, Prod.mk.injEq] at h
  rw [← h.1, ← h.2, List.takeWhile_append_dropWhile]

end Reader

end SwingTrader.Text
