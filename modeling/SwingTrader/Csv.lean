/-!
# SwingTrader — comma-separated values

A file of records, one a line, with fields between commas. A field may stand
between quotes, and then holds commas, line ends, and quotes written twice. Lines
without anything on them hold no record.

* `Csv.records` — the records of a text;
* `Csv.line` — the line of a record whose fields need no quotes;
* `Csv.recordsFrom_of_ends` — blank lines hold nothing.
-/

namespace SwingTrader.Csv

/-- Where the reading of a record stands. -/
inductive Place where
  /-- Before anything on the line. -/
  | lineStart
  | fieldStart
  | bare
  | quoted
  /-- After a quote inside a quoted field, which ends it unless it is the first of two. -/
  | afterQuote
  deriving DecidableEq, Repr

/-- The place, and the characters and fields of the record so far, newest first. -/
structure Cursor where
  place : Place := .lineStart
  field : List Char := []
  fields : List String := []

namespace Cursor

/-- Adds a character to the field. -/
def push (cursor : Cursor) (c : Char) (place : Place) : Cursor :=
  { cursor with field := c :: cursor.field, place }

/-- Ends the field. -/
def endField (cursor : Cursor) : Cursor where
  place := .fieldStart
  fields := String.ofList cursor.field.reverse :: cursor.fields

/-- The record, when it ends here. -/
def record (cursor : Cursor) : List String :=
  cursor.endField.fields.reverse

end Cursor

/-- A line ends with a line feed or a carriage return; the second of two ends a blank line. -/
def isLineEnd (c : Char) : Bool :=
  c == '\n' || c == '\x0d'

/-- Takes in one character, and answers the record that it ends. -/
def step (cursor : Cursor) (c : Char) : Cursor × Option (List String) :=
  match cursor.place with
  | .quoted =>
    if c == '"' then ({ cursor with place := .afterQuote }, none)
    else (cursor.push c .quoted, none)
  | place =>
    if place == .afterQuote && c == '"' then (cursor.push c .quoted, none)
    else if isLineEnd c then
      if place == .lineStart then (cursor, none) else ({}, some cursor.record)
    else if c == ',' then (cursor.endField, none)
    else if c == '"' && (place == .lineStart || place == .fieldStart) then
      ({ cursor with place := .quoted }, none)
    else (cursor.push c .bare, none)

/-- The records of what is left of a text. -/
def recordsFrom (cursor : Cursor) : List Char → List (List String)
  | [] => if cursor.place = .lineStart then [] else [cursor.record]
  | c :: rest =>
    match step cursor c with
    | (next, some record) => record :: recordsFrom next rest
    | (next, none) => recordsFrom next rest

/-- The records of a text, which may begin with a byte order mark. -/
def records (text : String) : List (List String) :=
  match text.toList with
  | '\uFEFF' :: rest => recordsFrom {} rest
  | all => recordsFrom {} all

/-- The line of a record whose fields need no quotes. -/
def line (fields : List String) : String :=
  ",".intercalate fields ++ "\n"

/-- Text of nothing but line ends holds no records. -/
theorem recordsFrom_of_ends {text : List Char} (h : text.all isLineEnd = true) :
    recordsFrom {} text = [] := by
  induction text with
  | nil => rfl
  | cons c rest ih =>
    rw [List.all_cons, Bool.and_eq_true] at h
    have hstep : step {} c = ({}, none) := by
      simp [step, h.1]
    rw [recordsFrom, hstep]
    exact ih h.2

end SwingTrader.Csv
