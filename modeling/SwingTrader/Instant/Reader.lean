import SwingTrader.Instant.Civil
import SwingTrader.Text.Blank
import SwingTrader.Text.Reader

/-!
# SwingTrader — reading an instant

An instant is read as RFC 3339 writes it, with some latitude: blanks may stand
before each number and separator, numbers may have fewer digits, a year may
carry a sign, and the date may be followed by `T` or by a blank. The offset is
`Z`, `UTC`, or a sign with hours and minutes, and it is required.

* `Instant.parse?` — the instant that a text names, if it names one.
-/

namespace SwingTrader.Instant

open Text (Reader)

namespace Reading

/-- A number of one to `most` digits. -/
def number (most : Nat) : Reader Nat := fun text =>
  let digits := (text.take most).takeWhile Char.isDigit
  if digits.isEmpty then none else some (Text.digitsValue digits, text.drop digits.length)

/-- Passes over blanks. -/
def blanks : Reader Unit := fun text =>
  some ((), Text.trimStart text)

/-- A number of at most two digits within bounds, after blanks. -/
def field (least most : Nat) : Reader Nat := do
  blanks
  let n ← number 2
  if least ≤ n ∧ n ≤ most then pure n else failure

/-- A separator, after blanks. -/
def separator (c : Char) : Reader Unit := do
  blanks
  Reader.char c

/-- A year: up to four digits, or any number of them after a sign. -/
def year : Reader Int := do
  blanks
  match ← get with
  | '-' :: rest => do
    set rest
    return -((← number rest.length) : Int)
  | '+' :: rest => do
    set rest
    return ((← number rest.length) : Int)
  | _ => return ((← number 4) : Int)

/-- Whether a year is in reach; those beyond the two-hundred-and-sixty-second millennium are not. -/
def isInReach (year : Int) : Bool :=
  -262143 ≤ year && year ≤ 262142

/-- A calendar date. -/
def date : Reader CivilDate := do
  let y ← year
  separator '-'
  let m ← field 1 12
  separator '-'
  let d ← field 1 31
  let date : CivilDate := ⟨y, m, d⟩
  if date.isValid && isInReach y then pure date else failure

/-- The fraction of a second in nanoseconds; digits past the ninth are dropped. -/
def fraction : Reader Nat := fun text =>
  match text with
  | '.' :: rest =>
    let digits := rest.takeWhile Char.isDigit
    let kept := digits.take 9
    if kept.isEmpty then none
    else some (Text.digitsValue kept * Nat.pow 10 (9 - kept.length), rest.drop digits.length)
  | _ => some (0, text)

/-- Two digits that make a number of at most `most`. -/
def twoDigits (most : Nat) : Reader Nat
  | a :: b :: rest =>
    let n := Text.digitsValue [a, b]
    if a.isDigit && b.isDigit && n ≤ most then some (n, rest) else none
  | _ => none

/-- The distance from universal time, in seconds. -/
def offset : Reader Int := do
  match ← get with
  | u :: t :: c :: rest =>
    if [u, t, c].map Char.toUpper == ['U', 'T', 'C'] then
      set rest
      return 0
  | _ => pure ()
  match ← get with
  | 'Z' :: rest | 'z' :: rest =>
    set rest
    return 0
  | '+' :: rest =>
    set rest
    signed 1
  | '-' :: rest | '\u2212' :: rest =>
    set rest
    signed (-1)
  | _ => failure
where
  /-- Hours and minutes, with any colons and blanks between them. -/
  signed (sign : Int) : Reader Int := do
    let hours ← twoDigits 23
    modify (·.dropWhile fun c => c == ':' || Text.isBlank c)
    let minutes ← twoDigits 59
    return sign * ((hours * 3600 + minutes * 60 : Nat) : Int)

/-- A date, a time of day and an offset. The sixtieth second is a leap second. The date has to be in
reach in universal time as well. -/
def instant : Reader Instant := do
  let date ← date
  match ← get with
  | 'T' :: rest | 't' :: rest | ' ' :: rest => set rest
  | _ => failure
  let hour ← field 0 23
  separator ':'
  let minute ← field 0 59
  separator ':'
  let second ← field 0 60
  let nanos ← fraction
  blanks
  let offset ← offset
  let leap := second == 60
  let secondOfDay := hour * 3600 + minute * 60 + (if leap then 59 else second)
  let instant : Instant :=
    ⟨date.dayNumber * 86400 + secondOfDay - offset, nanos + (if leap then 1000000000 else 0)⟩
  if isInReach instant.date.year then pure instant else failure

end Reading

/-- The instant a text names; blanks may follow it and nothing else. -/
def parse? (text : String) : Option Instant :=
  match Reading.instant.run text.toList with
  | some (t, rest) => if (Text.trimStart rest).isEmpty then some t else none
  | none => none

end SwingTrader.Instant
