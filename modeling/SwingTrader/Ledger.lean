import SwingTrader.Order

/-!
# SwingTrader — the trade ledger

A ledger remembers at which bars a position was opened and closed. Its events
follow one another strictly, and entries and exits take turns. Entries and exits
are kept apart, newest first, so that the latest one at or before a bar is the
first that is not later.

* `TradeLedger.recordEntry`, `TradeLedger.recordExit` — add an event or refuse it;
* `TradeLedger.lastEventAt` — what happened last as of a bar;
* `LedgerBook` — the ledgers of one trader, known by number.
-/

namespace SwingTrader

/-- The number of a ledger in a book. -/
structure LedgerId where
  number : Nat
  deriving DecidableEq, Repr

/-- The name of a ledger in messages. -/
def LedgerId.label (id : LedgerId) : String :=
  s!"LedgerId({id.number})"

/-- Why a ledger refuses an event. -/
inductive LedgerError where
  | outOfOrder (index last : Nat)
  | alreadyInPosition (index openSince : Nat)
  | notInPosition (index : Nat)
  | unknownLedger (id : LedgerId)
  deriving DecidableEq, Repr

/-- The text of the error. -/
def LedgerError.message : LedgerError → String
  | outOfOrder index last =>
    s!"event at index {index} does not follow the last recorded event at {last}"
  | alreadyInPosition index openSince =>
    s!"entry at index {index} while the position opened at {openSince} is still open"
  | notInPosition index => s!"exit at index {index} without an open position"
  | unknownLedger id => s!"ledger {id.label} does not exist"

/-- Something that happened to the position of a ledger. -/
inductive TradeEvent where
  | entry (index : Nat) (side : Side)
  | exit (index : Nat)
  deriving DecidableEq, Repr

/-- The bar of an event. -/
def TradeEvent.index : TradeEvent → Nat
  | entry index _ => index
  | exit index => index

/-- An event that opens a position. -/
def TradeEvent.isEntry : TradeEvent → Bool
  | entry .. => true
  | exit _ => false

/-- The bars at which positions were opened and closed, newest first. -/
structure TradeLedger where
  entries : List (Nat × Side) := []
  exits : List Nat := []
  deriving DecidableEq, Repr

namespace TradeLedger

/-- The ledger without events. -/
def empty : TradeLedger := {}

/-- The latest entry at or before a bar. -/
def lastEntryAt (ledger : TradeLedger) (index : Nat) : Option (Nat × Side) :=
  ledger.entries.find? fun entry => entry.1 ≤ index

/-- The latest exit at or before a bar. -/
def lastExitAt (ledger : TradeLedger) (index : Nat) : Option Nat :=
  ledger.exits.find? fun exit => exit ≤ index

/-- Of the latest entry and exit, the exit if it is not before the entry. -/
def latest (entry : Option (Nat × Side)) (exit : Option Nat) : Option TradeEvent :=
  match entry, exit with
  | none, _ => none
  | some (entered, side), none => some (.entry entered side)
  | some (entered, side), some exited =>
    if entered ≤ exited then some (.exit exited) else some (.entry entered side)

/-- The latest event at or before a bar; none before the first entry. -/
def lastEventAt (ledger : TradeLedger) (index : Nat) : Option TradeEvent :=
  latest (ledger.lastEntryAt index) (ledger.lastExitAt index)

/-- Whether a position is open as of a bar. -/
def isInPositionAt (ledger : TradeLedger) (index : Nat) : Bool :=
  (ledger.lastEventAt index).any TradeEvent.isEntry

/-- The latest event of all. -/
def lastEvent (ledger : TradeLedger) : Option TradeEvent :=
  latest ledger.entries.head? ledger.exits.head?

/-- The entry of the position that is open now. -/
def openEntry (ledger : TradeLedger) : Option (Nat × Side) :=
  match ledger.lastEvent with
  | some (.entry index side) => some (index, side)
  | _ => none

/-- The bar of the newest event. -/
def lastIndex? (ledger : TradeLedger) : Option Nat :=
  match ledger.entries.head?, ledger.exits.head? with
  | none, exit => exit
  | some (entered, _), none => some entered
  | some (entered, _), some exited => some (max entered exited)

/-- An event must come after every event before it. -/
def checkOrder (ledger : TradeLedger) (index : Nat) : Except LedgerError Unit :=
  match ledger.lastIndex? with
  | some last => if index ≤ last then .error (.outOfOrder index last) else .ok ()
  | none => .ok ()

/-- Adds an entry. It must come after every event, and no position may be open. -/
def recordEntry (ledger : TradeLedger) (index : Nat) (side : Side) :
    Except LedgerError TradeLedger := do
  ledger.checkOrder index
  match ledger.openEntry with
  | some (openSince, _) => .error (.alreadyInPosition index openSince)
  | none => .ok { ledger with entries := (index, side) :: ledger.entries }

/-- Adds an exit. It must come after every event, and a position must be open. -/
def recordExit (ledger : TradeLedger) (index : Nat) : Except LedgerError TradeLedger := do
  ledger.checkOrder index
  match ledger.openEntry with
  | some _ => .ok { ledger with exits := index :: ledger.exits }
  | none => .error (.notInPosition index)

end TradeLedger

/-! ## Books -/

/-- The ledgers of one trader, in the order they were opened. -/
structure LedgerBook where
  ledgers : List TradeLedger := []

namespace LedgerBook

/-- The book without ledgers. -/
def empty : LedgerBook := {}

/-- Opens an empty ledger under the next number. -/
def create (book : LedgerBook) : LedgerId × LedgerBook :=
  (⟨book.ledgers.length⟩, ⟨book.ledgers ++ [.empty]⟩)

/-- The ledger of a number. -/
def get? (book : LedgerBook) (id : LedgerId) : Option TradeLedger :=
  book.ledgers[id.number]?

/-- The ledger of a number, read as empty where there is none. -/
def read (book : LedgerBook) (id : LedgerId) : TradeLedger :=
  (book.get? id).getD .empty

/-- Rewrites one ledger; the book stays as it was when that fails. -/
def update (book : LedgerBook) (id : LedgerId)
    (change : TradeLedger → Except LedgerError TradeLedger) : Except LedgerError LedgerBook :=
  match book.get? id with
  | none => .error (.unknownLedger id)
  | some ledger => do
    let ledger ← change ledger
    return ⟨book.ledgers.set id.number ledger⟩

/-- Adds an entry to a ledger of the book. -/
def recordEntry (book : LedgerBook) (id : LedgerId) (index : Nat) (side : Side) :
    Except LedgerError LedgerBook :=
  book.update id fun ledger => ledger.recordEntry index side

/-- Adds an exit to a ledger of the book. -/
def recordExit (book : LedgerBook) (id : LedgerId) (index : Nat) :
    Except LedgerError LedgerBook :=
  book.update id fun ledger => ledger.recordExit index

end LedgerBook

end SwingTrader
