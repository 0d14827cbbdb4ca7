import SwingTrader.Ledger

/-!
# SwingTrader — what a ledger takes

A ledger that takes an event has the event at its newest bar, and an entry and an
exit take turns at having the position open.

* `TradeLedger.recordEntry_ok`, `TradeLedger.recordExit_ok` — which events a
  ledger takes;
* `TradeLedger.openEntry_of_recordEntry`, `TradeLedger.openEntry_of_recordExit` — the
  position that is open afterwards;
* `TradeLedger.Ordered` — every event has a bar of its own, none of them later
  than the newest event;
* `TradeEvent.lastEventAt_of_record` — an event changes nothing before its bar;
* `LedgerBook.update_ok`, `LedgerBook.read_update_of_ne` — a book rewrites a ledger
  that it has, and no other.
-/

namespace SwingTrader

namespace TradeLedger

variable {ledger ledger' : TradeLedger} {index : Nat} {side : Side}

/-- The bars of all events. -/
def indices (ledger : TradeLedger) : List Nat :=
  ledger.entries.map Prod.fst ++ ledger.exits

/-- A bar that comes after every event. -/
def IsNew (ledger : TradeLedger) (index : Nat) : Prop :=
  ∀ last, ledger.lastIndex? = some last → last < index

/-- Only an event at a new bar is in order. -/
theorem checkOrder_ok : ledger.checkOrder index = .ok () ↔ ledger.IsNew index := by
  unfold checkOrder IsNew
  cases ledger.lastIndex? with
  | none => simp
  | some last =>
    by_cases h : index ≤ last
    · simp [h]
    · simp [h, Nat.lt_of_not_le h]

/-- An entry is taken at a new bar while no position is open, and is then the newest. -/
theorem recordEntry_ok :
    ledger.recordEntry index side = .ok ledger' ↔
      ledger.IsNew index ∧ ledger.openEntry = none ∧
        ledger' = { ledger with entries := (index, side) :: ledger.entries } := by
  rw [← checkOrder_ok, recordEntry]
  cases ledger.checkOrder index with
  | error error => simp [bind, Except.bind]
  | ok _ => cases ledger.openEntry <;> simp [bind, Except.bind, @eq_comm _ ledger']

/-- An exit is taken at a new bar while a position is open, and is then the newest. -/
theorem recordExit_ok :
    ledger.recordExit index = .ok ledger' ↔
      ledger.IsNew index ∧ ledger.openEntry.isSome ∧
        ledger' = { ledger with exits := index :: ledger.exits } := by
  rw [← checkOrder_ok, recordExit]
  cases ledger.checkOrder index with
  | error error => simp [bind, Except.bind]
  | ok _ => cases ledger.openEntry <;> simp [bind, Except.bind, @eq_comm _ ledger']

/-! ## The newest event -/

/-- A bar is new if it comes after the newest entry and after the newest exit. -/
theorem isNew_iff :
    ledger.IsNew index ↔
      (∀ entry, ledger.entries.head? = some entry → entry.1 < index) ∧
        ∀ exited, ledger.exits.head? = some exited → exited < index := by
  unfold IsNew lastIndex?
  cases ledger.entries.head? with
  | none => simp
  | some entry =>
    cases ledger.exits.head? with
    | none => simp
    | some exited => simp only [Option.some.injEq, forall_eq', Nat.max_lt]

/-- A bar that comes after every event is new. -/
theorem isNew_of_lt (h : ∀ event ∈ ledger.indices, event < index) : ledger.IsNew index := by
  refine isNew_iff.mpr ⟨fun entry hentry => h _ ?_, fun exited hexited => h _ ?_⟩
  · exact List.mem_append_left _ (List.mem_map_of_mem (List.mem_of_head? hentry))
  · exact List.mem_append_right _ (List.mem_of_head? hexited)

/-- An entry adds its own bar. -/
theorem indices_of_recordEntry (h : ledger.recordEntry index side = .ok ledger') :
    ledger'.indices = index :: ledger.indices := by
  obtain ⟨-, -, rfl⟩ := recordEntry_ok.mp h
  rfl

/-- So does an exit, behind the bars of the entries. -/
theorem indices_of_recordExit (h : ledger.recordExit index = .ok ledger') :
    ledger'.indices.Perm (index :: ledger.indices) := by
  obtain ⟨-, -, rfl⟩ := recordExit_ok.mp h
  exact List.perm_middle

theorem lastIndex?_of_recordEntry (h : ledger.recordEntry index side = .ok ledger') :
    ledger'.lastIndex? = some index := by
  obtain ⟨hnew, -, rfl⟩ := recordEntry_ok.mp h
  cases hexit : ledger.exits.head? with
  | none => simp [lastIndex?, hexit]
  | some exited =>
    have hlt : exited < index := (isNew_iff.mp hnew).2 exited hexit
    simp [lastIndex?, hexit, Nat.le_of_lt hlt]

theorem lastIndex?_of_recordExit (h : ledger.recordExit index = .ok ledger') :
    ledger'.lastIndex? = some index := by
  obtain ⟨hnew, -, rfl⟩ := recordExit_ok.mp h
  cases hentry : ledger.entries.head? with
  | none => simp [lastIndex?, hentry]
  | some entry =>
    have hlt : entry.1 < index := (isNew_iff.mp hnew).1 entry hentry
    simp [lastIndex?, hentry, Nat.le_of_lt hlt]

/-- An entry opens a position. -/
theorem openEntry_of_recordEntry (h : ledger.recordEntry index side = .ok ledger') :
    ledger'.openEntry = some (index, side) := by
  obtain ⟨hnew, -, rfl⟩ := recordEntry_ok.mp h
  cases hexit : ledger.exits.head? with
  | none => simp [openEntry, lastEvent, latest, hexit]
  | some exited =>
    have hlt : exited < index := (isNew_iff.mp hnew).2 exited hexit
    simp [openEntry, lastEvent, latest, hexit, Nat.not_le.mpr hlt]

/-- An exit closes the position. -/
theorem openEntry_of_recordExit (h : ledger.recordExit index = .ok ledger') :
    ledger'.openEntry = none := by
  obtain ⟨hnew, -, rfl⟩ := recordExit_ok.mp h
  cases hentry : ledger.entries.head? with
  | none => simp [openEntry, lastEvent, latest, hentry]
  | some entry =>
    have hlt : entry.1 < index := (isNew_iff.mp hnew).1 entry hentry
    simp [openEntry, lastEvent, latest, hentry, Nat.le_of_lt hlt]

/-! ## Order -/

/-- Every event has a bar of its own, and none is later than the newest event. -/
structure Ordered (ledger : TradeLedger) : Prop where
  nodup : ledger.indices.Nodup
  le_last : ∀ index ∈ ledger.indices, ∃ last, ledger.lastIndex? = some last ∧ index ≤ last

theorem ordered_empty : empty.Ordered where
  nodup := .nil
  le_last := by simp [indices, empty]

/-- A bar that comes after the newest event comes after every event. -/
theorem Ordered.lt_of_isNew (hordered : ledger.Ordered) (hnew : ledger.IsNew index) {earlier : Nat}
    (h : earlier ∈ ledger.indices) : earlier < index := by
  obtain ⟨last, hlast, hle⟩ := hordered.le_last earlier h
  exact Nat.lt_of_le_of_lt hle (hnew last hlast)

/-- A ledger stays ordered when an event at a new bar becomes its newest one. -/
theorem Ordered.extend (hordered : ledger.Ordered) (hnew : ledger.IsNew index)
    (hindices : ledger'.indices.Perm (index :: ledger.indices))
    (hlast : ledger'.lastIndex? = some index) : ledger'.Ordered where
  nodup := by
    refine hindices.nodup_iff.mpr (List.nodup_cons.mpr ⟨fun h => ?_, hordered.nodup⟩)
    exact Nat.lt_irrefl index (hordered.lt_of_isNew hnew h)
  le_last := by
    intro earlier h
    refine ⟨index, hlast, ?_⟩
    obtain rfl | h := List.mem_cons.mp (hindices.mem_iff.mp h)
    · exact Nat.le_refl _
    · exact Nat.le_of_lt (hordered.lt_of_isNew hnew h)

theorem Ordered.recordEntry (hordered : ledger.Ordered)
    (h : ledger.recordEntry index side = .ok ledger') : ledger'.Ordered := by
  refine hordered.extend (recordEntry_ok.mp h).1 ?_ (lastIndex?_of_recordEntry h)
  rw [indices_of_recordEntry h]

theorem Ordered.recordExit (hordered : ledger.Ordered)
    (h : ledger.recordExit index = .ok ledger') : ledger'.Ordered :=
  hordered.extend (recordExit_ok.mp h).1 (indices_of_recordExit h) (lastIndex?_of_recordExit h)

/-! ## Looking back -/

/-- The last event at a bar is not later than the bar. -/
theorem le_of_lastEventAt_entry {entered : Nat}
    (h : ledger.lastEventAt index = some (.entry entered side)) : entered ≤ index := by
  have hentry : ledger.lastEntryAt index = some (entered, side) := by
    unfold lastEventAt at h
    cases hentry : ledger.lastEntryAt index with
    | none => simp [hentry, latest] at h
    | some entry => cases hexit : ledger.lastExitAt index <;> grind [latest]
  simpa using List.find?_some hentry

end TradeLedger

namespace TradeEvent

variable {ledger ledger' : TradeLedger}

/-- Adds an event to a ledger. -/
def record : TradeEvent → TradeLedger → Except LedgerError TradeLedger
  | entry index side, ledger => ledger.recordEntry index side
  | exit index, ledger => ledger.recordExit index

/-- Before the bar of an event, a ledger that takes the event looks as it did. -/
theorem lastEventAt_of_record {event : TradeEvent} (h : event.record ledger = .ok ledger')
    {index : Nat} (hindex : index < event.index) :
    ledger'.lastEventAt index = ledger.lastEventAt index := by
  cases event with
  | entry entered side =>
    obtain ⟨-, -, rfl⟩ := TradeLedger.recordEntry_ok.mp h
    have hlater : ¬entered ≤ index := Nat.not_le.mpr hindex
    simp [TradeLedger.lastEventAt, TradeLedger.lastEntryAt, TradeLedger.lastExitAt, hlater]
  | exit exited =>
    obtain ⟨-, -, rfl⟩ := TradeLedger.recordExit_ok.mp h
    have hlater : ¬exited ≤ index := Nat.not_le.mpr hindex
    simp [TradeLedger.lastEventAt, TradeLedger.lastEntryAt, TradeLedger.lastExitAt, hlater]

end TradeEvent

/-! ## Books -/

namespace LedgerBook

variable {book book' : LedgerBook} {id : LedgerId}

/-- A change of a book is a change of one ledger in it, which that ledger takes. -/
theorem update_eq_ok {change : TradeLedger → Except LedgerError TradeLedger} :
    book.update id change = .ok book' ↔
      ∃ ledger ledger', book.get? id = some ledger ∧ change ledger = .ok ledger' ∧
        book' = ⟨book.ledgers.set id.number ledger'⟩ := by
  unfold update
  cases hget : book.get? id with
  | none => simp
  | some ledger =>
    cases hchange : change ledger with
    | error error => simp [hchange, bind, Except.bind]
    | ok ledger' => simp [hchange, bind, Except.bind, pure, Except.pure, @eq_comm _ book']

/-- A ledger is rewritten only where it exists, and then it is the one that is read. -/
theorem update_ok {change : TradeLedger → Except LedgerError TradeLedger}
    (h : book.update id change = .ok book') :
    ∃ ledger ledger', book.get? id = some ledger ∧ change ledger = .ok ledger' ∧
      book'.get? id = some ledger' := by
  obtain ⟨ledger, ledger', hget, hchange, rfl⟩ := update_eq_ok.mp h
  obtain ⟨hlt, -⟩ := List.getElem?_eq_some_iff.mp hget
  exact ⟨ledger, ledger', hget, hchange, by simp [get?, hlt]⟩

/-- A rewrite leaves every other ledger of the book as it was. -/
theorem read_update_of_ne {change : TradeLedger → Except LedgerError TradeLedger}
    (h : book.update id change = .ok book') {other : LedgerId} (hother : other ≠ id) :
    book'.read other = book.read other := by
  obtain ⟨-, ledger', -, -, rfl⟩ := update_eq_ok.mp h
  have hnumber : id.number ≠ other.number := fun heq => hother (congrArg LedgerId.mk heq).symm
  rw [read, get?, List.getElem?_set_ne hnumber]
  rfl

/-- Before the bar of an event, every ledger of a book that takes the event looks as it did. -/
theorem lastEventAt_of_update {event : TradeEvent} (h : book.update id event.record = .ok book')
    (other : LedgerId) {index : Nat} (hindex : index < event.index) :
    (book'.read other).lastEventAt index = (book.read other).lastEventAt index := by
  by_cases hother : other = id
  · subst hother
    obtain ⟨ledger, ledger', hget, hrecord, hget'⟩ := update_ok h
    rw [read, read, hget, hget']
    exact TradeEvent.lastEventAt_of_record hrecord hindex
  · rw [read_update_of_ne h hother]

end LedgerBook

end SwingTrader
