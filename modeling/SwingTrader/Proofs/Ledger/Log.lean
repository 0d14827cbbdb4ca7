import Mathlib.Data.List.Induction
import SwingTrader.Proofs.Ledger

/-!
# SwingTrader — a ledger as a log

A ledger keeps entries and exits apart and finds the current event by comparing
the latest of each. Seen from outside it is one log: the events that it took, in
the order in which it took them. What the ledger takes, what it answers to a
question about a bar and why it refuses an event can all be read off the log.

* `TradeLedger.Logged` — a ledger and the log it was built from;
* `TradeLedger.Logged.increasing`, `TradeLedger.Logged.takesTurns` — the shape of
  a log;
* `TradeLedger.Logged.lastEventAt_eq`, `TradeLedger.Logged.lastEntryAt_eq`,
  `TradeLedger.Logged.lastExitAt_eq` — the answers of the ledger, from the log;
* `TradeLedger.Mirrors` — everything in which a ledger follows a log;
* `TradeLedger.mirrors_of_calls` — it does so after any calls, taken or refused.
-/

namespace SwingTrader

namespace TradeLedger

variable {ledger : TradeLedger}

/-- While a position is open there is an entry as of any bar that all entries have come by. -/
theorem lastEntryAt_of_openEntry (hopen : ledger.openEntry.isSome) {bar : Nat}
    (hbar : ∀ entered ∈ ledger.entries.map Prod.fst, entered ≤ bar) :
    ∃ entry, ledger.lastEntryAt bar = some entry := by
  cases hentries : ledger.entries with
  | nil => simp [openEntry, lastEvent, latest, hentries] at hopen
  | cons entry older =>
    have hle : entry.1 ≤ bar := hbar entry.1 (by simp [hentries])
    exact ⟨entry, by simp [lastEntryAt, hentries, hle]⟩

end TradeLedger

/-! ## Events -/

namespace TradeEvent

/-- The bar and the side of an event that opens a position. -/
def opening? : TradeEvent → Option (Nat × Side)
  | entry index side => some (index, side)
  | exit _ => none

/-- The bar of an event that closes a position. -/
def closing? : TradeEvent → Option Nat
  | entry .. => none
  | exit index => some index

variable {event : TradeEvent} {ledger ledger' : TradeLedger}

theorem record_lastIndex? (h : event.record ledger = .ok ledger') :
    ledger'.lastIndex? = some event.index := by
  cases event with
  | entry => exact TradeLedger.lastIndex?_of_recordEntry h
  | exit => exact TradeLedger.lastIndex?_of_recordExit h

theorem record_openEntry (h : event.record ledger = .ok ledger') :
    ledger'.openEntry = event.opening? := by
  cases event with
  | entry => exact TradeLedger.openEntry_of_recordEntry h
  | exit => exact TradeLedger.openEntry_of_recordExit h

theorem record_ordered (h : event.record ledger = .ok ledger') (hordered : ledger.Ordered) :
    ledger'.Ordered := by
  cases event with
  | entry => exact hordered.recordEntry h
  | exit => exact hordered.recordExit h

theorem isNew_of_record (h : event.record ledger = .ok ledger') : ledger.IsNew event.index := by
  cases event with
  | entry => exact (TradeLedger.recordEntry_ok.mp h).1
  | exit => exact (TradeLedger.recordExit_ok.mp h).1

/-- An event is taken only in its turn. -/
theorem openEntry_isSome_of_record (h : event.record ledger = .ok ledger') :
    ledger.openEntry.isSome = !event.isEntry := by
  cases event with
  | entry => simp [(TradeLedger.recordEntry_ok.mp h).2.1, isEntry]
  | exit => simp [(TradeLedger.recordExit_ok.mp h).2.1, isEntry]

/-- The latest entry is the new one from its bar on. -/
theorem lastEntryAt_of_record (h : event.record ledger = .ok ledger') (bar : Nat) :
    ledger'.lastEntryAt bar =
      ((event.opening?.filter fun entry => decide (entry.1 ≤ bar)).or
        (ledger.lastEntryAt bar)) := by
  cases event with
  | entry index side =>
    obtain ⟨-, -, rfl⟩ := TradeLedger.recordEntry_ok.mp h
    by_cases hbar : index ≤ bar <;> simp [TradeLedger.lastEntryAt, opening?, hbar, Option.filter]
  | exit index =>
    obtain ⟨-, -, rfl⟩ := TradeLedger.recordExit_ok.mp h
    simp [TradeLedger.lastEntryAt, opening?]

/-- The latest exit is the new one from its bar on. -/
theorem lastExitAt_of_record (h : event.record ledger = .ok ledger') (bar : Nat) :
    ledger'.lastExitAt bar =
      ((event.closing?.filter fun exited => decide (exited ≤ bar)).or (ledger.lastExitAt bar)) := by
  cases event with
  | entry index side =>
    obtain ⟨-, -, rfl⟩ := TradeLedger.recordEntry_ok.mp h
    simp [TradeLedger.lastExitAt, closing?]
  | exit index =>
    obtain ⟨-, -, rfl⟩ := TradeLedger.recordExit_ok.mp h
    by_cases hbar : index ≤ bar <;> simp [TradeLedger.lastExitAt, closing?, hbar, Option.filter]

/-- An event opens nothing before its bar. -/
theorem opening?_filter_of_lt {bar : Nat} (hbar : bar < event.index) :
    event.opening?.filter (fun entry => decide (entry.1 ≤ bar)) = none := by
  cases event with
  | entry index side =>
    have hlater : ¬index ≤ bar := Nat.not_le.mpr hbar
    simp [opening?, Option.filter, hlater]
  | exit => rfl

/-- An event closes nothing before its bar. -/
theorem closing?_filter_of_lt {bar : Nat} (hbar : bar < event.index) :
    event.closing?.filter (fun exited => decide (exited ≤ bar)) = none := by
  cases event with
  | entry => rfl
  | exit index =>
    have hlater : ¬index ≤ bar := Nat.not_le.mpr hbar
    simp [closing?, Option.filter, hlater]

/-- An event is the latest one from its bar on. -/
theorem lastEventAt_of_record_of_le (h : event.record ledger = .ok ledger')
    (hordered : ledger.Ordered) {bar : Nat} (hbar : event.index ≤ bar) :
    ledger'.lastEventAt bar = some event := by
  have hnew : ∀ index ∈ ledger.indices, index < event.index :=
    fun index => hordered.lt_of_isNew (isNew_of_record h)
  rw [TradeLedger.lastEventAt, lastEntryAt_of_record h, lastExitAt_of_record h]
  cases event with
  | entry index side =>
    have hentry : (opening? (.entry index side)).filter (fun entry => decide (entry.1 ≤ bar)) =
        some (index, side) := by
      simpa [opening?, Option.filter, TradeEvent.index] using hbar
    rw [hentry]
    cases hexit : ledger.lastExitAt bar with
    | none => rfl
    | some exited =>
      have hlt : exited < index :=
        hnew exited (List.mem_append_right _ (List.mem_of_find?_eq_some hexit))
      simp [closing?, TradeLedger.latest, Nat.not_le.mpr hlt]
  | exit index =>
    have hexit : (closing? (.exit index)).filter (fun exited => decide (exited ≤ bar)) =
        some index := by
      simpa [closing?, Option.filter, TradeEvent.index] using hbar
    rw [hexit]
    -- There is an entry to close, and it is not later than the exit.
    obtain ⟨-, hopen, -⟩ := TradeLedger.recordExit_ok.mp h
    obtain ⟨entry, hentry⟩ := TradeLedger.lastEntryAt_of_openEntry hopen fun entered hentered =>
      Nat.le_trans (Nat.le_of_lt (hnew entered (List.mem_append_left _ hentered))) hbar
    have hlt : entry.1 < index :=
      hnew entry.1 (List.mem_append_left _ (List.mem_map_of_mem (List.mem_of_find?_eq_some hentry)))
    simp [opening?, hentry, TradeLedger.latest, Nat.le_of_lt hlt]

end TradeEvent

namespace TradeLedger

variable {ledger ledger' : TradeLedger} {log : List TradeEvent} {event : TradeEvent} {index : Nat}
  {side : Side}

/-- An event that is among those of a ledger. -/
def Holds (ledger : TradeLedger) : TradeEvent → Prop
  | .entry index side => (index, side) ∈ ledger.entries
  | .exit index => index ∈ ledger.exits

/-- A ledger built from a log: empty at first, it took one event after the other. -/
inductive Logged : TradeLedger → List TradeEvent → Prop
  | empty : Logged .empty []
  | record {ledger ledger' : TradeLedger} {log : List TradeEvent} {event : TradeEvent}
      (earlier : Logged ledger log) (taken : event.record ledger = .ok ledger') :
      Logged ledger' (log ++ [event])

namespace Logged

theorem ordered (h : Logged ledger log) : ledger.Ordered := by
  induction h with
  | empty => exact ordered_empty
  | record _ htaken ih => exact TradeEvent.record_ordered htaken ih

/-- The newest event of a ledger is the last of its log. -/
theorem lastIndex?_eq (h : Logged ledger log) :
    ledger.lastIndex? = log.getLast?.map TradeEvent.index := by
  cases h with
  | empty => rfl
  | record _ htaken => simpa using TradeEvent.record_lastIndex? htaken

/-- What a ledger holds open is what the last event of its log opened. -/
theorem openEntry_eq (h : Logged ledger log) :
    ledger.openEntry = log.getLast?.bind TradeEvent.opening? := by
  cases h with
  | empty => rfl
  | record _ htaken => simpa using TradeEvent.record_openEntry htaken

/-- A bar is new to the ledger if it comes after the end of the log. -/
theorem isNew_iff (h : Logged ledger log) (index : Nat) :
    ledger.IsNew index ↔ ∀ last, log.getLast? = some last → last.index < index := by
  unfold IsNew
  rw [h.lastIndex?_eq]
  cases log.getLast? <;> simp

/-- A position is open if the log ends with an entry. -/
theorem openEntry_isSome (h : Logged ledger log) :
    ledger.openEntry.isSome = log.getLast?.any TradeEvent.isEntry := by
  rw [h.openEntry_eq]
  cases log.getLast? with
  | none => rfl
  | some last => cases last <;> rfl

/-- The bars of a log are bars of the ledger. -/
theorem index_mem (h : Logged ledger log) (hevent : event ∈ log) :
    event.index ∈ ledger.indices := by
  induction h with
  | empty => cases hevent
  | @record ledger ledger' log newest _ htaken ih =>
    have hperm : ledger'.indices.Perm (newest.index :: ledger.indices) := by
      cases newest with
      | entry => exact .of_eq (indices_of_recordEntry htaken)
      | exit => exact indices_of_recordExit htaken
    rw [hperm.mem_iff]
    obtain hevent | hevent := List.mem_append.mp hevent
    · exact List.mem_cons_of_mem _ (ih hevent)
    · rw [List.mem_singleton.mp hevent]
      exact List.mem_cons_self

/-- A log and its ledger hold the same events. -/
theorem mem_iff (h : Logged ledger log) (event : TradeEvent) :
    event ∈ log ↔ ledger.Holds event := by
  induction h with
  | empty => cases event <;> simp [Holds, TradeLedger.empty]
  | @record ledger ledger' log newest _ htaken ih =>
    rw [List.mem_append, ih, List.mem_singleton]
    cases newest with
    | entry =>
      obtain ⟨-, -, rfl⟩ := recordEntry_ok.mp htaken
      cases event <;> simp [Holds, or_comm]
    | exit =>
      obtain ⟨-, -, rfl⟩ := recordExit_ok.mp htaken
      cases event <;> simp [Holds, or_comm]

/-! ### The shape of a log -/

/-- The bars of a log increase strictly. -/
theorem increasing (h : Logged ledger log) :
    log.Pairwise fun event later => event.index < later.index := by
  induction h with
  | empty => exact .nil
  | record earlier htaken ih =>
    refine List.pairwise_append.mpr ⟨ih, List.pairwise_singleton _ _,
      fun event hevent later hlater => ?_⟩
    obtain rfl := List.mem_singleton.mp hlater
    exact earlier.ordered.lt_of_isNew (TradeEvent.isNew_of_record htaken) (earlier.index_mem hevent)

/-- Entries stand at the even places of a log and exits at the odd ones. -/
theorem takesTurns (h : Logged ledger log) {place : Nat} (hevent : log[place]? = some event) :
    event.isEntry = decide (place % 2 = 0) := by
  induction h generalizing place event with
  | empty => simp at hevent
  | @record ledger ledger' log newest earlier htaken ih =>
    by_cases hplace : place < log.length
    · rw [List.getElem?_append_left hplace] at hevent
      exact ih hevent
    -- The newest event stands right behind the one that it takes turns with.
    · obtain ⟨rfl, rfl⟩ : place = log.length ∧ newest = event := by
        have hlt := (List.getElem?_eq_some_iff.mp hevent).1
        simp only [List.length_append, List.length_singleton] at hlt
        obtain rfl : place = log.length := by omega
        simpa using hevent
      have hturn : log.getLast?.any TradeEvent.isEntry = !newest.isEntry := by
        rw [← earlier.openEntry_isSome, TradeEvent.openEntry_isSome_of_record htaken]
      rw [List.getLast?_eq_getElem?] at hturn
      cases hlast : log[log.length - 1]? with
      | none =>
        obtain hlength : log.length = 0 := by
          have := List.getElem?_eq_none_iff.mp hlast
          omega
        simpa [hlast, hlength] using hturn
      | some last =>
        have hlt := (List.getElem?_eq_some_iff.mp hlast).1
        have hparity := ih hlast
        rw [hlast] at hturn
        simp only [Option.any_some] at hturn
        grind

/-! ### Looking back -/

/-- The latest entry as of a bar is that of the log. -/
theorem lastEntryAt_eq (h : Logged ledger log) (bar : Nat) :
    ledger.lastEntryAt bar =
      ((log.filterMap TradeEvent.opening?).filter
        fun entry => decide (entry.1 ≤ bar)).getLast? := by
  induction h with
  | empty => rfl
  | @record _ _ _ event _ htaken ih =>
    rw [TradeEvent.lastEntryAt_of_record htaken, ih, List.filterMap_append, List.filter_append,
      List.getLast?_append]
    congr 1
    cases event with
    | entry index side =>
      by_cases hbar : index ≤ bar <;> simp [TradeEvent.opening?, Option.filter, hbar]
    | exit => rfl

/-- The latest exit as of a bar is that of the log. -/
theorem lastExitAt_eq (h : Logged ledger log) (bar : Nat) :
    ledger.lastExitAt bar =
      ((log.filterMap TradeEvent.closing?).filter
        fun exited => decide (exited ≤ bar)).getLast? := by
  induction h with
  | empty => rfl
  | @record _ _ _ event _ htaken ih =>
    rw [TradeEvent.lastExitAt_of_record htaken, ih, List.filterMap_append, List.filter_append,
      List.getLast?_append]
    congr 1
    cases event with
    | entry => rfl
    | exit index => by_cases hbar : index ≤ bar <;> simp [TradeEvent.closing?, Option.filter, hbar]

/-- The latest event as of a bar is that of the log. -/
theorem lastEventAt_eq (h : Logged ledger log) (bar : Nat) :
    ledger.lastEventAt bar = (log.filter fun event => decide (event.index ≤ bar)).getLast? := by
  induction h with
  | empty => rfl
  | @record _ _ _ event earlier htaken ih =>
    rw [List.filter_append, List.getLast?_append, ← ih]
    by_cases hbar : event.index ≤ bar
    · rw [TradeEvent.lastEventAt_of_record_of_le htaken earlier.ordered hbar]
      simp [hbar]
    · rw [TradeEvent.lastEventAt_of_record htaken (Nat.lt_of_not_le hbar)]
      simp [hbar]

end Logged

/-! ## Calls -/

/-- A ledger follows a log: it takes what the log has room for, and answers as the log does. -/
structure Mirrors (ledger : TradeLedger) (log : List TradeEvent) : Prop where
  /-- Each event of the log has a later bar than the one before it. -/
  increasing : log.Pairwise fun event later => event.index < later.index
  /-- Entry, exit, entry, and so on. -/
  takesTurns : ∀ place event, log[place]? = some event → event.isEntry = decide (place % 2 = 0)
  takesEntry : ∀ index side, (∃ ledger', ledger.recordEntry index side = .ok ledger') ↔
    (∀ last, log.getLast? = some last → last.index < index) ∧
      ¬∃ last, log.getLast? = some last ∧ last.isEntry
  takesExit : ∀ index, (∃ ledger', ledger.recordExit index = .ok ledger') ↔
    (∀ last, log.getLast? = some last → last.index < index) ∧
      ∃ last, log.getLast? = some last ∧ last.isEntry
  /-- That an event comes too early is said before anything else. -/
  tooEarly : ∀ (event : TradeEvent) last, log.getLast? = some last → event.index ≤ last.index →
    event.record ledger = .error (.outOfOrder event.index last.index)
  alreadyOpen : ∀ index side openSince openSide,
    log.getLast? = some (.entry openSince openSide) → openSince < index →
      ledger.recordEntry index side = .error (.alreadyInPosition index openSince)
  notOpen : ∀ index, (∀ last, log.getLast? = some last → last.index < index ∧ ¬last.isEntry) →
    ledger.recordExit index = .error (.notInPosition index)
  lastEventAt : ∀ bar,
    ledger.lastEventAt bar = (log.filter fun event => decide (event.index ≤ bar)).getLast?
  isInPositionAt : ∀ bar, ledger.isInPositionAt bar ↔
    ∃ event, (log.filter fun event => decide (event.index ≤ bar)).getLast? = some event ∧
      event.isEntry
  lastEntryAt : ∀ bar, ledger.lastEntryAt bar =
    ((log.filterMap TradeEvent.opening?).filter fun entry => decide (entry.1 ≤ bar)).getLast?
  lastExitAt : ∀ bar, ledger.lastExitAt bar =
    ((log.filterMap TradeEvent.closing?).filter fun exited => decide (exited ≤ bar)).getLast?
  /-- An event that is taken changes no answer about a bar before it. -/
  keepsAnswers : ∀ (event : TradeEvent) ledger', event.record ledger = .ok ledger' →
    ∀ bar < event.index,
    ledger'.lastEventAt bar = ledger.lastEventAt bar ∧
      ledger'.isInPositionAt bar = ledger.isInPositionAt bar ∧
        ledger'.lastEntryAt bar = ledger.lastEntryAt bar ∧
          ledger'.lastExitAt bar = ledger.lastExitAt bar

/-- An entry is taken just at a new bar while no position is open. -/
theorem recordEntry_takes :
    (∃ ledger', ledger.recordEntry index side = .ok ledger') ↔
      ledger.IsNew index ∧ ¬ledger.openEntry.isSome := by
  simp only [recordEntry_ok, exists_and_left, exists_eq, and_true, Bool.not_eq_true,
    Option.isSome_eq_false_iff, Option.isNone_iff_eq_none]

theorem recordExit_takes :
    (∃ ledger', ledger.recordExit index = .ok ledger') ↔
      ledger.IsNew index ∧ ledger.openEntry.isSome := by
  simp only [recordExit_ok, exists_and_left, exists_eq, and_true]

/-- An event at a bar that is not new is told which bar it should have come after. -/
theorem checkOrder_of_le {last : Nat} (hlast : ledger.lastIndex? = some last)
    (hindex : index ≤ last) : ledger.checkOrder index = .error (.outOfOrder index last) := by
  simp [checkOrder, hlast, hindex]

/-- An event that does not come last is refused for that, whatever it is. -/
theorem record_of_le {last : Nat} (hlast : ledger.lastIndex? = some last)
    (hindex : event.index ≤ last) :
    event.record ledger = .error (.outOfOrder event.index last) := by
  have herror := checkOrder_of_le hlast hindex
  cases event with
  | entry index side =>
    rw [TradeEvent.index] at herror ⊢
    rw [TradeEvent.record, recordEntry, herror]
    rfl
  | exit index =>
    rw [TradeEvent.index] at herror ⊢
    rw [TradeEvent.record, recordExit, herror]
    rfl

/-- An entry during a position is told where that was entered. -/
theorem recordEntry_of_open {entry : Nat × Side} (hnew : ledger.IsNew index)
    (hopen : ledger.openEntry = some entry) :
    ledger.recordEntry index side = .error (.alreadyInPosition index entry.1) := by
  simp only [recordEntry, checkOrder_ok.mpr hnew, hopen]
  rfl

/-- An exit without a position is refused. -/
theorem recordExit_of_closed (hnew : ledger.IsNew index) (hopen : ledger.openEntry = none) :
    ledger.recordExit index = .error (.notInPosition index) := by
  simp only [recordExit, checkOrder_ok.mpr hnew, hopen]
  rfl

/-- A ledger that was built from a log follows it. -/
theorem Logged.mirrors (h : Logged ledger log) : Mirrors ledger log where
  increasing := h.increasing
  takesTurns _ _ := h.takesTurns
  takesEntry index side := by
    rw [recordEntry_takes, h.isNew_iff, h.openEntry_isSome, Option.any_eq_true]
  takesExit index := by
    rw [recordExit_takes, h.isNew_iff, h.openEntry_isSome, Option.any_eq_true]
  tooEarly event last hlast := record_of_le (by rw [h.lastIndex?_eq, hlast]; rfl)
  alreadyOpen index side openSince openSide hlast hlt := by
    have hopen : ledger.openEntry = some (openSince, openSide) := by
      rw [h.openEntry_eq, hlast]
      rfl
    -- the last event of the log is the entry that is open, and the bar comes after it
    refine recordEntry_of_open ((h.isNew_iff index).mpr ?_) hopen
    rintro last hlast'
    obtain rfl := Option.some.inj (hlast.symm.trans hlast')
    exact hlt
  notOpen index hlast := by
    refine recordExit_of_closed ((h.isNew_iff index).mpr fun last h => (hlast last h).1) ?_
    rw [h.openEntry_eq]
    cases hlast' : log.getLast? with
    | none => rfl
    | some last =>
      cases last with
      | entry openSince openSide => exact absurd rfl (hlast _ hlast').2
      | exit => rfl
  lastEventAt := h.lastEventAt_eq
  isInPositionAt bar := by
    rw [TradeLedger.isInPositionAt, h.lastEventAt_eq, Option.any_eq_true]
  lastEntryAt := h.lastEntryAt_eq
  lastExitAt := h.lastExitAt_eq
  keepsAnswers event ledger' htaken bar hbar := by
    -- an event is at a later bar than those that are asked about
    have hevent := TradeEvent.lastEventAt_of_record htaken hbar
    refine ⟨hevent, by rw [TradeLedger.isInPositionAt, hevent, TradeLedger.isInPositionAt], ?_, ?_⟩
    · rw [TradeEvent.lastEntryAt_of_record htaken, TradeEvent.opening?_filter_of_lt hbar,
        Option.none_or]
    · rw [TradeEvent.lastExitAt_of_record htaken, TradeEvent.closing?_filter_of_lt hbar,
        Option.none_or]

/-- A ledger that is called with events, and those of them that it took. -/
structure Recording where
  ledger : TradeLedger := .empty
  log : List TradeEvent := []

/-- One call: an event is taken and logged, or refused. -/
def Recording.call (recording : Recording) (event : TradeEvent) : Recording :=
  match event.record recording.ledger with
  | .ok ledger => ⟨ledger, recording.log ++ [event]⟩
  | .error _ => recording

/-- What comes of a sequence of calls on an empty ledger. -/
def Recording.ofCalls (calls : List TradeEvent) : Recording :=
  calls.foldl Recording.call {}

theorem Recording.ofCalls_append (calls : List TradeEvent) (event : TradeEvent) :
    ofCalls (calls ++ [event]) = (ofCalls calls).call event := by
  simp [ofCalls]

/-- Whatever a ledger was called with, it was built from the events that it took. -/
theorem Recording.logged (calls : List TradeEvent) :
    Logged (ofCalls calls).ledger (ofCalls calls).log := by
  induction calls using List.reverseRecOn with
  | nil => exact .empty
  | append_singleton calls event ih =>
    rw [ofCalls_append, call]
    cases htaken : event.record (ofCalls calls).ledger with
    | error error => exact ih
    | ok ledger => exact ih.record htaken

/-- A ledger is a log of the events it took: after any calls, at any bars, taken or refused. -/
theorem mirrors_of_calls (calls : List TradeEvent) :
    Mirrors (Recording.ofCalls calls).ledger (Recording.ofCalls calls).log ∧
      (∀ event ledger', event.record (Recording.ofCalls calls).ledger = .ok ledger' →
        Recording.ofCalls (calls ++ [event]) =
          ⟨ledger', (Recording.ofCalls calls).log ++ [event]⟩) ∧
      ∀ event error, event.record (Recording.ofCalls calls).ledger = .error error →
        Recording.ofCalls (calls ++ [event]) = Recording.ofCalls calls := by
  refine ⟨(Recording.logged calls).mirrors, fun event ledger' htaken => ?_,
    fun event error herror => ?_⟩
  · rw [Recording.ofCalls_append, Recording.call, htaken]
  · rw [Recording.ofCalls_append, Recording.call, herror]

example :
    (Recording.ofCalls [.exit 1, .entry 3 .long, .entry 2 .long, .entry 7 .short, .exit 8]).log =
      [.entry 3 .long, .exit 8] := by
  decide

end TradeLedger

end SwingTrader
