import SwingTrader.Venue.Basic

/-!
# SwingTrader — open orders, looked up once a tick

The orders that a venue lists are asked for at most once a tick. A few ticks'
lists are kept, and the current one is thrown away when the trader has changed
the book itself.

* `OpenOrderCache.fetch` — the list of a tick, kept or asked for;
* `OpenOrderCache.find` — one order of that list;
* `OpenOrderCache.invalidate` — throws a list away.
-/

namespace SwingTrader

/--
The lists of recent ticks. A list is kept until `window` ticks have begun with
its own; with a window of zero no list outlives the look-up that asked for it.
-/
structure OpenOrderCache where
  window : Nat := 2
  snapshots : List (Nat × List OpenOrder) := []

namespace OpenOrderCache

/-- A cache without lists, of the usual window. -/
def empty : OpenOrderCache := {}

/-- A cache without lists, of a window of at least one tick. -/
def withWindow (window : Nat) : OpenOrderCache :=
  { window := max window 1 }

/-- The number of lists kept. -/
def size (cache : OpenOrderCache) : Nat :=
  cache.snapshots.length

/-- The list kept for a tick. -/
def at? (cache : OpenOrderCache) (tick : Nat) : Option (List OpenOrder) :=
  cache.snapshots.lookup tick

/-- Keeps the list of a tick, and throws away those that have become too old. -/
def store (cache : OpenOrderCache) (tick : Nat) (orders : List OpenOrder) : OpenOrderCache :=
  { cache with
    snapshots := ((tick, orders) :: cache.snapshots).filter fun snapshot =>
      tick < snapshot.1 + cache.window }

/-- Throws away the list of a tick. -/
def invalidate (cache : OpenOrderCache) (tick : Nat) : OpenOrderCache :=
  { cache with snapshots := cache.snapshots.filter fun snapshot => snapshot.1 ≠ tick }

/--
The orders open at a tick. When no list is kept the venue is asked for one; if
it fails, the cache stays as it was.
-/
def fetch {σ : Type} (cache : OpenOrderCache) (venue : Venue σ) (market : Market) (tick : Nat) :
    VenueM σ (List OpenOrder × OpenOrderCache) :=
  match cache.at? tick with
  | some orders => return (orders, cache)
  | none => do
    let orders ← venue.openOrders market
    return (orders, cache.store tick orders)

/-- The order of an id among those open at a tick; an order that is missing is no longer open. -/
def find {σ : Type} (cache : OpenOrderCache) (venue : Venue σ) (market : Market) (tick : Nat)
    (id : OrderId) : VenueM σ (Option OpenOrder × OpenOrderCache) := do
  let (orders, cache) ← cache.fetch venue market tick
  return (orders.find? fun order => order.id = id, cache)

end OpenOrderCache

end SwingTrader
