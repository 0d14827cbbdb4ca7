import SwingTrader.Venue.OpenOrders

/-!
# SwingTrader — which lists are kept

* `OpenOrderCache.at?_store` — a list that was stored is the one kept for its tick,
  if any list is;
* `OpenOrderCache.at?_invalidate` — no list is kept for a tick whose list was
  thrown away;
* `OpenOrderCache.UpTo` — no list is kept for a tick to come.
-/

namespace SwingTrader.OpenOrderCache

variable {cache : OpenOrderCache} {tick next : Nat} {orders : List OpenOrder}

/-- No list is kept for a tick if none of those kept is of it. -/
theorem at?_eq_none : cache.at? tick = none ↔ ∀ snapshot ∈ cache.snapshots, snapshot.1 ≠ tick := by
  simp [at?, List.lookup_eq_none_iff, @eq_comm _ tick]

/-- A list that is stored is found again, unless the window has no room for any. -/
theorem at?_store :
    (cache.store tick orders).at? tick = if 0 < cache.window then some orders else none := by
  by_cases hwindow : 0 < cache.window
  · simp [store, at?, hwindow]
  -- a window of no ticks keeps not even the list that was just stored
  · rw [if_neg hwindow, at?_eq_none]
    intro snapshot hmem
    have hkept : tick < snapshot.1 + cache.window := by
      simpa using (List.mem_filter.mp hmem).2
    omega

/-- A list that is thrown away is not found again. -/
theorem at?_invalidate : (cache.invalidate tick).at? tick = none := by
  simp [at?_eq_none, invalidate]

/-- No list is kept for a tick after this one. -/
def UpTo (cache : OpenOrderCache) (tick : Nat) : Prop :=
  ∀ snapshot ∈ cache.snapshots, snapshot.1 ≤ tick

theorem UpTo.mono (h : cache.UpTo tick) (hle : tick ≤ next) : cache.UpTo next :=
  fun snapshot hmem => Nat.le_trans (h snapshot hmem) hle

/-- Nothing is kept for a tick still to come. -/
theorem UpTo.at?_of_lt (h : cache.UpTo tick) (hlt : tick < next) : cache.at? next = none := by
  rw [at?_eq_none]
  intro snapshot hmem
  exact Nat.ne_of_lt (Nat.lt_of_le_of_lt (h snapshot hmem) hlt)

/-- A list is stored for the tick it is fetched at, and so none is kept for a later one. -/
theorem UpTo.store (h : cache.UpTo tick) : (cache.store tick orders).UpTo tick := by
  intro snapshot hmem
  obtain rfl | hmem := List.mem_cons.mp (List.mem_filter.mp hmem).1
  · exact Nat.le_refl _
  · exact h snapshot hmem

/-- Throwing a list away keeps none for a later tick. -/
theorem UpTo.invalidate (h : cache.UpTo tick) : (cache.invalidate tick).UpTo tick :=
  fun snapshot hmem => h snapshot (List.mem_filter.mp hmem).1

end SwingTrader.OpenOrderCache
