import Mathlib.Data.List.Perm.Subperm
import SwingTrader.Proofs.Desk
import SwingTrader.Venue.Journal

/-!
# SwingTrader — what a look-up of open orders answers

A list that is kept for a tick saves a call of the venue. It must not be older than
the latest fetch for that tick, nor go missing while the tick lasts, and old lists
must not pile up. Lists are looked up, thrown away and pushed out by newer ones in
any order, fetches fail, and the venue changes in between.

* `Request`, `Lookout.serve` — what is asked of a cache, at a venue that is watched;
* `Serves`, `serves_serve` — all that a request can come to;
* `lastFetched?` — the list that was fetched last for a tick, told by the calls made;
* `Keeps`, `Keeps.serveAll` — what a cache keeps after any requests;
* `RecentAt` — the lists are of few ticks, where ticks never decrease;
* `lookups_of_requests` — every answer, every call, and every list thrown away.
-/

namespace SwingTrader.OpenOrderCache

variable {σ : Type} {venue : Venue σ} {market : Market}

/-! ## Requests -/

/-- What is asked of a cache; `meanwhile` is whatever happens to the venue without it. -/
inductive Request (σ : Type) where
  | list (tick : Nat)
  | find (tick : Nat) (id : OrderId)
  | invalidate (tick : Nat)
  | meanwhile (change : σ → σ)

/-- What a request is answered. -/
inductive Response where
  | listed (orders : List OpenOrder)
  | found (order : Option OpenOrder)
  | failed (error : VenueError)
  | done

namespace Request

/-- The tick of a look-up. -/
def tick? : Request σ → Option Nat
  | list tick | find tick _ => some tick
  | invalidate _ | meanwhile _ => none

/-- What a look-up reads from the list of its tick: all of it, or one order. -/
def read : Request σ → List OpenOrder → Response
  | list _, orders => .listed orders
  | find _ id, orders => .found (orders.find? fun order => order.id = id)
  | invalidate _, _ | meanwhile _, _ => .done

end Request

/-- A cache, and the venue it looks at. -/
structure Lookout (σ : Type) where
  cache : OpenOrderCache
  venue : Journaled σ

/-- What was asked, which calls were made for it, and what was answered. -/
structure Served (σ : Type) where
  request : Request σ
  made : List VenueCall
  response : Response

namespace Lookout

/-- A cache without lists. -/
def start (window : Nat) (venue : Journaled σ) : Lookout σ :=
  ⟨.withWindow window, venue⟩

/-- A look-up. Where it fails, the cache stays as it was. -/
def lookUp {α : Type} (lookout : Lookout σ) (meaning : α → Response)
    (call : VenueM (Journaled σ) (α × OpenOrderCache)) : Response × Lookout σ :=
  match (call.run lookout.venue : Except VenueError (α × OpenOrderCache) × Journaled σ) with
  | (.ok (answer, cache), venue) => (meaning answer, { cache, venue })
  | (.error error, venue) => (.failed error, { lookout with venue })

/-- Serves a request. -/
def serve (venue : Venue σ) (market : Market) (lookout : Lookout σ) :
    Request σ → Response × Lookout σ
  | .list tick => lookout.lookUp .listed (lookout.cache.fetch venue.journaled market tick)
  | .find tick id => lookout.lookUp .found (lookout.cache.find venue.journaled market tick id)
  | .invalidate tick => (.done, { lookout with cache := lookout.cache.invalidate tick })
  | .meanwhile change =>
    (.done, { lookout with venue := { lookout.venue with venue := change lookout.venue.venue } })

/-- A request that is served, with the calls that were made for it. -/
def served (venue : Venue σ) (market : Market) (lookout : Lookout σ) (request : Request σ) :
    Served σ :=
  let (response, after) := lookout.serve venue market request
  { request
    made := after.venue.calls.take (after.venue.calls.length - lookout.venue.calls.length)
    response }

/-- Serves one request and the other. -/
def serveAll (venue : Venue σ) (market : Market) : Lookout σ → List (Request σ) → Lookout σ
  | lookout, [] => lookout
  | lookout, request :: rest => serveAll venue market (lookout.serve venue market request).2 rest

/-- What was served, one request after the other. -/
def record (venue : Venue σ) (market : Market) :
    Lookout σ → List (Request σ) → List (Served σ)
  | _, [] => []
  | lookout, request :: rest =>
    lookout.served venue market request :: record venue market
      (lookout.serve venue market request).2 rest

end Lookout

/-- The list that was fetched for a tick, if the request made the venue answer one. -/
def Served.fetched? (served : Served σ) (tick : Nat) : Option (List OpenOrder) :=
  match served.made with
  | [.openOrders _ (.ok orders)] => if served.request.tick? = some tick then some orders else none
  | _ => none

/-- The list that was fetched last for a tick. -/
def lastFetched? (log : List (Served σ)) (tick : Nat) : Option (List OpenOrder) :=
  log.reverse.findSome? fun served => served.fetched? tick

/-! ## One request -/

/--
All that a request can come to. A look-up is answered from the list that is kept for
its tick; where none is kept, the venue is called once, and the list it answers is
kept, or its failure is answered and the cache left alone.
-/
inductive Serves (market : Market) (cache : OpenOrderCache) :
    Request σ → List VenueCall → Response → OpenOrderCache → Prop where
  | recalled {request : Request σ} {tick : Nat} {orders : List OpenOrder}
      (htick : request.tick? = some tick) (hkept : cache.at? tick = some orders) :
      Serves market cache request [] (request.read orders) cache
  | fetched {request : Request σ} {tick : Nat} {orders : List OpenOrder}
      (htick : request.tick? = some tick) (hnone : cache.at? tick = none) :
      Serves market cache request [.openOrders market (.ok orders)] (request.read orders)
        (cache.store tick orders)
  | failed {request : Request σ} {tick : Nat} {error : VenueError}
      (htick : request.tick? = some tick) (hnone : cache.at? tick = none) :
      Serves market cache request [.openOrders market (.error error)] (.failed error) cache
  | dropped (tick : Nat) : Serves market cache (.invalidate tick) [] .done (cache.invalidate tick)
  | changed (change : σ → σ) : Serves market cache (.meanwhile change) [] .done cache

/-- What a fetch comes to: the list that is kept, or one call. -/
theorem run_fetch (lookout : Lookout σ) (tick : Nat) :
    (∃ orders, lookout.cache.at? tick = some orders ∧
      ((lookout.cache.fetch venue.journaled market tick).run lookout.venue :
          Except VenueError _ × _) =
        (.ok (orders, lookout.cache), lookout.venue)) ∨
    lookout.cache.at? tick = none ∧ ∃ answer after,
      after.calls = .openOrders market answer :: lookout.venue.calls ∧
      ((lookout.cache.fetch venue.journaled market tick).run lookout.venue :
          Except VenueError _ × _) =
        (answer.map fun orders => (orders, lookout.cache.store tick orders), after) := by
  rw [fetch]
  cases hkept : lookout.cache.at? tick with
  | some orders => exact .inl ⟨orders, rfl, rfl⟩
  | none =>
    rw [bind_pure_comp, run_map_venue]
    exact .inr ⟨rfl, _, _, rfl, rfl⟩

/-- A look-up reads what it is for from the list of its tick. -/
theorem serve_of_tick {request : Request σ} {tick : Nat} (lookout : Lookout σ)
    (htick : request.tick? = some tick) :
    lookout.serve venue market request =
      lookout.lookUp request.read (lookout.cache.fetch venue.journaled market tick) := by
  cases request with
  | list => cases htick; rfl
  | find _ id =>
    cases htick
    have hfind : lookout.cache.find venue.journaled market tick id =
        (fun listed => (listed.1.find? fun order => order.id = id, listed.2)) <$>
          lookout.cache.fetch venue.journaled market tick := by
      rw [find, ← bind_pure_comp]
    rw [Lookout.serve, Lookout.lookUp, Lookout.lookUp, hfind, run_map_venue]
    rcases (lookout.cache.fetch venue.journaled market tick).run lookout.venue with ⟨_ | _, _⟩ <;>
      rfl
  | invalidate | meanwhile => cases htick

/-- **One request.** It comes to what a request can come to, with the calls that it made. -/
theorem serves_serve (venue : Venue σ) (market : Market) (lookout : Lookout σ)
    (request : Request σ) :
    ∃ made, (lookout.serve venue market request).2.venue.calls = made ++ lookout.venue.calls ∧
      Serves market lookout.cache request made (lookout.serve venue market request).1
        (lookout.serve venue market request).2.cache := by
  cases htick : request.tick? with
  | some tick =>
    rw [serve_of_tick lookout htick, Lookout.lookUp]
    obtain ⟨orders, hkept, hrun⟩ | ⟨hnone, answer, after, hcalls, hrun⟩ :=
      run_fetch lookout tick
    · rw [hrun]
      exact ⟨[], rfl, .recalled htick hkept⟩
    · rw [hrun]
      cases answer with
      | ok orders => exact ⟨[_], hcalls, .fetched htick hnone⟩
      | error error => exact ⟨[_], hcalls, .failed htick hnone⟩
  | none =>
    cases request with
    | invalidate tick => exact ⟨[], rfl, .dropped tick⟩
    | meanwhile change => exact ⟨[], rfl, .changed change⟩
    | list | find => cases htick

/-- A request that was served, with the calls that it made and no others. -/
theorem served_serves (venue : Venue σ) (market : Market) (lookout : Lookout σ)
    (request : Request σ) :
    (lookout.served venue market request).request = request ∧
      Serves market lookout.cache request (lookout.served venue market request).made
        (lookout.served venue market request).response
        (lookout.serve venue market request).2.cache := by
  obtain ⟨made, hcalls, hserves⟩ := serves_serve venue market lookout request
  refine ⟨rfl, ?_⟩
  rw [Lookout.served]
  dsimp only
  rw [hcalls, List.length_append, Nat.add_sub_cancel, List.take_left]
  exact hserves

/-! ## Lists by tick -/

section Lists

variable {cache : OpenOrderCache} {tick other : Nat} {orders : List OpenOrder}

/-- Of some entries, those of certain keys are looked up as they were among all of them. -/
theorem lookup_filter {α : Type} (p : Nat → Bool) (key : Nat) (entries : List (Nat × α)) :
    (entries.filter fun entry => p entry.1).lookup key =
      if p key then entries.lookup key else none := by
  induction entries with
  | nil => simp
  | cons entry rest ih =>
    obtain ⟨name, value⟩ := entry
    by_cases hname : key = name
    · subst hname
      by_cases hkey : p key = true <;> simp [hkey, ih]
    · have hne : (key == name) = false := beq_false_of_ne hname
      by_cases hkey : p name = true <;> simp [List.lookup_cons, hkey, hne, ih]

/-- A list that is stored pushes out those of ticks before its window, and no others. -/
theorem at?_store_eq (hwindow : 0 < cache.window) :
    (cache.store tick orders).at? other =
      if other = tick then some orders
      else if tick - (cache.window - 1) ≤ other then cache.at? other else none := by
  have hfilter := lookup_filter (fun key => decide (tick < key + cache.window)) other
    ((tick, orders) :: cache.snapshots)
  rw [store, at?, at?, hfilter, List.lookup_cons]
  by_cases hother : other = tick
  · subst hother
    simp [hwindow]
  · have hiff : tick < other + cache.window ↔ tick - (cache.window - 1) ≤ other := by omega
    simp only [beq_false_of_ne hother, if_neg hother, hiff, decide_eq_true_eq]

theorem at?_invalidate_eq :
    (cache.invalidate tick).at? other = if other = tick then none else cache.at? other := by
  have hfilter := lookup_filter (fun key => decide (key ≠ tick)) other cache.snapshots
  rw [invalidate, at?, at?, hfilter]
  by_cases hother : other = tick <;> simp [hother]

end Lists

/-! ## Any requests -/

theorem lastFetched?_concat (log : List (Served σ)) (served : Served σ) (tick : Nat) :
    lastFetched? (log ++ [served]) tick = (served.fetched? tick).or (lastFetched? log tick) := by
  rw [lastFetched?, List.reverse_append, List.reverse_singleton, List.singleton_append,
    List.findSome?_cons]
  cases served.fetched? tick <;> rfl

/--
What a cache of a window keeps: one list at most for every tick, and of every tick
the list that was fetched last.
-/
structure Keeps (window : Nat) (log : List (Served σ)) (cache : OpenOrderCache) : Prop where
  window_eq : cache.window = max window 1
  nodup : (cache.snapshots.map Prod.fst).Nodup
  latest : ∀ tick orders, cache.at? tick = some orders → lastFetched? log tick = some orders

section Keeping

variable {window : Nat} {log : List (Served σ)} {cache after : OpenOrderCache} {served : Served σ}

theorem Keeps.window_pos (h : Keeps window log cache) : 0 < cache.window := by
  rw [h.window_eq]
  exact Nat.le_max_right _ _

/-- **The step.** Whatever is asked, the lists that are kept are the latest. -/
theorem Keeps.serves (h : Keeps window log cache)
    (hserves : Serves market cache served.request served.made served.response after) :
    Keeps window (log ++ [served]) after := by
  obtain ⟨request, made, response⟩ := served
  -- where nothing is fetched, the lists fetched last are those from before
  have hother {made : List VenueCall} {response : Response} {after : OpenOrderCache}
      (hnone : ∀ tick, (⟨request, made, response⟩ : Served σ).fetched? tick = none)
      (hkept : ∀ tick orders, after.at? tick = some orders → cache.at? tick = some orders) :
      ∀ tick orders, after.at? tick = some orders →
        lastFetched? (log ++ [⟨request, made, response⟩]) tick = some orders := by
    intro tick orders hafter
    rw [lastFetched?_concat, hnone]
    exact h.latest tick orders (hkept tick orders hafter)
  dsimp only at hserves
  cases hserves with
  | recalled | failed | changed =>
    exact ⟨h.window_eq, h.nodup, hother (fun _ => rfl) fun _ _ => id⟩
  | dropped tick =>
    refine ⟨h.window_eq, h.nodup.sublist (List.filter_sublist.map _), hother (fun _ => rfl) ?_⟩
    intro other orders hafter
    rw [at?_invalidate_eq] at hafter
    split at hafter
    · cases hafter
    · exact hafter
  | @fetched _ tick orders htick hnone =>
    refine ⟨h.window_eq, ?_, fun other found hafter => ?_⟩
    · -- no list was kept for the tick
      refine List.Nodup.sublist (List.filter_sublist.map _) (List.nodup_cons.mpr ⟨?_, h.nodup⟩)
      rintro hmem
      obtain ⟨snapshot, hsnapshot, heq⟩ := List.mem_map.mp hmem
      exact at?_eq_none.mp hnone snapshot hsnapshot heq
    -- of the tick of the fetch it is the list fetched, of others the one from before
    · rw [at?_store_eq h.window_pos] at hafter
      rw [lastFetched?_concat, Served.fetched?, htick]
      dsimp only
      by_cases hother : other = tick
      · subst hother
        rwa [if_pos rfl] at hafter ⊢
      · rw [if_neg hother] at hafter
        rw [if_neg fun heq => hother (Option.some.inj heq).symm]
        split at hafter
        · exact h.latest other found hafter
        · cases hafter

/-- **The run.** And so they are after any requests. -/
theorem Keeps.serveAll {venue : Venue σ} {market : Market} {lookout : Lookout σ}
    (h : Keeps window log lookout.cache) (requests : List (Request σ)) :
    Keeps window (log ++ lookout.record venue market requests)
      (lookout.serveAll venue market requests).cache := by
  induction requests generalizing log lookout with
  | nil => rwa [Lookout.record, List.append_nil]
  | cons request rest ih =>
    rw [Lookout.record, List.append_cons]
    exact ih (h.serves (served_serves venue market lookout request).2)

end Keeping

/-! ## Ticks that never decrease -/

section Recent

variable {cache after : OpenOrderCache} {request : Request σ} {made : List VenueCall}
  {response : Response} {tick : Nat}

/--
The lists that are kept are of the ticks of one window, which has come no further than a
tick.
-/
def RecentAt (cache : OpenOrderCache) (tick : Nat) : Prop :=
  ∃ newest ≤ tick, ∀ snapshot ∈ cache.snapshots,
    snapshot.1 ≤ newest ∧ newest < snapshot.1 + cache.window

theorem RecentAt.mono {next : Nat} (h : cache.RecentAt tick) (hle : tick ≤ next) :
    cache.RecentAt next := by
  obtain ⟨newest, hnewest, hall⟩ := h
  exact ⟨newest, Nat.le_trans hnewest hle, hall⟩

/-- A look-up at a later tick moves the window on, and nothing else does. -/
theorem RecentAt.serves (h : cache.RecentAt tick)
    (hserves : Serves market cache request made response after)
    (hlater : ∀ next ∈ request.tick?, tick ≤ next) :
    after.RecentAt (request.tick?.getD tick) := by
  cases hserves with
  | changed => exact h
  | recalled htick | failed htick =>
    rw [htick]
    exact h.mono (hlater _ htick)
  | dropped other =>
    obtain ⟨newest, hnewest, hall⟩ := h
    exact ⟨newest, hnewest, fun snapshot hmem => hall snapshot (List.mem_filter.mp hmem).1⟩
  | @fetched _ next orders htick =>
    rw [htick]
    obtain ⟨newest, hnewest, hall⟩ := h
    refine ⟨next, Nat.le_refl _, fun snapshot hmem => ?_⟩
    obtain ⟨hmem, hwithin⟩ := List.mem_filter.mp hmem
    refine ⟨?_, of_decide_eq_true hwithin⟩
    obtain rfl | hmem := List.mem_cons.mp hmem
    · exact Nat.le_refl _
    · exact Nat.le_trans (hall snapshot hmem).1 (Nat.le_trans hnewest (hlater next htick))

/-- The ticks of the look-ups among some requests. -/
def lookupTicks (requests : List (Request σ)) : List Nat :=
  requests.filterMap Request.tick?

/-- Look-ups at ticks in order keep the lists of one window. -/
theorem RecentAt.serveAll {venue : Venue σ} {market : Market} {lookout : Lookout σ}
    (h : lookout.cache.RecentAt tick) {requests : List (Request σ)}
    (hlater : ∀ next ∈ lookupTicks requests, tick ≤ next)
    (hordered : (lookupTicks requests).Pairwise (· ≤ ·)) :
    ∃ last, (lookout.serveAll venue market requests).cache.RecentAt last := by
  induction requests generalizing lookout tick with
  | nil => exact ⟨tick, h⟩
  | cons request rest ih =>
    have hserves := (served_serves venue market lookout request).2
    rw [lookupTicks, List.filterMap_cons] at hlater hordered
    cases htick : request.tick? with
    | none =>
      have hrecent := h.serves hserves (by rw [htick]; exact nofun)
      rw [htick] at hlater hordered hrecent
      exact ih hrecent hlater hordered
    | some next =>
      rw [htick] at hlater hordered
      obtain ⟨hnext, hrest⟩ := List.forall_mem_cons.mp hlater
      obtain ⟨hafter, hordered⟩ := List.pairwise_cons.mp hordered
      have hrecent := h.serves hserves (by rw [htick]; rintro _ ⟨⟩; exact hnext)
      rw [htick] at hrecent
      exact ih hrecent hafter hordered

/-- One list at most for each tick of a window is no more lists than the window has ticks. -/
theorem RecentAt.size_le (h : cache.RecentAt tick) (hnodup : (cache.snapshots.map Prod.fst).Nodup) :
    cache.size ≤ cache.window := by
  obtain ⟨newest, -, hall⟩ := h
  have hsubset :
      cache.snapshots.map Prod.fst ⊆ List.range' (newest + 1 - cache.window) cache.window := by
    intro key hkey
    obtain ⟨snapshot, hmem, rfl⟩ := List.mem_map.mp hkey
    obtain ⟨hle, hlt⟩ := hall snapshot hmem
    rw [List.mem_range'_1]
    omega
  calc cache.size = (cache.snapshots.map Prod.fst).length := (List.length_map _).symm
    _ ≤ (List.range' (newest + 1 - cache.window) cache.window).length :=
      (List.Nodup.subperm hnodup hsubset).length_le
    _ = cache.window := List.length_range'

end Recent

/-! ## Every look-up -/

/-- What one more request comes to, after those in the log. -/
structure Answers (window : Nat) (market : Market) (log : List (Served σ)) (before : OpenOrderCache)
    (served : Served σ) (after : OpenOrderCache) : Prop where
  /-- The venue is called once where a look-up finds no list kept for its tick, and never
  otherwise. -/
  serves : Serves market before served.request served.made served.response after
  /-- A look-up that does not fail reads the list that was fetched last for its tick. -/
  reads : ∀ tick, served.request.tick? = some tick → (∀ error, served.response ≠ .failed error) →
    ∃ orders, lastFetched? (log ++ [served]) tick = some orders ∧
      served.response = served.request.read orders
  /-- A fetch throws away the lists of ticks before the window, and no others. -/
  stores : ∀ tick orders, served.fetched? tick = some orders → ∀ other,
    after.at? other =
      if other = tick then some orders
      else if tick - (max window 1 - 1) ≤ other then before.at? other else none
  invalidates : ∀ tick, served.request = .invalidate tick → ∀ other,
    after.at? other = if other = tick then none else before.at? other
  /-- As long as no look-up has gone beyond a tick, its list is thrown away by an invalidation
  only. -/
  holds : ∀ tick orders, before.at? tick = some orders →
    (∀ next ∈ served.request.tick?, next ≤ tick) →
    served.request ≠ .invalidate tick → after.at? tick = some orders

section Answers

variable {window : Nat} {log : List (Served σ)} {before after : OpenOrderCache} {served : Served σ}

/-- A list was fetched where it is the answer of the one call that was made. -/
theorem Served.fetched?_eq_some {tick : Nat} {orders : List OpenOrder}
    (h : served.fetched? tick = some orders) :
    served.request.tick? = some tick ∧
      ∃ market, served.made = [.openOrders market (.ok orders)] := by
  unfold Served.fetched? at h
  split at h
  next market found hmade =>
    split at h
    next htick => exact ⟨htick, market, by rw [hmade, Option.some.inj h]⟩
    next => cases h
  next => cases h

/-- A list that was fetched is kept for the tick of its look-up. -/
theorem Serves.after_of_fetched {tick : Nat} {orders : List OpenOrder} {market' : Market}
    {request : Request σ} {response : Response}
    (h : Serves market before request [.openOrders market' (.ok orders)] response after)
    (htick : request.tick? = some tick) : after = before.store tick orders := by
  cases h with
  | fetched htick' =>
    obtain rfl := Option.some.inj (htick.symm.trans htick')
    rfl

/-- A request to throw a list away throws it away. -/
theorem Serves.after_of_invalidate {tick : Nat} {made : List VenueCall} {response : Response}
    (h : Serves market before (.invalidate tick : Request σ) made response after) :
    after = before.invalidate tick := by
  cases h with
  | dropped => rfl
  | recalled htick | fetched htick | failed htick => cases htick

/-- A list stays until it is thrown away, or until a look-up at a later tick. -/
theorem Serves.holds {request : Request σ} {made : List VenueCall} {response : Response}
    {tick : Nat}
    {orders : List OpenOrder} (h : Serves market before request made response after)
    (hpos : 0 < before.window) (hkept : before.at? tick = some orders)
    (hle : ∀ next ∈ request.tick?, next ≤ tick) (hnot : request ≠ .invalidate tick) :
    after.at? tick = some orders := by
  cases h with
  | recalled | failed | changed => exact hkept
  | dropped other =>
    rw [at?_invalidate_eq, if_neg fun heq => hnot (congrArg _ heq.symm)]
    exact hkept
  | @fetched _ next found htick hnone =>
    have hnext : next ≤ tick := hle next htick
    have hne : tick ≠ next := by
      rintro rfl
      cases hkept.symm.trans hnone
    rw [at?_store_eq hpos, if_neg hne, if_pos (by omega)]
    exact hkept

/-- A cache that keeps what was fetched last answers the next request as it should. -/
theorem Keeps.answers (h : Keeps window log before)
    (hserves : Serves market before served.request served.made served.response after) :
    Answers window market log before served after where
  serves := hserves
  reads tick htick hfails := by
    have hlatest := (h.serves hserves).latest tick
    obtain ⟨request, made, response⟩ := served
    dsimp only at hserves htick hfails
    cases hserves with
    | recalled htick' hkept =>
      obtain rfl := Option.some.inj (htick.symm.trans htick')
      exact ⟨_, hlatest _ hkept, rfl⟩
    | fetched htick' =>
      obtain rfl := Option.some.inj (htick.symm.trans htick')
      -- a list that was just stored is within every window, as a window is not empty
      exact ⟨_, hlatest _ (by rw [at?_store, if_pos h.window_pos]), rfl⟩
    | failed => exact absurd rfl (hfails _)
    | dropped | changed => cases htick
  stores tick orders hfetched other := by
    obtain ⟨htick, market', hmade⟩ := Served.fetched?_eq_some hfetched
    rw [hmade] at hserves
    rw [hserves.after_of_fetched htick, at?_store_eq h.window_pos, h.window_eq]
  invalidates tick hrequest other := by
    rw [hrequest] at hserves
    rw [hserves.after_of_invalidate, at?_invalidate_eq]
  holds tick orders hkept hle hnot := hserves.holds h.window_pos hkept hle hnot

end Answers

/--
**Look-ups.** Whatever was asked of a cache before, and whatever the venue did in the
meantime: a look-up is answered from the latest list that was fetched for its tick,
with one call of the venue where no list is kept for it and none where one is. Where
the ticks of the look-ups never decrease, no more lists are kept than the window has
ticks.
-/
theorem lookups_of_requests (venue : Venue σ) (market : Market) (window : Nat) (state : Journaled σ)
    (requests : List (Request σ)) :
    (∀ request,
      Answers window market ((Lookout.start window state).record venue market requests)
        ((Lookout.start window state).serveAll venue market requests).cache
        (((Lookout.start window state).serveAll venue market requests).served venue market request)
        (((Lookout.start window state).serveAll venue market requests).serve venue market
          request).2.cache) ∧
    ((lookupTicks requests).Pairwise (· ≤ ·) →
      ((Lookout.start window state).serveAll venue market requests).cache.size ≤ max window 1) := by
  have hstart : Keeps window ([] : List (Served σ)) (Lookout.start window state).cache :=
    ⟨rfl, List.nodup_nil, nofun⟩
  have hkeeps : Keeps window ((Lookout.start window state).record venue market requests)
      ((Lookout.start window state).serveAll venue market requests).cache :=
    hstart.serveAll requests
  refine ⟨fun request => hkeeps.answers (served_serves venue market _ request).2,
    fun hordered => ?_⟩
  have hrecent : (Lookout.start window state).cache.RecentAt 0 := ⟨0, Nat.le_refl _, nofun⟩
  obtain ⟨last, hrecent⟩ :
      ∃ last, ((Lookout.start window state).serveAll venue market requests).cache.RecentAt last :=
    hrecent.serveAll (fun _ _ => Nat.zero_le _) hordered
  exact hkeeps.window_eq ▸ hrecent.size_le hkeeps.nodup

end SwingTrader.OpenOrderCache
