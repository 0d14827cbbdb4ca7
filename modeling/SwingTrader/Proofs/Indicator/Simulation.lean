import SwingTrader.Indicator.Read
import SwingTrader.Proofs.Ledger

/-!
# SwingTrader — readings that simulate one another

Two readings, each with a memory of its own, simulate one another where related
memories give the same answer and stay related. What indicators are read with,
runs of values and positions, carries over what is so of the readings it is
built from.

* `Simulates` — the same answer, and memories that stay related;
* `Simulates.lowestOf`, `Simulates.extremeOf` — runs of values;
* `Simulates.whileOpen` — values that apply while a position is open.
-/

namespace SwingTrader

variable {σ τ ρ α β : Type} {R : σ → τ → Prop}

/-- From related memories, two actions give the same answer and leave related memories. -/
def Simulates (R : σ → τ → Prop) (action : StateM σ α) (other : StateM τ α) : Prop :=
  ∀ state state', R state state' →
    (action state).1 = (other state').1 ∧ R (action state).2 (other state').2

/-- One memory on either side. -/
def Exactly (state : σ) (state' : τ) (first : σ) (second : τ) : Prop :=
  first = state ∧ second = state'

/-- Two memories are given as a pair if both parts are. -/
theorem exactly_prod_iff {state first : σ × ρ} {state' second : τ × ρ} :
    Exactly state state' first second ↔
      Exactly state.1 state'.1 first.1 second.1 ∧ Exactly state.2 state'.2 first.2 second.2 := by
  simp only [Exactly, Prod.ext_iff]
  exact and_and_and_comm

namespace Simulates

variable {action : StateM σ α} {other : StateM τ α}

theorem pure (value : α) : Simulates R (Pure.pure value) (Pure.pure value) :=
  fun _ _ h => ⟨rfl, h⟩

/-- What goes on from the same answer in the same way goes on alike. -/
theorem bind {next : α → StateM σ β} {next' : α → StateM τ β} (h : Simulates R action other)
    (hnext : ∀ value, Simulates R (next value) (next' value)) :
    Simulates R (action >>= next) (other >>= next') := by
  intro state state' hrelated
  obtain ⟨hvalue, hstate⟩ := h state state' hrelated
  change (next (action state).1 (action state).2).1 = (next' (other state').1 (other state').2).1 ∧
    R (next (action state).1 (action state).2).2 (next' (other state').1 (other state').2).2
  rw [← hvalue]
  exact hnext (action state).1 _ _ hstate

/-- Where both sides decide alike, it is enough that both branches go alike. -/
theorem ite {action' : StateM σ α} {other' : StateM τ α} {p q : Prop} [Decidable p] [Decidable q]
    (hiff : p ↔ q) (h : Simulates R action other) (h' : Simulates R action' other') :
    Simulates R (if p then action else action') (if q then other else other') := by
  by_cases hp : p
  · rw [if_pos hp, if_pos (hiff.mp hp)]
    exact h
  · rw [if_neg hp, if_neg fun hq => hp (hiff.mpr hq)]
    exact h'

/-- What an action does not run on is left alone. -/
theorem onFirst {S : ρ → ρ → Prop} {T : σ × ρ → τ × ρ → Prop} (h : Simulates R action other)
    (hiff : ∀ state state', T state state' ↔ R state.1 state'.1 ∧ S state.2 state'.2) :
    Simulates T (Indicator.onFirst action) (Indicator.onFirst other) := by
  intro state state' hrelated
  obtain ⟨hfirst, hsecond⟩ := (hiff state state').mp hrelated
  obtain ⟨hvalue, hstate⟩ := h state.1 state'.1 hfirst
  exact ⟨hvalue, (hiff _ _).mpr ⟨hstate, hsecond⟩⟩

/-! ## Runs of values -/

section Runs

variable {read : Nat → StateM σ Float} {read' : Nat → StateM τ Float} {indices : List Nat}

/-- The lowest value of some bars is found alike if every bar is read alike. -/
theorem lowestOf : (∀ index ∈ indices, Simulates R (read index) (read' index)) → ∀ lowest,
    Simulates R (SwingTrader.lowestOf read lowest indices)
      (SwingTrader.lowestOf read' lowest indices) := by
  induction indices with
  | nil => exact fun _ lowest => pure lowest
  | cons index rest ih =>
    intro h lowest
    obtain ⟨hindex, hrest⟩ := List.forall_mem_cons.mp h
    exact hindex.bind fun value => ite Iff.rfl (pure notANumber) (ih hrest _)

/-- The extreme of some bars is found alike if every bar is read alike. -/
theorem extremeOf (extremum : Extremum) :
    (∀ index ∈ indices, Simulates R (read index) (read' index)) → ∀ best,
      Simulates R (SwingTrader.extremeOf extremum read best indices)
        (SwingTrader.extremeOf extremum read' best indices) := by
  induction indices with
  | nil => exact fun _ best => pure best
  | cons index rest ih =>
    intro h best
    obtain ⟨hindex, hrest⟩ := List.forall_mem_cons.mp h
    exact hindex.bind fun value => ih hrest _

end Runs

/-! ## Positions -/

/-- The entry of a position that is open at a bar is never after the bar. -/
theorem whileOpen {output : Output} {view view' : MarketView} {ledger ledger' : TradeLedger}
    {index : Nat} {onEntry : Nat → Side → StateM σ output.Value}
    {onEntry' : Nat → Side → StateM τ output.Value}
    (hsize : index < view.bars.size ↔ index < view'.bars.size)
    (hevent : ledger.lastEventAt index = ledger'.lastEventAt index)
    (h : ∀ entered ≤ index, ∀ side,
      Simulates R (onEntry entered side) (onEntry' entered side)) :
    Simulates R (SwingTrader.whileOpen output view ledger index onEntry)
      (SwingTrader.whileOpen output view' ledger' index onEntry') := by
  refine ite hsize ?_ (pure output.notApplicable)
  rw [hevent]
  split
  · next entered side hentry =>
    exact h entered (TradeLedger.le_of_lastEventAt_entry hentry) side
  · exact pure output.notApplicable

end Simulates

theorem mem_barRange {first last index : Nat} :
    index ∈ barRange first last ↔ first ≤ index ∧ index ≤ last := by
  rw [barRange, List.mem_range'_1]
  omega

end SwingTrader
