/-!
# SwingTrader — instants

An instant counts whole seconds from the start of 1970 in universal time, and
nanoseconds from that second. A leap second shares the count of the second it
follows and continues its nanoseconds past one thousand million.

* `Instant` — the type, ordered by seconds and then by nanoseconds;
* `Instant.ofMillis`, `Instant.millis` — instants on the grid of milliseconds;
* `Instant.millis_ofMillis` — nothing on that grid is lost.
-/

namespace SwingTrader

/-- A point in universal time. -/
structure Instant where
  seconds : Int
  nanos : Nat := 0
  deriving DecidableEq, Repr

namespace Instant

/-- Earlier or the same. -/
protected def le (a b : Instant) : Prop :=
  a.seconds < b.seconds ∨ (a.seconds = b.seconds ∧ a.nanos ≤ b.nanos)

/-- Strictly earlier. -/
protected def lt (a b : Instant) : Prop :=
  a.seconds < b.seconds ∨ (a.seconds = b.seconds ∧ a.nanos < b.nanos)

instance : LE Instant := ⟨Instant.le⟩

instance : LT Instant := ⟨Instant.lt⟩

instance : DecidableLE Instant := fun a b =>
  inferInstanceAs (Decidable (a.seconds < b.seconds ∨ (a.seconds = b.seconds ∧ a.nanos ≤ b.nanos)))

instance : DecidableLT Instant := fun a b =>
  inferInstanceAs (Decidable (a.seconds < b.seconds ∨ (a.seconds = b.seconds ∧ a.nanos < b.nanos)))

/-- Instants are ordered by their seconds, and within a second by their nanoseconds. -/
theorem le_def {a b : Instant} :
    a ≤ b ↔ a.seconds < b.seconds ∨ (a.seconds = b.seconds ∧ a.nanos ≤ b.nanos) :=
  Iff.rfl

/-- An instant is earlier by its seconds, or within a second by its nanoseconds. -/
theorem lt_def {a b : Instant} :
    a < b ↔ a.seconds < b.seconds ∨ (a.seconds = b.seconds ∧ a.nanos < b.nanos) :=
  Iff.rfl

protected theorem le_refl (a : Instant) : a ≤ a :=
  Or.inr ⟨rfl, Nat.le_refl _⟩

/-- The order of instants is total. -/
protected theorem not_le {a b : Instant} : ¬ a ≤ b ↔ b < a := by
  rw [le_def, lt_def]
  omega

/-- The instant a number of milliseconds after the start of 1970. -/
def ofMillis (millis : Int) : Instant :=
  ⟨millis / 1000, (millis % 1000).toNat * 1000000⟩

/-- The last millisecond that begins at or before an instant. -/
def millis (t : Instant) : Int :=
  t.seconds * 1000 + t.nanos / 1000000

/-- An instant made of milliseconds reads back as the same milliseconds. -/
@[simp] theorem millis_ofMillis (millis : Int) : (ofMillis millis).millis = millis := by
  simp only [ofMillis, Instant.millis]
  omega

end Instant

end SwingTrader
