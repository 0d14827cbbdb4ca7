/-!
# SwingTrader — the phases of a position

* `Phase` — where a tracker stands in the cycle of a position;
* `Phase.next` — the cycle: `Phase.next_iterate` says that it has four steps.
-/

namespace SwingTrader

/-- Where a tracker stands: an order is needed or waited for, to enter or to exit. -/
inductive Phase where
  | needEnter
  | waitForEnter
  | needExit
  | waitForExit
  deriving DecidableEq, Repr

namespace Phase

/-- The name of a phase in messages. -/
def label : Phase → String
  | needEnter => "NEED_ENTER"
  | waitForEnter => "WAIT_FOR_ENTER"
  | needExit => "NEED_EXIT"
  | waitForExit => "WAIT_FOR_EXIT"

/-- The phase that follows when all goes well. -/
def next : Phase → Phase
  | needEnter => waitForEnter
  | waitForEnter => needExit
  | needExit => waitForExit
  | waitForExit => needEnter

/-- The four phases form a cycle. -/
theorem next_iterate (phase : Phase) : phase.next.next.next.next = phase := by
  cases phase <;> rfl

end Phase

end SwingTrader
