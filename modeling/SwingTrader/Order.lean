import SwingTrader.Arithmetic

/-!
# SwingTrader — positions and their orders

A position is long or short. It is opened by an order of one kind and closed by
an order of another, so the direction of an order can be read off its kind and
the kinds of a position's orders off its direction.

* `Side` — the direction of a position, with `Side.isBetterExit` as the order in
  which exit prices improve;
* `OrderKind` — the four kinds of order, with `OrderKind.side` back to the position;
* `PlacedOrder`, `OpenOrder` — an order as its owner and as the venue sees it;
* `ClosedTrade` — what one round trip came to.
-/

namespace SwingTrader

/-! ## Direction and kind -/

/-- The direction of a position. -/
inductive Side where
  | long
  | short
  deriving DecidableEq, Repr

/-- What an order does: a long is bought and sold, a short entered and covered. -/
inductive OrderKind where
  | buy
  | sell
  | shortEnter
  | shortExit
  deriving DecidableEq, Repr

namespace Side

/-- The name of a direction in messages. -/
def label : Side → String
  | .long => "LONG"
  | .short => "SHORT"

/-- The name of a direction in files. -/
def name : Side → String
  | .long => "LongPosition"
  | .short => "ShortPosition"

/-- The kind of order that opens a position. -/
def enterKind : Side → OrderKind
  | .long => .buy
  | .short => .shortEnter

/-- The kind of order that closes a position. -/
def exitKind : Side → OrderKind
  | .long => .sell
  | .short => .shortExit

/-- A long is left better at a strictly higher price, a short at a strictly lower one. -/
def isBetterExit (side : Side) (candidate current : Float) : Bool :=
  match side with
  | .long => current < candidate
  | .short => candidate < current

end Side

namespace OrderKind

/-- The name of a kind in messages. -/
def label : OrderKind → String
  | .buy => "BUY"
  | .sell => "SELL"
  | .shortEnter => "SHORT_ENTER"
  | .shortExit => "SHORT_EXIT"

/-- Buys and short entries open a position. -/
def isEnter : OrderKind → Bool
  | .buy | .shortEnter => true
  | .sell | .shortExit => false

/-- An order that does not open a position closes one. -/
def isExit (kind : OrderKind) : Bool :=
  !kind.isEnter

/-- The direction of the position that an order of this kind opens or closes. -/
def side : OrderKind → Side
  | .buy | .sell => .long
  | .shortEnter | .shortExit => .short

end OrderKind

/-- The order that opens a position is of its side. -/
@[simp] theorem Side.side_enterKind (side : Side) : side.enterKind.side = side := by
  cases side <;> rfl

/-- The order that closes a position is of its side. -/
@[simp] theorem Side.side_exitKind (side : Side) : side.exitKind.side = side := by
  cases side <;> rfl

/-- What opens a position is an entry. -/
@[simp] theorem Side.isEnter_enterKind (side : Side) : side.enterKind.isEnter = true := by
  cases side <;> rfl

/-- What closes a position is no entry. -/
@[simp] theorem Side.isEnter_exitKind (side : Side) : side.exitKind.isEnter = false := by
  cases side <;> rfl

/-! ## Orders -/

/-- The name a venue gives to an order. -/
structure OrderId where
  text : String
  deriving DecidableEq, Repr

namespace OrderId

/-- The name of the `n`-th order of a venue that counts its orders. -/
def ofNat (n : Nat) : OrderId :=
  ⟨toString n⟩

/-- The name of an entry that was never submitted but inferred from holdings. -/
def synthetic : OrderId :=
  ⟨"synthetic-entry"⟩

end OrderId

/--
An order this trader submitted or adopted. The two counts say for how many
ticks it sat open while the market was past its price, and for how many it sat
partially filled. They are natural numbers, and agree with counters of 32 bits
for an order that is watched on fewer than `2 ^ 32` ticks.
-/
structure PlacedOrder where
  id : OrderId
  kind : OrderKind
  quantity : Float
  price : Float
  notExecuted : Nat := 0
  partiallyExecuted : Nat := 0

namespace PlacedOrder

/-- The direction of the position this order belongs to. -/
def side (order : PlacedOrder) : Side :=
  order.kind.side

/-- One more tick on which the market was past the price of the order. -/
def countNotExecuted (order : PlacedOrder) : PlacedOrder :=
  { order with notExecuted := order.notExecuted + 1 }

/-- One more tick on which the order was partially filled. -/
def countPartiallyExecuted (order : PlacedOrder) : PlacedOrder :=
  { order with partiallyExecuted := order.partiallyExecuted + 1 }

/-- The same order for another quantity. -/
def withQuantity (order : PlacedOrder) (quantity : Float) : PlacedOrder :=
  { order with quantity }

end PlacedOrder

/-- An order as the venue lists it: `quantity` is what remains of `ordered`. -/
structure OpenOrder (α : Type := Float) where
  id : OrderId
  kind : OrderKind
  price : α
  quantity : α
  ordered : α

namespace OpenOrder

/-- Some of the order has been executed, and some has not. -/
def isPartiallyFilled (order : OpenOrder) : Bool :=
  order.quantity < order.ordered

/-- How much of the order has been executed; nothing where the venue reports a growing order. -/
def filledQuantity (order : OpenOrder) : Float :=
  let filled := order.ordered - order.quantity
  if 0.0 < filled then filled else 0.0

end OpenOrder

/-- A completed round trip; `gain` is in counter currency, after both fees. -/
structure ClosedTrade where
  side : Side
  entryPrice : Float
  exitPrice : Float
  quantity : Float
  gain : Float

end SwingTrader
