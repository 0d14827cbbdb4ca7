import SwingTrader.Market
import SwingTrader.Order
import SwingTrader.Instant.Reader
import SwingTrader.Decimal.Layout
import SwingTrader.Decimal.Reader
import SwingTrader.PriceFeed
import SwingTrader.Ledger
import SwingTrader.Pivot.Scan
import SwingTrader.Fees
import SwingTrader.Stop.Trailing
import SwingTrader.Stop.Ratchet
import SwingTrader.Sizing
import SwingTrader.Config
import SwingTrader.Venue.Paper
import SwingTrader.Venue.Journal
import SwingTrader.Venue.Rehearsal
import SwingTrader.Failure
import SwingTrader.Venue.OpenOrders
import SwingTrader.Indicator.Read
import SwingTrader.Indicator.Unmemoized
import SwingTrader.Tracker.Entry
import SwingTrader.Tracker.Exit
import SwingTrader.Strategy.Rebound
import SwingTrader.Session
import SwingTrader.Tracker.Slots
import SwingTrader.Toml.Document
import SwingTrader.Config.Reader
import SwingTrader.TickerFile
import SwingTrader.Report
import SwingTrader.CommandLine.FileTree
import SwingTrader.Main
import SwingTrader.Proofs.Desk
import SwingTrader.Proofs.Tracker.Move
import SwingTrader.Proofs.Tracker.Operation
import SwingTrader.Proofs.Session.Tick
import SwingTrader.Proofs.Ledger
import SwingTrader.Proofs.Session.Books
import SwingTrader.Proofs.Tracker.Failure
import SwingTrader.Proofs.Session.Failure
import SwingTrader.Proofs.Session.Fills
import SwingTrader.Proofs.Double.Rounding
import SwingTrader.Proofs.Session.Watched
import SwingTrader.Proofs.Session.Stocked
import SwingTrader.Proofs.Session.Sales
import SwingTrader.Proofs.Tracker.Setback
import SwingTrader.Proofs.OpenOrders
import SwingTrader.Proofs.OpenOrders.Lookups
import SwingTrader.Proofs.Tracker.History
import SwingTrader.Proofs.Double
import SwingTrader.Proofs.Tracker.Turn
import SwingTrader.Proofs.Session.PaperBook
import SwingTrader.Proofs.Session.Restart
import SwingTrader.Proofs.Tracker.Deed
import SwingTrader.Proofs.Tracker.Hearing
import SwingTrader.Proofs.Tracker.Evidence
import SwingTrader.Proofs.Tracker.Racing
import SwingTrader.Proofs.Tracker.Tightening
import SwingTrader.Proofs.Tracker.Patience
import SwingTrader.Proofs.Tracker.Offers
import SwingTrader.Proofs.Pivot.Extreme
import SwingTrader.Proofs.Pivot.Record
import SwingTrader.Proofs.Pivot.Standing
import SwingTrader.Proofs.Pivot.Readiness
import SwingTrader.Proofs.Pivot.Rescan
import SwingTrader.Proofs.Pivot.Revision
import SwingTrader.Proofs.Pivot.Rounds
import SwingTrader.Proofs.Pivot.Mirror
import SwingTrader.Proofs.Pivot.Gaps
import SwingTrader.Proofs.Fees
import SwingTrader.Proofs.Indicator.Simulation
import SwingTrader.Proofs.Indicator.Unchanged
import SwingTrader.Proofs.Indicator.Memo
import SwingTrader.Proofs.Ledger.Log
import SwingTrader.Proofs.Indicator.Hindsight
import SwingTrader.Proofs.Indicator.Locked
import SwingTrader.Proofs.Paper.Connected
import SwingTrader.Proofs.Paper.Lifecycle
import SwingTrader.Proofs.Tracker.Likeness
import SwingTrader.Proofs.Tracker.Afresh
import SwingTrader.Proofs.Double.Difference
import SwingTrader.Proofs.Double.Nearest
import SwingTrader.Proofs.Double.Monotone
import SwingTrader.Proofs.Session.Afloat
import SwingTrader.Proofs.Tracker.Sizing
import SwingTrader.Proofs.Session.Unwatched
import SwingTrader.Proofs.Tracker.Success
import SwingTrader.Proofs.Session.Unfailing
import SwingTrader.Proofs.Replay
import SwingTrader.Proofs.Rebound
import SwingTrader.Proofs.Paper.Conservation
import SwingTrader.Proofs.PriceFeed
import SwingTrader.Proofs.Pivot.Retrace
import SwingTrader.Proofs.Side
import SwingTrader.Proofs.Ratchet
import SwingTrader.Proofs.Tracker.Blind
import SwingTrader.Proofs.Tracker.Slots
import SwingTrader.Proofs.Session.Slots
