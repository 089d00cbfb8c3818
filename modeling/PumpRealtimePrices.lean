import PumpRealtimePrices.Library.Borsh
import PumpRealtimePrices.Library.Base58
import PumpRealtimePrices.Library.SerdeJson
import PumpRealtimePrices.Library.CallStack
import PumpRealtimePrices.Library.LastWrite
import PumpRealtimePrices.Library.Rust
import PumpRealtimePrices.Library.FixedPoint
import PumpRealtimePrices.Library.Tally
import PumpRealtimePrices.Library.Panics
import PumpRealtimePrices.Library.Aggregation
import PumpRealtimePrices.Library.Replacing
import PumpRealtimePrices.Library.EventLoop
import PumpRealtimePrices.Library.Text
import PumpRealtimePrices.Crates
import PumpRealtimePrices.Common
import PumpRealtimePrices.Programs.Pumpfun
import PumpRealtimePrices.Programs.Pumpswap
import PumpRealtimePrices.Programs.EventLayouts
import PumpRealtimePrices.Programs.TradeFees
import PumpRealtimePrices.Programs.PanicFreedom
import PumpRealtimePrices.Parser.Events
import PumpRealtimePrices.Parser.Registry
import PumpRealtimePrices.Parser.Transaction
import PumpRealtimePrices.Parser.Block
import PumpRealtimePrices.Parser.Header
import PumpRealtimePrices.Parser.Normalization
import PumpRealtimePrices.Parser.TestSupport
import PumpRealtimePrices.Parser.PacketData
import PumpRealtimePrices.Parser.Traversal
import PumpRealtimePrices.Parser.Completeness
import PumpRealtimePrices.Parser.InvocationStack
import PumpRealtimePrices.Parser.FaultIsolation
import PumpRealtimePrices.Parser.ProtocolIndependence
import PumpRealtimePrices.Parser.Provenance
import PumpRealtimePrices.Parser.SelfCpis
import PumpRealtimePrices.Parser.SellTransaction
import PumpRealtimePrices.Parser.PanicFreedom
import PumpRealtimePrices.Parser.Renumbering
import PumpRealtimePrices.Parser.Acceptance
import PumpRealtimePrices.Parser.Defects
import PumpRealtimePrices.Parser.Diagnoses
import PumpRealtimePrices.Parser.Config
import PumpRealtimePrices.Programs.Correlation
import PumpRealtimePrices.Parser.MarketEvents
import PumpRealtimePrices.Programs.Refusals
import PumpRealtimePrices.Parser.Answers
import PumpRealtimePrices.Saver.Prices
import PumpRealtimePrices.Saver.SellPrices
import PumpRealtimePrices.Saver.Orientation
import PumpRealtimePrices.Saver.ExecutionOrder
import PumpRealtimePrices.Saver.Save
import PumpRealtimePrices.Saver.Atomicity
import PumpRealtimePrices.Saver.Constraints
import PumpRealtimePrices.Saver.TokenBalances
import PumpRealtimePrices.Saver.DatabaseConfig
import PumpRealtimePrices.Saver.TimeAxis
import PumpRealtimePrices.Saver.Attempts
import PumpRealtimePrices.Saver.MarketPrices
import PumpRealtimePrices.Saver.Recovery
import PumpRealtimePrices.Saver.PriceBars
import PumpRealtimePrices.Saver.Decimals
import PumpRealtimePrices.Saver.BatchedUpserts
import PumpRealtimePrices.Saver.PanicFreedom
import PumpRealtimePrices.StandaloneIndexer.Reports
import PumpRealtimePrices.StandaloneIndexer.Notifications
import PumpRealtimePrices.StandaloneIndexer.Session
import PumpRealtimePrices.StandaloneIndexer.Runs
import PumpRealtimePrices.StandaloneIndexer.Accounting
import PumpRealtimePrices.StandaloneIndexer.PriceBars
import PumpRealtimePrices.StandaloneIndexer.MarketPrices
import PumpRealtimePrices.StandaloneIndexer.Startup
import PumpRealtimePrices.VisualInspector
