import PumpRealtimePrices.Parser.SellTransaction
import PumpRealtimePrices.Saver.Save

/-!
# Prices of sells

A block of PumpSwap sells, from its JSON value to the prices that the saver
collects from it.

Main results:

- Theorem {lit}`price_soldAt`: every sell has a price, which holds its event's amounts.
- Theorem {lit}`collect_sells`: a block of sells has one price for each of them.
- Theorem {lit}`storable_sellOf`: the price of a test sell can be stored.
-/

namespace PumpRealtimePrices
namespace Saver

open PumpRealtimePrices.Parser SerdeJson

variable (crates : Crates) (sell : Sell) (transactionIndex : Nat)

/-- A sell among the swaps of its block. -/
def soldAt : SwapEntry where
  transaction := sell.events crates transactionIndex
  instruction := sell.reported crates
  swap := sell.swap crates

/-- Decimals of the base mint; if both mints are the same, its second balance counts. -/
def soldBaseDecimals : UInt8 :=
  if sell.quoteMint = sell.baseMint then sell.quoteDecimals else sell.baseDecimals

/-- Price of a sell. -/
def sellPrice : TokenPairPrice where
  liquidityProviderAddress := crates.pubkeyToString sell.event.pool
  liquidityProviderKind := .amm
  baseTokenAddress := crates.pubkeyToString sell.baseMint
  quoteTokenAddress := crates.pubkeyToString sell.quoteMint
  baseAmount := sell.event.baseAmountIn
  quoteAmount := sell.event.userQuoteAmountOut
  baseTokenDecimals := soldBaseDecimals sell
  quoteTokenDecimals := sell.quoteDecimals
  sequence := sequenceOf (sell.events crates transactionIndex) (sell.reported crates)

variable {crates}

/-- The decimals of the sold mint. -/
theorem tokenDecimals_base (hcrates : crates.Documented) :
    tokenDecimals (sell.tokenDecimals crates) (crates.pubkeyToString sell.baseMint) =
      .ok (soldBaseDecimals sell) := by
  refine tokenDecimals_eq_ok_iff.mpr (.inl ?_)
  rw [Sell.tokenDecimals, Std.TreeMap.getElem?_insert, Std.TreeMap.getElem?_insert_self,
    soldBaseDecimals]
  by_cases hmint : sell.quoteMint = sell.baseMint
  · rw [hmint, Std.compare_self, if_pos rfl, if_pos rfl]
  · have htext : crates.pubkeyToString sell.quoteMint ≠ crates.pubkeyToString sell.baseMint :=
      fun heq => hmint (hcrates.toString_injective heq)
    rw [if_neg (fun heq => htext (Std.compare_eq_iff_eq.mp heq)), if_neg hmint]

/-- The decimals of the mint that is paid. -/
theorem tokenDecimals_quote :
    tokenDecimals (sell.tokenDecimals crates) (crates.pubkeyToString sell.quoteMint) =
      .ok sell.quoteDecimals := by
  refine tokenDecimals_eq_ok_iff.mpr (.inl ?_)
  rw [Sell.tokenDecimals, Std.TreeMap.getElem?_insert_self]

/-- Every sell has a price, which holds its event's amounts. -/
theorem price_soldAt (hcrates : crates.Documented) :
    (soldAt crates sell transactionIndex).price = .ok (sellPrice crates sell transactionIndex) := by
  have hsides : sidesOf (sell.swap crates) .amm =
      .ok ⟨crates.pubkeyToString sell.baseMint, crates.pubkeyToString sell.quoteMint,
        sell.event.baseAmountIn, sell.event.userQuoteAmountOut⟩ := by
    simp [sidesOf, ammSides, Sell.swap, Rust.okOr, Rust.ok_bind, pure, Except.pure]
  exact tokenPairPrice_of_fields rfl liquidityProviderKind_pumpswap hsides
    (tokenDecimals_base sell hcrates) (tokenDecimals_quote sell)

variable (crates)

/-- The output for transactions of sells, each with its index. -/
def sellEventsAt (indexed : List (Sell × Nat)) : BlockEvents where
  transactions := indexed.map fun (sell, index) => sell.events crates index

/-- The output of a block of sells. -/
def sellEvents (sells : List Sell) : BlockEvents :=
  sellEventsAt crates sells.zipIdx

/-- The swaps of sold blocks are those of the sells. -/
theorem swapEntries_sellEventsAt (indexed : List (Sell × Nat)) :
    swapEntries (sellEventsAt crates indexed) =
      indexed.map fun (sell, index) => soldAt crates sell index := by
  rw [swapEntries, sellEventsAt, List.flatMap_map]
  exact List.flatMap_pure_eq_map _ _

variable {crates}

/-- A block of sells parses to the events of the sells. -/
theorem parseBlock_sellEvents (hcrates : crates.Documented) (sells : List Sell) :
    parseBlock crates (pumpSwapRegistry crates)
      (TestSupport.block (sells.map (Sell.entry crates))) = .ok (sellEvents crates sells) :=
  parseBlock_sells hcrates (get_pumpSwapRegistry crates) sells

/-- Every sell of an output has one price. -/
theorem collect_sellEventsAt (hcrates : crates.Documented) (indexed : List (Sell × Nat)) :
    collectTokenPairPrices (sellEventsAt crates indexed) =
      .ok (indexed.map fun (sell, index) => sellPrice crates sell index) := by
  rw [collectTokenPairPrices_eq, swapEntries_sellEventsAt]
  induction indexed with
  | nil => rfl
  | cons head indexed ih =>
      rw [List.map_cons, collectPrices, price_soldAt head.1 head.2 hcrates, ih]
      rfl

/-- A block of sells has one price for each of them. -/
theorem collect_sells (hcrates : crates.Documented) (sells : List Sell) :
    collectTokenPairPrices (sellEvents crates sells) =
      .ok (sells.zipIdx.map fun (sell, index) => sellPrice crates sell index) :=
  collect_sellEventsAt hcrates sells.zipIdx

/-- The price of a test sell can be stored if it moves both tokens. -/
theorem storable_sellOf (hcrates : crates.Documented) (pool : UInt8)
    {baseAmountIn userQuoteAmountOut : UInt64} (hbase : baseAmountIn ≠ 0)
    (hquote : userQuoteAmountOut ≠ 0) (transactionIndex : Nat) :
    (sellPrice crates (sellOf pool baseAmountIn userQuoteAmountOut) transactionIndex).Storable := by
  have hbasePos := Nat.pos_of_ne_zero (Rust.ne_zero_iff_toNat.mp hbase)
  have hbaseLt := baseAmountIn.toNat_lt
  have hquoteLt := userQuoteAmountOut.toNat_lt
  have hmints : testAddress 3 ≠ testAddress 4 := by decide
  have htexts : crates.pubkeyToString (testAddress 3) ≠ crates.pubkeyToString (testAddress 4) :=
    fun htext => hmints (hcrates.toString_injective htext)
  refine ⟨?_, ?_, ?_⟩
  · rw [valid_record_iff]
    · exact ⟨hbase, hquote, htexts⟩
    · exact hcrates.length_le (testAddress pool)
    · exact hcrates.length_le (testAddress 3)
    · exact hcrates.length_le (testAddress 4)
  · have hprice : userQuoteAmountOut.toNat * 10 ^ (6 + 18) / (baseAmountIn.toNat * 10 ^ 9) <
        2 ^ 127 := by
      rw [Nat.div_lt_iff_lt_mul (by omega)]
      omega
    refine ⟨_, (if_neg hbase).trans (if_pos hprice)⟩
  · have hvolume : baseAmountIn.toNat * 10 ^ 18 / 10 ^ 6 < 2 ^ 127 := by
      omega
    exact ⟨_, if_pos hvolume⟩

end Saver
end PumpRealtimePrices
