import PumpRealtimePrices.Parser.Completeness
import PumpRealtimePrices.Saver.SellPrices

/-!
# Sequence numbers and the last price

A sequence number packs the index of a transaction and the ordinal of an
instruction into one word.  On the output of the parser the two numbers grow
along the swaps, so the packed number does, and the price that survives the
collection into a map is the one with the greatest number.

Main results:

- Theorem {lit}`toNat_sequenceOf`: packing loses nothing below {lit}`2 ^ 32`.
- Theorem {lit}`inExecutionOrder_of_parse`: the swaps of a parsed block are in execution
  order.
- Theorem {lit}`sequenced_prices`: sequence numbers order the prices of a parsed block,
  and the kept price of each liquidity provider is the last one.
-/

namespace PumpRealtimePrices
namespace Saver

open PumpRealtimePrices.Parser SerdeJson

/-! ## Packing -/

/-- Packing loses nothing below {lit}`2 ^ 32`. -/
theorem toNat_sequenceOf {transaction : TransactionEvents} {instruction : InstructionEvents}
    (htransaction : transaction.transactionIndex < 2 ^ 32)
    (hinstruction : instruction.executionOrdinal < 2 ^ 32) :
    (sequenceOf transaction instruction).toNat =
      2 ^ 32 * transaction.transactionIndex + instruction.executionOrdinal := by
  have hindex : (UInt64.ofNat transaction.transactionIndex).toNat =
      transaction.transactionIndex :=
    UInt64.toNat_ofNat_of_lt' (htransaction.trans (by norm_num))
  have hordinal : (UInt64.ofNat instruction.executionOrdinal).toNat =
      instruction.executionOrdinal :=
    UInt64.toNat_ofNat_of_lt' (hinstruction.trans (by norm_num))
  have hshift : (UInt64.ofNat transaction.transactionIndex <<< 32).toNat =
      2 ^ 32 * transaction.transactionIndex := by
    have hlt : 2 ^ 32 * transaction.transactionIndex < 2 ^ 64 := by omega
    rw [UInt64.toNat_shiftLeft, hindex, Nat.shiftLeft_eq, Nat.mul_comm]
    exact Nat.mod_eq_of_lt hlt
  rw [sequenceOf, UInt64.toNat_or, hshift, hordinal, Nat.two_pow_add_eq_or_of_lt hinstruction]

/-! ## Order of the swaps -/

/-- Order of the execution of two swaps. -/
def SwapEntry.Before (a b : SwapEntry) : Prop :=
  a.transaction.transactionIndex < b.transaction.transactionIndex ∨
    a.transaction.transactionIndex = b.transaction.transactionIndex ∧
      a.instruction.executionOrdinal < b.instruction.executionOrdinal

/-- The swaps of a block are in execution order, and their places can be packed. -/
structure InExecutionOrder (events : BlockEvents) : Prop where
  ordered : (swapEntries events).Pairwise SwapEntry.Before
  transactionIndex_lt : ∀ entry ∈ swapEntries events, entry.transaction.transactionIndex < 2 ^ 32
  executionOrdinal_lt : ∀ entry ∈ swapEntries events, entry.instruction.executionOrdinal < 2 ^ 32

section Blocks

variable {crates : Crates} {registry : ParserRegistry} {block : Value} {events : BlockEvents}

/-- Swaps of a parsed block are in the order of their transactions, and within a
transaction in the order of their ordinals. -/
theorem pairwise_before_swapEntries (hparse : parseBlock crates registry block = .ok events) :
    (swapEntries events).Pairwise SwapEntry.Before := by
  rw [swapEntries, List.pairwise_flatMap]
  constructor
  · intro transaction htransaction
    rcases exists_header_of_transaction hparse htransaction with
      ⟨-, -, header, -, -, -, htransactionEvents⟩
    have hordered := pairwise_instructionEvents crates registry header
    rw [← instructions_of_transactionEvents htransactionEvents] at hordered
    rw [swapsOf, List.pairwise_filterMap]
    refine hordered.imp fun hlt a ha b hb => ?_
    rcases swapOf_eq_some_iff.mp ha with ⟨htransactionA, hinstructionA, -⟩
    rcases swapOf_eq_some_iff.mp hb with ⟨htransactionB, hinstructionB, -⟩
    refine .inr ⟨?_, ?_⟩
    · rw [htransactionA, htransactionB]
    · rw [hinstructionA, hinstructionB]
      exact hlt
  · refine (pairwise_transactions_of_parse hparse).imp fun hlt a ha b hb => ?_
    rw [← (mem_swapsOf.mp ha).1, ← (mem_swapsOf.mp hb).1] at hlt
    exact .inl hlt

/-- The swaps of a parsed block are in execution order. -/
theorem inExecutionOrder_of_parse (hparse : parseBlock crates registry block = .ok events)
    {entries : List Value} (hentries : (block.get "transactions").bind Value.asArray = some entries)
    (htransactions : entries.length < 2 ^ 32)
    (hinstructions : ∀ entry ∈ entries, ∀ header, readTransaction entry = .ok (some header) →
      (visits header).length < 2 ^ 32) : InExecutionOrder events := by
  refine ⟨pairwise_before_swapEntries hparse, ?_, ?_⟩
  · intro entry hmem
    rcases mem_swapEntries.mp hmem with ⟨htransaction, -, -⟩
    rcases exists_header_of_transaction hparse htransaction with
      ⟨entries', value, -, hentries', hvalue, -, -⟩
    rcases Option.some.inj (hentries.symm.trans hentries') with rfl
    exact (List.getElem?_eq_some_iff.mp hvalue).1.trans htransactions
  · intro entry hmem
    rcases mem_swapEntries.mp hmem with ⟨htransaction, hinstruction, -⟩
    rcases exists_header_of_transaction hparse htransaction with
      ⟨entries', value, header, hentries', hvalue, hheader, htransactionEvents⟩
    rcases Option.some.inj (hentries.symm.trans hentries') with rfl
    rw [instructions_of_transactionEvents htransactionEvents] at hinstruction
    rcases entryAt_eq_some (mem_instructionEvents.mp hinstruction) with ⟨visit, hvisit, -⟩
    have hlt := (List.getElem?_eq_some_iff.mp hvisit).1
    exact hlt.trans (hinstructions value (List.mem_of_getElem? hvalue) header hheader)

end Blocks

/-! ## Order of the prices -/

section Prices

variable {events : BlockEvents} {prices : List TokenPairPrice}

/-- The price of a swap has the sequence of its place. -/
theorem SwapEntry.sequence_of_price {entry : SwapEntry} {price : TokenPairPrice}
    (hprice : entry.price = .ok price) :
    price.sequence = sequenceOf entry.transaction entry.instruction := by
  rcases tokenPairPrice_eq_ok hprice with ⟨-, -, -, -, -, -, -, -, -, -, hsequence⟩
  exact hsequence

/-- A price carries the place of its swap. -/
theorem InExecutionOrder.toNat_sequence (horder : InExecutionOrder events) {entry : SwapEntry}
    (hentry : entry ∈ swapEntries events) {price : TokenPairPrice}
    (hprice : entry.price = .ok price) :
    price.sequence.toNat = 2 ^ 32 * entry.transaction.transactionIndex +
      entry.instruction.executionOrdinal := by
  rw [SwapEntry.sequence_of_price hprice]
  exact toNat_sequenceOf (horder.transactionIndex_lt entry hentry)
    (horder.executionOrdinal_lt entry hentry)

/-- Sequence numbers grow along the prices. -/
theorem InExecutionOrder.pairwise_sequence (horder : InExecutionOrder events)
    (hcollect : collectTokenPairPrices events = .ok prices) :
    prices.Pairwise fun a b => a.sequence.toNat < b.sequence.toNat := by
  rw [collectTokenPairPrices_eq_ok_iff, List.forall₂_iff_get] at hcollect
  rcases hcollect with ⟨hlength, hget⟩
  have hkept : (keptEntries events).Pairwise SwapEntry.Before :=
    horder.ordered.sublist List.filter_sublist
  rw [List.pairwise_iff_getElem] at hkept ⊢
  intro i j hi hj hlt
  have hentry : ∀ index, ∀ hindex : index < (keptEntries events).length,
      (keptEntries events)[index] ∈ swapEntries events := fun index hindex =>
    (mem_keptEntries.mp (List.getElem_mem hindex)).1
  have hpriceI := hget i (hlength ▸ hi) hi
  have hpriceJ := hget j (hlength ▸ hj) hj
  have hsequenceI := horder.toNat_sequence (hentry i (hlength ▸ hi)) hpriceI
  have hsequenceJ := horder.toNat_sequence (hentry j (hlength ▸ hj)) hpriceJ
  have hordinal := horder.executionOrdinal_lt _ (hentry i (hlength ▸ hi))
  rcases hkept i j (hlength ▸ hi) (hlength ▸ hj) hlt with hbefore | ⟨hequal, hbefore⟩
  all_goals
    simp only [List.get_eq_getElem] at hsequenceI hsequenceJ
    omega

/-- The kept price of a liquidity provider is the one with the greatest sequence. -/
theorem InExecutionOrder.mem_deduplicate_iff (horder : InExecutionOrder events)
    (hcollect : collectTokenPairPrices events = .ok prices) {price : TokenPairPrice} :
    price ∈ deduplicateTokenPairPrices prices ↔
      price ∈ prices ∧ ∀ other ∈ prices,
        other.liquidityProviderAddress = price.liquidityProviderAddress →
        other.sequence.toNat ≤ price.sequence.toNat := by
  have hsorted : prices.Pairwise fun a b =>
      a.liquidityProviderAddress = price.liquidityProviderAddress →
      b.liquidityProviderAddress = price.liquidityProviderAddress →
      a.sequence.toNat < b.sequence.toNat :=
    (horder.pairwise_sequence hcollect).imp fun hlt _ _ => hlt
  rw [deduplicateTokenPairPrices, LastWrite.mem_deduplicate,
    LastWrite.lastOf_eq_some_iff_of_pairwise hsorted]
  simp only [true_and]

end Prices

/-- The prices of a block: one row for each swap that is not ignored, in execution
order and numbered by it, and for each liquidity provider the last row is kept. -/
structure Sequenced (events : BlockEvents) (prices : List TokenPairPrice) : Prop where
  executionOrder : (keptEntries events).Pairwise SwapEntry.Before
  rows : List.Forall₂ (fun entry price => entry.price = .ok price ∧
    price.sequence.toNat / 2 ^ 32 = entry.transaction.transactionIndex ∧
    price.sequence.toNat % 2 ^ 32 = entry.instruction.executionOrdinal) (keptEntries events) prices
  increasing : prices.Pairwise fun a b => a.sequence < b.sequence
  latest : ∀ price, price ∈ deduplicateTokenPairPrices prices ↔
    price ∈ prices ∧ ∀ other ∈ prices,
      other.liquidityProviderAddress = price.liquidityProviderAddress →
      other.sequence ≤ price.sequence
  distinct : ((deduplicateTokenPairPrices prices).map
    TokenPairPrice.liquidityProviderAddress).Nodup
  covered : ∀ price ∈ prices, ∃ kept ∈ deduplicateTokenPairPrices prices,
    kept.liquidityProviderAddress = price.liquidityProviderAddress

/-- Sequence numbers order the prices of a parsed block, and the kept price of each
liquidity provider is the last one. -/
theorem sequenced_prices {crates : Crates} {registry : ParserRegistry} {block : Value}
    {events : BlockEvents} (hparse : parseBlock crates registry block = .ok events)
    {entries : List Value} (hentries : (block.get "transactions").bind Value.asArray = some entries)
    (htransactions : entries.length < 2 ^ 32)
    (hinstructions : ∀ entry ∈ entries, ∀ header, readTransaction entry = .ok (some header) →
      (visits header).length < 2 ^ 32)
    {prices : List TokenPairPrice} (hcollect : collectTokenPairPrices events = .ok prices) :
    Sequenced events prices := by
  have horder := inExecutionOrder_of_parse hparse hentries htransactions hinstructions
  refine ⟨horder.ordered.sublist List.filter_sublist, ?_, ?_, ?_, ?_, ?_⟩
  · have hrows := collectTokenPairPrices_eq_ok_iff.mp hcollect
    rw [List.forall₂_iff_get] at hrows ⊢
    refine ⟨hrows.1, fun index hentry hprice => ?_⟩
    have hrow := hrows.2 index hentry hprice
    have hmem := (mem_keptEntries.mp (List.getElem_mem hentry)).1
    have hsequence := horder.toNat_sequence hmem hrow
    have hordinal := horder.executionOrdinal_lt _ hmem
    refine ⟨hrow, ?_, ?_⟩
    · rw [hsequence]
      simp only [List.get_eq_getElem]
      omega
    · rw [hsequence]
      simp only [List.get_eq_getElem]
      omega
  · exact horder.pairwise_sequence hcollect
  · intro price
    exact horder.mem_deduplicate_iff hcollect
  · exact LastWrite.nodup_deduplicate TokenPairPrice.liquidityProviderAddress prices
  · intro price hmem
    rcases LastWrite.exists_lastOf_of_mem TokenPairPrice.liquidityProviderAddress hmem with
      ⟨kept, hkept⟩
    have hkey := LastWrite.key_of_lastOf hkept
    refine ⟨kept, LastWrite.mem_deduplicate.mpr ?_, hkey⟩
    rw [hkey]
    exact hkept

/-- A block of sells is in execution order. -/
theorem inExecutionOrder_sells {crates : Crates} (hcrates : crates.Documented) {sells : List Sell}
    (hlength : sells.length < 2 ^ 32) : InExecutionOrder (sellEvents crates sells) := by
  refine inExecutionOrder_of_parse (parseBlock_sellEvents hcrates sells) rfl ?_ ?_
  · rw [List.length_map]
    exact hlength
  · intro entry hentry header hread
    rw [length_visits_sells hentry hread]
    norm_num

/-- Two sells of one pool, in two transactions. -/
theorem sequenced_prices_sells :
    ∃ events prices,
      parseBlock TestSupport.crates (pumpSwapRegistry TestSupport.crates)
        (TestSupport.block ([sellOf 1 10 20, sellOf 1 30 40].map
          (Sell.entry TestSupport.crates))) = .ok events ∧
      collectTokenPairPrices events = .ok prices ∧ prices.length = 2 ∧
      Sequenced events prices := by
  have hcrates := TestSupport.crates_documented
  have hparse := parseBlock_sellEvents hcrates [sellOf 1 10 20, sellOf 1 30 40]
  have hcollect := collect_sells hcrates [sellOf 1 10 20, sellOf 1 30 40]
  refine ⟨_, _, hparse, hcollect, rfl, ?_⟩
  refine sequenced_prices hparse rfl (by decide) ?_ hcollect
  intro entry hentry header hread
  rw [length_visits_sells hentry hread]
  norm_num

end Saver
end PumpRealtimePrices
