import PumpRealtimePrices.Saver.SellPrices
import PumpRealtimePrices.Saver.TimeAxis

/-!
# Batched upserts

A block sends one upsert, with the latest price of each liquidity provider split into
eight columns.  It has the effect of sending every price of the block on its own, in
execution order, and so has a whole run, however its swaps are cut into blocks.  The
checks of the table are left out here: with them a statement may also be refused as a
whole.

Main results:

- Theorem {lit}`upsertUnchecked_of_ok`: what the checked upsert does when it succeeds.
- Theorem {lit}`upsertBlocks_eq_ok`: a run of blocks stores the last price of each
  liquidity provider.
- Theorem {lit}`batched_upserts`: batches and single prices leave the same table.
-/

namespace PumpRealtimePrices
namespace Saver

open PumpRealtimePrices.Parser SerdeJson

/-! ## Statements without checks -/

/-- The upsert on a table without checks. -/
def upsertUnchecked (table : TokenPairPricesTable) (columns : BatchColumns) :
    Except DatabaseError TokenPairPricesTable := do
  let records ← columns.unnest.mapM BatchRow.select
  if ¬ (records.map Record.liquidityProviderAddress).Nodup then
    throw .cardinalityViolation
  return LastWrite.putAll Record.liquidityProviderAddress table records

/-- The statement of a block, which is not sent when the block has no prices. -/
def upsertBlock (table : TokenPairPricesTable) (prices : List TokenPairPrice) :
    Except DatabaseError TokenPairPricesTable :=
  if prices.isEmpty then .ok table
  else upsertUnchecked table (columnsOf (deduplicateTokenPairPrices prices))

/-- The statements of a run of blocks. -/
def upsertBlocks (table : TokenPairPricesTable) (blocks : List BlockEvents) :
    Except SaverError TokenPairPricesTable :=
  blocks.foldlM (fun table events => do
    let prices ← collectTokenPairPrices events
    (upsertBlock table prices).mapError .database) table

/-- One statement for each price. -/
def upsertEach (table : TokenPairPricesTable) (prices : List TokenPairPrice) :
    Except DatabaseError TokenPairPricesTable :=
  prices.foldlM (fun table price => upsertUnchecked table (columnsOf [price])) table

/-- The table after storing prices in order. -/
def putPrices (table : TokenPairPricesTable) (prices : List TokenPairPrice) :
    TokenPairPricesTable :=
  LastWrite.putAll Record.liquidityProviderAddress table (prices.map TokenPairPrice.record)

variable {table table' : TokenPairPricesTable} {prices : List TokenPairPrice}

/-- What the checked upsert does when it succeeds. -/
theorem upsertUnchecked_of_ok {columns : BatchColumns}
    (hupsert : upsertTokenPairPrices table columns = .ok table') :
    upsertUnchecked table columns = .ok table' := by
  simp only [upsertTokenPairPrices, Rust.except_bind_eq_ok_iff, Rust.throw_if_eq_ok_iff] at hupsert
  rcases hupsert with ⟨records, hrecords, -, hnodup, hput⟩
  rw [upsertUnchecked, hrecords, Rust.ok_bind, if_neg hnodup]
  exact hput

/-- What the upsert of a batch without duplicate addresses does. -/
theorem upsertUnchecked_columnsOf (table : TokenPairPricesTable)
    (hnodup : (prices.map TokenPairPrice.liquidityProviderAddress).Nodup) :
    upsertUnchecked table (columnsOf prices) = .ok (putPrices table prices) := by
  have haddresses : ((prices.map TokenPairPrice.record).map
      Record.liquidityProviderAddress).Nodup := by
    rw [List.map_map]
    exact hnodup
  rw [upsertUnchecked, mapM_select_unnest, Rust.ok_bind, if_neg (not_not.mpr haddresses)]
  rfl

/-! ## Runs of statements -/

/-- Two lists of prices are put one after the other. -/
theorem putPrices_append (table : TokenPairPricesTable) (prices prices' : List TokenPairPrice) :
    putPrices table (prices ++ prices') = putPrices (putPrices table prices) prices' := by
  rw [putPrices, List.map_append, LastWrite.putAll_append]
  rfl

/-- The rows of addresses that are not traded stay. -/
theorem putPrices_apply_of_not_mem {address : String}
    (hother : ∀ price ∈ prices, price.liquidityProviderAddress ≠ address) :
    putPrices table prices address = table address := by
  have hnone : LastWrite.lastOf Record.liquidityProviderAddress address
      (prices.map TokenPairPrice.record) = none := by
    rw [LastWrite.lastOf_eq_none_iff]
    intro record hrecord
    rcases List.mem_map.mp hrecord with ⟨price, hprice, rfl⟩
    exact hother price hprice
  rw [putPrices, LastWrite.putAll_apply, hnone, Option.none_or]

/-- The batch of a block has the effect of all its prices. -/
theorem upsertBlock_eq_ok (table : TokenPairPricesTable) (prices : List TokenPairPrice) :
    upsertBlock table prices = .ok (putPrices table prices) := by
  unfold upsertBlock
  by_cases hempty : prices.isEmpty
  · rw [if_pos hempty, List.isEmpty_iff.mp hempty]
    rfl
  · rw [if_neg hempty, upsertUnchecked_columnsOf table (nodup_deduplicateTokenPairPrices prices)]
    exact congrArg Except.ok (LastWrite.putAll_deduplicate
      TokenPairPrice.liquidityProviderAddress Record.liquidityProviderAddress (fun _ => rfl)
      table prices)

/-- One by one all prices are put. -/
theorem upsertEach_eq_ok (table : TokenPairPricesTable) (prices : List TokenPairPrice) :
    upsertEach table prices = .ok (putPrices table prices) := by
  induction prices generalizing table with
  | nil => rfl
  | cons price prices ih =>
      have hsingle : ([price].map TokenPairPrice.liquidityProviderAddress).Nodup :=
        List.nodup_singleton _
      rw [upsertEach, List.foldlM_cons, upsertUnchecked_columnsOf table hsingle, Rust.ok_bind,
        ← List.singleton_append, putPrices_append]
      exact ih (putPrices table [price])

/-- A run of blocks has the effect of all their prices. -/
theorem upsertBlocks_eq_ok {blocks : List BlockEvents} {collected : List (List TokenPairPrice)}
    (hcollected : blocks.mapM collectTokenPairPrices = .ok collected)
    (table : TokenPairPricesTable) :
    upsertBlocks table blocks = .ok (putPrices table collected.flatten) := by
  induction blocks generalizing collected table with
  | nil =>
      rcases Except.ok.inj hcollected with rfl
      rfl
  | cons events blocks ih =>
      simp only [List.mapM_cons, Rust.except_bind_eq_ok_iff, pure, Except.pure,
        Except.ok.injEq] at hcollected
      rcases hcollected with ⟨prices, hprices, rest, hrest, rfl⟩
      rw [upsertBlocks, List.foldlM_cons, hprices, Rust.ok_bind, upsertBlock_eq_ok,
        List.flatten_cons, putPrices_append]
      exact ih hrest (putPrices table prices)

/-- A successful call of the saver changes the table as the statement of its block does. -/
theorem upsertBlock_of_save {env : Environment} {events : BlockEvents} {tables tables' : Tables}
    {count : Nat} (hsave : saveBlockEvents env events tables = .ok count tables') :
    ∃ prices, collectTokenPairPrices events = .ok prices ∧
      upsertBlock tables.tokenPairPrices prices = .ok tables'.tokenPairPrices := by
  rcases saveBlockEvents_eq_ok hsave with ⟨prices, hcollect, -, ⟨rfl, rfl⟩ | hstored⟩
  · exact ⟨[], hcollect, rfl⟩
  · rcases hstored.inserted with ⟨time, latestRows, rows, -, -, -, rfl⟩
    refine ⟨prices, hcollect, ?_⟩
    rw [upsertBlock_eq_ok]
    exact congrArg Except.ok (upserted_tokenPairPrices tables prices).symm

/-- Batches and single prices leave the same table.  Every row of a batch describes one
price, no batch names an address twice, and only the prices of a run matter, not how
they are cut into blocks. -/
theorem batched_upserts {blocks : List BlockEvents} {collected : List (List TokenPairPrice)}
    (hcollected : blocks.mapM collectTokenPairPrices = .ok collected)
    (table : TokenPairPricesTable) :
    (∃ table', upsertBlocks table blocks = .ok table' ∧
      upsertEach table collected.flatten = .ok table' ∧
      ∀ address, (∀ price ∈ collected.flatten, price.liquidityProviderAddress ≠ address) →
        table' address = table address) ∧
    (∀ prices ∈ collected,
      (columnsOf (deduplicateTokenPairPrices prices)).unnest =
        (deduplicateTokenPairPrices prices).map TokenPairPrice.batchRow ∧
      ((deduplicateTokenPairPrices prices).map
        TokenPairPrice.liquidityProviderAddress).Nodup) ∧
    ∀ blocks' collected', blocks'.mapM collectTokenPairPrices = .ok collected' →
      collected'.flatten = collected.flatten →
        upsertBlocks table blocks' = upsertBlocks table blocks := by
  refine ⟨⟨putPrices table collected.flatten, upsertBlocks_eq_ok hcollected table,
    upsertEach_eq_ok table collected.flatten, fun address => putPrices_apply_of_not_mem⟩,
    fun prices _ => ⟨unnest_columnsOf _, nodup_deduplicateTokenPairPrices prices⟩, ?_⟩
  intro blocks' collected' hcollected' hflatten
  rw [upsertBlocks_eq_ok hcollected', upsertBlocks_eq_ok hcollected, hflatten]

/-- Two blocks of sells in one pool, and a sell in another between them. -/
def sellBlocks : List BlockEvents :=
  [sellEvents TestSupport.crates [sellOf 1 100 200, sellOf 5 1 1],
    sellEvents TestSupport.crates [sellOf 1 300 400]]

/-- Two blocks of sells are upserted as their three prices one by one. -/
theorem batched_upserts_sellBlocks :
    ∃ collected table', upsertBlocks (fun _ => none) sellBlocks = .ok table' ∧
      upsertEach (fun _ => none) collected = .ok table' ∧ collected.length = 3 := by
  have hcollected : sellBlocks.mapM collectTokenPairPrices =
      .ok [[sellPrice TestSupport.crates (sellOf 1 100 200) 0,
          sellPrice TestSupport.crates (sellOf 5 1 1) 1],
        [sellPrice TestSupport.crates (sellOf 1 300 400) 0]] := by
    rw [Rust.mapM_eq_ok_iff, sellBlocks, List.map_cons, List.map_singleton,
      collect_sells TestSupport.crates_documented, collect_sells TestSupport.crates_documented]
    rfl
  rcases (batched_upserts hcollected fun _ => none).1 with ⟨table', hblocks, heach, -⟩
  exact ⟨_, table', hblocks, heach, rfl⟩

end Saver
end PumpRealtimePrices
