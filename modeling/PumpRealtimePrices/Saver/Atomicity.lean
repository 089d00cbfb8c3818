import PumpRealtimePrices.Saver.Save
import PumpRealtimePrices.Saver.SellPrices

/-!
# What a failed call leaves behind

The three tables are written one after the other, and fallible conversions stand
between the writes.  An error that the saver computes itself therefore leaves a
prefix of the writes behind, each of them entire.

Main results:

- Theorem {lit}`leftover_of_computed_error`: which writes a failed call leaves behind, and
  which errors stand after each of them.
- Theorem {lit}`saveBlockEvents_not_all_or_nothing`: a block whose second sell of a pool
  is priced, but not its first.
-/

namespace PumpRealtimePrices
namespace Saver

open PumpRealtimePrices.Parser SerdeJson

/-- Errors that the saver computes itself, without a database. -/
def SaverError.Computed : SaverError → Prop
  | .database _ => False
  | .clickHouse _ => False
  | _ => True

/-- What a failed call leaves behind: nothing, the upsert, or the upsert and the
whole insert into {lit}`token_pair_prices`. -/
inductive Leftover (env : Environment) (events : BlockEvents) (tables : Tables)
    (error : SaverError) : Tables → Prop where
  | nothing (herror : collectTokenPairPrices events = .error error) :
      Leftover env events tables error tables
  | upsert (prices : List TokenPairPrice)
      (hcollect : collectTokenPairPrices events = .ok prices)
      (hvalid : ∀ price ∈ deduplicateTokenPairPrices prices, price.record.Valid)
      (herror : currentTimeMillis env = .error error ∨
        error = .decimalOverflow "price" ∧
          ∃ price ∈ deduplicateTokenPairPrices prices, normalizedPrice price = .error error) :
      Leftover env events tables error (tables.upserted prices)
  | insert (prices : List TokenPairPrice) (time : Int) (rows : List LatestTokenPairPriceRow)
      (hcollect : collectTokenPairPrices events = .ok prices)
      (hvalid : ∀ price ∈ deduplicateTokenPairPrices prices, price.record.Valid)
      (htime : currentTimeMillis env = .ok time)
      (hrows : List.Forall₂ (fun price row => latestRow time price = .ok row)
        (deduplicateTokenPairPrices prices) rows)
      (herror : ∃ price ∈ prices,
        normalizedPrice price = .error error ∨ normalizedVolume price = .error error) :
      Leftover env events tables error
        { tables.upserted prices with
          latestTokenPairPrices := tables.latestTokenPairPrices ++ rows }

/-- The only error of a latest row is that of its price. -/
theorem latestRow_eq_error {updatedAt : Int} {price : TokenPairPrice} {error : SaverError}
    (herror : latestRow updatedAt price = .error error) : normalizedPrice price = .error error := by
  rw [latestRow, Rust.except_bind_eq_error_iff] at herror
  rcases herror with hprice | ⟨_, -, hpure⟩
  · exact hprice
  · cases hpure

/-- The only errors of a row are those of its price and its volume. -/
theorem realTimeRow_eq_error {time : Int} {price : TokenPairPrice} {error : SaverError}
    (herror : realTimeRow time price = .error error) :
    normalizedPrice price = .error error ∨ normalizedVolume price = .error error := by
  rw [realTimeRow, Rust.except_bind_eq_error_iff] at herror
  rcases herror with hprice | ⟨_, -, hrest⟩
  · exact .inl hprice
  · rw [Rust.except_bind_eq_error_iff] at hrest
    rcases hrest with hvolume | ⟨_, -, hpure⟩
    · exact .inr hvolume
    · cases hpure

/-- After the upsert no latest price has a zero base amount. -/
theorem latest_error {prices : List TokenPairPrice} {price : TokenPairPrice} {error : SaverError}
    (hvalid : ∀ price ∈ deduplicateTokenPairPrices prices, price.record.Valid)
    (hmem : price ∈ deduplicateTokenPairPrices prices)
    (hprice : normalizedPrice price = .error error) : error = .decimalOverflow "price" := by
  rcases normalizedPrice_eq_error hprice with ⟨hzero, -⟩ | ⟨-, herror⟩
  · have hpositive : 0 < price.baseAmount.toNat := (hvalid price hmem).baseAmount.2
    rw [hzero] at hpositive
    exact absurd hpositive (Nat.lt_irrefl 0)
  · exact herror

/-- A call that fails with an error of its own leaves behind a prefix of its writes,
each of them entire. -/
theorem leftover_of_computed_error {env : Environment} {events : BlockEvents}
    {tables tables' : Tables} {error : SaverError}
    (hsave : saveBlockEvents env events tables = .error error tables')
    (hcomputed : error.Computed) : Leftover env events tables error tables' := by
  have hclickHouse : ¬ ∃ found, error = .clickHouse found := by
    intro hfound
    rcases hfound with ⟨found, rfl⟩
    exact hcomputed
  cases saveBlockEvents_eq_error hsave with
  | collect herror htables =>
      rw [htables]
      exact .nothing herror
  | upsert found herror _ =>
      rw [herror] at hcomputed
      exact hcomputed.elim
  | clock prices hcollect hvalid herror htables =>
      rw [htables]
      exact .upsert prices hcollect hvalid (.inl herror)
  | latest prices time hcollect hvalid htime herror htables =>
      rw [htables]
      refine .upsert prices hcollect hvalid (.inr ?_)
      rcases insertRows_eq_error herror with ⟨price, hmem, hrow⟩ | hfound
      · have hprice := latestRow_eq_error hrow
        exact ⟨latest_error hvalid hmem hprice, price, hmem, hprice⟩
      · exact absurd hfound hclickHouse
  | realTime prices time latestRows hcollect hvalid htime hlatest herror htables =>
      rw [htables]
      refine .insert prices time latestRows hcollect hvalid htime (insertRows_eq_ok hlatest) ?_
      rcases insertRows_eq_error herror with ⟨price, hmem, hrow⟩ | hfound
      · exact ⟨price, hmem, realTimeRow_eq_error hrow⟩
      · exact absurd hfound hclickHouse

section Dust

/-- Two sells of one pool; the first moves no base token. -/
def dustSells : List Sell :=
  [sellOf 1 0 20, sellOf 1 10 20]

def dustFirst : BlockEvents :=
  sellEvents TestSupport.crates dustSells

/-- Price of the second sell, which is the latest price of the pool. -/
def dustLatest : TokenPairPrice :=
  sellPrice TestSupport.crates (sellOf 1 10 20) 1

/-- Prices of both sells. -/
def dustPrices : List TokenPairPrice :=
  [sellPrice TestSupport.crates (sellOf 1 0 20) 0] ++ [dustLatest]

private theorem mem_deduplicate_dustPrices {price : TokenPairPrice} :
    price ∈ deduplicateTokenPairPrices dustPrices ↔ price = dustLatest := by
  have hlast : LastWrite.lastOf TokenPairPrice.liquidityProviderAddress
      dustLatest.liquidityProviderAddress dustPrices = some dustLatest :=
    LastWrite.lastOf_concat TokenPairPrice.liquidityProviderAddress _ dustLatest
  rw [deduplicateTokenPairPrices, LastWrite.mem_deduplicate]
  constructor
  · intro hkept
    have haddress : price.liquidityProviderAddress = dustLatest.liquidityProviderAddress := by
      rcases List.mem_pair.mp (LastWrite.mem_of_lastOf hkept) with rfl | rfl
      · rfl
      · rfl
    rw [haddress, hlast] at hkept
    exact (Option.some.inj hkept).symm
  · intro hprice
    rw [hprice]
    exact hlast

/-- A sell without base amount makes the last insert fail, after the other two stores
have been written. -/
theorem saveBlockEvents_dustFirst :
    ∃ tables, saveBlockEvents (.working 5) dustFirst .empty = .error .zeroBaseAmount tables ∧
      tables.latestTokenPairPrices ≠ [] := by
  have hcollect : collectTokenPairPrices dustFirst = .ok dustPrices :=
    collect_sells TestSupport.crates_documented dustSells
  have hstorable : ∀ price ∈ deduplicateTokenPairPrices dustPrices, price.Storable := by
    intro price hmem
    rw [mem_deduplicate_dustPrices.mp hmem]
    exact storable_sellOf TestSupport.crates_documented 1 (by decide) (by decide) 1
  rcases insertRows_working 5 "token_pair_prices" (fun price hmem =>
    (hstorable price hmem).latestRow 5) with ⟨rows, hrows⟩
  refine ⟨{ Tables.empty.upserted dustPrices with latestTokenPairPrices := rows }, ?_, ?_⟩
  · rw [saveBlockEvents_working (by norm_num) hcollect (List.cons_ne_nil _ _)
      (fun price hmem => (hstorable price hmem).valid) hrows]
    rfl
  · intro hempty
    have hkept := insertRows_eq_ok hrows
    rw [show rows = [] from hempty, List.forall₂_nil_right_iff] at hkept
    have hmem := mem_deduplicate_dustPrices.mpr rfl
    rw [hkept] at hmem
    cases hmem

/-- A sell without a base amount in front of another leaves the rows that its error tells.
-/
theorem leftover_dustFirst :
    ∃ tables, saveBlockEvents (.working 5) dustFirst .empty = .error .zeroBaseAmount tables ∧
      Leftover (.working 5) dustFirst .empty .zeroBaseAmount tables := by
  rcases saveBlockEvents_dustFirst with ⟨tables, hsave, -⟩
  exact ⟨tables, hsave, leftover_of_computed_error hsave trivial⟩

/-- A block of two sells, as parsed from its JSON value, for which a computed error
leaves rows behind. -/
theorem saveBlockEvents_not_all_or_nothing :
    parseBlock TestSupport.crates (pumpSwapRegistry TestSupport.crates)
        (TestSupport.block (dustSells.map (Sell.entry TestSupport.crates))) = .ok dustFirst ∧
      ¬ ∀ env events tables error tables',
        saveBlockEvents env events tables = .error error tables' → error.Computed →
        tables' = tables := by
  refine ⟨parseBlock_sellEvents TestSupport.crates_documented dustSells, ?_⟩
  intro hunchanged
  rcases saveBlockEvents_dustFirst with ⟨tables, hsave, hrows⟩
  rw [hunchanged _ _ _ _ _ hsave trivial] at hrows
  exact hrows rfl

end Dust

end Saver
end PumpRealtimePrices
