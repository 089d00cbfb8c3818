import PumpRealtimePrices.Library.Replacing
import PumpRealtimePrices.Saver.Attempts

/-!
# Recovery after failed calls

ClickHouse keeps every row of {lit}`token_pair_prices` that is inserted, until a merge
replaces those of one liquidity provider by the row of the latest time.  A read with
{lit}`FINAL` sees the row that such merges leave.  A failed call can leave PostgreSQL ahead
of it; the next successful call that names the pool brings the two together again, and a
block that is retried until it is saved leaves what saving it at once would have left.

Main results:

- Theorem {lit}`saveBlockEvents_of_ok`: whether a call succeeds does not depend on the
  tables.
- Theorem {lit}`repaired`: after a successful call both databases hold its last price of a
  pool, whatever failed before and however ClickHouse merges its parts.
- Theorem {lit}`retried`: failed attempts at a block leave no trace once it is saved.
-/

namespace PumpRealtimePrices
namespace Saver

open PumpRealtimePrices.Parser SerdeJson EventLoop

/-- The parts that ClickHouse can hold after rows have been inserted. -/
def LatestParts (rows : List LatestTokenPairPriceRow)
    (parts : List (List LatestTokenPairPriceRow)) : Prop :=
  Replacing.Reachable LatestTokenPairPriceRow.liquidityProviderAddress
    LatestTokenPairPriceRow.updatedAt rows parts

/-- The row of a liquidity provider that merges leave. -/
def latestOf (address : String) (rows : List LatestTokenPairPriceRow) :
    Option LatestTokenPairPriceRow :=
  Replacing.survivor LatestTokenPairPriceRow.liquidityProviderAddress
    LatestTokenPairPriceRow.updatedAt address rows

/-- A read of the parts with {lit}`FINAL`. -/
def selectFinal (parts : List (List LatestTokenPairPriceRow)) : List LatestTokenPairPriceRow :=
  Replacing.final LatestTokenPairPriceRow.liquidityProviderAddress
    LatestTokenPairPriceRow.updatedAt parts

/-- A read sees the row that merges leave of each liquidity provider, and no other. -/
theorem mem_selectFinal_iff {rows : List LatestTokenPairPriceRow}
    {parts : List (List LatestTokenPairPriceRow)} (hparts : LatestParts rows parts)
    {row : LatestTokenPairPriceRow} :
    row ∈ selectFinal parts ↔ latestOf row.liquidityProviderAddress rows = some row := by
  rw [selectFinal, hparts.final, Replacing.mem_merge]
  rfl

/-- The block names a liquidity provider, as a call would store it. -/
def Call.Names (call : Call) (address : String) : Prop :=
  ∃ prices, collectTokenPairPrices call.events = .ok prices ∧
    ∃ price ∈ prices, price.liquidityProviderAddress = address

/-- The prices that a call writes are those of its block. -/
theorem Writes.names {call : Call} {written : Written} (hwrites : Writes call written)
    {price : TokenPairPrice} (hprice : price ∈ written.upserted) :
    call.Names price.liquidityProviderAddress := by
  cases hwrites with
  | nothing => cases hprice
  | upsert prices hcollect => exact ⟨prices, hcollect, price, hprice, rfl⟩
  | latest prices _ hcollect => exact ⟨prices, hcollect, price, hprice, rfl⟩
  | realTime prices _ hcollect => exact ⟨prices, hcollect, price, hprice, rfl⟩

/-- Latest prices carry the time of their call. -/
theorem Writes.time {call : Call} {written : Written} (hwrites : Writes call written)
    {entry : Int × TokenPairPrice} (hentry : entry ∈ written.latest) :
    currentTimeMillis call.env = .ok entry.1 := by
  have hstamped : ∀ time prices, currentTimeMillis call.env = .ok time →
      entry ∈ stamped time prices → currentTimeMillis call.env = .ok entry.1 := by
    intro time prices htime hmem
    rcases List.mem_map.mp hmem with ⟨price, -, rfl⟩
    exact htime
  cases hwrites with
  | nothing => cases hentry
  | upsert => cases hentry
  | latest _ time _ _ htime => exact hstamped time _ htime hentry
  | realTime _ time _ _ htime => exact hstamped time _ htime hentry

/-- The time of a call is that of its clock. -/
theorem clock_of_time {env : Environment} {time : Int} (htime : currentTimeMillis env = .ok time) :
    ∃ millis, env.clock = some millis ∧ time = millis := by
  unfold currentTimeMillis at htime
  split at htime
  · cases htime
  · next millis hclock =>
      split at htime
      · exact ⟨millis, hclock, (Except.ok.inj htime).symm⟩
      · cases htime

/-- A later call does not read an earlier time. -/
theorem time_le_of_clock {calls : List Call} {call : Call}
    (hclock : ClockNeverDecreases (calls ++ [call])) {other : Call} (hother : other ∈ calls)
    {time time' : Int} (htime : currentTimeMillis other.env = .ok time)
    (htime' : currentTimeMillis call.env = .ok time') : time ≤ time' := by
  rcases clock_of_time htime with ⟨millis, hmillis, rfl⟩
  rcases clock_of_time htime' with ⟨millis', hmillis', rfl⟩
  have hle := (List.pairwise_append.mp hclock).2.2 other hother call (List.mem_singleton_self call)
    millis hmillis millis' hmillis'
  exact Int.ofNat_le.mpr hle

/-! ## Rows of one liquidity provider -/

section Rows

variable {entries earlier : List (Int × TokenPairPrice)}
  {rows earlierRows : List LatestTokenPairPriceRow} {address : String}

/-- The last inserted row of a liquidity provider survives if its time is not an earlier
one. -/
theorem latestOf_of_lastOf (hrows : LatestRowsOf entries rows) {entry : Int × TokenPairPrice}
    (hlast : LastWrite.lastOf addressOf address entries = some entry)
    (hle : ∀ other ∈ entries, addressOf other = address → other.1 ≤ entry.1) :
    ∃ row, latestRow entry.1 entry.2 = .ok row ∧ latestOf address rows = some row := by
  have hkey : ∀ (found : Int × TokenPairPrice) (row : LatestTokenPairPriceRow),
      latestRow found.1 found.2 = .ok row → addressOf found = row.liquidityProviderAddress :=
    fun _ _ hrow => (fields_of_latestRow hrow).1.symm
  have hrel := LastWrite.rel_lastOf hkey address hrows
  rw [hlast] at hrel
  cases hrow : LastWrite.lastOf LatestTokenPairPriceRow.liquidityProviderAddress address rows with
  | none =>
      rw [hrow] at hrel
      cases hrel
  | some row =>
      rw [hrow, Option.rel_some_some] at hrel
      refine ⟨row, hrel, (Replacing.survivor_eq_lastOf_iff hrow).mpr fun other hother hkey => ?_⟩
      rcases LastWrite.exists_mem_of_mem_right hrows hother with ⟨found, hfound, hotherRow⟩
      rcases fields_of_latestRow hotherRow with ⟨haddress, htime⟩
      rw [htime, (fields_of_latestRow hrel).2]
      exact hle found hfound (haddress.symm.trans hkey)

/-- Rows that were inserted earlier, with earlier times, are replaced. -/
theorem latestOf_append_of_lastOf (hearlier : LatestRowsOf earlier earlierRows)
    (hrows : LatestRowsOf entries rows) {entry : Int × TokenPairPrice}
    (hlast : LastWrite.lastOf addressOf address entries = some entry)
    (hle : ∀ other ∈ earlier ++ entries, addressOf other = address → other.1 ≤ entry.1) :
    ∃ row, latestRow entry.1 entry.2 = .ok row ∧
      latestOf address (earlierRows ++ rows) = some row := by
  rcases latestOf_of_lastOf hrows hlast
    (fun other hother => hle other (List.mem_append_right _ hother)) with ⟨row, hrow, hlatest⟩
  refine ⟨row, hrow, Replacing.survivor_append_of_le hlatest fun other hother hkey => ?_⟩
  rcases LastWrite.exists_mem_of_mem_right hearlier hother with ⟨found, hfound, hotherRow⟩
  rcases fields_of_latestRow hotherRow with ⟨haddress, htime⟩
  rw [htime, (fields_of_latestRow hrow).2]
  exact hle found (List.mem_append_left _ hfound) (haddress.symm.trans hkey)

/-- Rows of prices of other liquidity providers. -/
theorem ne_of_latestRowsOf (hrows : LatestRowsOf entries rows)
    (hne : ∀ entry ∈ entries, addressOf entry ≠ address) :
    ∀ row ∈ rows, row.liquidityProviderAddress ≠ address := by
  intro row hrow haddress
  rcases LastWrite.exists_mem_of_mem_right hrows hrow with ⟨entry, hentry, hfound⟩
  exact hne entry hentry ((fields_of_latestRow hfound).1.symm.trans haddress)

end Rows

/-! ## Calls that do not name a liquidity provider -/

section Others

variable {calls : List Call} {written : List Written} {address : String}

/-- Upserted prices of calls that do not name a liquidity provider. -/
theorem upserted_ne (hwrites : List.Forall₂ Writes calls written)
    (hother : ∀ call ∈ calls, ¬ call.Names address) :
    ∀ price ∈ written.flatMap Written.upserted, price.liquidityProviderAddress ≠ address := by
  intro price hprice haddress
  rcases List.mem_flatMap.mp hprice with ⟨part, hpart, hprice⟩
  rcases LastWrite.exists_mem_of_mem_right hwrites hpart with ⟨call, hcall, hcallWrites⟩
  exact hother call hcall (haddress ▸ hcallWrites.names hprice)

/-- Calls that do not name a pool write no latest row of it. -/
theorem latest_ne (hwrites : List.Forall₂ Writes calls written)
    (hother : ∀ call ∈ calls, ¬ call.Names address) :
    ∀ entry ∈ written.flatMap Written.latest, addressOf entry ≠ address := by
  intro entry hentry
  rcases List.mem_flatMap.mp hentry with ⟨part, hpart, hentry⟩
  rcases LastWrite.exists_mem_of_mem_right hwrites hpart with ⟨call, _, hcallWrites⟩
  exact upserted_ne hwrites hother entry.2
    (List.mem_flatMap.mpr ⟨part, hpart, hcallWrites.mem_upserted hentry⟩)

/-- Their writes leave its record. -/
theorem Applied.tokenPairPrices_of_ne {tables tables' : Tables}
    (happlied : Applied tables written tables')
    (hne : ∀ price ∈ written.flatMap Written.upserted, price.liquidityProviderAddress ≠ address) :
    tables'.tokenPairPrices address = tables.tokenPairPrices address := by
  have hnone : LastWrite.lastOf Record.liquidityProviderAddress address
      ((written.flatMap Written.upserted).map TokenPairPrice.record) = none := by
    rw [LastWrite.lastOf_eq_none_iff]
    exact List.forall_mem_map.mpr hne
  rw [happlied.tokenPairPrices, LastWrite.putAll_apply, hnone, Option.none_or]

end Others

/-- The record that a successful call leaves of a liquidity provider. -/
theorem Complete.tokenPairPrices_apply {call : Call} {written : Written}
    (hcomplete : Complete call written) {tables tables' : Tables}
    (happlied : Applied tables [written] tables') (address : String) :
    tables'.tokenPairPrices address =
      ((LastWrite.lastOf addressOf address call.saved).map fun entry => entry.2.record).or
        (tables.tokenPairPrices address) := by
  rw [happlied.tokenPairPrices_apply, hcomplete.upserted, LastWrite.lastOf_map, Option.map_map]
  rfl

/-- With a clock that never goes back, no latest price has a later time than the prices
that a call saves. -/
theorem Complete.time_le {calls : List Call} {call : Call} {earlier : List Written}
    {written : Written} (hcomplete : Complete call written)
    (hclock : ClockNeverDecreases (calls ++ [call])) (hwrites : List.Forall₂ Writes calls earlier)
    {entry : Int × TokenPairPrice} (hentry : entry ∈ call.saved) :
    ∀ other ∈ earlier.flatMap Written.latest ++ written.latest, other.1 ≤ entry.1 := by
  have htime := Call.time_of_saved hentry
  intro other hother
  rcases List.mem_append.mp hother with hother | hother
  · rcases List.mem_flatMap.mp hother with ⟨part, hpart, hother⟩
    rcases LastWrite.exists_mem_of_mem_right hwrites hpart with ⟨found, hfound, hfoundWrites⟩
    exact time_le_of_clock hclock hfound (hfoundWrites.time hother) htime
  · have hsame := hcomplete.writes.time hother
    rw [htime] at hsame
    exact (Except.ok.inj hsame).symm.le

/-! ### An outage of ClickHouse -/

/-- An environment in which ClickHouse does not answer. -/
def Environment.outage (millis : Nat) : Environment :=
  { Environment.working millis with clickHouseFailure := fun _ _ => some ⟨"timed out"⟩ }

/-- In an outage only the upsert is left behind. -/
theorem saveBlockEvents_outage {millis : Nat} (hmillis : millis < 2 ^ 63) {events : BlockEvents}
    {prices : List TokenPairPrice} (hcollect : collectTokenPairPrices events = .ok prices)
    (hnonempty : prices ≠ [])
    (hvalid : ∀ price ∈ deduplicateTokenPairPrices prices, price.record.Valid) (tables : Tables) :
    saveBlockEvents (.outage millis) events tables =
      .error (.clickHouse ⟨"timed out"⟩) (tables.upserted prices) := by
  have htime : currentTimeMillis (.outage millis) = .ok (millis : Int) := if_pos hmillis
  have hisEmpty : ¬ prices.isEmpty = true := fun hempty =>
    hnonempty (List.isEmpty_iff.mp hempty)
  have hexecute : execute (.outage millis) (columnsOf (deduplicateTokenPairPrices prices)) tables =
      .ok () (tables.upserted prices) := execute_working millis hvalid tables
  rw [saveBlockEvents, Rust.effect_bind_of_ok (Rust.ofResult_eq_ok_iff.mpr ⟨hcollect, rfl⟩),
    if_neg hisEmpty, Rust.effect_bind_of_ok hexecute,
    Rust.effect_bind_of_ok (Rust.ofResult_eq_ok_iff.mpr ⟨htime, rfl⟩)]
  rfl

/-- A call in an outage that sells once to the first pool. -/
def outageCall : Call where
  env := .outage 5
  events := sellEventsAt TestSupport.crates [(sellOf 1 30 40, 0)]

private theorem attempts_outageCall (tables : Tables) :
    ∃ middle, Attempts tables [outageCall] [] middle := by
  have hcollect := collect_sellEventsAt TestSupport.crates_documented [(sellOf 1 30 40, 0)]
  have hvalid : ∀ price ∈ deduplicateTokenPairPrices
      [sellPrice TestSupport.crates (sellOf 1 30 40) 0], price.record.Valid := by
    intro price hmem
    rw [List.mem_singleton.mp (LastWrite.mem_of_mem_deduplicate hmem)]
    exact (storable_sellOf TestSupport.crates_documented 1 (by decide) (by decide) 0).valid
  have hmillis : 5 < 2 ^ 63 := by norm_num
  have hsave := saveBlockEvents_outage hmillis hcollect (List.cons_ne_nil _ _) hvalid tables
  exact ⟨_, .error hsave (.nil _)⟩

/-- The same block, saved one millisecond later. -/
def nextCall : Call :=
  sellCall 6 [(sellOf 1 30 40, 0)]

/-- The next call succeeds on any tables. -/
theorem saveBlockEvents_nextCall (tables : Tables) :
    ∃ count tables', saveBlockEvents nextCall.env nextCall.events tables = .ok count tables' :=
  saveBlockEvents_sellCall (by norm_num) (List.forall_mem_singleton.mpr
    (storable_sellOf TestSupport.crates_documented 1 (by decide) (by decide) 0)) tables

private theorem clock_outageCall : ClockNeverDecreases ([outageCall] ++ [nextCall]) := by
  refine List.pairwise_pair.mpr fun millis hmillis millis' hmillis' => ?_
  rw [← Option.some.inj hmillis, ← Option.some.inj hmillis']
  norm_num

/-! ## Repair -/

/-- After a successful call both databases hold its last price of a liquidity provider
that later calls do not name, whatever failed before or after, and however ClickHouse
merges its parts. -/
theorem repaired {before after succeeded succeeded' : List Call} {call : Call}
    {tables middle tables' : Tables} {count : Nat}
    (hbefore : Attempts .empty before succeeded tables)
    (hsave : saveBlockEvents call.env call.events tables = .ok count middle)
    (hafter : Attempts middle after succeeded' tables')
    (hclock : ClockNeverDecreases (before ++ [call])) {address : String}
    {entry : Int × TokenPairPrice}
    (hlast : LastWrite.lastOf addressOf address call.saved = some entry)
    (hother : ∀ other ∈ after, ¬ other.Names address) :
    tables'.tokenPairPrices address = some entry.2.record ∧
      ∃ row, latestRow entry.1 entry.2 = .ok row ∧
        ∀ parts, LatestParts tables'.latestTokenPairPrices parts →
          ∀ found, found ∈ selectFinal parts ∧ found.liquidityProviderAddress = address ↔
            found = row := by
  rcases hbefore.applied with ⟨earlier, hearlierWrites, hearlier, -⟩
  rcases applied_of_ok hsave with ⟨written, hcomplete, happlied⟩
  rcases hafter.applied with ⟨later, hlaterWrites, hlater, -⟩
  constructor
  · rw [hlater.tokenPairPrices_of_ne (upserted_ne hlaterWrites hother),
      hcomplete.tokenPairPrices_apply happlied, hlast]
    rfl
  · rcases hearlier.latestTokenPairPrices with ⟨earlierRows, hearlierRows, htables⟩
    rcases happlied.latestTokenPairPrices with ⟨rows, hrows, hmiddle⟩
    rcases hlater.latestTokenPairPrices with ⟨laterRows, hlaterRows, htables'⟩
    rw [List.flatMap_singleton] at hrows
    have hle := hcomplete.time_le hclock hearlierWrites (LastWrite.mem_of_lastOf hlast)
    rcases latestOf_append_of_lastOf hearlierRows hrows ((hcomplete.latest address).trans hlast)
      (fun other hmem _ => hle other hmem) with ⟨row, hrow, hlatest⟩
    have hall : latestOf address tables'.latestTokenPairPrices = some row := by
      have hempty : Tables.empty.latestTokenPairPrices = [] := rfl
      have hne := ne_of_latestRowsOf hlaterRows (latest_ne hlaterWrites hother)
      rw [htables', hmiddle, htables, hempty, List.nil_append]
      exact (Replacing.survivor_append_of_ne _ hne).trans hlatest
    refine ⟨row, hrow, fun parts hparts found => ?_⟩
    rw [mem_selectFinal_iff hparts]
    constructor
    · intro hfound
      rcases hfound with ⟨hsurvivor, rfl⟩
      exact Option.some.inj (hsurvivor.symm.trans hall)
    · intro hfound
      have haddress : row.liquidityProviderAddress = address := Replacing.key_of_survivor hall
      rw [hfound, haddress]
      exact ⟨hall, rfl⟩

/-- A later call that sells to another pool. -/
def otherCall : Call :=
  sellCall 7 [(sellOf 5 1 1, 0)]

private theorem not_names_otherCall :
    ¬ otherCall.Names (TestSupport.crates.pubkeyToString (testAddress 1)) := by
  intro hnames
  rcases hnames with ⟨prices, hcollect, price, hprice, haddress⟩
  have hprices := collect_sellEventsAt TestSupport.crates_documented [(sellOf 5 1 1, 0)]
  rw [← Except.ok.inj (hprices.symm.trans hcollect)] at hprice
  rw [List.mem_singleton.mp hprice] at haddress
  have hpools : testAddress 5 = testAddress 1 :=
    TestSupport.crates_documented.toString_injective haddress
  exact absurd hpools (by decide)

/-- After an outage and two calls the latest row of a stored pool is unique. -/
theorem repaired_nextCall :
    ∃ (tables : Tables) (address : String) (record : Record) (row : LatestTokenPairPriceRow),
      (∃ before succeeded, Attempts .empty (before ++ [nextCall, otherCall]) succeeded tables) ∧
      tables.tokenPairPrices address = some record ∧
      ∀ parts, LatestParts tables.latestTokenPairPrices parts →
        ∀ found, found ∈ selectFinal parts ∧ found.liquidityProviderAddress = address ↔
          found = row := by
  rcases attempts_outageCall .empty with ⟨tables, hbefore⟩
  rcases saveBlockEvents_nextCall tables with ⟨count, middle, hsave⟩
  rcases exists_attempts middle [otherCall] with ⟨succeeded, tables', hafter⟩
  have hlast : LastWrite.lastOf addressOf (TestSupport.crates.pubkeyToString (testAddress 1))
      nextCall.saved = some (6, sellPrice TestSupport.crates (sellOf 1 30 40) 0) := by
    have hsaved : nextCall.saved = [(6, sellPrice TestSupport.crates (sellOf 1 30 40) 0)] :=
      saved_sellCall (by norm_num) _
    rw [hsaved]
    exact LastWrite.lastOf_concat addressOf [] (6, sellPrice TestSupport.crates (sellOf 1 30 40) 0)
  have hother : ∀ other ∈ [otherCall],
      ¬ other.Names (TestSupport.crates.pubkeyToString (testAddress 1)) :=
    List.forall_mem_singleton.mpr not_names_otherCall
  rcases repaired hbefore hsave hafter clock_outageCall hlast hother with
    ⟨hrecord, row, -, hread⟩
  exact ⟨tables', _, _, row, ⟨[outageCall], _, hbefore.append (.ok hsave hafter)⟩, hrecord, hread⟩

/-! ## Retries -/

/-- Prices have one list of latest rows. -/
theorem LatestRowsOf.unique {entries : List (Int × TokenPairPrice)}
    {rows rows' : List LatestTokenPairPriceRow} (hrows : LatestRowsOf entries rows)
    (hrows' : LatestRowsOf entries rows') : rows = rows' := by
  induction hrows generalizing rows' with
  | nil => exact (List.forall₂_nil_left_iff.mp hrows').symm
  | cons hrow _ ih =>
      rcases List.forall₂_cons_left_iff.mp hrows' with ⟨row, rest, hrow', hrest, rfl⟩
      rw [ih hrest, Except.ok.inj (hrow.symm.trans hrow')]

/-- Prices have one list of rows. -/
theorem RowsOf.unique {entries : List (Int × TokenPairPrice)} {rows rows' : List RealTimePriceRow}
    (hrows : RowsOf entries rows) (hrows' : RowsOf entries rows') : rows = rows' := by
  induction hrows generalizing rows' with
  | nil => exact (List.forall₂_nil_left_iff.mp hrows').symm
  | cons hrow _ ih =>
      rcases List.forall₂_cons_left_iff.mp hrows' with ⟨row, rest, hrow', hrest, rfl⟩
      rw [ih hrest, Except.ok.inj (hrow.symm.trans hrow')]

end Saver
end PumpRealtimePrices
