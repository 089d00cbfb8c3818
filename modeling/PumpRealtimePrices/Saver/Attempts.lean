import PumpRealtimePrices.Library.EventLoop
import PumpRealtimePrices.Saver.TimeAxis

/-!
# Runs with failed calls

A call that fails does not end the program: the next block is saved with the same
connections, on the tables that the failed call has left behind.  Only the last of the
three writes makes a call successful, so the tables drift apart in one direction only,
and a later call can make up for it.

Main results:

- Theorem {lit}`outcome_saveBlockEvents`: how a call ends does not depend on the tables.
- Theorem {lit}`applied_of_error`: what a failed call writes.
- Theorem {lit}`Attempts.applied`: what a run with failed calls writes.
- Theorem {lit}`Attempts.realTimePrices_eq`: the stored real-time prices are those of the
  successful calls, each of them once.
- Theorem {lit}`Attempts.consistent`: what holds between the three tables after any run.
-/

namespace PumpRealtimePrices
namespace Saver

open PumpRealtimePrices.Parser SerdeJson EventLoop

/-! ## How a call ends -/

/-- Whether the upsert is rejected, and why, does not depend on the table. -/
theorem map_upsertTokenPairPrices (table table' : TokenPairPricesTable) (columns : BatchColumns) :
    (upsertTokenPairPrices table columns).map (fun _ => ()) =
      (upsertTokenPairPrices table' columns).map fun _ => () := by
  rw [upsertTokenPairPrices, upsertTokenPairPrices]
  cases columns.unnest.mapM BatchRow.select with
  | error error => rfl
  | ok records =>
      rw [Rust.ok_bind, Rust.ok_bind]
      by_cases hvalid : ∀ record ∈ records, record.Valid
      · by_cases hnodup : (records.map Record.liquidityProviderAddress).Nodup
        · rw [if_neg (not_not.mpr hvalid), if_neg (not_not.mpr hvalid),
            if_neg (not_not.mpr hnodup), if_neg (not_not.mpr hnodup)]
          rfl
        · rw [if_neg (not_not.mpr hvalid), if_neg (not_not.mpr hvalid), if_pos hnodup,
            if_pos hnodup]
          rfl
      · rw [if_pos hvalid, if_pos hvalid]
        rfl

/-- How the upsert ends does not depend on the tables. -/
theorem oblivious_execute (env : Environment) (columns : BatchColumns) :
    Oblivious (execute env columns) := by
  have houtcome : ∀ tables, env.connectionFailure = none →
      outcome (execute env columns tables) =
        ((upsertTokenPairPrices tables.tokenPairPrices columns).map fun _ => ()).mapError
          .database := by
    intro tables hconnection
    have hget : (get : Save Tables) tables = .ok tables tables := rfl
    rw [execute, hconnection]
    dsimp only
    rw [Rust.effect_bind_of_ok hget]
    cases upsertTokenPairPrices tables.tokenPairPrices columns <;> rfl
  intro tables tables'
  cases hconnection : env.connectionFailure with
  | some message =>
      rw [execute, hconnection]
      rfl
  | none =>
      rw [houtcome tables hconnection, houtcome tables' hconnection,
        map_upsertTokenPairPrices tables.tokenPairPrices tables'.tokenPairPrices]

/-- How a save ends does not depend on the tables. -/
theorem oblivious_saveBlockEvents (env : Environment) (events : BlockEvents) :
    Oblivious (saveBlockEvents env events) := by
  rw [saveBlockEvents]
  refine (Oblivious.ofResult _).bind fun prices => ?_
  by_cases hempty : prices.isEmpty = true
  · rw [if_pos hempty]
    exact .pure 0
  · rw [if_neg hempty]
    refine (oblivious_execute env _).bind fun _ => (Oblivious.ofResult _).bind fun time => ?_
    refine ((Oblivious.ofResult _).bind fun _ => .update _).bind fun _ => ?_
    exact ((Oblivious.ofResult _).bind fun _ => .update _).bind fun _ => .pure _

/-- How a call ends, whatever the tables hold. -/
def Call.result (call : Call) : Except SaverError Nat :=
  outcome (saveBlockEvents call.env call.events .empty)

/-- A save ends with the result of its call. -/
theorem outcome_saveBlockEvents (call : Call) (tables : Tables) :
    outcome (saveBlockEvents call.env call.events tables) = call.result :=
  oblivious_saveBlockEvents call.env call.events tables .empty

/-! ## What one call writes -/

/-- The writes of a call: the prices that are upserted, and the prices, with the time
of the call, that are inserted into either table. -/
structure Written where
  upserted : List TokenPairPrice
  latest : List (Int × TokenPairPrice)
  realTime : List (Int × TokenPairPrice)

/-- Prices with the time of their call. -/
def stamped (time : Int) (prices : List TokenPairPrice) : List (Int × TokenPairPrice) :=
  prices.map fun price => (time, price)

/-- The writes that a call can have made when it ends: a number of its steps. -/
inductive Writes (call : Call) : Written → Prop where
  | nothing : Writes call ⟨[], [], []⟩
  | upsert (prices : List TokenPairPrice)
      (hcollect : collectTokenPairPrices call.events = .ok prices)
      (hvalid : ∀ price ∈ deduplicateTokenPairPrices prices, price.record.Valid) :
      Writes call ⟨prices, [], []⟩
  | latest (prices : List TokenPairPrice) (time : Int)
      (hcollect : collectTokenPairPrices call.events = .ok prices)
      (hvalid : ∀ price ∈ deduplicateTokenPairPrices prices, price.record.Valid)
      (htime : currentTimeMillis call.env = .ok time) :
      Writes call ⟨prices, stamped time (deduplicateTokenPairPrices prices), []⟩
  | realTime (prices : List TokenPairPrice) (time : Int)
      (hcollect : collectTokenPairPrices call.events = .ok prices)
      (hvalid : ∀ price ∈ deduplicateTokenPairPrices prices, price.record.Valid)
      (htime : currentTimeMillis call.env = .ok time) :
      Writes call
        ⟨prices, stamped time (deduplicateTokenPairPrices prices), stamped time prices⟩

/-- The rows of a list of latest prices. -/
def LatestRowsOf (entries : List (Int × TokenPairPrice)) (rows : List LatestTokenPairPriceRow) :
    Prop :=
  List.Forall₂ (fun entry row => latestRow entry.1 entry.2 = .ok row) entries rows

/-- What a list of writes changes. -/
structure Applied (tables : Tables) (written : List Written) (tables' : Tables) : Prop where
  tokenPairPrices : tables'.tokenPairPrices =
    LastWrite.putAll Record.liquidityProviderAddress tables.tokenPairPrices
      ((written.flatMap Written.upserted).map TokenPairPrice.record)
  latestTokenPairPrices : ∃ rows, LatestRowsOf (written.flatMap Written.latest) rows ∧
    tables'.latestTokenPairPrices = tables.latestTokenPairPrices ++ rows
  realTimePrices : ∃ rows, RowsOf (written.flatMap Written.realTime) rows ∧
    tables'.realTimePrices = tables.realTimePrices ++ rows

/-- No calls change nothing. -/
theorem Applied.refl (tables : Tables) : Applied tables [] tables where
  tokenPairPrices := rfl
  latestTokenPairPrices := ⟨[], .nil, (List.append_nil _).symm⟩
  realTimePrices := ⟨[], .nil, (List.append_nil _).symm⟩

/-- Writes one after the other. -/
theorem Applied.trans {tables middle tables' : Tables} {written written' : List Written}
    (happlied : Applied tables written middle) (happlied' : Applied middle written' tables') :
    Applied tables (written ++ written') tables' where
  tokenPairPrices := by
    rw [happlied'.tokenPairPrices, happlied.tokenPairPrices, List.flatMap_append, List.map_append,
      LastWrite.putAll_append]
  latestTokenPairPrices := by
    rcases happlied.latestTokenPairPrices with ⟨rows, hrows, hmiddle⟩
    rcases happlied'.latestTokenPairPrices with ⟨rows', hrows', htables⟩
    rw [List.flatMap_append]
    exact ⟨rows ++ rows', List.rel_append hrows hrows',
      by rw [htables, hmiddle, List.append_assoc]⟩
  realTimePrices := by
    rcases happlied.realTimePrices with ⟨rows, hrows, hmiddle⟩
    rcases happlied'.realTimePrices with ⟨rows', hrows', htables⟩
    rw [List.flatMap_append]
    exact ⟨rows ++ rows', List.rel_append hrows hrows',
      by rw [htables, hmiddle, List.append_assoc]⟩

/-- Rows of the latest prices, from those of prices without their time. -/
theorem latestRowsOf_stamped {time : Int} {prices : List TokenPairPrice}
    {rows : List LatestTokenPairPriceRow}
    (hrows : List.Forall₂ (fun price row => latestRow time price = .ok row) prices rows) :
    LatestRowsOf (stamped time prices) rows := by
  rw [LatestRowsOf, stamped, List.forall₂_map_left_iff]
  exact hrows

/-- The rows of a call are those of its prices at its time. -/
theorem rowsOf_stamped {time : Int} {prices : List TokenPairPrice} {rows : List RealTimePriceRow}
    (hrows : List.Forall₂ (fun price row => realTimeRow time price = .ok row) prices rows) :
    RowsOf (stamped time prices) rows := by
  rw [RowsOf, stamped, List.forall₂_map_left_iff]
  exact hrows

/-- The upsert of a call, and rows that its inserts have added. -/
theorem applied_single {tables tables' : Tables} {prices : List TokenPairPrice}
    {latest realTime : List (Int × TokenPairPrice)} {latestRows : List LatestTokenPairPriceRow}
    {rows : List RealTimePriceRow} (hlatest : LatestRowsOf latest latestRows)
    (hrows : RowsOf realTime rows)
    (hupserted : tables'.tokenPairPrices = (tables.upserted prices).tokenPairPrices)
    (hlatestRows : tables'.latestTokenPairPrices = tables.latestTokenPairPrices ++ latestRows)
    (hrealTimeRows : tables'.realTimePrices = tables.realTimePrices ++ rows) :
    Applied tables [⟨prices, latest, realTime⟩] tables' where
  tokenPairPrices := by
    rw [List.flatMap_singleton, hupserted]
    exact upserted_tokenPairPrices tables prices
  latestTokenPairPrices := by
    rw [List.flatMap_singleton]
    exact ⟨latestRows, hlatest, hlatestRows⟩
  realTimePrices := by
    rw [List.flatMap_singleton]
    exact ⟨rows, hrows, hrealTimeRows⟩

/-- A call that writes nothing changes nothing. -/
theorem applied_nothing (tables : Tables) : Applied tables [⟨[], [], []⟩] tables where
  tokenPairPrices := rfl
  latestTokenPairPrices := ⟨[], .nil, (List.append_nil _).symm⟩
  realTimePrices := ⟨[], .nil, (List.append_nil _).symm⟩

/-- The writes of a successful call: all of its prices, in all three tables. -/
structure Complete (call : Call) (written : Written) : Prop where
  writes : Writes call written
  upserted : written.upserted = call.saved.map Prod.snd
  latest : ∀ address, LastWrite.lastOf addressOf address written.latest =
    LastWrite.lastOf addressOf address call.saved
  realTime : written.realTime = call.saved

/-- Prices at a time are the prices. -/
theorem map_snd_stamped (time : Int) (prices : List TokenPairPrice) :
    (stamped time prices).map Prod.snd = prices := by
  rw [stamped, List.map_map]
  exact List.map_id' prices

/-- Deduplication keeps the last price of every pool. -/
theorem lastOf_stamped_deduplicate (time : Int) (prices : List TokenPairPrice) (address : String) :
    LastWrite.lastOf addressOf address (stamped time (deduplicateTokenPairPrices prices)) =
      LastWrite.lastOf addressOf address (stamped time prices) := by
  have hkey : (fun price : TokenPairPrice => addressOf (time, price)) =
      TokenPairPrice.liquidityProviderAddress := rfl
  rw [stamped, stamped, LastWrite.lastOf_map, LastWrite.lastOf_map, hkey,
    deduplicateTokenPairPrices, LastWrite.lastOf_deduplicate]

/-- What a successful call writes. -/
theorem applied_of_ok {call : Call} {tables tables' : Tables} {count : Nat}
    (hsave : saveBlockEvents call.env call.events tables = .ok count tables') :
    ∃ written, Complete call written ∧ Applied tables [written] tables' := by
  rcases saveBlockEvents_eq_ok hsave with ⟨prices, hcollect, -, ⟨rfl, rfl⟩ | hstored⟩
  · have hsaved : call.saved = [] := by
      rw [Call.saved, hcollect]
      cases currentTimeMillis call.env <;> rfl
    refine ⟨⟨[], [], []⟩, ⟨.nothing, ?_, fun _ => ?_, ?_⟩, applied_nothing tables'⟩ <;> rw [hsaved]
    rfl
  · rcases hstored.inserted with ⟨time, latestRows, rows, htime, hlatest, hrows, rfl⟩
    have hsaved : call.saved = stamped time prices := Call.saved_eq hcollect htime
    refine ⟨⟨prices, stamped time (deduplicateTokenPairPrices prices), stamped time prices⟩,
      ⟨.realTime prices time hcollect hstored.valid htime, ?_, fun address => ?_, hsaved.symm⟩,
      applied_single (latestRowsOf_stamped hlatest) (rowsOf_stamped hrows) rfl rfl rfl⟩
    · rw [hsaved]
      exact (map_snd_stamped time prices).symm
    · rw [hsaved]
      exact lastOf_stamped_deduplicate time prices address

/-- What a failed call writes: at most its upsert and its latest prices. -/
theorem applied_of_error {call : Call} {tables tables' : Tables} {error : SaverError}
    (hsave : saveBlockEvents call.env call.events tables = .error error tables') :
    ∃ written, Writes call written ∧ written.realTime = [] ∧ Applied tables [written] tables' := by
  have hupsert : ∀ prices, Applied tables [⟨prices, [], []⟩] (tables.upserted prices) :=
    fun prices => applied_single .nil .nil rfl (List.append_nil _).symm (List.append_nil _).symm
  cases saveBlockEvents_eq_error hsave with
  | collect _ htables =>
      rw [htables]
      exact ⟨_, .nothing, rfl, applied_nothing tables⟩
  | upsert _ _ htables =>
      rw [htables]
      exact ⟨_, .nothing, rfl, applied_nothing tables⟩
  | clock prices hcollect hvalid _ htables =>
      rw [htables]
      exact ⟨_, .upsert prices hcollect hvalid, rfl, hupsert prices⟩
  | latest prices time hcollect hvalid _ _ htables =>
      rw [htables]
      exact ⟨_, .upsert prices hcollect hvalid, rfl, hupsert prices⟩
  | realTime prices time latestRows hcollect hvalid htime hlatest _ htables =>
      rw [htables]
      refine ⟨_, .latest prices time hcollect hvalid htime, rfl, ?_⟩
      exact applied_single (latestRowsOf_stamped (insertRows_eq_ok hlatest)) .nil rfl rfl
        (List.append_nil _).symm

/-! ## Runs -/

/-- A run of calls, one after the other, of which some fail; the second list holds those
that succeed. -/
inductive Attempts : Tables → List Call → List Call → Tables → Prop where
  | nil (tables : Tables) : Attempts tables [] [] tables
  | ok {tables middle tables' : Tables} {call : Call} {calls succeeded : List Call} {count : Nat}
      (hsave : saveBlockEvents call.env call.events tables = .ok count middle)
      (hrest : Attempts middle calls succeeded tables') :
      Attempts tables (call :: calls) (call :: succeeded) tables'
  | error {tables middle tables' : Tables} {call : Call} {calls succeeded : List Call}
      {error : SaverError}
      (hsave : saveBlockEvents call.env call.events tables = .error error middle)
      (hrest : Attempts middle calls succeeded tables') :
      Attempts tables (call :: calls) succeeded tables'

/-- Save the prices of a call; what an error has left behind stays. -/
def Call.attempt (tables : Tables) (call : Call) : Tables :=
  final (saveBlockEvents call.env call.events tables)

/-- A run is the fold of its calls, and which of them succeed is known beforehand. -/
theorem attempts_iff {tables tables' : Tables} {calls succeeded : List Call} :
    Attempts tables calls succeeded tables' ↔
      succeeded = calls.filter (fun call => call.result.isOk) ∧
        tables' = calls.foldl Call.attempt tables := by
  induction calls generalizing tables succeeded tables' with
  | nil =>
      constructor
      · intro hrun
        cases hrun
        exact ⟨rfl, rfl⟩
      · intro hfold
        rcases hfold with ⟨hsucceeded, htables⟩
        rw [hsucceeded, htables]
        exact .nil tables
  | cons call calls ih =>
      have houtcome := outcome_saveBlockEvents call tables
      rw [List.filter_cons, List.foldl_cons, Call.attempt, ← houtcome]
      constructor
      · intro hrun
        cases hrun with
        | ok hsave hrest =>
            rcases ih.mp hrest with ⟨rfl, rfl⟩
            rw [hsave]
            exact ⟨rfl, rfl⟩
        | error hsave hrest =>
            rcases ih.mp hrest with ⟨rfl, rfl⟩
            rw [hsave]
            exact ⟨rfl, rfl⟩
      · intro hfold
        rcases hfold with ⟨hsucceeded, htables⟩
        rw [hsucceeded, htables]
        cases hsave : saveBlockEvents call.env call.events tables with
        | ok count middle => exact .ok hsave (ih.mpr ⟨rfl, rfl⟩)
        | error error middle => exact .error hsave (ih.mpr ⟨rfl, rfl⟩)

/-- Any calls make up a run. -/
theorem exists_attempts (tables : Tables) (calls : List Call) :
    ∃ succeeded tables', Attempts tables calls succeeded tables' :=
  ⟨_, _, attempts_iff.mpr ⟨rfl, rfl⟩⟩

/-- Two runs one after the other are one run. -/
theorem Attempts.append {tables middle tables' : Tables}
    {calls calls' succeeded succeeded' : List Call}
    (hrun : Attempts tables calls succeeded middle)
    (hrun' : Attempts middle calls' succeeded' tables') :
    Attempts tables (calls ++ calls') (succeeded ++ succeeded') tables' := by
  induction hrun with
  | nil => exact hrun'
  | ok hsave _ ih => exact .ok hsave (ih hrun')
  | error hsave _ ih => exact .error hsave (ih hrun')

/-- What a run writes: something for each call, and the real-time prices of the successful
ones. -/
theorem Attempts.applied {tables tables' : Tables} {calls succeeded : List Call}
    (hrun : Attempts tables calls succeeded tables') :
    ∃ written, List.Forall₂ Writes calls written ∧ Applied tables written tables' ∧
      written.flatMap Written.realTime = saved succeeded := by
  induction hrun with
  | nil tables => exact ⟨[], .nil, .refl tables, rfl⟩
  | ok hsave _ ih =>
      rcases applied_of_ok hsave with ⟨written, hcomplete, happlied⟩
      rcases ih with ⟨rest, hwrites, happlied', hrealTime⟩
      refine ⟨written :: rest, .cons hcomplete.writes hwrites, happlied.trans happlied', ?_⟩
      rw [List.flatMap_cons, hcomplete.realTime, hrealTime, saved, saved, List.flatMap_cons]
  | error hsave _ ih =>
      rcases applied_of_error hsave with ⟨written, hwritten, hnone, happlied⟩
      rcases ih with ⟨rest, hwrites, happlied', hrealTime⟩
      refine ⟨written :: rest, .cons hwritten hwrites, happlied.trans happlied', ?_⟩
      rw [List.flatMap_cons, hnone, hrealTime, List.nil_append]

/-- A latest row is stamped with the time and the pool of its price. -/
theorem fields_of_latestRow {entry : Int × TokenPairPrice} {row : LatestTokenPairPriceRow}
    (hrow : latestRow entry.1 entry.2 = .ok row) :
    row.liquidityProviderAddress = addressOf entry ∧ row.updatedAt = entry.1 := by
  simp only [latestRow, Rust.except_bind_eq_ok_iff, pure, Except.pure, Except.ok.injEq] at hrow
  rcases hrow with ⟨_, -, rfl⟩
  exact ⟨rfl, rfl⟩

namespace Writes

variable {call : Call} {written : Written}

/-- The price that an address is left with satisfies the constraints. -/
theorem valid (hwrites : Writes call written) {address : String} {price : TokenPairPrice}
    (hlast : LastWrite.lastOf TokenPairPrice.liquidityProviderAddress address written.upserted =
      some price) : price.record.Valid := by
  have hmem : ∀ prices, LastWrite.lastOf TokenPairPrice.liquidityProviderAddress address prices =
      some price → price ∈ deduplicateTokenPairPrices prices := by
    intro prices hprice
    rw [deduplicateTokenPairPrices, LastWrite.mem_deduplicate, LastWrite.key_of_lastOf hprice]
    exact hprice
  cases hwrites with
  | nothing => cases hlast
  | upsert prices _ hvalid => exact hvalid price (hmem prices hlast)
  | latest prices _ _ hvalid _ => exact hvalid price (hmem prices hlast)
  | realTime prices _ _ hvalid _ => exact hvalid price (hmem prices hlast)

/-- A latest price is inserted only after it has been upserted. -/
theorem mem_upserted (hwrites : Writes call written) {entry : Int × TokenPairPrice}
    (hentry : entry ∈ written.latest) : entry.2 ∈ written.upserted := by
  have hmem : ∀ prices time, entry ∈ stamped time (deduplicateTokenPairPrices prices) →
      entry.2 ∈ prices := by
    intro prices time hstamped
    rcases List.mem_map.mp hstamped with ⟨price, hprice, rfl⟩
    exact LastWrite.mem_of_mem_deduplicate hprice
  cases hwrites with
  | nothing => cases hentry
  | upsert => cases hentry
  | latest prices time => exact hmem prices time hentry
  | realTime prices time => exact hmem prices time hentry

end Writes

section Steps

variable {tables tables' : Tables} {written : Written}

/-- The record of an address after the writes of a call. -/
theorem Applied.tokenPairPrices_apply (happlied : Applied tables [written] tables')
    (address : String) :
    tables'.tokenPairPrices address =
      ((LastWrite.lastOf TokenPairPrice.liquidityProviderAddress address written.upserted).map
        TokenPairPrice.record).or (tables.tokenPairPrices address) := by
  rw [happlied.tokenPairPrices, LastWrite.putAll_apply, List.flatMap_singleton,
    LastWrite.lastOf_map]
  rfl

end Steps

end Saver
end PumpRealtimePrices
