import Mathlib.Data.Prod.Lex
import PumpRealtimePrices.Saver.ExecutionOrder
import PumpRealtimePrices.Saver.Save

/-!
# Runs of calls and the time axis

ClickHouse orders the rows of a liquidity provider by the time of their call and,
within a call, by their sequence number; PostgreSQL keeps what was written last.
Over a run of calls the two agree as long as no two calls that store the same
provider read the same millisecond.

Main results:

- Theorem {lit}`Run.stored`: the tables after a run, in terms of all saved prices.
- Theorem {lit}`pairwise_stamp_saved`: time and sequence grow along the saved prices of
  a provider.
- Theorem {lit}`time_axis`: the rows that {lit}`argMax` and {lit}`argMin` select are those of
  the last and of the first saved swap.
- Theorem {lit}`close_not_last_saved`: a clock that merely never goes back is not enough,
  and neither are blocks out of order.
-/

namespace PumpRealtimePrices
namespace Saver

open PumpRealtimePrices.Parser SerdeJson

/-! ## Runs -/

/-- One call of the saver. -/
structure Call where
  env : Environment
  events : BlockEvents

/-- A run of successful calls, one after the other. -/
inductive Run : Tables → List Call → Tables → Prop where
  | nil (tables : Tables) : Run tables [] tables
  | cons {tables middle tables' : Tables} {call : Call} {calls : List Call} {count : Nat}
      (hsave : saveBlockEvents call.env call.events tables = .ok count middle)
      (hrest : Run middle calls tables') : Run tables (call :: calls) tables'

/-- Prices that a call stores, with its time. -/
def Call.saved (call : Call) : List (Int × TokenPairPrice) :=
  match collectTokenPairPrices call.events, currentTimeMillis call.env with
  | .ok prices, .ok time => prices.map fun price => (time, price)
  | _, _ => []

/-- Prices that a run stores, in the order of the calls. -/
def saved (calls : List Call) : List (Int × TokenPairPrice) :=
  calls.flatMap Call.saved

/-- Liquidity provider of a saved price. -/
def addressOf (entry : Int × TokenPairPrice) : String :=
  entry.2.liquidityProviderAddress

/-- The rows of a list of saved prices. -/
def RowsOf (entries : List (Int × TokenPairPrice)) (rows : List RealTimePriceRow) : Prop :=
  List.Forall₂ (fun entry row => realTimeRow entry.1 entry.2 = .ok row) entries rows

/-- What storing a list of saved prices changes. -/
structure StoredAll (tables : Tables) (entries : List (Int × TokenPairPrice)) (tables' : Tables) :
    Prop where
  realTimePrices : ∃ rows, RowsOf entries rows ∧
    tables'.realTimePrices = tables.realTimePrices ++ rows
  tokenPairPrices : tables'.tokenPairPrices =
    LastWrite.putAll Record.liquidityProviderAddress tables.tokenPairPrices
      (entries.map fun entry => entry.2.record)

/-- A call saves its prices at the time of its clock. -/
theorem Call.saved_eq {call : Call} {prices : List TokenPairPrice} {time : Int}
    (hcollect : collectTokenPairPrices call.events = .ok prices)
    (htime : currentTimeMillis call.env = .ok time) :
    call.saved = prices.map fun price => (time, price) := by
  rw [Call.saved, hcollect, htime]

/-- Upserting the latest prices has the effect of upserting all of them. -/
theorem upserted_tokenPairPrices (tables : Tables) (prices : List TokenPairPrice) :
    (tables.upserted prices).tokenPairPrices =
      LastWrite.putAll Record.liquidityProviderAddress tables.tokenPairPrices
        (prices.map TokenPairPrice.record) :=
  LastWrite.putAll_deduplicate TokenPairPrice.liquidityProviderAddress
    Record.liquidityProviderAddress (fun _ => rfl) tables.tokenPairPrices prices

/-- One successful call stores its prices. -/
theorem storedAll_of_save {call : Call} {tables tables' : Tables} {count : Nat}
    (hsave : saveBlockEvents call.env call.events tables = .ok count tables') :
    StoredAll tables call.saved tables' := by
  rcases saveBlockEvents_eq_ok hsave with ⟨prices, hcollect, -, ⟨rfl, rfl⟩ | hstored⟩
  · have hsaved : call.saved = [] := by
      rw [Call.saved, hcollect]
      cases currentTimeMillis call.env <;> rfl
    rw [hsaved]
    exact ⟨⟨[], .nil, (List.append_nil _).symm⟩, rfl⟩
  · rcases hstored.inserted with ⟨time, latestRows, rows, htime, -, hrows, rfl⟩
    rw [Call.saved_eq hcollect htime]
    refine ⟨⟨rows, ?_, rfl⟩, ?_⟩
    · rw [RowsOf, List.forall₂_map_left_iff]
      exact hrows
    · rw [List.map_map]
      exact upserted_tokenPairPrices tables prices

/-- A run stores the prices of all its calls. -/
theorem Run.stored {tables tables' : Tables} {calls : List Call} (hrun : Run tables calls tables') :
    StoredAll tables (saved calls) tables' := by
  induction hrun with
  | nil tables => exact ⟨⟨[], .nil, (List.append_nil _).symm⟩, rfl⟩
  | @cons tables middle tables' call calls count hsave hrest ih =>
      have hstep := storedAll_of_save hsave
      have hsaved : saved (call :: calls) = call.saved ++ saved calls := List.flatMap_cons
      rcases hstep.realTimePrices with ⟨rows, hrows, hmiddle⟩
      rcases ih.realTimePrices with ⟨others, hothers, htables⟩
      rw [hsaved]
      refine ⟨⟨rows ++ others, List.rel_append hrows hothers, ?_⟩, ?_⟩
      · rw [htables, hmiddle, List.append_assoc]
      · rw [List.map_append, LastWrite.putAll_append, ← hstep.tokenPairPrices,
          ih.tokenPairPrices]

/-! ## The order of the rows -/

/-- What ClickHouse compares: time first, then sequence. -/
def RealTimePriceRow.stamp (row : RealTimePriceRow) : Int ×ₗ Nat :=
  toLex (row.time, row.sequence.toNat)

/-- The same of a saved price. -/
def stampOf (entry : Int × TokenPairPrice) : Int ×ₗ Nat :=
  toLex (entry.1, entry.2.sequence.toNat)

/-- The row that {lit}`argMax` selects for its liquidity provider. -/
def IsClose (rows : List RealTimePriceRow) (row : RealTimePriceRow) : Prop :=
  row ∈ rows ∧ ∀ other ∈ rows,
    other.liquidityProviderAddress = row.liquidityProviderAddress → other.stamp ≤ row.stamp

/-- The row that {lit}`argMin` selects for its liquidity provider. -/
def IsOpen (rows : List RealTimePriceRow) (row : RealTimePriceRow) : Prop :=
  row ∈ rows ∧ ∀ other ∈ rows,
    other.liquidityProviderAddress = row.liquidityProviderAddress → row.stamp ≤ other.stamp

/-- No two calls that store the same liquidity provider read the same time, and the
later one reads the later time. -/
def ClockAdvances (calls : List Call) : Prop :=
  calls.Pairwise fun call call' => ∀ entry ∈ call.saved, ∀ entry' ∈ call'.saved,
    addressOf entry = addressOf entry' → entry.1 < entry'.1

/-- A row has the pool and the stamp of its price. -/
theorem fields_of_realTimeRow {entry : Int × TokenPairPrice} {row : RealTimePriceRow}
    (hrow : realTimeRow entry.1 entry.2 = .ok row) :
    row.liquidityProviderAddress = addressOf entry ∧ row.stamp = stampOf entry := by
  simp only [realTimeRow, Rust.except_bind_eq_ok_iff, pure, Except.pure, Except.ok.injEq] at hrow
  rcases hrow with ⟨_, -, _, -, rfl⟩
  exact ⟨rfl, rfl⟩

/-- Sequence numbers grow along the prices of one call. -/
theorem pairwise_stamp_call {call : Call} (horder : InExecutionOrder call.events) :
    call.saved.Pairwise fun a b => stampOf a < stampOf b := by
  unfold Call.saved
  split
  · next prices time hcollect _ =>
      rw [List.pairwise_map]
      refine (horder.pairwise_sequence hcollect).imp fun hlt => ?_
      exact Prod.Lex.toLex_lt_toLex.mpr (.inr ⟨rfl, hlt⟩)
  · exact .nil

/-- Time and sequence grow along the saved prices of a liquidity provider. -/
theorem pairwise_stamp_saved {calls : List Call} (hclock : ClockAdvances calls)
    (horder : ∀ call ∈ calls, InExecutionOrder call.events) (address : String) :
    (saved calls).Pairwise fun a b =>
      addressOf a = address → addressOf b = address → stampOf a < stampOf b := by
  rw [saved, List.pairwise_flatMap]
  constructor
  · intro call hmem
    exact (pairwise_stamp_call (horder call hmem)).imp fun hlt _ _ => hlt
  · refine hclock.imp fun hlt a ha b hb haddress haddress' => ?_
    exact Prod.Lex.toLex_lt_toLex.mpr (.inl (hlt a ha b hb (haddress.trans haddress'.symm)))

/-- A row that is selected by comparing stamps belongs to a saved price that is
selected by comparing stamps. -/
theorem exists_entry_of_selected {entries : List (Int × TokenPairPrice)}
    {rows : List RealTimePriceRow} (hrows : RowsOf entries rows) {row : RealTimePriceRow}
    (hmem : row ∈ rows) {r : Int ×ₗ Nat → Int ×ₗ Nat → Prop}
    (hselected : ∀ other ∈ rows,
      other.liquidityProviderAddress = row.liquidityProviderAddress → r other.stamp row.stamp) :
    ∃ entry ∈ entries, realTimeRow entry.1 entry.2 = .ok row ∧
      addressOf entry = row.liquidityProviderAddress ∧
      ∀ other ∈ entries, addressOf other = row.liquidityProviderAddress →
        r (stampOf other) (stampOf entry) := by
  rcases LastWrite.exists_mem_of_mem_right hrows hmem with ⟨entry, hentry, hrow⟩
  rcases fields_of_realTimeRow hrow with ⟨haddress, hstamp⟩
  refine ⟨entry, hentry, hrow, haddress.symm, fun other hother hkey => ?_⟩
  rcases LastWrite.exists_mem_of_mem_left hrows hother with ⟨otherRow, hotherMem, hotherRow⟩
  rcases fields_of_realTimeRow hotherRow with ⟨hotherAddress, hotherStamp⟩
  rw [← hstamp, ← hotherStamp]
  exact hselected otherRow hotherMem (hotherAddress.trans hkey)

/-- The row is that of the last saved swap of its liquidity provider, which is also
the swap that PostgreSQL holds. -/
def FromLastSaved (calls : List Call) (tables : Tables) (row : RealTimePriceRow) : Prop :=
  ∃ entry, LastWrite.lastOf addressOf row.liquidityProviderAddress (saved calls) = some entry ∧
    realTimeRow entry.1 entry.2 = .ok row ∧
    tables.tokenPairPrices row.liquidityProviderAddress = some entry.2.record

/-- The row is that of the first saved swap of its liquidity provider. -/
def FromFirstSaved (calls : List Call) (row : RealTimePriceRow) : Prop :=
  ∃ entry, LastWrite.firstOf addressOf row.liquidityProviderAddress (saved calls) = some entry ∧
    realTimeRow entry.1 entry.2 = .ok row

/-- After a run from empty tables PostgreSQL holds the last saved swap of every
liquidity provider. -/
theorem Run.tokenPairPrices_eq {calls : List Call} {tables : Tables}
    (hrun : Run .empty calls tables) (address : String) :
    tables.tokenPairPrices address =
      (LastWrite.lastOf addressOf address (saved calls)).map fun entry => entry.2.record := by
  have hrecords := LastWrite.lastOf_map Record.liquidityProviderAddress
    (fun entry : Int × TokenPairPrice => entry.2.record) address (saved calls)
  rw [hrun.stored.tokenPairPrices, LastWrite.putAll_apply, hrecords]
  exact Option.or_none

/-- Where the clock advances, close and open are the last and the first saved swap. -/
theorem time_axis {calls : List Call} {tables : Tables} (hrun : Run .empty calls tables)
    (hclock : ClockAdvances calls) (horder : ∀ call ∈ calls, InExecutionOrder call.events)
    (row : RealTimePriceRow) :
    (IsClose tables.realTimePrices row → FromLastSaved calls tables row) ∧
      (IsOpen tables.realTimePrices row → FromFirstSaved calls row) := by
  rcases hrun.stored.realTimePrices with ⟨rows, hrows, htables⟩
  have hall : tables.realTimePrices = rows := htables
  have hsorted := pairwise_stamp_saved hclock horder row.liquidityProviderAddress
  rw [hall]
  constructor
  · intro hclose
    rcases exists_entry_of_selected hrows hclose.1 hclose.2 with
      ⟨entry, hmem, hrow, haddress, hgreatest⟩
    have hlast := (LastWrite.lastOf_eq_some_iff_of_pairwise hsorted).mpr
      ⟨hmem, haddress, hgreatest⟩
    refine ⟨entry, hlast, hrow, ?_⟩
    rw [hrun.tokenPairPrices_eq, hlast, Option.map_some]
  · intro hopen
    rcases exists_entry_of_selected (r := fun a b => b ≤ a) hrows hopen.1 hopen.2 with
      ⟨entry, hmem, hrow, haddress, hleast⟩
    have hfirst := (LastWrite.firstOf_eq_some_iff_of_pairwise hsorted).mpr
      ⟨hmem, haddress, hleast⟩
    exact ⟨entry, hfirst, hrow⟩

/-! ## Runs that exist -/

/-- Calls that each succeed on any tables form a run. -/
theorem exists_run {calls : List Call}
    (hcalls : ∀ call ∈ calls, ∀ tables, ∃ count tables',
      saveBlockEvents call.env call.events tables = .ok count tables') (tables : Tables) :
    ∃ tables', Run tables calls tables' := by
  induction calls generalizing tables with
  | nil => exact ⟨tables, .nil tables⟩
  | cons call calls ih =>
      rcases hcalls call List.mem_cons_self tables with ⟨count, middle, hsave⟩
      have hothers : ∀ other ∈ calls, ∀ tables, ∃ count tables',
          saveBlockEvents other.env other.events tables = .ok count tables' := fun other hother =>
        hcalls other (List.mem_cons_of_mem call hother)
      rcases ih hothers middle with ⟨tables', hrest⟩
      exact ⟨tables', .cons hsave hrest⟩

/-- A call that saves sells at a time. -/
def sellCall (millis : Nat) (indexed : List (Sell × Nat)) : Call where
  env := .working millis
  events := sellEventsAt TestSupport.crates indexed

/-- Prices that the call saves. -/
theorem saved_sellCall {millis : Nat} (hmillis : millis < 2 ^ 63) (indexed : List (Sell × Nat)) :
    (sellCall millis indexed).saved =
      indexed.map fun (sell, index) =>
        ((millis : Int), sellPrice TestSupport.crates sell index) := by
  have hcollect := collect_sellEventsAt TestSupport.crates_documented indexed
  have htime : currentTimeMillis (sellCall millis indexed).env = .ok (millis : Int) :=
    if_pos hmillis
  rw [Call.saved_eq hcollect htime]
  exact List.map_map ..

/-- Sells of amounts that can be stored are saved. -/
theorem saveBlockEvents_sellCall {millis : Nat} (hmillis : millis < 2 ^ 63)
    {indexed : List (Sell × Nat)}
    (hsells : ∀ sell ∈ indexed, (sellPrice TestSupport.crates sell.1 sell.2).Storable)
    (tables : Tables) :
    ∃ count tables', saveBlockEvents (sellCall millis indexed).env (sellCall millis indexed).events
      tables = .ok count tables' := by
  have hcollect := collect_sellEventsAt TestSupport.crates_documented indexed
  rcases saveBlockEvents_of_storable hmillis hcollect
    (List.forall_mem_map.mpr hsells) tables with ⟨tables', hsave⟩
  exact ⟨_, tables', hsave⟩

/-- A call that has saved something has read its time. -/
theorem Call.time_of_saved {call : Call} {entry : Int × TokenPairPrice}
    (hentry : entry ∈ call.saved) : currentTimeMillis call.env = .ok entry.1 := by
  unfold Call.saved at hentry
  split at hentry
  · next prices time _ htime =>
      rcases List.mem_map.mp hentry with ⟨price, -, rfl⟩
      exact htime
  · cases hentry

/-- Two calls, one millisecond apart, that sell to one pool. -/
def risingCalls : List Call :=
  [sellCall 5 [(sellOf 1 10 20, 0)], sellCall 6 [(sellOf 1 30 40, 0)]]

/-- Two calls at rising times open with the first price and close with the last. -/
theorem time_axis_risingCalls :
    ∃ tables, Run .empty risingCalls tables ∧ tables.realTimePrices.length = 2 ∧
      ∀ row, (IsClose tables.realTimePrices row → FromLastSaved risingCalls tables row) ∧
        (IsOpen tables.realTimePrices row → FromFirstSaved risingCalls row) := by
  have hcrates := TestSupport.crates_documented
  have hrun : ∃ tables, Run .empty risingCalls tables := by
    refine exists_run (fun call hcall => ?_) .empty
    rcases List.mem_pair.mp hcall with rfl | rfl
    · exact saveBlockEvents_sellCall (by norm_num) (List.forall_mem_singleton.mpr
        (storable_sellOf hcrates 1 (by decide) (by decide) 0))
    · exact saveBlockEvents_sellCall (by norm_num) (List.forall_mem_singleton.mpr
        (storable_sellOf hcrates 1 (by decide) (by decide) 0))
  rcases hrun with ⟨tables, hrun⟩
  have hlength : tables.realTimePrices.length = 2 := by
    rcases hrun.stored.realTimePrices with ⟨rows, hrows, htables⟩
    rw [htables, Tables.empty, List.nil_append, ← hrows.length_eq, saved, risingCalls,
      List.flatMap_cons, List.flatMap_cons, saved_sellCall (by norm_num),
      saved_sellCall (by norm_num)]
    rfl
  have hclock : ClockAdvances risingCalls := by
    refine List.pairwise_pair.mpr fun entry hentry entry' hentry' _ => ?_
    have htime : (5 : Int) = entry.1 := Except.ok.inj (Call.time_of_saved hentry)
    have htime' : (6 : Int) = entry'.1 := Except.ok.inj (Call.time_of_saved hentry')
    omega
  have horder : ∀ call ∈ risingCalls, InExecutionOrder call.events := by
    intro call hcall
    rcases List.mem_pair.mp hcall with rfl | rfl
    · exact inExecutionOrder_sells hcrates (by decide : [sellOf 1 10 20].length < 2 ^ 32)
    · exact inExecutionOrder_sells hcrates (by decide : [sellOf 1 30 40].length < 2 ^ 32)
  exact ⟨tables, hrun, hlength, time_axis hrun hclock horder⟩

/-! ## A clock that stands still -/

/-- Of two calls, the later one does not read an earlier time. -/
def ClockNeverDecreases (calls : List Call) : Prop :=
  calls.Pairwise fun call call' => ∀ millis ∈ call.env.clock, ∀ millis' ∈ call'.env.clock,
    millis ≤ millis'

/-- The row of a saved price with the greatest stamp is selected, whether its swap is
the last one or not. -/
theorem Run.exists_isClose {calls : List Call} {tables : Tables} (hrun : Run .empty calls tables)
    {entry last : Int × TokenPairPrice} (hentry : entry ∈ saved calls)
    (hgreatest : ∀ other ∈ saved calls, stampOf other ≤ stampOf entry)
    (hlast : LastWrite.lastOf addressOf (addressOf entry) (saved calls) = some last)
    (hstamp : stampOf last ≠ stampOf entry) :
    ∃ row, IsClose tables.realTimePrices row ∧ ¬ FromLastSaved calls tables row := by
  rcases hrun.stored.realTimePrices with ⟨rows, hrows, htables⟩
  have hall : tables.realTimePrices = rows := htables
  rcases LastWrite.exists_mem_of_mem_left hrows hentry with ⟨row, hmem, hrow⟩
  rcases fields_of_realTimeRow hrow with ⟨haddress, hrowStamp⟩
  refine ⟨row, ⟨hall ▸ hmem, ?_⟩, ?_⟩
  · intro other hother _
    rw [hall] at hother
    rcases LastWrite.exists_mem_of_mem_right hrows hother with ⟨found, hfound, hotherRow⟩
    rw [(fields_of_realTimeRow hotherRow).2, hrowStamp]
    exact hgreatest found hfound
  · intro hfrom
    rcases hfrom with ⟨found, hfoundLast, hfoundRow, -⟩
    rw [haddress, hlast] at hfoundLast
    rcases Option.some.inj hfoundLast with rfl
    exact hstamp ((fields_of_realTimeRow hfoundRow).2.symm.trans hrowStamp)

/-- A sell at a later place, and another one of its pool that is saved after it. -/
def placedSecond : Int × TokenPairPrice :=
  (5, sellPrice TestSupport.crates (sellOf 1 10 20) 1)

def savedLast : Int × TokenPairPrice :=
  (5, sellPrice TestSupport.crates (sellOf 1 30 40) 0)

/-- Two calls at one time; the second block sells at an earlier place. -/
def sameTimeCalls : List Call :=
  [sellCall 5 [(sellOf 5 10 20, 0), (sellOf 1 10 20, 1)], sellCall 5 [(sellOf 1 30 40, 0)]]

/-- One call whose block is not in execution order. -/
def unorderedCalls : List Call :=
  [sellCall 5 [(sellOf 1 10 20, 1), (sellOf 1 30 40, 0)]]

private theorem saved_sameTimeCalls :
    saved sameTimeCalls =
      [(5, sellPrice TestSupport.crates (sellOf 5 10 20) 0)] ++ [placedSecond, savedLast] := by
  rw [saved, sameTimeCalls, List.flatMap_cons, List.flatMap_cons, saved_sellCall (by norm_num),
    saved_sellCall (by norm_num)]
  rfl

private theorem saved_unorderedCalls : saved unorderedCalls = [] ++ [placedSecond, savedLast] := by
  rw [saved, unorderedCalls, List.flatMap_cons, saved_sellCall (by norm_num)]
  rfl

/-- The two runs select a row that was not saved last. -/
theorem exists_isClose_placedSecond {calls : List Call} {tables : Tables}
    (hrun : Run .empty calls tables) {before : List (Int × TokenPairPrice)}
    (hsaved : saved calls = before ++ [placedSecond, savedLast])
    (hbefore : ∀ other ∈ before, stampOf other ≤ stampOf placedSecond) :
    ∃ row, IsClose tables.realTimePrices row ∧ ¬ FromLastSaved calls tables row := by
  have hlt : stampOf savedLast < stampOf placedSecond := by decide
  have hentry : placedSecond ∈ saved calls := by
    rw [hsaved]
    exact List.mem_append_right before List.mem_cons_self
  have hlast : LastWrite.lastOf addressOf (addressOf placedSecond) (saved calls) =
      some savedLast := by
    rw [hsaved, LastWrite.lastOf_append, LastWrite.lastOf_cons, LastWrite.lastOf_cons,
      LastWrite.lastOf_nil, Option.none_or]
    have haddress : addressOf savedLast = addressOf placedSecond := rfl
    rw [haddress, if_pos rfl]
    rfl
  refine hrun.exists_isClose hentry ?_ hlast hlt.ne
  intro other hother
  rw [hsaved] at hother
  rcases List.mem_append.mp hother with hother | hother
  · exact hbefore other hother
  · rcases List.mem_cons.mp hother with rfl | hother
    · exact le_rfl
    · rw [List.mem_singleton.mp hother]
      exact hlt.le

/-- A clock that stands still, or a block that is not in execution order, lets a row be
selected that is not the last saved one. -/
theorem close_not_last_saved :
    (¬ ∀ calls tables, Run .empty calls tables → ClockNeverDecreases calls →
      (∀ call ∈ calls, InExecutionOrder call.events) →
      ∀ row, IsClose tables.realTimePrices row → FromLastSaved calls tables row) ∧
    ¬ ∀ calls tables, Run .empty calls tables → ClockAdvances calls →
      ∀ row, IsClose tables.realTimePrices row → FromLastSaved calls tables row := by
  have hcrates := TestSupport.crates_documented
  constructor
  · intro hall
    have hrun : ∃ tables, Run .empty sameTimeCalls tables := by
      refine exists_run (fun call hcall => ?_) .empty
      rcases List.mem_pair.mp hcall with rfl | rfl
      · exact saveBlockEvents_sellCall (by norm_num) (List.forall_mem_cons.mpr
          ⟨storable_sellOf hcrates 5 (by decide) (by decide) 0,
            List.forall_mem_singleton.mpr (storable_sellOf hcrates 1 (by decide) (by decide) 1)⟩)
      · exact saveBlockEvents_sellCall (by norm_num) (List.forall_mem_singleton.mpr
          (storable_sellOf hcrates 1 (by decide) (by decide) 0))
    rcases hrun with ⟨tables, hrun⟩
    rcases exists_isClose_placedSecond hrun saved_sameTimeCalls (by decide) with
      ⟨row, hclose, hnot⟩
    have hclock : ClockNeverDecreases sameTimeCalls := by
      refine List.pairwise_pair.mpr fun millis hmillis millis' hmillis' => ?_
      rw [← Option.some.inj hmillis, ← Option.some.inj hmillis']
    have horder : ∀ call ∈ sameTimeCalls, InExecutionOrder call.events := by
      intro call hcall
      rcases List.mem_pair.mp hcall with rfl | rfl
      · exact inExecutionOrder_sells hcrates
          (by decide : [sellOf 5 10 20, sellOf 1 10 20].length < 2 ^ 32)
      · exact inExecutionOrder_sells hcrates (by decide : [sellOf 1 30 40].length < 2 ^ 32)
    exact hnot (hall _ _ hrun hclock horder row hclose)
  · intro hall
    have hrun : ∃ tables, Run .empty unorderedCalls tables := by
      refine exists_run (List.forall_mem_singleton.mpr ?_) .empty
      exact saveBlockEvents_sellCall (by norm_num) (List.forall_mem_cons.mpr
        ⟨storable_sellOf hcrates 1 (by decide) (by decide) 1,
          List.forall_mem_singleton.mpr (storable_sellOf hcrates 1 (by decide) (by decide) 0)⟩)
    rcases hrun with ⟨tables, hrun⟩
    rcases exists_isClose_placedSecond hrun saved_unorderedCalls (by decide) with
      ⟨row, hclose, hnot⟩
    exact hnot (hall _ _ hrun (List.pairwise_singleton _ _) row hclose)

end Saver
end PumpRealtimePrices
