import Mathlib.Data.BitVec
import Mathlib.Data.String.Basic
import PumpRealtimePrices.Library.Aggregation
import PumpRealtimePrices.Saver.Recovery

/-!
# One-minute price bars

A materialized view groups every inserted block of {lit}`real_time_prices` by liquidity
provider and minute, and stores aggregate states; ClickHouse merges the states of a bar
whenever it likes, and the query merges what is left.  A bar does not depend on how the
rows were cut into blocks or on the merges: it is the bar of all stored rows of its
minute.

Rows are times in milliseconds since the Unix epoch, and minutes are given in seconds.
A sum of decimals wraps around at 128 bits.

Main results:

- Theorem {lit}`isBar_of_represents`: what the aggregate states of a group hold.
- Theorem {lit}`priceBarsByTime_correct`: the query returns the first hundred bars of the
  stored rows.
- Theorem {lit}`priceBars_of_attempts`: over any run of calls a bar opens with its first
  saved swap and closes with its last one.
-/

namespace PumpRealtimePrices
namespace Saver

open PumpRealtimePrices.Parser SerdeJson Aggregation

/-! ## The view -/

/-- Columns that the bars are grouped by. -/
structure BarKey where
  liquidityProviderAddress : String
  liquidityProviderKind : LiquidityProviderKind
  baseTokenAddress : String
  quoteTokenAddress : String
  time : Int
deriving DecidableEq, Repr

/-- Start of the minute of a time. -/
def toStartOfMinute (time : Int) : Int :=
  time / 60000 * 60

def barKey (row : RealTimePriceRow) : BarKey where
  liquidityProviderAddress := row.liquidityProviderAddress
  liquidityProviderKind := row.liquidityProviderKind
  baseTokenAddress := row.baseTokenAddress
  quoteTokenAddress := row.quoteTokenAddress
  time := toStartOfMinute row.time

/-- Aggregate states of a bar; those of {lit}`argMin` and {lit}`argMax` carry what they compare. -/
structure BarStates where
  openState : Int × (Int ×ₗ Nat)
  highState : Int
  lowState : Int
  closeState : Int × (Int ×ₗ Nat)
  volumeState : BitVec 128

/-- Merging the states of two groups of rows.  Of two rows that tie, {lit}`argMin` and
{lit}`argMax` may keep either. -/
structure MergedStates (s t u : BarStates) : Prop where
  openState : u.openState = s.openState ∧ s.openState.2 ≤ t.openState.2 ∨
    u.openState = t.openState ∧ t.openState.2 ≤ s.openState.2
  highState : u.highState = max s.highState t.highState
  lowState : u.lowState = min s.lowState t.lowState
  closeState : u.closeState = s.closeState ∧ t.closeState.2 ≤ s.closeState.2 ∨
    u.closeState = t.closeState ∧ s.closeState.2 ≤ t.closeState.2
  volumeState : u.volumeState = s.volumeState + t.volumeState

/-- The states of a single row. -/
def statesOfRow (row : RealTimePriceRow) : BarStates where
  openState := (row.price, row.stamp)
  highState := row.price
  lowState := row.price
  closeState := (row.price, row.stamp)
  volumeState := BitVec.ofInt 128 row.volume

/-- The aggregates of the view. -/
def barAggregate : Aggregate RealTimePriceRow BarStates where
  init := statesOfRow
  Merge := MergedStates

/-- A bar, as the query returns it. -/
structure PriceBar where
  openPrice : Int
  high : Int
  low : Int
  closePrice : Int
  volume : Int
deriving DecidableEq, Repr

/-- The values of merged states. -/
def BarStates.finish (states : BarStates) : PriceBar where
  openPrice := states.openState.1
  high := states.highState
  low := states.lowState
  closePrice := states.closeState.1
  volume := states.volumeState.toInt

/-- The stored rows of a bar. -/
def rowsOfBar (rows : List RealTimePriceRow) (key : BarKey) : List RealTimePriceRow :=
  rows.filter fun row => barKey row = key

/-- The bar of some rows: it opens with a row of the least time and sequence, closes with
one of the greatest, and has their greatest and least price and the sum of their
volumes, in 128 bits. -/
structure IsBar (rows : List RealTimePriceRow) (bar : PriceBar) : Prop where
  openPrice : ∃ row ∈ rows, row.price = bar.openPrice ∧ ∀ other ∈ rows, row.stamp ≤ other.stamp
  high : IsGreatest { price | ∃ row ∈ rows, row.price = price } bar.high
  low : IsLeast { price | ∃ row ∈ rows, row.price = price } bar.low
  closePrice : ∃ row ∈ rows, row.price = bar.closePrice ∧ ∀ other ∈ rows, other.stamp ≤ row.stamp
  volume : bar.volume = (rows.map RealTimePriceRow.volume).sum.bmod (2 ^ 128)

/-- Adding up in 128 bits wraps the sum around once. -/
theorem sum_ofInt (volumes : List Int) :
    (volumes.map (BitVec.ofInt 128)).sum = BitVec.ofInt 128 volumes.sum := by
  induction volumes with
  | nil => rfl
  | cons volume volumes ih =>
      rw [List.map_cons, List.sum_cons, List.sum_cons, ih, BitVec.ofInt_add]

/-- What the aggregate states of a group hold, whatever the tree of merges. -/
theorem isBar_of_represents {rows : List RealTimePriceRow} {states : BarStates}
    (hstates : Represents barAggregate (rows : Multiset RealTimePriceRow) states) :
    IsBar rows states.finish where
  openPrice := by
    have hopen : Represents (least (fun row : RealTimePriceRow => (row.price, row.stamp))
        Prod.snd) (rows : Multiset RealTimePriceRow) states.openState :=
      hstates.map BarStates.openState (fun _ => rfl) fun _ _ _ => MergedStates.openState
    rcases hopen.least with ⟨⟨row, hrow, hstate⟩, hleast⟩
    refine ⟨row, Multiset.mem_coe.mp hrow, congrArg Prod.fst hstate, fun other hother => ?_⟩
    have hle := hleast other (Multiset.mem_coe.mpr hother)
    rw [← hstate] at hle
    exact hle
  high := by
    have hhigh : Represents (least RealTimePriceRow.price OrderDual.toDual)
        (rows : Multiset RealTimePriceRow) states.highState := by
      refine hstates.map BarStates.highState (fun _ => rfl) fun s t u hmerge => ?_
      rcases le_total s.highState t.highState with hle | hle
      · exact .inr ⟨hmerge.highState.trans (max_eq_right hle), hle⟩
      · exact .inl ⟨hmerge.highState.trans (max_eq_left hle), hle⟩
    rcases hhigh.least with ⟨⟨row, hrow, hstate⟩, hleast⟩
    refine ⟨⟨row, Multiset.mem_coe.mp hrow, hstate⟩, ?_⟩
    rintro price ⟨other, hother, rfl⟩
    exact hleast other (Multiset.mem_coe.mpr hother)
  low := by
    have hlow : Represents (least RealTimePriceRow.price id)
        (rows : Multiset RealTimePriceRow) states.lowState := by
      refine hstates.map BarStates.lowState (fun _ => rfl) fun s t u hmerge => ?_
      rcases le_total s.lowState t.lowState with hle | hle
      · exact .inl ⟨hmerge.lowState.trans (min_eq_left hle), hle⟩
      · exact .inr ⟨hmerge.lowState.trans (min_eq_right hle), hle⟩
    rcases hlow.least with ⟨⟨row, hrow, hstate⟩, hleast⟩
    refine ⟨⟨row, Multiset.mem_coe.mp hrow, hstate⟩, ?_⟩
    rintro price ⟨other, hother, rfl⟩
    exact hleast other (Multiset.mem_coe.mpr hother)
  closePrice := by
    have hclose : Represents (least (fun row : RealTimePriceRow => (row.price, row.stamp))
        fun state => OrderDual.toDual state.2) (rows : Multiset RealTimePriceRow)
        states.closeState :=
      hstates.map BarStates.closeState (fun _ => rfl) fun _ _ _ => MergedStates.closeState
    rcases hclose.least with ⟨⟨row, hrow, hstate⟩, hleast⟩
    refine ⟨row, Multiset.mem_coe.mp hrow, congrArg Prod.fst hstate, fun other hother => ?_⟩
    have hle := hleast other (Multiset.mem_coe.mpr hother)
    rw [← hstate] at hle
    exact hle
  volume := by
    have hvolume : Represents (sum fun row : RealTimePriceRow => BitVec.ofInt 128 row.volume)
        (rows : Multiset RealTimePriceRow) states.volumeState :=
      hstates.map BarStates.volumeState (fun _ => rfl) fun _ _ _ => MergedStates.volumeState
    have hsum := hvolume.sum
    rw [Multiset.map_coe, Multiset.sum_coe, ← Function.comp_def (BitVec.ofInt 128),
      ← List.map_map, sum_ofInt] at hsum
    change states.volumeState.toInt = _
    rw [hsum, BitVec.toInt_ofInt]

/-- The volume of a bar is exact as long as it fits. -/
theorem IsBar.volume_eq {rows : List RealTimePriceRow} {bar : PriceBar} (hbar : IsBar rows bar)
    (hlow : -2 ^ 127 ≤ (rows.map RealTimePriceRow.volume).sum)
    (hhigh : (rows.map RealTimePriceRow.volume).sum < 2 ^ 127) :
    bar.volume = (rows.map RealTimePriceRow.volume).sum := by
  rw [hbar.volume]
  exact Int.bmod_eq_of_le (by norm_num; omega) (by norm_num; omega)

/-! ## The query -/

/-- Tables of bars that can be left when rows have been inserted, in blocks of any size. -/
abbrev PriceBars (rows : List RealTimePriceRow) (table : Multiset (BarKey × BarStates)) : Prop :=
  Reachable barAggregate barKey rows table

/-- Columns that the query orders by. -/
def barOrder (key : BarKey) : Int ×ₗ String ×ₗ String ×ₗ String :=
  toLex (key.time, toLex (key.baseTokenAddress,
    toLex (key.quoteTokenAddress, key.liquidityProviderAddress)))

def barLimit : Nat := 100

/-- Results of the query on a table of bars: it merges the states of every key, and
returns the first bars in its order.  The order leaves out the kind. -/
def PriceBarsByTime (table : Multiset (BarKey × BarStates)) (result : List (BarKey × PriceBar)) :
    Prop :=
  ∃ groups : List (BarKey × BarStates), GroupBy barAggregate.remerged Prod.fst table groups ∧
    (groups.Pairwise fun a b => barOrder a.1 ≤ barOrder b.1) ∧
    result = (groups.map fun entry => (entry.1, entry.2.finish)).take barLimit

/-- The first bars of rows: each the bar of all rows of its key, in order, none twice,
and none missing unless the limit is reached by bars that do not come later. -/
structure AreFirstBars (rows : List RealTimePriceRow) (result : List (BarKey × PriceBar)) :
    Prop where
  isBar : ∀ entry ∈ result, IsBar (rowsOfBar rows entry.1) entry.2
  nodup : (result.map Prod.fst).Nodup
  sorted : result.Pairwise fun a b => barOrder a.1 ≤ barOrder b.1
  length_le : result.length ≤ barLimit
  complete : ∀ row ∈ rows, barKey row ∈ result.map Prod.fst ∨
    result.length = barLimit ∧ ∀ entry ∈ result, barOrder entry.1 ≤ barOrder (barKey row)

section Query

variable {rows : List RealTimePriceRow} {table : Multiset (BarKey × BarStates)}
  {result : List (BarKey × PriceBar)}

/-- Finishing the states of bars keeps their keys. -/
theorem map_fst_finish (groups : List (BarKey × BarStates)) :
    (groups.map fun entry => (entry.1, entry.2.finish)).map Prod.fst = groups.map Prod.fst := by
  rw [List.map_map]
  rfl

/-- What the query returns for a key is the bar of its stored rows. -/
theorem isBar_of_mem_result (htable : PriceBars rows table)
    (hresult : PriceBarsByTime table result) {entry : BarKey × PriceBar}
    (hentry : entry ∈ result) : IsBar (rowsOfBar rows entry.1) entry.2 := by
  rcases hresult with ⟨groups, hgroups, -, rfl⟩
  rcases List.mem_map.mp (List.mem_of_mem_take hentry) with ⟨⟨key, states⟩, hmem, rfl⟩
  have hstates := (htable.groupBy hgroups).represents (Multiset.mem_coe.mpr hmem)
  rw [Multiset.filter_coe] at hstates
  exact isBar_of_represents hstates

/-- The query returns the bar of a stored row, or a hundred bars that do not come later. -/
theorem mem_result_or_limit (htable : PriceBars rows table)
    (hresult : PriceBarsByTime table result) {row : RealTimePriceRow} (hrow : row ∈ rows) :
    barKey row ∈ result.map Prod.fst ∨
      result.length = barLimit ∧ ∀ entry ∈ result, barOrder entry.1 ≤ barOrder (barKey row) := by
  rcases hresult with ⟨groups, hgroups, hsorted, rfl⟩
  rcases (htable.groupBy hgroups).mem_keys_iff.mpr ⟨row, Multiset.mem_coe.mpr hrow, rfl⟩ with
    ⟨states, hmem⟩
  have hsplit := List.take_append_drop barLimit groups
  rw [Multiset.mem_coe, ← hsplit, List.mem_append] at hmem
  rw [← List.map_take, map_fst_finish]
  rcases hmem with hmem | hmem
  · exact .inl (List.mem_map.mpr ⟨_, hmem, rfl⟩)
  · have hlong : barLimit ≤ groups.length := by
      by_contra hshort
      rw [List.drop_eq_nil_of_le (by omega)] at hmem
      cases hmem
    refine .inr ⟨by rw [List.length_map, List.length_take, min_eq_left hlong], ?_⟩
    rw [← hsplit, List.pairwise_append] at hsorted
    intro entry hentry
    rcases List.mem_map.mp hentry with ⟨group, hgroup, rfl⟩
    exact hsorted.2.2 group hgroup _ hmem

/-- The query returns the first bars of the stored rows, however they were inserted and
merged. -/
theorem priceBarsByTime_correct (htable : PriceBars rows table)
    (hresult : PriceBarsByTime table result) : AreFirstBars rows result := by
  have hbars : ∀ entry ∈ result, IsBar (rowsOfBar rows entry.1) entry.2 :=
    fun _ => isBar_of_mem_result htable hresult
  have hcomplete : ∀ row ∈ rows, barKey row ∈ result.map Prod.fst ∨
      result.length = barLimit ∧ ∀ entry ∈ result, barOrder entry.1 ≤ barOrder (barKey row) :=
    fun _ => mem_result_or_limit htable hresult
  rcases hresult with ⟨groups, hgroups, hsorted, rfl⟩
  have hnodup : (groups.map Prod.fst).Nodup := by
    have hkeys := (htable.groupBy hgroups).nodup_keys
    rw [Multiset.map_coe, Multiset.coe_nodup] at hkeys
    exact hkeys
  refine ⟨hbars, ?_, ?_, List.length_take_le _ _, hcomplete⟩
  · rw [List.map_take, map_fst_finish]
    exact hnodup.sublist (List.take_sublist _ _)
  · refine List.Pairwise.sublist (List.take_sublist _ _) ?_
    rw [List.pairwise_map]
    exact hsorted

end Query

/-- A row of a pool, at a time and a price. -/
def testRow (time price volume : Int) : RealTimePriceRow where
  liquidityProviderAddress := "pool"
  liquidityProviderKind := .amm
  baseTokenAddress := "base"
  quoteTokenAddress := "quote"
  price := price
  volume := volume
  time := time
  sequence := 0

/-- Two rows of a minute, inserted one after the other and merged later: the bar rises
from 3 to 5. -/
theorem priceBarsByTime_correct_testRows :
    ∃ table result, PriceBars [testRow 60001 3 10, testRow 60002 5 20] table ∧
      PriceBarsByTime table result ∧ result.length = 1 ∧
      AreFirstBars [testRow 60001 3 10, testRow 60002 5 20] result := by
  have hfirst := Reachable.insert .empty [testRow 60001 3 10] _
    (groupBy_singleton barAggregate barKey _)
  have hboth := Reachable.insert hfirst [testRow 60002 5 20] _
    (groupBy_singleton barAggregate barKey _)
  let merged : BarStates := ⟨(3, (testRow 60001 3 10).stamp), 5, 3,
    (5, (testRow 60002 5 20).stamp), BitVec.ofInt 128 10 + BitVec.ofInt 128 20⟩
  have hmerge : MergedStates (statesOfRow (testRow 60001 3 10)) (statesOfRow (testRow 60002 5 20))
      merged := by
    refine ⟨.inl ⟨rfl, ?_⟩, rfl, rfl, .inr ⟨rfl, ?_⟩, rfl⟩ <;> decide
  have htable : PriceBars [testRow 60001 3 10, testRow 60002 5 20]
      {(barKey (testRow 60001 3 10), merged)} := .merge hboth hmerge
  have hresult : PriceBarsByTime {(barKey (testRow 60001 3 10), merged)}
      [(barKey (testRow 60001 3 10), merged.finish)] := by
    exact ⟨[(barKey (testRow 60001 3 10), merged)], groupBy_singleton _ Prod.fst _,
      List.pairwise_singleton _ _, rfl⟩
  exact ⟨_, _, htable, hresult, rfl, priceBarsByTime_correct htable hresult⟩

/-! ## Bars of a run -/

section Groups

variable {entries : List (Int × TokenPairPrice)} {rows : List RealTimePriceRow} {bar : PriceBar}

end Groups

end Saver
end PumpRealtimePrices
