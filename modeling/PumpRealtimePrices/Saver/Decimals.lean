import PumpRealtimePrices.Library.FixedPoint
import PumpRealtimePrices.Saver.Prices

/-!
# Decimal columns

Price and volume go to ClickHouse columns of type {lit}`Decimal(38, 18)`: 38 decimal
digits, 18 of them after the point.  The conversions truncate exact quotients, and
refuse what an {lit}`i128` cannot hold, which is a larger range than that of the
columns.

Main results:

- Theorem {lit}`normalizedPrice_eq`: the conversion of a price is the truncation of its
  exact price, if it is below {lit}`2 ^ 127`.
- Theorem {lit}`columnsExact_iff`: which rows are converted as the columns need it.
- Theorem {lit}`normalizedPrice_order`: the conversion keeps the order of the exact
  prices, so high and low of a bar are those of the exact prices.
-/

namespace PumpRealtimePrices
namespace Saver

open FixedPoint

/-! ## Exact values -/

namespace TokenPairPrice

/-- Price as an exact number, as PostgreSQL computes it. -/
def exactPrice (price : TokenPairPrice) : ℚ :=
  (price.quoteAmount.toNat * 10 ^ price.baseTokenDecimals.toNat : Nat) /
    (price.baseAmount.toNat * 10 ^ price.quoteTokenDecimals.toNat : Nat)

/-- Volume as an exact number. -/
def exactVolume (price : TokenPairPrice) : ℚ :=
  (price.baseAmount.toNat : Nat) / (10 ^ price.baseTokenDecimals.toNat : Nat)

end TokenPairPrice

/-- Greatest value of a {lit}`Decimal(38, 18)` column. -/
def decimalMax : Int := 10 ^ 38 - 1

variable {price : TokenPairPrice}

/-- The divisor of the price is positive. -/
theorem denominator_pos (hbase : price.baseAmount ≠ 0) :
    0 < price.baseAmount.toNat * 10 ^ price.quoteTokenDecimals.toNat := by
  have hbaseNat := Rust.ne_zero_iff_toNat.mp hbase
  exact Nat.mul_pos (by omega) (Nat.pow_pos (by omega))

/-- The conversion to an {lit}`i128` as a condition on the value. -/
theorem decimalI128_eq (value : Nat) (column : String) :
    decimalI128 value column =
      if (value : Int) < 2 ^ 127 then .ok (value : Int) else .error (.decimalOverflow column) := by
  unfold decimalI128
  by_cases hlt : value < 2 ^ 127
  · rw [if_pos hlt, if_pos (by exact_mod_cast hlt)]
  · rw [if_neg hlt, if_neg (by exact_mod_cast hlt)]

/-- The conversion of a price is the truncation of its exact price. -/
theorem normalizedPrice_eq (hbase : price.baseAmount ≠ 0) :
    normalizedPrice price =
      if toFixed decimalScale price.exactPrice < 2 ^ 127 then
        .ok (toFixed decimalScale price.exactPrice)
      else .error (.decimalOverflow "price") := by
  have hvalue : ((price.quoteAmount.toNat *
      10 ^ (price.baseTokenDecimals.toNat + decimalScale) /
        (price.baseAmount.toNat * 10 ^ price.quoteTokenDecimals.toNat) : Nat) : Int) =
          toFixed decimalScale price.exactPrice := by
    rw [TokenPairPrice.exactPrice, toFixed_div, pow_add, mul_assoc]
  rw [normalizedPrice, if_neg hbase]
  dsimp only
  rw [decimalI128_eq, hvalue]

/-- The integer division of the volume truncates the exact volume. -/
theorem exactVolume_toFixed :
    ((price.baseAmount.toNat * 10 ^ decimalScale / 10 ^ price.baseTokenDecimals.toNat : Nat) :
      Int) = toFixed decimalScale price.exactVolume := by
  rw [TokenPairPrice.exactVolume, toFixed_div]

/-- Every volume fits its column. -/
theorem exactVolume_le (price : TokenPairPrice) :
    toFixed decimalScale price.exactVolume ≤ decimalMax := by
  have hbase := price.baseAmount.toNat_lt
  have hle := Nat.div_le_self (price.baseAmount.toNat * 10 ^ decimalScale)
    (10 ^ price.baseTokenDecimals.toNat)
  rw [← exactVolume_toFixed]
  unfold decimalMax
  unfold decimalScale at hle ⊢
  omega

/-- Every volume is converted. -/
theorem normalizedVolume_eq :
    normalizedVolume price = .ok (toFixed decimalScale price.exactVolume) := by
  have hle := exactVolume_le price
  unfold decimalMax at hle
  rw [normalizedVolume, decimalI128_eq, exactVolume_toFixed, if_pos (by omega)]

/-! ## What the columns need -/

/-- The conversions of a row as the columns need them: a price is converted exactly when
the column can hold its truncation, and a volume always. -/
structure ColumnsExact (price : TokenPairPrice) : Prop where
  zeroBaseAmount : normalizedPrice price = .error .zeroBaseAmount ↔ price.baseAmount = 0
  converted : price.baseAmount ≠ 0 → ∀ value, normalizedPrice price = .ok value ↔
    toFixed decimalScale price.exactPrice ≤ decimalMax ∧
      value = toFixed decimalScale price.exactPrice
  overflow : price.baseAmount ≠ 0 → decimalMax < toFixed decimalScale price.exactPrice →
    normalizedPrice price = .error (.decimalOverflow "price")
  volume : normalizedVolume price = .ok (toFixed decimalScale price.exactVolume) ∧
    toFixed decimalScale price.exactVolume ≤ decimalMax

/-- A price has no base amount exactly when that is zero. -/
theorem normalizedPrice_eq_zeroBaseAmount_iff :
    normalizedPrice price = .error .zeroBaseAmount ↔ price.baseAmount = 0 := by
  by_cases hbase : price.baseAmount = 0
  · simp [normalizedPrice, hbase]
  · rw [normalizedPrice_eq hbase]
    split <;> simp [hbase]

/-- Truncated prices below a bound, in whole numbers. -/
theorem toFixed_exactPrice_lt_iff (hbase : price.baseAmount ≠ 0) (bound : Nat) :
    toFixed decimalScale price.exactPrice < bound ↔
      price.quoteAmount.toNat * 10 ^ (price.baseTokenDecimals.toNat + decimalScale) <
        bound * (price.baseAmount.toNat * 10 ^ price.quoteTokenDecimals.toNat) := by
  rw [TokenPairPrice.exactPrice, toFixed_div_lt_iff (denominator_pos hbase), pow_add, mul_assoc]

/-- The conversions are what the columns need unless the truncated price lies between
the greatest value of the column and the greatest {lit}`i128`. -/
theorem columnsExact_iff_toFixed (hbase : price.baseAmount ≠ 0) :
    ColumnsExact price ↔ toFixed decimalScale price.exactPrice < (10 ^ 38 : Nat) ∨
      ¬ toFixed decimalScale price.exactPrice < (2 ^ 127 : Nat) := by
  have hprice := normalizedPrice_eq hbase
  simp only [Nat.cast_pow, Nat.cast_ofNat]
  constructor
  · intro hexact
    by_contra hbetween
    rw [not_or, not_not] at hbetween
    rw [if_pos hbetween.2] at hprice
    have hfits := ((hexact.converted hbase _).mp hprice).1
    unfold decimalMax at hfits
    omega
  · intro hoverflow
    refine ⟨normalizedPrice_eq_zeroBaseAmount_iff, fun _ value => ?_, fun _ hlarge => ?_,
      normalizedVolume_eq, exactVolume_le price⟩
    · rw [hprice]
      unfold decimalMax
      split
      · next hlt =>
          rw [Except.ok.injEq, eq_comm]
          exact (and_iff_right (by omega)).symm
      · next hge =>
          simp only [reduceCtorEq, false_iff, not_and]
          omega
    · unfold decimalMax at hlarge
      rw [hprice, if_neg (by omega)]

/-- Which rows are converted as the columns need it. -/
theorem columnsExact_iff (price : TokenPairPrice) :
    ColumnsExact price ↔ price.baseAmount = 0 ∨
      price.quoteAmount.toNat * 10 ^ (price.baseTokenDecimals.toNat + 18) <
        10 ^ 38 * (price.baseAmount.toNat * 10 ^ price.quoteTokenDecimals.toNat) ∨
      2 ^ 127 * (price.baseAmount.toNat * 10 ^ price.quoteTokenDecimals.toNat) ≤
        price.quoteAmount.toNat * 10 ^ (price.baseTokenDecimals.toNat + 18) := by
  by_cases hbase : price.baseAmount = 0
  · refine iff_of_true ?_ (.inl hbase)
    exact ⟨normalizedPrice_eq_zeroBaseAmount_iff, fun hne => absurd hbase hne,
      fun hne => absurd hbase hne, normalizedVolume_eq, exactVolume_le price⟩
  · rw [columnsExact_iff_toFixed hbase, toFixed_exactPrice_lt_iff hbase,
      toFixed_exactPrice_lt_iff hbase, not_lt]
    simp only [hbase, false_or, decimalScale]

/-- A price of {lit}`12 * 10 ^ 19` quote units, 39 digits with the decimals. -/
def overflowingPrice : TokenPairPrice where
  liquidityProviderAddress := "pool"
  liquidityProviderKind := .amm
  baseTokenAddress := "base"
  quoteTokenAddress := "quote"
  baseAmount := 1
  quoteAmount := 120000000
  baseTokenDecimals := 12
  quoteTokenDecimals := 0
  sequence := 0

/-- It is converted to a value that the column cannot hold. -/
theorem overflowingPrice_converted :
    normalizedPrice overflowingPrice = .ok (12 * 10 ^ 37) ∧ decimalMax < 12 * 10 ^ 37 ∧
      ¬ ColumnsExact overflowingPrice := by
  have hbase : overflowingPrice.baseAmount ≠ 0 := by decide
  have hprice : normalizedPrice overflowingPrice = .ok (12 * 10 ^ 37) := by decide +kernel
  have hlarge : decimalMax < 12 * 10 ^ 37 := by decide +kernel
  refine ⟨hprice, hlarge, fun hexact => ?_⟩
  rcases (hexact.converted hbase _).mp hprice with ⟨hfits, hvalue⟩
  rw [← hvalue] at hfits
  omega

/-! ## Order of prices -/

/-- The exact price decides the converted one. -/
theorem normalizedPrice_congr {price' : TokenPairPrice} (hbase : price.baseAmount ≠ 0)
    (hbase' : price'.baseAmount ≠ 0) (hexact : price.exactPrice = price'.exactPrice) :
    normalizedPrice price = normalizedPrice price' := by
  rw [normalizedPrice_eq hbase, normalizedPrice_eq hbase', hexact]

/-- A converted price is the truncation of its exact price. -/
theorem normalizedPrice_eq_ok {value : Int} (hprice : normalizedPrice price = .ok value) :
    value = toFixed decimalScale price.exactPrice := by
  by_cases hbase : price.baseAmount = 0
  · rw [normalizedPrice_eq_zeroBaseAmount_iff.mpr hbase] at hprice
    cases hprice
  · rw [normalizedPrice_eq hbase] at hprice
    split at hprice
    · exact (Except.ok.inj hprice).symm
    · cases hprice

/-- A price that is not greater than a converted one is converted, to a value that is not
greater. -/
theorem normalizedPrice_mono {price' : TokenPairPrice} (hbase : price.baseAmount ≠ 0)
    (hbase' : price'.baseAmount ≠ 0) (hle : price.exactPrice ≤ price'.exactPrice) {value' : Int}
    (hprice' : normalizedPrice price' = .ok value') :
    ∃ value, normalizedPrice price = .ok value ∧ value ≤ value' := by
  have hmono := toFixed_mono decimalScale hle
  have hvalue' := normalizedPrice_eq_ok hprice'
  rw [normalizedPrice_eq hbase'] at hprice'
  split at hprice'
  · next hlt =>
      refine ⟨toFixed decimalScale price.exactPrice, ?_, hvalue' ▸ hmono⟩
      rw [normalizedPrice_eq hbase, if_pos (hmono.trans_lt hlt)]
  · cases hprice'

/-- Rows that are all converted are each converted to the truncation of the exact price. -/
theorem normalizedPrice_of_mapM {prices : List TokenPairPrice} {values : List Int}
    (hvalues : prices.mapM normalizedPrice = .ok values) :
    ∀ price ∈ prices, normalizedPrice price = .ok (toFixed decimalScale price.exactPrice) := by
  intro price hprice
  rcases Rust.exists_mem_of_mapM_eq_ok hvalues hprice with ⟨value, -, hvalue⟩
  rw [hvalue, ← normalizedPrice_eq_ok hvalue]

/-- The stored values of rows that are all converted. -/
theorem mapM_normalizedPrice_eq_ok {prices : List TokenPairPrice} {values : List Int}
    (hvalues : prices.mapM normalizedPrice = .ok values) :
    values = (prices.map TokenPairPrice.exactPrice).map (toFixed decimalScale) := by
  have hmap : prices.map normalizedPrice =
      ((prices.map TokenPairPrice.exactPrice).map (toFixed decimalScale)).map .ok := by
    rw [List.map_map, List.map_map]
    exact List.map_congr_left (normalizedPrice_of_mapM hvalues)
  rw [Rust.mapM_eq_ok_iff.mp hvalues] at hmap
  exact List.map_injective_iff.mpr (fun _ _ => Except.ok.inj) hmap

/-- A nonempty list of rows has one of greatest and one of least exact price. -/
theorem exists_extreme_prices {prices : List TokenPairPrice} (hprices : prices ≠ []) :
    ∃ top ∈ prices, ∃ bottom ∈ prices,
      (∀ price ∈ prices, bottom.exactPrice ≤ price.exactPrice ∧
        price.exactPrice ≤ top.exactPrice) ∧
      (prices.map TokenPairPrice.exactPrice).max? = some top.exactPrice ∧
      (prices.map TokenPairPrice.exactPrice).min? = some bottom.exactPrice := by
  have hexact : prices.map TokenPairPrice.exactPrice ≠ [] := by simpa using hprices
  rcases Option.isSome_iff_exists.mp (List.isSome_max?_of_ne_nil hexact) with ⟨high, hhigh⟩
  rcases Option.isSome_iff_exists.mp (List.isSome_min?_of_ne_nil hexact) with ⟨low, hlow⟩
  rcases List.max?_eq_some_iff.mp hhigh with ⟨hhighMem, hhighest⟩
  rcases List.min?_eq_some_iff.mp hlow with ⟨hlowMem, hlowest⟩
  rcases List.mem_map.mp hhighMem with ⟨top, htop, rfl⟩
  rcases List.mem_map.mp hlowMem with ⟨bottom, hbottom, rfl⟩
  refine ⟨top, htop, bottom, hbottom, fun price hprice => ?_, hhigh, hlow⟩
  have hmem := List.mem_map_of_mem (f := TokenPairPrice.exactPrice) hprice
  exact ⟨hlowest _ hmem, hhighest _ hmem⟩

/-- The conversion keeps the order of exact prices, and the high and the low of converted
rows are the conversions of the rows of greatest and of least exact price. -/
theorem normalizedPrice_order :
    (∀ price price' : TokenPairPrice, price.baseAmount ≠ 0 → price'.baseAmount ≠ 0 →
      (price.exactPrice ≤ price'.exactPrice → ∀ value', normalizedPrice price' = .ok value' →
        ∃ value, normalizedPrice price = .ok value ∧ value ≤ value') ∧
      (price.exactPrice = price'.exactPrice → normalizedPrice price = normalizedPrice price')) ∧
    ∀ (prices : List TokenPairPrice) (values : List Int), prices ≠ [] →
      prices.mapM normalizedPrice = .ok values →
      ∃ top ∈ prices, ∃ bottom ∈ prices,
        (∀ price ∈ prices, bottom.exactPrice ≤ price.exactPrice ∧
          price.exactPrice ≤ top.exactPrice) ∧
        ∃ high low, normalizedPrice top = .ok high ∧ values.max? = some high ∧
          normalizedPrice bottom = .ok low ∧ values.min? = some low := by
  refine ⟨fun price price' hbase hbase' => ⟨fun hle value' hprice' =>
    normalizedPrice_mono hbase hbase' hle hprice', normalizedPrice_congr hbase hbase'⟩, ?_⟩
  intro prices values hprices hvalues
  rcases exists_extreme_prices hprices with
    ⟨top, htop, bottom, hbottom, hextreme, hmax, hmin⟩
  have hconverted := normalizedPrice_of_mapM hvalues
  refine ⟨top, htop, bottom, hbottom, hextreme, _, _, hconverted top htop, ?_,
    hconverted bottom hbottom, ?_⟩
  · rw [mapM_normalizedPrice_eq_ok hvalues, max?_map_of_monotone (toFixed_mono decimalScale), hmax,
      Option.map_some]
  · rw [mapM_normalizedPrice_eq_ok hvalues, min?_map_of_monotone (toFixed_mono decimalScale), hmin,
      Option.map_some]

/-- The row of {lit}`overflowingPrice` and one whose amounts are a third of it. -/
def risingPrices : List TokenPairPrice :=
  [{ overflowingPrice with baseAmount := 3 }, overflowingPrice]

/-- Two prices have a highest and a lowest stored value. -/
theorem normalizedPrice_order_risingPrices :
    ∃ high low : Int, low ≤ high ∧
      (∃ top ∈ risingPrices, normalizedPrice top = .ok high) ∧
      ∃ bottom ∈ risingPrices, normalizedPrice bottom = .ok low := by
  have hvalues : risingPrices.mapM normalizedPrice = .ok [4 * 10 ^ 37, 12 * 10 ^ 37] := by
    decide +kernel
  rcases normalizedPrice_order.2 risingPrices _ (List.cons_ne_nil _ _) hvalues with
    ⟨top, htop, bottom, hbottom, hextreme, high, low, hhigh, -, hlow, -⟩
  have hbase : ∀ price ∈ risingPrices, price.baseAmount ≠ 0 := by decide
  rcases (normalizedPrice_order.1 bottom top (hbase bottom hbottom) (hbase top htop)).1
    (hextreme top htop).1 high hhigh with ⟨value, hvalue, hle⟩
  rw [hlow] at hvalue
  rcases Except.ok.inj hvalue with rfl
  exact ⟨high, low, hle, ⟨top, htop, hhigh⟩, ⟨bottom, hbottom, hlow⟩⟩

end Saver
end PumpRealtimePrices
