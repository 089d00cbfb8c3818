import PumpRealtimePrices.Saver.Prices

/-!
# Saving a block

The three tables, the statements that the saver sends to them, and the order in
which it sends them: the upsert of the latest prices, then one insert into each
of the two ClickHouse tables.  PostgreSQL runs a statement entirely or not at
all, and rows written to a ClickHouse insert appear when it ends.

Main results:

- Theorem {lit}`upsertTokenPairPrices_columnsOf`: what the upsert of a batch does,
  after its eight columns have been zipped again.
- Theorem {lit}`insertRows_eq_ok`: an insert that ends holds one row for each price.
- Theorem {lit}`saveBlockEvents_eq_ok`: the tables after a successful call.
- Theorem {lit}`saveBlockEvents_eq_error`: the tables after a failed call, for each
  step that can fail.
- Theorem {lit}`saveBlockEvents_of_storable`: with working connections, a block all of
  whose prices can be stored is saved.
-/

namespace PumpRealtimePrices
namespace Saver

open PumpRealtimePrices.Parser Rust

/-! ## PostgreSQL -/

/-- A row of the table {lit}`token_pair_prices`. -/
structure Record where
  liquidityProviderAddress : String
  liquidityProviderKind : String
  baseTokenAddress : String
  quoteTokenAddress : String
  baseAmount : Nat
  quoteAmount : Nat
  baseTokenDecimals : Int
  quoteTokenDecimals : Int
deriving DecidableEq, Repr

/-- The constraints that the table puts on a row. -/
structure Record.Valid (record : Record) : Prop where
  liquidityProviderAddress : record.liquidityProviderAddress.length ≤ 44
  liquidityProviderKind : record.liquidityProviderKind ∈ ["amm", "bonding_curve"]
  baseTokenAddress : record.baseTokenAddress.length ≤ 44
  quoteTokenAddress : record.quoteTokenAddress.length ≤ 44
  baseAmount : record.baseAmount < 10 ^ 20 ∧ 0 < record.baseAmount
  quoteAmount : record.quoteAmount < 10 ^ 20 ∧ 0 < record.quoteAmount
  baseTokenDecimals : 0 ≤ record.baseTokenDecimals ∧ record.baseTokenDecimals ≤ 255
  quoteTokenDecimals : 0 ≤ record.quoteTokenDecimals ∧ record.quoteTokenDecimals ≤ 255
  tokens : record.baseTokenAddress ≠ record.quoteTokenAddress

/-- A record is valid exactly when it passes every check of the schema. -/
theorem Record.valid_iff (record : Record) :
    record.Valid ↔
      record.liquidityProviderAddress.length ≤ 44 ∧
      record.liquidityProviderKind ∈ ["amm", "bonding_curve"] ∧
      record.baseTokenAddress.length ≤ 44 ∧ record.quoteTokenAddress.length ≤ 44 ∧
      (record.baseAmount < 10 ^ 20 ∧ 0 < record.baseAmount) ∧
      (record.quoteAmount < 10 ^ 20 ∧ 0 < record.quoteAmount) ∧
      (0 ≤ record.baseTokenDecimals ∧ record.baseTokenDecimals ≤ 255) ∧
      (0 ≤ record.quoteTokenDecimals ∧ record.quoteTokenDecimals ≤ 255) ∧
      record.baseTokenAddress ≠ record.quoteTokenAddress :=
  ⟨fun ⟨h₁, h₂, h₃, h₄, h₅, h₆, h₇, h₈, h₉⟩ => ⟨h₁, h₂, h₃, h₄, h₅, h₆, h₇, h₈, h₉⟩,
    fun ⟨h₁, h₂, h₃, h₄, h₅, h₆, h₇, h₈, h₉⟩ => ⟨h₁, h₂, h₃, h₄, h₅, h₆, h₇, h₈, h₉⟩⟩

instance (record : Record) : Decidable record.Valid :=
  decidable_of_iff' _ record.valid_iff

/-- The table, as a map from its primary key. -/
abbrev TokenPairPricesTable := String → Option Record

/-- The eight parameters of the upsert. -/
structure BatchColumns where
  liquidityProviderAddresses : List String
  liquidityProviderKinds : List String
  baseTokenAddresses : List String
  quoteTokenAddresses : List String
  baseAmounts : List String
  quoteAmounts : List String
  baseTokenDecimals : List Int
  quoteTokenDecimals : List Int

/-- One row of the unnested parameters; a shorter column yields nulls. -/
structure BatchRow where
  liquidityProviderAddress : Option String
  liquidityProviderKind : Option String
  baseTokenAddress : Option String
  quoteTokenAddress : Option String
  baseAmount : Option String
  quoteAmount : Option String
  baseTokenDecimals : Option Int
  quoteTokenDecimals : Option Int

/-- The columns of a batch, each collected from the prices in the same order. -/
def columnsOf (prices : List TokenPairPrice) : BatchColumns where
  liquidityProviderAddresses := prices.map fun price => price.liquidityProviderAddress
  liquidityProviderKinds := prices.map fun price => price.liquidityProviderKind.asStr
  baseTokenAddresses := prices.map fun price => price.baseTokenAddress
  quoteTokenAddresses := prices.map fun price => price.quoteTokenAddress
  baseAmounts := prices.map fun price => toString price.baseAmount.toNat
  quoteAmounts := prices.map fun price => toString price.quoteAmount.toNat
  baseTokenDecimals := prices.map fun price => (price.baseTokenDecimals.toNat : Int)
  quoteTokenDecimals := prices.map fun price => (price.quoteTokenDecimals.toNat : Int)

namespace BatchColumns

/-- Number of rows: the length of the longest column. -/
def rowCount (columns : BatchColumns) : Nat :=
  [columns.liquidityProviderAddresses.length, columns.liquidityProviderKinds.length,
    columns.baseTokenAddresses.length, columns.quoteTokenAddresses.length,
    columns.baseAmounts.length, columns.quoteAmounts.length, columns.baseTokenDecimals.length,
    columns.quoteTokenDecimals.length].foldl max 0

def row (columns : BatchColumns) (index : Nat) : BatchRow where
  liquidityProviderAddress := columns.liquidityProviderAddresses[index]?
  liquidityProviderKind := columns.liquidityProviderKinds[index]?
  baseTokenAddress := columns.baseTokenAddresses[index]?
  quoteTokenAddress := columns.quoteTokenAddresses[index]?
  baseAmount := columns.baseAmounts[index]?
  quoteAmount := columns.quoteAmounts[index]?
  baseTokenDecimals := columns.baseTokenDecimals[index]?
  quoteTokenDecimals := columns.quoteTokenDecimals[index]?

/-- {lit}`UNNEST` of several arrays: they are zipped. -/
def unnest (columns : BatchColumns) : List BatchRow :=
  (List.range columns.rowCount).map columns.row

end BatchColumns

/-- Cast of a text to {lit}`NUMERIC`, for the decimal texts that occur. -/
def castNumeric (text : String) : Except DatabaseError Nat :=
  if text.toList ≠ [] ∧ text.toList.all Char.isDigit then
    .ok (Nat.ofDigitChars 10 text.toList 0)
  else .error (.invalidTextRepresentation text)

/-- The record that is selected from a row; no column is nullable. -/
def BatchRow.select (row : BatchRow) : Except DatabaseError Record := do
  let liquidityProviderAddress ← okOr .notNullViolation row.liquidityProviderAddress
  let liquidityProviderKind ← okOr .notNullViolation row.liquidityProviderKind
  let baseTokenAddress ← okOr .notNullViolation row.baseTokenAddress
  let quoteTokenAddress ← okOr .notNullViolation row.quoteTokenAddress
  let baseAmount ← castNumeric (← okOr .notNullViolation row.baseAmount)
  let quoteAmount ← castNumeric (← okOr .notNullViolation row.quoteAmount)
  let baseTokenDecimals ← okOr .notNullViolation row.baseTokenDecimals
  let quoteTokenDecimals ← okOr .notNullViolation row.quoteTokenDecimals
  return {
    liquidityProviderAddress, liquidityProviderKind, baseTokenAddress, quoteTokenAddress,
    baseAmount, quoteAmount, baseTokenDecimals, quoteTokenDecimals }

/-- The upsert: every record replaces the row of its address, unless one of them
violates a constraint or two of them have the same address. -/
def upsertTokenPairPrices (table : TokenPairPricesTable) (columns : BatchColumns) :
    Except DatabaseError TokenPairPricesTable := do
  let records ← columns.unnest.mapM BatchRow.select
  if ¬ ∀ record ∈ records, record.Valid then
    throw .constraintViolation
  if ¬ (records.map Record.liquidityProviderAddress).Nodup then
    throw .cardinalityViolation
  return LastWrite.putAll Record.liquidityProviderAddress table records

/-- The record that the upsert stores for a price. -/
def TokenPairPrice.record (price : TokenPairPrice) : Record where
  liquidityProviderAddress := price.liquidityProviderAddress
  liquidityProviderKind := price.liquidityProviderKind.asStr
  baseTokenAddress := price.baseTokenAddress
  quoteTokenAddress := price.quoteTokenAddress
  baseAmount := price.baseAmount.toNat
  quoteAmount := price.quoteAmount.toNat
  baseTokenDecimals := price.baseTokenDecimals.toNat
  quoteTokenDecimals := price.quoteTokenDecimals.toNat

/-- Constraints on a row whose texts are addresses. -/
theorem valid_record_iff {price : TokenPairPrice}
    (hpool : price.liquidityProviderAddress.length ≤ 44)
    (hbase : price.baseTokenAddress.length ≤ 44) (hquote : price.quoteTokenAddress.length ≤ 44) :
    price.record.Valid ↔ price.baseAmount ≠ 0 ∧ price.quoteAmount ≠ 0 ∧
      price.baseTokenAddress ≠ price.quoteTokenAddress := by
  rw [ne_zero_iff_toNat, ne_zero_iff_toNat]
  constructor
  · intro hvalid
    exact ⟨Nat.pos_iff_ne_zero.mp hvalid.baseAmount.2, Nat.pos_iff_ne_zero.mp hvalid.quoteAmount.2,
      hvalid.tokens⟩
  · intro hrow
    rcases hrow with ⟨hbaseAmount, hquoteAmount, htokens⟩
    have hbaseLt := price.baseAmount.toNat_lt
    have hquoteLt := price.quoteAmount.toNat_lt
    have hbaseDecimals := price.baseTokenDecimals.toNat_lt
    have hquoteDecimals := price.quoteTokenDecimals.toNat_lt
    refine ⟨hpool, ?_, hbase, hquote, ?_, ?_, ?_, ?_, htokens⟩
    · change price.liquidityProviderKind.asStr ∈ _
      cases price.liquidityProviderKind <;> decide
    · exact ⟨by simp only [TokenPairPrice.record]; omega, Nat.pos_iff_ne_zero.mpr hbaseAmount⟩
    · exact ⟨by simp only [TokenPairPrice.record]; omega, Nat.pos_iff_ne_zero.mpr hquoteAmount⟩
    · simp only [TokenPairPrice.record]
      omega
    · simp only [TokenPairPrice.record]
      omega

/-! ### The columns are zipped again -/

/-- The text of a number is cast back to it. -/
@[simp]
theorem castNumeric_repr (n : Nat) : castNumeric n.repr = .ok n := by
  have hdigits : (Nat.toDigits 10 n).all Char.isDigit = true := List.all_eq_true.mpr
    fun c hmem => Nat.isDigit_of_mem_toDigits (by omega) le_rfl hmem
  rw [castNumeric, Nat.toList_repr, if_pos ⟨Nat.toDigits_ne_nil, hdigits⟩,
    Nat.ofDigitChars_ten_toDigits]

/-- The columns have one row for each price. -/
theorem rowCount_columnsOf (prices : List TokenPairPrice) :
    (columnsOf prices).rowCount = prices.length := by
  simp [BatchColumns.rowCount, columnsOf]

/-- The row that describes a price. -/
def TokenPairPrice.batchRow (price : TokenPairPrice) : BatchRow where
  liquidityProviderAddress := some price.liquidityProviderAddress
  liquidityProviderKind := some price.liquidityProviderKind.asStr
  baseTokenAddress := some price.baseTokenAddress
  quoteTokenAddress := some price.quoteTokenAddress
  baseAmount := some (toString price.baseAmount.toNat)
  quoteAmount := some (toString price.quoteAmount.toNat)
  baseTokenDecimals := some price.baseTokenDecimals.toNat
  quoteTokenDecimals := some price.quoteTokenDecimals.toNat

/-- Row by row, the unnested columns describe the prices they were collected from. -/
theorem unnest_columnsOf (prices : List TokenPairPrice) :
    (columnsOf prices).unnest = prices.map TokenPairPrice.batchRow := by
  have hlength : (columnsOf prices).unnest.length =
      (prices.map TokenPairPrice.batchRow).length := by
    rw [BatchColumns.unnest, List.length_map, List.length_range, rowCount_columnsOf,
      List.length_map]
  refine List.ext_getElem hlength fun index hindex hprice => ?_
  rw [List.length_map] at hprice
  simp [BatchColumns.unnest, BatchColumns.row, columnsOf, TokenPairPrice.batchRow, hprice]

/-- A row of the batch is read back as the record of its price. -/
theorem select_batchRow (price : TokenPairPrice) : price.batchRow.select = .ok price.record := by
  simp [TokenPairPrice.batchRow, BatchRow.select, okOr, ok_bind, pure, Except.pure,
    TokenPairPrice.record]

/-- The records that are selected from the columns of a batch. -/
theorem mapM_select_unnest (prices : List TokenPairPrice) :
    (columnsOf prices).unnest.mapM BatchRow.select =
      .ok (prices.map TokenPairPrice.record) := by
  rw [unnest_columnsOf, mapM_eq_ok_iff, List.map_map, List.map_map]
  exact List.map_congr_left fun price _ => select_batchRow price

/-- What the upsert of a batch without duplicate addresses does. -/
theorem upsertTokenPairPrices_columnsOf (table : TokenPairPricesTable)
    {prices : List TokenPairPrice}
    (hnodup : (prices.map TokenPairPrice.liquidityProviderAddress).Nodup) :
    upsertTokenPairPrices table (columnsOf prices) =
      if ∀ price ∈ prices, price.record.Valid then
        .ok (LastWrite.putAll Record.liquidityProviderAddress table
          (prices.map TokenPairPrice.record))
      else .error .constraintViolation := by
  have haddresses : ((prices.map TokenPairPrice.record).map
      Record.liquidityProviderAddress).Nodup := by
    rw [List.map_map]
    exact hnodup
  rw [upsertTokenPairPrices, mapM_select_unnest, ok_bind]
  simp only [List.forall_mem_map, haddresses, not_true_eq_false, if_false]
  by_cases hvalid : ∀ price ∈ prices, price.record.Valid
  · rw [if_neg (not_not.mpr hvalid), if_pos hvalid]
    rfl
  · rw [if_pos hvalid, if_neg hvalid]
    rfl

/-! ## ClickHouse -/

/-- A row of the table {lit}`real_time_prices`. -/
structure RealTimePriceRow where
  liquidityProviderAddress : String
  liquidityProviderKind : LiquidityProviderKind
  baseTokenAddress : String
  quoteTokenAddress : String
  price : Int
  volume : Int
  time : Int
  sequence : UInt64
deriving DecidableEq, Repr

/-- A row of the table {lit}`token_pair_prices`. -/
structure LatestTokenPairPriceRow where
  liquidityProviderAddress : String
  liquidityProviderKind : LiquidityProviderKind
  baseTokenAddress : String
  quoteTokenAddress : String
  baseAmount : UInt64
  quoteAmount : UInt64
  baseTokenDecimals : UInt8
  quoteTokenDecimals : UInt8
  price : Int
  updatedAt : Int
deriving DecidableEq, Repr

/-- The calls that make up one insert. -/
inductive InsertCall where
  | insert
  | write (index : Nat)
  | finish
deriving DecidableEq, Repr

/-! ## The saver -/

/-- The tables that the saver writes to. -/
structure Tables where
  tokenPairPrices : TokenPairPricesTable
  latestTokenPairPrices : List LatestTokenPairPriceRow
  realTimePrices : List RealTimePriceRow

/-- Tables without rows. -/
def Tables.empty : Tables where
  tokenPairPrices _ := none
  latestTokenPairPrices := []
  realTimePrices := []

/-- What a call meets: the state of the connections, and the system clock in
milliseconds, unless it is before the Unix epoch. -/
structure Environment where
  connectionFailure : Option String
  clickHouseFailure : String → InsertCall → Option ClickHouseError
  clock : Option Nat

/-- An environment in which every connection works. -/
def Environment.working (millis : Nat) : Environment where
  connectionFailure := none
  clickHouseFailure _ _ := none
  clock := some millis

/-- A function of the saver. -/
abbrev Save (α : Type) := Effect SaverError Tables α

/-- Execute the upsert. -/
def execute (env : Environment) (columns : BatchColumns) : Save Unit := do
  if let some message := env.connectionFailure then
    throw (.database (.connection message))
  let tables ← get
  let table ← ofResult
    ((upsertTokenPairPrices tables.tokenPairPrices columns).mapError .database)
  set { tables with tokenPairPrices := table }

/-- The clock as an {lit}`i64`. -/
def currentTimeMillis (env : Environment) : Except SaverError Int :=
  match env.clock with
  | none => .error .systemClockBeforeUnixEpoch
  | some millis => if millis < 2 ^ 63 then .ok millis else .error (.decimalOverflow "time")

/-- One call of an insert. -/
def insertCall (env : Environment) (table : String) (call : InsertCall) :
    Except SaverError Unit :=
  match env.clickHouseFailure table call with
  | some error => .error (.clickHouse error)
  | none => .ok ()

/-- Convert the prices from an index on, and write each row before the next price is
converted. -/
def writeRows {ρ : Type} (env : Environment) (table : String)
    (row : TokenPairPrice → Except SaverError ρ) :
    Nat → List TokenPairPrice → Except SaverError (List ρ)
  | _, [] => .ok []
  | index, price :: prices => do
      let row' ← row price
      insertCall env table (.write index)
      let rows ← writeRows env table row (index + 1) prices
      return row' :: rows

/-- The rows of an insert that ends. -/
def insertRows {ρ : Type} (env : Environment) (table : String)
    (row : TokenPairPrice → Except SaverError ρ) (prices : List TokenPairPrice) :
    Except SaverError (List ρ) := do
  insertCall env table .insert
  let rows ← writeRows env table row 0 prices
  insertCall env table .finish
  return rows

def latestRow (updatedAt : Int) (price : TokenPairPrice) :
    Except SaverError LatestTokenPairPriceRow := do
  let normalized ← normalizedPrice price
  return {
    liquidityProviderAddress := price.liquidityProviderAddress
    liquidityProviderKind := price.liquidityProviderKind
    baseTokenAddress := price.baseTokenAddress
    quoteTokenAddress := price.quoteTokenAddress
    baseAmount := price.baseAmount
    quoteAmount := price.quoteAmount
    baseTokenDecimals := price.baseTokenDecimals
    quoteTokenDecimals := price.quoteTokenDecimals
    price := normalized
    updatedAt }

def realTimeRow (time : Int) (price : TokenPairPrice) : Except SaverError RealTimePriceRow := do
  let normalized ← normalizedPrice price
  let volume ← normalizedVolume price
  return {
    liquidityProviderAddress := price.liquidityProviderAddress
    liquidityProviderKind := price.liquidityProviderKind
    baseTokenAddress := price.baseTokenAddress
    quoteTokenAddress := price.quoteTokenAddress
    price := normalized
    volume
    time
    sequence := price.sequence }

def saveLatestTokenPairPrices (env : Environment) (prices : List TokenPairPrice)
    (updatedAt : Int) : Save Unit := do
  let rows ← ofResult (insertRows env "token_pair_prices" (latestRow updatedAt) prices)
  modify fun tables =>
    { tables with latestTokenPairPrices := tables.latestTokenPairPrices ++ rows }

def saveRealTimePrices (env : Environment) (prices : List TokenPairPrice) (time : Int) :
    Save Unit := do
  let rows ← ofResult (insertRows env "real_time_prices" (realTimeRow time) prices)
  modify fun tables => { tables with realTimePrices := tables.realTimePrices ++ rows }

/-- Save the prices of a block. -/
def saveBlockEvents (env : Environment) (events : BlockEvents) : Save Nat := do
  let prices ← ofResult (collectTokenPairPrices events)
  if prices.isEmpty then
    return 0
  let latestPrices := deduplicateTokenPairPrices prices
  execute env (columnsOf latestPrices)
  let time ← ofResult (currentTimeMillis env)
  saveLatestTokenPairPrices env latestPrices time
  saveRealTimePrices env prices time
  return prices.length

/-! ## What an insert holds -/

section Inserts

variable {ρ : Type} {env : Environment} {table : String}
  {row : TokenPairPrice → Except SaverError ρ} {prices : List TokenPairPrice} {rows : List ρ}
  {error : SaverError}

/-- The only errors of an insert are those of the database. -/
theorem insertCall_eq_error {call : InsertCall}
    (hcall : insertCall env table call = .error error) : ∃ found, error = .clickHouse found := by
  unfold insertCall at hcall
  split at hcall
  · next found _ => exact ⟨found, (Except.error.inj hcall).symm⟩
  · cases hcall

/-- Rows that are written are those of the prices. -/
theorem writeRows_eq_ok {index : Nat} (hrows : writeRows env table row index prices = .ok rows) :
    List.Forall₂ (fun price found => row price = .ok found) prices rows := by
  induction prices generalizing index rows with
  | nil =>
      have hnil : [] = rows := Except.ok.inj hrows
      rw [← hnil]
      exact .nil
  | cons price prices ih =>
      simp only [writeRows, except_bind_eq_ok_iff, pure, Except.pure, Except.ok.injEq] at hrows
      rcases hrows with ⟨found, hfound, -, -, others, hothers, rfl⟩
      exact .cons hfound (ih hothers)

/-- An insert that ends holds one row for each price. -/
theorem insertRows_eq_ok (hrows : insertRows env table row prices = .ok rows) :
    List.Forall₂ (fun price found => row price = .ok found) prices rows := by
  simp only [insertRows, except_bind_eq_ok_iff, pure, Except.pure, Except.ok.injEq] at hrows
  rcases hrows with ⟨-, -, found, hfound, -, -, rfl⟩
  exact writeRows_eq_ok hfound

/-- Writing rows fails at a row that has an error, or in the database. -/
theorem writeRows_eq_error {index : Nat}
    (hrows : writeRows env table row index prices = .error error) :
    (∃ price ∈ prices, row price = .error error) ∨ ∃ found, error = .clickHouse found := by
  induction prices generalizing index with
  | nil => cases hrows
  | cons price prices ih =>
      simp only [writeRows, except_bind_eq_error_iff, pure, Except.pure, reduceCtorEq, and_false,
        exists_false, or_false] at hrows
      rcases hrows with hprice | ⟨-, -, hcall | ⟨-, -, hothers⟩⟩
      · exact .inl ⟨price, List.mem_cons_self, hprice⟩
      · exact .inr (insertCall_eq_error hcall)
      · rcases ih hothers with ⟨other, hmem, hother⟩ | hfound
        · exact .inl ⟨other, List.mem_cons_of_mem price hmem, hother⟩
        · exact .inr hfound

/-- An insert fails because a price cannot be converted, or because of ClickHouse. -/
theorem insertRows_eq_error (hrows : insertRows env table row prices = .error error) :
    (∃ price ∈ prices, row price = .error error) ∨ ∃ found, error = .clickHouse found := by
  simp only [insertRows, except_bind_eq_error_iff, pure, Except.pure, reduceCtorEq, and_false,
    exists_false, or_false] at hrows
  rcases hrows with hcall | ⟨-, -, hwrite | ⟨-, -, hcall⟩⟩
  · exact .inr (insertCall_eq_error hcall)
  · exact writeRows_eq_error hwrite
  · exact .inr (insertCall_eq_error hcall)

end Inserts

/-! ## One call -/

section Calls

variable {env : Environment} {tables tables' : Tables}

/-- The tables after the upsert of the latest prices. -/
def Tables.upserted (tables : Tables) (prices : List TokenPairPrice) : Tables :=
  { tables with
    tokenPairPrices := LastWrite.putAll Record.liquidityProviderAddress tables.tokenPairPrices
      ((deduplicateTokenPairPrices prices).map TokenPairPrice.record) }

/-- The latest prices name no liquidity provider twice. -/
theorem nodup_deduplicateTokenPairPrices (prices : List TokenPairPrice) :
    ((deduplicateTokenPairPrices prices).map TokenPairPrice.liquidityProviderAddress).Nodup :=
  LastWrite.nodup_deduplicate TokenPairPrice.liquidityProviderAddress prices

/-- A successful upsert had valid rows only and stores all of them. -/
theorem execute_eq_ok {prices : List TokenPairPrice} {done : Unit}
    (hexecute : execute env (columnsOf (deduplicateTokenPairPrices prices)) tables =
      .ok done tables') :
    (∀ price ∈ deduplicateTokenPairPrices prices, price.record.Valid) ∧
      tables' = tables.upserted prices := by
  unfold execute at hexecute
  cases hconnection : env.connectionFailure with
  | some message =>
      rw [hconnection] at hexecute
      cases hexecute
  | none =>
      rw [hconnection] at hexecute
      simp only [effect_bind_eq_ok_iff, ofResult_eq_ok_iff, mapError_eq_ok_iff,
        upsertTokenPairPrices_columnsOf _ (nodup_deduplicateTokenPairPrices prices)] at hexecute
      rcases hexecute with ⟨_, _, hget, table, _, ⟨htable, rfl⟩, hset⟩
      cases hget
      cases hset
      split at htable
      · next hvalid =>
          rw [← Except.ok.inj htable]
          exact ⟨hvalid, rfl⟩
      · cases htable

/-- PostgreSQL runs a statement entirely or not at all. -/
theorem execute_eq_error {columns : BatchColumns} {error : SaverError}
    (hexecute : execute env columns tables = .error error tables') :
    (∃ found, error = .database found) ∧ tables' = tables := by
  unfold execute at hexecute
  cases hconnection : env.connectionFailure with
  | some message =>
      rw [hconnection] at hexecute
      cases hexecute
      exact ⟨⟨.connection message, rfl⟩, rfl⟩
  | none =>
      rw [hconnection] at hexecute
      simp only [effect_bind_eq_error_iff, ofResult_eq_error_iff] at hexecute
      rcases hexecute with hget | ⟨_, _, hget, ⟨htable, rfl⟩ | ⟨_, _, -, hset⟩⟩
      · cases hget
      · cases hget
        cases hupsert : upsertTokenPairPrices tables.tokenPairPrices columns with
        | error failure =>
            rw [hupsert] at htable
            exact ⟨⟨failure, (Except.error.inj htable).symm⟩, rfl⟩
        | ok table =>
            rw [hupsert] at htable
            cases htable
      · cases hset

/-- The tables after a successful call that stored something. -/
structure Stored (env : Environment) (tables : Tables) (prices : List TokenPairPrice)
    (tables' : Tables) : Prop where
  nonempty : prices ≠ []
  valid : ∀ price ∈ deduplicateTokenPairPrices prices, price.record.Valid
  inserted : ∃ time latestRows rows, currentTimeMillis env = .ok time ∧
    List.Forall₂ (fun price row => latestRow time price = .ok row)
      (deduplicateTokenPairPrices prices) latestRows ∧
    List.Forall₂ (fun price row => realTimeRow time price = .ok row) prices rows ∧
    tables' = { tables.upserted prices with
      latestTokenPairPrices := tables.latestTokenPairPrices ++ latestRows
      realTimePrices := tables.realTimePrices ++ rows }

/-- The tables after a successful call. -/
theorem saveBlockEvents_eq_ok {events : BlockEvents} {count : Nat}
    (hsave : saveBlockEvents env events tables = .ok count tables') :
    ∃ prices, collectTokenPairPrices events = .ok prices ∧ count = prices.length ∧
      (prices = [] ∧ tables' = tables ∨ Stored env tables prices tables') := by
  unfold saveBlockEvents at hsave
  rw [effect_bind_eq_ok_iff] at hsave
  rcases hsave with ⟨prices, _, hresult, hsave⟩
  rcases ofResult_eq_ok_iff.mp hresult with ⟨hcollect, rfl⟩
  refine ⟨prices, hcollect, ?_⟩
  cases prices with
  | nil =>
      cases hsave
      exact ⟨rfl, .inl ⟨rfl, rfl⟩⟩
  | cons price prices =>
      simp only [List.isEmpty_cons, Bool.false_eq_true, if_false, saveLatestTokenPairPrices,
        saveRealTimePrices, effect_bind_eq_ok_iff, ofResult_eq_ok_iff] at hsave
      rcases hsave with ⟨_, _, hexecute, time, _, ⟨htime, rfl⟩, _, _,
        ⟨latestRows, _, ⟨hlatest, rfl⟩, hmodify⟩, _, _, ⟨rows, _, ⟨hrows, rfl⟩, hmodify'⟩, hpure⟩
      cases hmodify
      cases hmodify'
      cases hpure
      rcases execute_eq_ok hexecute with ⟨hvalid, rfl⟩
      exact ⟨rfl, .inr ⟨List.cons_ne_nil _ _, hvalid, time, latestRows, rows, htime,
        insertRows_eq_ok hlatest, insertRows_eq_ok hrows, rfl⟩⟩

/-- The tables after a failed call, for each step that can fail. -/
inductive Failed (env : Environment) (events : BlockEvents) (tables : Tables)
    (error : SaverError) (tables' : Tables) : Prop where
  | collect (herror : collectTokenPairPrices events = .error error) (htables : tables' = tables)
  | upsert (found : DatabaseError) (herror : error = .database found) (htables : tables' = tables)
  | clock (prices : List TokenPairPrice)
      (hcollect : collectTokenPairPrices events = .ok prices)
      (hvalid : ∀ price ∈ deduplicateTokenPairPrices prices, price.record.Valid)
      (herror : currentTimeMillis env = .error error) (htables : tables' = tables.upserted prices)
  | latest (prices : List TokenPairPrice) (time : Int)
      (hcollect : collectTokenPairPrices events = .ok prices)
      (hvalid : ∀ price ∈ deduplicateTokenPairPrices prices, price.record.Valid)
      (htime : currentTimeMillis env = .ok time)
      (herror : insertRows env "token_pair_prices" (latestRow time)
        (deduplicateTokenPairPrices prices) = .error error)
      (htables : tables' = tables.upserted prices)
  | realTime (prices : List TokenPairPrice) (time : Int)
      (latestRows : List LatestTokenPairPriceRow)
      (hcollect : collectTokenPairPrices events = .ok prices)
      (hvalid : ∀ price ∈ deduplicateTokenPairPrices prices, price.record.Valid)
      (htime : currentTimeMillis env = .ok time)
      (hlatest : insertRows env "token_pair_prices" (latestRow time)
        (deduplicateTokenPairPrices prices) = .ok latestRows)
      (herror : insertRows env "real_time_prices" (realTimeRow time) prices = .error error)
      (htables : tables' = { tables.upserted prices with
        latestTokenPairPrices := tables.latestTokenPairPrices ++ latestRows })

/-- A save that fails does so in one of the ways that are listed. -/
theorem saveBlockEvents_eq_error {events : BlockEvents} {error : SaverError}
    (hsave : saveBlockEvents env events tables = .error error tables') :
    Failed env events tables error tables' := by
  unfold saveBlockEvents at hsave
  rw [effect_bind_eq_error_iff] at hsave
  rcases hsave with hresult | ⟨prices, _, hresult, hsave⟩
  · rcases ofResult_eq_error_iff.mp hresult with ⟨hcollect, rfl⟩
    exact .collect hcollect rfl
  rcases ofResult_eq_ok_iff.mp hresult with ⟨hcollect, rfl⟩
  cases prices with
  | nil => cases hsave
  | cons price prices =>
      simp only [List.isEmpty_cons, Bool.false_eq_true, if_false, saveLatestTokenPairPrices,
        saveRealTimePrices, effect_bind_eq_error_iff, effect_bind_eq_ok_iff, ofResult_eq_ok_iff,
        ofResult_eq_error_iff] at hsave
      rcases hsave with hexecute | ⟨_, _, hexecute, hsave⟩
      · rcases execute_eq_error hexecute with ⟨⟨found, hfound⟩, rfl⟩
        exact .upsert found hfound rfl
      rcases execute_eq_ok hexecute with ⟨hvalid, rfl⟩
      rcases hsave with ⟨hclock, rfl⟩ | ⟨time, _, ⟨htime, rfl⟩, hsave⟩
      · exact .clock _ hcollect hvalid hclock rfl
      rcases hsave with (⟨hlatest, rfl⟩ | ⟨_, _, -, hmodify⟩) |
        ⟨_, _, ⟨latestRows, _, ⟨hlatest, rfl⟩, hmodify⟩, hsave⟩
      · exact .latest _ time hcollect hvalid htime hlatest rfl
      · cases hmodify
      cases hmodify
      rcases hsave with (⟨hrows, rfl⟩ | ⟨_, _, -, hmodify⟩) | ⟨_, _, -, hpure⟩
      · exact .realTime _ time latestRows hcollect hvalid htime hlatest hrows rfl
      · cases hmodify
      · cases hpure

/-! ### Calls in a working environment -/

/-- A database that works writes rows that have no error. -/
theorem writeRows_working {ρ : Type} (millis : Nat) (table : String)
    {row : TokenPairPrice → Except SaverError ρ} {prices : List TokenPairPrice}
    (hrows : ∀ price ∈ prices, ∃ found, row price = .ok found) (index : Nat) :
    ∃ rows, writeRows (.working millis) table row index prices = .ok rows := by
  induction prices generalizing index with
  | nil => exact ⟨[], rfl⟩
  | cons price prices ih =>
      rcases hrows price List.mem_cons_self with ⟨found, hfound⟩
      have hothers : ∀ other ∈ prices, ∃ found, row other = .ok found := fun other hother =>
        hrows other (List.mem_cons_of_mem price hother)
      rcases ih hothers (index + 1) with ⟨rows, hwrite⟩
      refine ⟨found :: rows, ?_⟩
      rw [writeRows, hfound, ok_bind, hwrite]
      rfl

/-- An insert ends if every price can be converted. -/
theorem insertRows_working {ρ : Type} (millis : Nat) (table : String)
    {row : TokenPairPrice → Except SaverError ρ} {prices : List TokenPairPrice}
    (hrows : ∀ price ∈ prices, ∃ found, row price = .ok found) :
    ∃ rows, insertRows (.working millis) table row prices = .ok rows := by
  rcases writeRows_working millis table hrows 0 with ⟨rows, hwrite⟩
  refine ⟨rows, ?_⟩
  rw [insertRows, hwrite]
  rfl

/-- A database that works stores the batch if its rows are valid. -/
theorem execute_working (millis : Nat) {prices : List TokenPairPrice}
    (hvalid : ∀ price ∈ deduplicateTokenPairPrices prices, price.record.Valid) (tables : Tables) :
    execute (.working millis) (columnsOf (deduplicateTokenPairPrices prices)) tables =
      .ok () (tables.upserted prices) := by
  have hupsert := upsertTokenPairPrices_columnsOf tables.tokenPairPrices
    (nodup_deduplicateTokenPairPrices prices)
  rw [if_pos hvalid] at hupsert
  have hstep : (ofResult ((upsertTokenPairPrices tables.tokenPairPrices
      (columnsOf (deduplicateTokenPairPrices prices))).mapError .database) : Save _) tables =
      .ok (tables.upserted prices).tokenPairPrices tables :=
    ofResult_eq_ok_iff.mpr ⟨mapError_eq_ok_iff.mpr hupsert, rfl⟩
  have hget : (get : Save Tables) tables = .ok tables tables := rfl
  have hconnection : (Environment.working millis).connectionFailure = none := rfl
  rw [execute, hconnection]
  dsimp only
  rw [effect_bind_of_ok hget, effect_bind_of_ok hstep]
  rfl

/-- What a call does once the latest prices are stored. -/
theorem saveBlockEvents_working {millis : Nat} (hmillis : millis < 2 ^ 63) {events : BlockEvents}
    {prices : List TokenPairPrice} (hcollect : collectTokenPairPrices events = .ok prices)
    (hnonempty : prices ≠ [])
    (hvalid : ∀ price ∈ deduplicateTokenPairPrices prices, price.record.Valid)
    {latestRows : List LatestTokenPairPriceRow}
    (hlatest : insertRows (.working millis) "token_pair_prices" (latestRow millis)
      (deduplicateTokenPairPrices prices) = .ok latestRows) (tables : Tables) :
    saveBlockEvents (.working millis) events tables =
      (do
        saveRealTimePrices (.working millis) prices millis
        return prices.length : Save Nat)
        { tables.upserted prices with
          latestTokenPairPrices := tables.latestTokenPairPrices ++ latestRows } := by
  have htime : currentTimeMillis (.working millis) = .ok (millis : Int) := if_pos hmillis
  have hisEmpty : ¬ prices.isEmpty = true := fun hempty =>
    hnonempty (List.isEmpty_iff.mp hempty)
  have hinsert : saveLatestTokenPairPrices (.working millis) (deduplicateTokenPairPrices prices)
      millis (tables.upserted prices) =
      .ok () { tables.upserted prices with
        latestTokenPairPrices := tables.latestTokenPairPrices ++ latestRows } :=
    effect_bind_of_ok (ofResult_eq_ok_iff.mpr ⟨hlatest, rfl⟩)
  rw [saveBlockEvents, effect_bind_of_ok (ofResult_eq_ok_iff.mpr ⟨hcollect, rfl⟩), if_neg hisEmpty,
    effect_bind_of_ok (execute_working millis hvalid tables),
    effect_bind_of_ok (ofResult_eq_ok_iff.mpr ⟨htime, rfl⟩), effect_bind_of_ok hinsert]

/-- The table accepts the row of a price, and its amounts can be converted. -/
structure TokenPairPrice.Storable (price : TokenPairPrice) : Prop where
  valid : price.record.Valid
  normalizedPrice : ∃ found, normalizedPrice price = .ok found
  normalizedVolume : ∃ found, normalizedVolume price = .ok found

/-- A price that can be stored has a latest row. -/
theorem TokenPairPrice.Storable.latestRow {price : TokenPairPrice} (hprice : price.Storable)
    (updatedAt : Int) : ∃ row, latestRow updatedAt price = .ok row := by
  rcases hprice.normalizedPrice with ⟨found, hfound⟩
  exact ⟨_, by rw [Saver.latestRow, hfound, ok_bind]; rfl⟩

/-- A price that can be stored has a row. -/
theorem TokenPairPrice.Storable.realTimeRow {price : TokenPairPrice} (hprice : price.Storable)
    (time : Int) : ∃ row, realTimeRow time price = .ok row := by
  rcases hprice.normalizedPrice with ⟨found, hfound⟩
  rcases hprice.normalizedVolume with ⟨volume, hvolume⟩
  exact ⟨_, by rw [Saver.realTimeRow, hfound, ok_bind, hvolume, ok_bind]; rfl⟩

/-- In a working environment a block of storable prices is saved. -/
theorem saveBlockEvents_of_storable {millis : Nat} (hmillis : millis < 2 ^ 63)
    {events : BlockEvents} {prices : List TokenPairPrice}
    (hcollect : collectTokenPairPrices events = .ok prices)
    (hstorable : ∀ price ∈ prices, price.Storable) (tables : Tables) :
    ∃ tables', saveBlockEvents (.working millis) events tables = .ok prices.length tables' := by
  have hkept : ∀ price ∈ deduplicateTokenPairPrices prices, price.Storable := fun price hmem =>
    hstorable price (LastWrite.mem_of_mem_deduplicate hmem)
  by_cases hempty : prices = []
  · subst hempty
    refine ⟨tables, ?_⟩
    rw [saveBlockEvents, effect_bind_of_ok (ofResult_eq_ok_iff.mpr ⟨hcollect, rfl⟩)]
    rfl
  · rcases insertRows_working millis "token_pair_prices" (fun price hmem =>
      (hkept price hmem).latestRow millis) with ⟨latestRows, hlatest⟩
    rcases insertRows_working millis "real_time_prices" (fun price hmem =>
      (hstorable price hmem).realTimeRow millis) with ⟨rows, hrows⟩
    refine ⟨{ tables.upserted prices with
      latestTokenPairPrices := tables.latestTokenPairPrices ++ latestRows
      realTimePrices := tables.realTimePrices ++ rows }, ?_⟩
    rw [saveBlockEvents_working hmillis hcollect hempty (fun price hmem => (hkept price hmem).valid)
      hlatest]
    have hinsert : saveRealTimePrices (.working millis) prices millis
        { tables.upserted prices with
          latestTokenPairPrices := tables.latestTokenPairPrices ++ latestRows } =
        .ok () { tables.upserted prices with
          latestTokenPairPrices := tables.latestTokenPairPrices ++ latestRows
          realTimePrices := tables.realTimePrices ++ rows } :=
      effect_bind_of_ok (ofResult_eq_ok_iff.mpr ⟨hrows, rfl⟩)
    rw [effect_bind_of_ok hinsert]
    rfl

end Calls

end Saver
end PumpRealtimePrices
