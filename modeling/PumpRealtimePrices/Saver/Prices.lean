import Mathlib.Data.List.Forall2
import PumpRealtimePrices.Library.LastWrite
import PumpRealtimePrices.Library.Rust
import PumpRealtimePrices.Parser.Events
import PumpRealtimePrices.Programs.Pumpfun
import PumpRealtimePrices.Programs.Pumpswap

/-!
# Token pair prices

What the saver computes before it talks to a database: the base and quote side
of every swap of a block, the rows that are kept for each liquidity provider,
and the fixed-point values of the decimal columns.

Main results:

- Theorem {lit}`collectTokenPairPrices_eq_ok_iff`: collecting succeeds with one row
  for each swap that is not ignored, in the order of the swaps.
- Theorem {lit}`tokenDecimals_eq_error_iff`: only a mint other than wrapped SOL can lack
  its decimals.
-/

namespace PumpRealtimePrices
namespace Saver

open PumpRealtimePrices.Parser

/-! ## Constants -/

def wrappedSolMint : String := "So11111111111111111111111111111111111111112"

def wrappedSolDecimals : UInt8 := 9

def decimalScale : Nat := 18

/-! ## Errors -/

/-- Errors that PostgreSQL reports for the upsert. -/
inductive DatabaseError where
  | connection (message : String)
  | notNullViolation
  | invalidTextRepresentation (text : String)
  | constraintViolation
  | cardinalityViolation
deriving DecidableEq, Repr

/-- Errors of a call to the ClickHouse client. -/
structure ClickHouseError where
  message : String
deriving DecidableEq, Repr

/-- Errors of saving a block. -/
inductive SaverError where
  | database (error : DatabaseError)
  | clickHouse (error : ClickHouseError)
  | systemClockBeforeUnixEpoch
  | decimalOverflow (column : String)
  | zeroBaseAmount
  | unsupportedTokenSwapProgram (programId : String)
  | pumpfunSwapWithoutWrappedSol
  | missingPumpSwapPoolMints
  | pumpSwapMintsDoNotMatchSwap
  | missingTokenDecimals (mint : String)
deriving DecidableEq, Repr

/-- Text of an error, with the text that the PostgreSQL client gives its own errors. -/
def SaverError.display (databaseErrorToString : DatabaseError → String) : SaverError → String
  | .database error => s!"database operation failed: {databaseErrorToString error}"
  | .clickHouse error => s!"ClickHouse operation failed: {error.message}"
  | .systemClockBeforeUnixEpoch => "system clock is before the Unix epoch"
  | .decimalOverflow column => s!"{column} does not fit ClickHouse Decimal(38, 18)"
  | .zeroBaseAmount => "cannot calculate a price with zero base amount"
  | .unsupportedTokenSwapProgram programId =>
      s!"cannot save TokenSwap from unsupported program {programId}"
  | .pumpfunSwapWithoutWrappedSol => "Pump.fun bonding curve swap does not include wrapped SOL"
  | .missingPumpSwapPoolMints => "PumpSwap swap does not include the parent pool mints"
  | .pumpSwapMintsDoNotMatchSwap => "PumpSwap swap mints do not match the parent pool mints"
  | .missingTokenDecimals mint =>
      s!"transaction token balances do not provide decimals for {mint}"

/-! ## Rows -/

inductive LiquidityProviderKind where
  | amm
  | bondingCurve
deriving DecidableEq, Repr

def LiquidityProviderKind.asStr : LiquidityProviderKind → String
  | .amm => "amm"
  | .bondingCurve => "bonding_curve"

/-- A price: the two sides of a swap, and the place of the swap in its block. -/
structure TokenPairPrice where
  liquidityProviderAddress : String
  liquidityProviderKind : LiquidityProviderKind
  baseTokenAddress : String
  quoteTokenAddress : String
  baseAmount : UInt64
  quoteAmount : UInt64
  baseTokenDecimals : UInt8
  quoteTokenDecimals : UInt8
  sequence : UInt64
deriving DecidableEq, Repr

/-- Base and quote side of a swap. -/
structure Sides where
  baseTokenAddress : String
  quoteTokenAddress : String
  baseAmount : UInt64
  quoteAmount : UInt64
deriving DecidableEq, Repr

/-! ## From a swap to a price -/

/-- Decimals of a mint; those of wrapped SOL are known without a balance. -/
def tokenDecimals (tokenDecimals : TokenDecimals) (mint : String) : Except SaverError UInt8 :=
  Rust.okOr (.missingTokenDecimals mint)
    (tokenDecimals[mint]?.or (if mint = wrappedSolMint then some wrappedSolDecimals else none))

/-- Kind of the liquidity providers of a program. -/
def liquidityProviderKind (programId : String) : Except SaverError LiquidityProviderKind :=
  if programId = Pumpfun.programId then .ok .bondingCurve
  else if programId = Pumpswap.programId then .ok .amm
  else .error (.unsupportedTokenSwapProgram programId)

/-- Sides of a PumpSwap swap: the pool's mints, whichever way the user traded. -/
def ammSides (swap : TokenSwap) : Except SaverError Sides := do
  let baseMint ← Rust.okOr .missingPumpSwapPoolMints swap.baseMint
  let quoteMint ← Rust.okOr .missingPumpSwapPoolMints swap.quoteMint
  if swap.inputMint = baseMint ∧ swap.outputMint = quoteMint then
    return ⟨baseMint, quoteMint, swap.inputAmount, swap.outputAmount⟩
  else if swap.inputMint ≠ baseMint ∧ swap.outputMint ≠ quoteMint ∧
      swap.inputMint = quoteMint ∧ swap.outputMint = baseMint then
    return ⟨baseMint, quoteMint, swap.outputAmount, swap.inputAmount⟩
  else throw .pumpSwapMintsDoNotMatchSwap

/-- Sides of a Pump.fun swap: wrapped SOL is the quote side. -/
def bondingCurveSides (swap : TokenSwap) : Except SaverError Sides :=
  if swap.inputMint ≠ wrappedSolMint ∧ swap.outputMint = wrappedSolMint then
    .ok ⟨swap.inputMint, swap.outputMint, swap.inputAmount, swap.outputAmount⟩
  else if swap.inputMint = wrappedSolMint ∧ swap.outputMint ≠ wrappedSolMint then
    .ok ⟨swap.outputMint, swap.inputMint, swap.outputAmount, swap.inputAmount⟩
  else .error .pumpfunSwapWithoutWrappedSol

/-- Sides of a swap of a liquidity provider. -/
def sidesOf (swap : TokenSwap) : LiquidityProviderKind → Except SaverError Sides
  | .amm => ammSides swap
  | .bondingCurve => bondingCurveSides swap

/-- Place of an instruction in its block, as one number. -/
def sequenceOf (transaction : TransactionEvents) (instruction : InstructionEvents) : UInt64 :=
  (UInt64.ofNat transaction.transactionIndex <<< 32) ||| UInt64.ofNat instruction.executionOrdinal

/-- Price of a swap.  The base mint's decimals are looked up before the quote mint's. -/
def tokenPairPrice (transaction : TransactionEvents) (instruction : InstructionEvents)
    (swap : TokenSwap) : Except SaverError TokenPairPrice := do
  let programId ← Rust.okOr (.unsupportedTokenSwapProgram "unknown") instruction.programId
  let kind ← liquidityProviderKind programId
  let sides ← sidesOf swap kind
  let baseTokenDecimals ← tokenDecimals transaction.tokenDecimals sides.baseTokenAddress
  let quoteTokenDecimals ← tokenDecimals transaction.tokenDecimals sides.quoteTokenAddress
  return {
    liquidityProviderAddress := swap.pool
    liquidityProviderKind := kind
    baseTokenAddress := sides.baseTokenAddress
    quoteTokenAddress := sides.quoteTokenAddress
    baseAmount := sides.baseAmount
    quoteAmount := sides.quoteAmount
    baseTokenDecimals
    quoteTokenDecimals
    sequence := sequenceOf transaction instruction }

/-! ## From a block to its prices -/

/-- Prices of the entries of one transaction. -/
def collectInstructionPrices (transaction : TransactionEvents) :
    List InstructionEvents → Except SaverError (List TokenPairPrice)
  | [] => .ok []
  | instruction :: instructions =>
      match instruction.result with
      | .ok (.tokenSwap swap) =>
          match tokenPairPrice transaction instruction swap with
          | .ok price => do
              let prices ← collectInstructionPrices transaction instructions
              return price :: prices
          | .error .pumpfunSwapWithoutWrappedSol =>
              collectInstructionPrices transaction instructions
          | .error error => .error error
      | _ => collectInstructionPrices transaction instructions

/-- Prices of a list of transactions. -/
def collectTransactionPrices : List TransactionEvents → Except SaverError (List TokenPairPrice)
  | [] => .ok []
  | transaction :: transactions => do
      let prices ← collectInstructionPrices transaction transaction.instructions
      let otherPrices ← collectTransactionPrices transactions
      return prices ++ otherPrices

/-- Prices of a block, in execution order. -/
def collectTokenPairPrices (events : BlockEvents) : Except SaverError (List TokenPairPrice) :=
  collectTransactionPrices events.transactions

/-- The last price of each liquidity provider, in the order of their addresses. -/
def deduplicateTokenPairPrices (prices : List TokenPairPrice) : List TokenPairPrice :=
  LastWrite.deduplicate TokenPairPrice.liquidityProviderAddress prices

/-! ## Decimal columns -/

/-- Conversion to {lit}`i128`. -/
def decimalI128 (value : Nat) (column : String) : Except SaverError Int :=
  if value < 2 ^ 127 then .ok value else .error (.decimalOverflow column)

/-- Price of one base unit in quote units, scaled by {lit}`10 ^ 18`. -/
def normalizedPrice (price : TokenPairPrice) : Except SaverError Int :=
  if price.baseAmount = 0 then .error .zeroBaseAmount
  else
    let numerator := price.quoteAmount.toNat * 10 ^ (price.baseTokenDecimals.toNat + decimalScale)
    let denominator := price.baseAmount.toNat * 10 ^ price.quoteTokenDecimals.toNat
    decimalI128 (numerator / denominator) "price"

/-- Base units of a swap, scaled by {lit}`10 ^ 18`. -/
def normalizedVolume (price : TokenPairPrice) : Except SaverError Int :=
  decimalI128
    (price.baseAmount.toNat * 10 ^ decimalScale / 10 ^ price.baseTokenDecimals.toNat) "volume"

/-- The two ways in which a price cannot be computed. -/
theorem normalizedPrice_eq_error {price : TokenPairPrice} {error : SaverError}
    (herror : normalizedPrice price = .error error) :
    price.baseAmount = 0 ∧ error = .zeroBaseAmount ∨
      price.baseAmount ≠ 0 ∧ error = .decimalOverflow "price" := by
  unfold normalizedPrice decimalI128 at herror
  split at herror
  · next hzero => exact .inl ⟨hzero, (Except.error.inj herror).symm⟩
  · next hne =>
      dsimp only at herror
      split at herror
      · cases herror
      · exact .inr ⟨hne, (Except.error.inj herror).symm⟩

/-! ## Prices of single swaps -/

/-- Decimals come from the balances of the transaction, and those of wrapped SOL are known
without them. -/
theorem tokenDecimals_eq_ok_iff {decimals : TokenDecimals} {mint : String} {found : UInt8} :
    tokenDecimals decimals mint = .ok found ↔
      decimals[mint]? = some found ∨
        decimals[mint]? = none ∧ mint = wrappedSolMint ∧ found = wrappedSolDecimals := by
  rw [tokenDecimals, Rust.okOr_eq_ok_iff, Option.or_eq_some_iff]
  by_cases hmint : mint = wrappedSolMint
  · simp [hmint, eq_comm]
  · simp [hmint]

/-- Only a mint other than wrapped SOL can lack its decimals. -/
theorem tokenDecimals_eq_error_iff {decimals : TokenDecimals} {mint : String} {error : SaverError} :
    tokenDecimals decimals mint = .error error ↔
      decimals[mint]? = none ∧ mint ≠ wrappedSolMint ∧ error = .missingTokenDecimals mint := by
  rw [tokenDecimals, Rust.okOr_eq_error_iff, Option.or_eq_none_iff, and_assoc]
  by_cases hmint : mint = wrappedSolMint
  · simp [hmint]
  · simp [hmint, eq_comm]

/-- A Pump.fun pool is a bonding curve. -/
theorem liquidityProviderKind_pumpfun :
    liquidityProviderKind Pumpfun.programId = .ok .bondingCurve :=
  rfl

/-- A PumpSwap pool is an automated market maker. -/
theorem liquidityProviderKind_pumpswap : liquidityProviderKind Pumpswap.programId = .ok .amm := by
  have hne : Pumpswap.programId ≠ Pumpfun.programId := by decide
  rw [liquidityProviderKind, if_neg hne, if_pos rfl]

/-- The kinds of the supported programs. -/
theorem liquidityProviderKind_eq_ok {programId : String} {kind : LiquidityProviderKind}
    (hkind : liquidityProviderKind programId = .ok kind) :
    programId = Pumpfun.programId ∧ kind = .bondingCurve ∨
      programId = Pumpswap.programId ∧ kind = .amm := by
  unfold liquidityProviderKind at hkind
  split at hkind
  · next heq => exact .inl ⟨heq, (Except.ok.inj hkind).symm⟩
  · split at hkind
    · next heq => exact .inr ⟨heq, (Except.ok.inj hkind).symm⟩
    · cases hkind

/-- The only error is that of an unsupported program. -/
theorem liquidityProviderKind_eq_error {programId : String} {error : SaverError}
    (hkind : liquidityProviderKind programId = .error error) :
    error = .unsupportedTokenSwapProgram programId := by
  unfold liquidityProviderKind at hkind
  split at hkind
  · cases hkind
  · split at hkind
    · cases hkind
    · exact (Except.error.inj hkind).symm

/-- A swap of a supported program has a price if its sides can be told and neither mint
lacks its decimals. -/
theorem tokenPairPrice_of_sides {transaction : TransactionEvents}
    {instruction : InstructionEvents} {swap : TokenSwap} {programId : String}
    {kind : LiquidityProviderKind} (hprogram : instruction.programId = some programId)
    (hkind : liquidityProviderKind programId = .ok kind) :
    tokenPairPrice transaction instruction swap = (do
      let sides ← sidesOf swap kind
      let baseTokenDecimals ← tokenDecimals transaction.tokenDecimals sides.baseTokenAddress
      let quoteTokenDecimals ← tokenDecimals transaction.tokenDecimals sides.quoteTokenAddress
      return {
        liquidityProviderAddress := swap.pool
        liquidityProviderKind := kind
        baseTokenAddress := sides.baseTokenAddress
        quoteTokenAddress := sides.quoteTokenAddress
        baseAmount := sides.baseAmount
        quoteAmount := sides.quoteAmount
        baseTokenDecimals
        quoteTokenDecimals
        sequence := sequenceOf transaction instruction }) := by
  rw [tokenPairPrice, hprogram]
  simp only [Rust.okOr, Rust.ok_bind, hkind]

/-- A price is computed from its parts. -/
theorem tokenPairPrice_of_fields {transaction : TransactionEvents}
    {instruction : InstructionEvents} {swap : TokenSwap} {programId : String}
    {kind : LiquidityProviderKind} {sides : Sides} {baseTokenDecimals quoteTokenDecimals : UInt8}
    (hprogram : instruction.programId = some programId)
    (hkind : liquidityProviderKind programId = .ok kind) (hsides : sidesOf swap kind = .ok sides)
    (hbase : tokenDecimals transaction.tokenDecimals sides.baseTokenAddress =
      .ok baseTokenDecimals)
    (hquote : tokenDecimals transaction.tokenDecimals sides.quoteTokenAddress =
      .ok quoteTokenDecimals) :
    tokenPairPrice transaction instruction swap = .ok {
      liquidityProviderAddress := swap.pool
      liquidityProviderKind := kind
      baseTokenAddress := sides.baseTokenAddress
      quoteTokenAddress := sides.quoteTokenAddress
      baseAmount := sides.baseAmount
      quoteAmount := sides.quoteAmount
      baseTokenDecimals
      quoteTokenDecimals
      sequence := sequenceOf transaction instruction } := by
  rw [tokenPairPrice_of_sides hprogram hkind, hsides, Rust.ok_bind, hbase, Rust.ok_bind, hquote]
  rfl

/-- A price comes from the sides of its swap. -/
theorem tokenPairPrice_eq_ok {transaction : TransactionEvents} {instruction : InstructionEvents}
    {swap : TokenSwap} {price : TokenPairPrice}
    (hprice : tokenPairPrice transaction instruction swap = .ok price) :
    ∃ programId sides, instruction.programId = some programId ∧
      liquidityProviderKind programId = .ok price.liquidityProviderKind ∧
      sidesOf swap price.liquidityProviderKind = .ok sides ∧
      price.liquidityProviderAddress = swap.pool ∧
      price.baseTokenAddress = sides.baseTokenAddress ∧
      price.quoteTokenAddress = sides.quoteTokenAddress ∧
      price.baseAmount = sides.baseAmount ∧ price.quoteAmount = sides.quoteAmount ∧
      price.sequence = sequenceOf transaction instruction := by
  unfold tokenPairPrice at hprice
  simp only [Rust.except_bind_eq_ok_iff, Rust.okOr_eq_ok_iff, pure, Except.pure,
    Except.ok.injEq] at hprice
  rcases hprice with ⟨programId, hprogram, kind, hkind, sides, hsides, _, -, _, -, rfl⟩
  exact ⟨programId, sides, hprogram, hkind, hsides, rfl, rfl, rfl, rfl, rfl, rfl⟩

/-! ## Prices of a block -/

/-- A swap in the output of a block, with the entries it is found in. -/
structure SwapEntry where
  transaction : TransactionEvents
  instruction : InstructionEvents
  swap : TokenSwap

namespace SwapEntry

/-- Price of the swap. -/
def price (entry : SwapEntry) : Except SaverError TokenPairPrice :=
  tokenPairPrice entry.transaction entry.instruction entry.swap

/-- A Pump.fun swap without wrapped SOL is passed over. -/
def Ignored (entry : SwapEntry) : Prop :=
  entry.price = .error .pumpfunSwapWithoutWrappedSol

instance (entry : SwapEntry) : Decidable entry.Ignored :=
  inferInstanceAs (Decidable (_ = _))

end SwapEntry

/-- The swap that an entry of a transaction reports, if it does. -/
def swapOf (transaction : TransactionEvents) (instruction : InstructionEvents) :
    Option SwapEntry :=
  match instruction.result with
  | .ok (.tokenSwap swap) => some { transaction, instruction, swap }
  | _ => none

/-- An entry is a swap exactly when its result is one. -/
theorem swapOf_eq_some_iff {transaction : TransactionEvents} {instruction : InstructionEvents}
    {entry : SwapEntry} :
    swapOf transaction instruction = some entry ↔
      entry.transaction = transaction ∧ entry.instruction = instruction ∧
        entry.instruction.result = .ok (.tokenSwap entry.swap) := by
  unfold swapOf
  constructor
  · intro hfound
    split at hfound
    · next swap hresult =>
        cases hfound
        exact ⟨rfl, rfl, hresult⟩
    · cases hfound
  · intro hentry
    rcases hentry with ⟨rfl, rfl, hresult⟩
    rw [hresult]

/-- Swaps among the entries of one transaction. -/
def swapsOf (transaction : TransactionEvents) (instructions : List InstructionEvents) :
    List SwapEntry :=
  instructions.filterMap (swapOf transaction)

/-- Swaps of a block, in execution order. -/
def swapEntries (events : BlockEvents) : List SwapEntry :=
  events.transactions.flatMap fun transaction => swapsOf transaction transaction.instructions

/-- Swaps of a block that are not ignored. -/
def keptEntries (events : BlockEvents) : List SwapEntry :=
  (swapEntries events).filter fun entry => ¬ entry.Ignored

/-- The swaps of a transaction are those of its instructions. -/
theorem mem_swapsOf {transaction : TransactionEvents} {instructions : List InstructionEvents}
    {entry : SwapEntry} :
    entry ∈ swapsOf transaction instructions ↔
      entry.transaction = transaction ∧ entry.instruction ∈ instructions ∧
        entry.instruction.result = .ok (.tokenSwap entry.swap) := by
  rw [swapsOf, List.mem_filterMap]
  constructor
  · intro hfound
    rcases hfound with ⟨instruction, hmem, hentry⟩
    rcases swapOf_eq_some_iff.mp hentry with ⟨htransaction, rfl, hresult⟩
    exact ⟨htransaction, hmem, hresult⟩
  · intro hentry
    rcases hentry with ⟨htransaction, hmem, hresult⟩
    exact ⟨entry.instruction, hmem, swapOf_eq_some_iff.mpr ⟨htransaction, rfl, hresult⟩⟩

/-- The swaps of a block are those of the instructions of its transactions. -/
theorem mem_swapEntries {events : BlockEvents} {entry : SwapEntry} :
    entry ∈ swapEntries events ↔
      entry.transaction ∈ events.transactions ∧
        entry.instruction ∈ entry.transaction.instructions ∧
        entry.instruction.result = .ok (.tokenSwap entry.swap) := by
  simp only [swapEntries, List.mem_flatMap, mem_swapsOf]
  constructor
  · intro hentry
    rcases hentry with ⟨transaction, hmem, rfl, hinstruction⟩
    exact ⟨hmem, hinstruction⟩
  · intro hentry
    exact ⟨entry.transaction, hentry.1, rfl, hentry.2⟩

/-- The swaps that are kept are those that are not ignored. -/
theorem mem_keptEntries {events : BlockEvents} {entry : SwapEntry} :
    entry ∈ keptEntries events ↔ entry ∈ swapEntries events ∧ ¬ entry.Ignored := by
  simp [keptEntries]

/-- The two loops as one pass over the swaps. -/
def collectPrices : List SwapEntry → Except SaverError (List TokenPairPrice)
  | [] => .ok []
  | entry :: entries =>
      match entry.price with
      | .ok price => do
          let prices ← collectPrices entries
          return price :: prices
      | .error .pumpfunSwapWithoutWrappedSol => collectPrices entries
      | .error error => .error error

/-- The prices of the instructions of a transaction are those of its swaps. -/
theorem collectInstructionPrices_eq (transaction : TransactionEvents)
    (instructions : List InstructionEvents) :
    collectInstructionPrices transaction instructions =
      collectPrices (swapsOf transaction instructions) := by
  induction instructions with
  | nil => rfl
  | cons instruction instructions ih =>
      rw [collectInstructionPrices, swapsOf, List.filterMap_cons, ih, swapOf]
      rcases instruction.result with failure | discovery | swap
      · rfl
      · rfl
      · rfl

/-- Prices of two lists of swaps follow each other. -/
theorem collectPrices_append (entries entries' : List SwapEntry) :
    collectPrices (entries ++ entries') = (do
      let prices ← collectPrices entries
      let prices' ← collectPrices entries'
      return prices ++ prices') := by
  induction entries with
  | nil =>
      rw [List.nil_append, collectPrices, Rust.ok_bind]
      cases collectPrices entries' <;> rfl
  | cons entry entries ih =>
      rw [List.cons_append, collectPrices, collectPrices, ih]
      split
      · cases collectPrices entries
        · rfl
        · cases collectPrices entries' <;> rfl
      · rfl
      · rfl

/-- Collecting the prices of a block is one pass over its swaps. -/
theorem collectTokenPairPrices_eq (events : BlockEvents) :
    collectTokenPairPrices events = collectPrices (swapEntries events) := by
  unfold collectTokenPairPrices swapEntries
  induction events.transactions with
  | nil => rfl
  | cons transaction transactions ih =>
      rw [collectTransactionPrices, List.flatMap_cons, collectPrices_append,
        collectInstructionPrices_eq, ih]

/-- Prices are collected exactly when every swap that is not ignored has one. -/
theorem collectPrices_eq_ok_iff {entries : List SwapEntry} {prices : List TokenPairPrice} :
    collectPrices entries = .ok prices ↔
      List.Forall₂ (fun entry price => entry.price = .ok price)
        (entries.filter fun entry => ¬ entry.Ignored) prices := by
  induction entries generalizing prices with
  | nil => simp [collectPrices, eq_comm]
  | cons entry entries ih =>
      rw [collectPrices, List.filter_cons]
      cases hprice : entry.price with
      | ok price =>
          have hkept : ¬ entry.Ignored := by simp [SwapEntry.Ignored, hprice]
          simp only [hkept, not_false_eq_true, decide_true, if_true, List.forall₂_cons_left_iff,
            Rust.except_bind_eq_ok_iff, ih, pure, Except.pure, Except.ok.injEq, hprice]
          constructor
          · intro hrest
            rcases hrest with ⟨others, hothers, rfl⟩
            exact ⟨price, others, rfl, hothers, rfl⟩
          · intro hrest
            rcases hrest with ⟨found, others, rfl, hothers, rfl⟩
            exact ⟨others, hothers, rfl⟩
      | error error =>
          by_cases hignored : entry.Ignored
          · have herror : error = .pumpfunSwapWithoutWrappedSol :=
              Except.error.inj (hprice.symm.trans hignored)
            rw [herror]
            simpa [hignored] using ih
          · have herror : error ≠ .pumpfunSwapWithoutWrappedSol := by
              intro heq
              exact hignored (hprice.trans (congrArg Except.error heq))
            simp [hignored, hprice, List.forall₂_cons_left_iff]

/-- Collecting succeeds with one row for each swap that is not ignored, in the
order of the swaps. -/
theorem collectTokenPairPrices_eq_ok_iff {events : BlockEvents} {prices : List TokenPairPrice} :
    collectTokenPairPrices events = .ok prices ↔
      List.Forall₂ (fun entry price => entry.price = .ok price) (keptEntries events) prices := by
  rw [collectTokenPairPrices_eq, collectPrices_eq_ok_iff, keptEntries]

end Saver
end PumpRealtimePrices
