import PumpRealtimePrices.Parser.PanicFreedom
import PumpRealtimePrices.Saver.SellPrices

/-!
# Panics from a block to its rows

The saver's computations once more, with their additions, shifts and divisions as
operations that may panic.  Keeping the last price of each liquidity provider has no
such operation.

Main results:

- Theorem {lit}`Panicking.collectTokenPairPrices_returns`: no output of the parser makes
  collecting its prices panic.
- Theorems {lit}`Panicking.normalizedPrice_returns` and
  {lit}`Panicking.normalizedVolume_returns`: no price makes a decimal column panic.
- Theorem {lit}`Panicking.pipeline_returns`: no block panics anywhere on its way to its rows.
-/

namespace PumpRealtimePrices
namespace Saver
namespace Panicking

open PumpRealtimePrices.Parser Panics SerdeJson

/-! ## From a block to its prices -/

/-- Place of an instruction in its block, with its panics. -/
def sequenceOf (transaction : TransactionEvents) (instruction : InstructionEvents) :
    Execution UInt64 := do
  let place ← shiftLeft (UInt64.ofNat transaction.transactionIndex) 32
  return place ||| UInt64.ofNat instruction.executionOrdinal

/-- {lit}`token_pair_price` with its panics. -/
def tokenPairPrice (transaction : TransactionEvents) (instruction : InstructionEvents)
    (swap : TokenSwap) : Fallible SaverError TokenPairPrice := do
  let programId ← ofResult
    (Rust.okOr (.unsupportedTokenSwapProgram "unknown") instruction.programId)
  let kind ← ofResult (liquidityProviderKind programId)
  let sides ← ofResult (sidesOf swap kind)
  let baseTokenDecimals ← ofResult
    (tokenDecimals transaction.tokenDecimals sides.baseTokenAddress)
  let quoteTokenDecimals ← ofResult
    (tokenDecimals transaction.tokenDecimals sides.quoteTokenAddress)
  let sequence ← sequenceOf transaction instruction
  return {
    liquidityProviderAddress := swap.pool
    liquidityProviderKind := kind
    baseTokenAddress := sides.baseTokenAddress
    quoteTokenAddress := sides.quoteTokenAddress
    baseAmount := sides.baseAmount
    quoteAmount := sides.quoteAmount
    baseTokenDecimals
    quoteTokenDecimals
    sequence }

/-- Prices of the entries of one transaction, with their panics. -/
def collectInstructionPrices (transaction : TransactionEvents) :
    List InstructionEvents → Fallible SaverError (List TokenPairPrice)
  | [] => return []
  | instruction :: instructions =>
      match instruction.result with
      | .ok (.tokenSwap swap) => do
          let result : Except SaverError TokenPairPrice ←
            (tokenPairPrice transaction instruction swap).run
          match result with
          | .ok price => do
              let prices ← collectInstructionPrices transaction instructions
              return price :: prices
          | .error .pumpfunSwapWithoutWrappedSol =>
              collectInstructionPrices transaction instructions
          | .error error => throw error
      | _ => collectInstructionPrices transaction instructions

/-- Prices of a list of transactions, with their panics. -/
def collectTransactionPrices :
    List TransactionEvents → Fallible SaverError (List TokenPairPrice)
  | [] => return []
  | transaction :: transactions => do
      let prices ← collectInstructionPrices transaction transaction.instructions
      let otherPrices ← collectTransactionPrices transactions
      return prices ++ otherPrices

/-- {lit}`collect_token_pair_prices` with its panics. -/
def collectTokenPairPrices (events : BlockEvents) : Fallible SaverError (List TokenPairPrice) :=
  collectTransactionPrices events.transactions

/-- The shift of the transaction index does not panic. -/
theorem sequenceOf_eq (transaction : TransactionEvents) (instruction : InstructionEvents) :
    sequenceOf transaction instruction = .ok (Saver.sequenceOf transaction instruction) := by
  have hshift := shiftLeft_eq_ok_iff.mpr
    ⟨(by decide : 32 < 64), rfl (a := UInt64.ofNat transaction.transactionIndex <<< 32)⟩
  rw [sequenceOf, hshift, Rust.ok_bind]
  rfl

/-- The price of a swap does not panic. -/
theorem tokenPairPrice_returns (transaction : TransactionEvents) (instruction : InstructionEvents)
    (swap : TokenSwap) :
    Returns (tokenPairPrice transaction instruction swap)
      (Saver.tokenPairPrice transaction instruction swap) := by
  apply Returns.step
  intro programId _
  apply Returns.step
  intro kind _
  apply Returns.step
  intro sides _
  apply Returns.step
  intro baseTokenDecimals _
  apply Returns.step
  intro quoteTokenDecimals _
  apply Returns.guarded (sequenceOf_eq transaction instruction)
  exact Returns.pure _

/-- The loop over the instructions does not panic. -/
theorem collectInstructionPrices_returns (transaction : TransactionEvents)
    (instructions : List InstructionEvents) :
    Returns (collectInstructionPrices transaction instructions)
      (Saver.collectInstructionPrices transaction instructions) := by
  induction instructions with
  | nil => exact Returns.pure []
  | cons instruction instructions ih =>
      rw [collectInstructionPrices, Saver.collectInstructionPrices]
      rcases instruction.result with failure | discovery | swap
      · exact ih
      · exact ih
      · apply Returns.guarded (tokenPairPrice_returns transaction instruction swap)
        dsimp only
        cases Saver.tokenPairPrice transaction instruction swap with
        | ok price =>
            apply Returns.bind ih
            intro prices _
            exact Returns.pure _
        | error error =>
            cases error with
            | pumpfunSwapWithoutWrappedSol => exact ih
            | _ => exact Returns.throw _

/-- The loop over the transactions does not panic. -/
theorem collectTokenPairPrices_returns (events : BlockEvents) :
    Returns (collectTokenPairPrices events) (Saver.collectTokenPairPrices events) := by
  unfold collectTokenPairPrices Saver.collectTokenPairPrices
  induction events.transactions with
  | nil => exact Returns.pure []
  | cons transaction transactions ih =>
      apply Returns.bind (collectInstructionPrices_returns transaction _)
      intro prices _
      apply Returns.bind ih
      intro otherPrices _
      exact Returns.pure _

/-! ## Decimal columns -/

/-- {lit}`normalized_price` with its panics. -/
def normalizedPrice (price : TokenPairPrice) : Fallible SaverError Int := do
  if price.baseAmount = 0 then
    throw .zeroBaseAmount
  let exponent ← add 32 price.baseTokenDecimals.toNat decimalScale
  let numerator := price.quoteAmount.toNat * 10 ^ exponent
  let denominator := price.baseAmount.toNat * 10 ^ price.quoteTokenDecimals.toNat
  ofResult (decimalI128 (← divide numerator denominator) "price")

/-- {lit}`normalized_volume` with its panics. -/
def normalizedVolume (price : TokenPairPrice) : Fallible SaverError Int := do
  let value ← divide (price.baseAmount.toNat * 10 ^ decimalScale)
    (10 ^ price.baseTokenDecimals.toNat)
  ofResult (decimalI128 value "volume")

/-- The division of the amounts does not panic. -/
theorem normalizedPrice_returns (price : TokenPairPrice) :
    Returns (normalizedPrice price) (Saver.normalizedPrice price) := by
  apply Returns.ite
  · intro _
    exact Returns.throw _
  intro hbase
  have hdecimals := price.baseTokenDecimals.toNat_lt
  have hexponent : price.baseTokenDecimals.toNat + decimalScale < 2 ^ 32 := by
    rw [decimalScale]
    omega
  apply Returns.guarded (add_eq_ok_iff.mpr ⟨hexponent, rfl⟩)
  have hamount : price.baseAmount.toNat ≠ 0 := Rust.ne_zero_iff_toNat.mp hbase
  have hdenominator : price.baseAmount.toNat * 10 ^ price.quoteTokenDecimals.toNat ≠ 0 :=
    Nat.mul_ne_zero hamount (pow_ne_zero _ (by decide))
  apply Returns.guarded (divide_eq_ok_iff.mpr ⟨hdenominator, rfl⟩)
  exact Returns.ofResult _

/-- The division of the volume does not panic. -/
theorem normalizedVolume_returns (price : TokenPairPrice) :
    Returns (normalizedVolume price) (Saver.normalizedVolume price) := by
  have hdenominator : 10 ^ price.baseTokenDecimals.toNat ≠ 0 := by
    positivity
  apply Returns.guarded (divide_eq_ok_iff.mpr ⟨hdenominator, rfl⟩)
  exact Returns.ofResult _

/-! ## From a block to its rows -/

/-- The decimal columns of a price are computed without a panic. -/
structure ColumnsReturn (row : TokenPairPrice) : Prop where
  price : Returns (normalizedPrice row) (Saver.normalizedPrice row)
  volume : Returns (normalizedVolume row) (Saver.normalizedVolume row)

/-- None of the computed columns of a row panics. -/
theorem columnsReturn (row : TokenPairPrice) : ColumnsReturn row where
  price := normalizedPrice_returns row
  volume := normalizedVolume_returns row

/-- No input makes the pipeline panic: neither an instruction given to a parser, nor a
block, nor the prices of its swaps, nor the columns of a collected or a kept price. -/
theorem pipeline_returns {crates : Crates} {config : ParserConfig} {registry : ParserRegistry}
    (hregistry : ParserRegistry.fromConfig crates config = .ok registry) :
    (∀ name context, Returns (Parser.Panicking.parserInstruction crates name context)
      ((ParserRegistry.createParser crates name).parseInstruction context)) ∧
    ∀ block, Returns (Parser.Panicking.parseBlock crates registry block)
        (parseBlock crates registry block) ∧
      ∀ events, parseBlock crates registry block = .ok events →
        Returns (collectTokenPairPrices events) (Saver.collectTokenPairPrices events) ∧
        ∀ prices, Saver.collectTokenPairPrices events = .ok prices →
          (∀ price ∈ prices, ColumnsReturn price) ∧
          ∀ price ∈ deduplicateTokenPairPrices prices, ColumnsReturn price := by
  constructor
  · intro name context
    exact Parser.Panicking.parserInstruction_returns crates name context
  · intro block
    refine ⟨Parser.Panicking.parseBlock_returns hregistry block, ?_⟩
    intro events _
    refine ⟨collectTokenPairPrices_returns events, ?_⟩
    intro prices _
    constructor
    · intro price _
      exact columnsReturn price
    · intro price _
      exact columnsReturn price

/-- Neither the parsing of a sell nor its price panics. -/
theorem pipeline_returns_sell :
    Returns
        (Parser.Panicking.parseBlock TestSupport.crates (pumpSwapRegistry TestSupport.crates)
          (TestSupport.block [(sellOf 1 10 20).entry TestSupport.crates]))
        (.ok (sellEvents TestSupport.crates [sellOf 1 10 20])) ∧
      Returns (collectTokenPairPrices (sellEvents TestSupport.crates [sellOf 1 10 20]))
        (.ok [sellPrice TestSupport.crates (sellOf 1 10 20) 0]) ∧
      ColumnsReturn (sellPrice TestSupport.crates (sellOf 1 10 20) 0) := by
  have hcrates := TestSupport.crates_documented
  have hparse := parseBlock_sellEvents hcrates [sellOf 1 10 20]
  have hcollect := collect_sells hcrates [sellOf 1 10 20]
  rcases (pipeline_returns (fromConfig_pumpSwap TestSupport.crates)).2
    (TestSupport.block ([sellOf 1 10 20].map (Sell.entry TestSupport.crates))) with
    ⟨hblock, hrows⟩
  rcases hrows _ hparse with ⟨hprices, hcolumns⟩
  rw [hparse] at hblock
  refine ⟨hblock, ?_, (hcolumns _ hcollect).1 _ (List.mem_singleton.mpr rfl)⟩
  rw [hcollect] at hprices
  exact hprices

end Panicking
end Saver
end PumpRealtimePrices
