import PumpRealtimePrices.Parser.Provenance
import PumpRealtimePrices.Saver.SellPrices

/-!
# Base and quote from the chain to the row

The parsers describe a trade by what goes in and what comes out; the saver turns
it back into a base and a quote side by comparing mints.  Both encodings are put
together here, for either program and either direction.

Main results:

- Theorem {lit}`ammSides_of_buy`, {lit}`ammSides_of_sell` and
  {lit}`bondingCurveSides_of_trade`: the sides that the saver finds in a parsed swap.
- Theorem {lit}`base_quote_orientation`: what a row holds, in terms of the decoded
  event and of its parent, and which errors a parsed swap can meet.
-/

namespace PumpRealtimePrices
namespace Saver

open PumpRealtimePrices.Parser SerdeJson

/-! ## Sides of the parsed swaps -/

section Sides

variable {crates : Crates} {swap : TokenSwap}

/-- The base of a buy is its output, unless both mints are the same. -/
theorem ammSides_of_buy {event : Pumpswap.BuyEventPrefix} {parent : InstructionContext}
    (hswap : Pumpswap.IsBuySwap crates event parent swap) :
    ammSides swap = .ok (if swap.inputMint = swap.outputMint then
      ⟨swap.outputMint, swap.inputMint, swap.inputAmount, swap.outputAmount⟩
    else ⟨swap.outputMint, swap.inputMint, swap.outputAmount, swap.inputAmount⟩) := by
  rw [ammSides, hswap.baseMint, hswap.quoteMint]
  by_cases hmint : swap.inputMint = swap.outputMint
  · simp [Rust.okOr, Rust.ok_bind, hmint, pure, Except.pure]
  · simp [Rust.okOr, Rust.ok_bind, hmint, Ne.symm hmint, pure, Except.pure]

/-- The base of a sell is its input. -/
theorem ammSides_of_sell {event : Pumpswap.SellEventPrefix} {parent : InstructionContext}
    (hswap : Pumpswap.IsSellSwap crates event parent swap) :
    ammSides swap =
      .ok ⟨swap.inputMint, swap.outputMint, swap.inputAmount, swap.outputAmount⟩ := by
  rw [ammSides, hswap.baseMint, hswap.quoteMint]
  simp [Rust.okOr, Rust.ok_bind, pure, Except.pure]

/-- The quote of a bonding curve is its wrapped SOL. -/
theorem bondingCurveSides_eq_ok {sides : Sides}
    (hsides : bondingCurveSides swap = .ok sides) :
    swap.inputMint ≠ wrappedSolMint ∧ swap.outputMint = wrappedSolMint ∧
        sides = ⟨swap.inputMint, swap.outputMint, swap.inputAmount, swap.outputAmount⟩ ∨
      swap.inputMint = wrappedSolMint ∧ swap.outputMint ≠ wrappedSolMint ∧
        sides = ⟨swap.outputMint, swap.inputMint, swap.outputAmount, swap.inputAmount⟩ := by
  unfold bondingCurveSides at hsides
  split at hsides
  · next hsell => exact .inl ⟨hsell.1, hsell.2, (Except.ok.inj hsides).symm⟩
  · split at hsides
    · next hbuy => exact .inr ⟨hbuy.1, hbuy.2, (Except.ok.inj hsides).symm⟩
    · cases hsides

/-- A bonding curve fails only where neither or both of its mints are wrapped SOL. -/
theorem bondingCurveSides_eq_error {error : SaverError}
    (hsides : bondingCurveSides swap = .error error) :
    error = .pumpfunSwapWithoutWrappedSol ∧
      (swap.inputMint = wrappedSolMint ↔ swap.outputMint = wrappedSolMint) := by
  unfold bondingCurveSides at hsides
  split at hsides
  · cases hsides
  · next hsell =>
      split at hsides
      · cases hsides
      · next hbuy =>
          refine ⟨(Except.error.inj hsides).symm, ?_⟩
          constructor
          · intro hinput
            by_contra houtput
            exact hbuy ⟨hinput, houtput⟩
          · intro houtput
            by_contra hinput
            exact hsell ⟨hinput, houtput⟩

/-- A trade whose mint is not wrapped SOL is a row of that mint against wrapped SOL. -/
theorem bondingCurveSides_of_trade {event : Pumpfun.TradeEventPrefix} {sides : Sides}
    (hswap : Pumpfun.IsTradeSwap crates event swap)
    (hmint : crates.pubkeyToString event.mint ≠ wrappedSolMint)
    (hsides : bondingCurveSides swap = .ok sides) :
    sides.baseTokenAddress = crates.pubkeyToString event.mint ∧
      sides.quoteTokenAddress = wrappedSolMint ∧ sides.baseAmount = event.tokenAmount ∧
      if event.isBuy then
        sides.quoteAmount.toNat = event.quoteAmount.toNat +
          (event.fee.toNat + event.creatorFee.toNat + event.cashback.toNat)
      else
        sides.quoteAmount.toNat + (event.fee.toNat + event.creatorFee.toNat +
          event.cashback.toNat) = event.quoteAmount.toNat := by
  rcases hswap.amounts with ⟨totalFees, htotal, hamounts⟩
  rw [htotal]
  cases hbuy : event.isBuy with
  | true =>
      rw [hbuy, if_pos rfl] at hamounts
      rcases hamounts with ⟨hinput, hpaid, houtput, htoken⟩
      rcases bondingCurveSides_eq_ok hsides with ⟨-, hsol, -⟩ | ⟨hsol, -, rfl⟩
      · exact absurd (houtput.symm.trans hsol) hmint
      · exact ⟨houtput, hsol, htoken, hpaid.symm⟩
  | false =>
      rw [hbuy, if_neg Bool.false_ne_true] at hamounts
      rcases hamounts with ⟨hinput, htoken, houtput, hreceived⟩
      rcases bondingCurveSides_eq_ok hsides with ⟨-, hsol, rfl⟩ | ⟨hsol, -, -⟩
      · refine ⟨hinput, hsol, htoken, ?_⟩
        have hsum : swap.outputAmount.toNat + totalFees.toNat = event.quoteAmount.toNat := by
          omega
        exact hsum
      · exact absurd (hinput.symm.trans hsol) hmint

end Sides

/-! ## Prices of parsed swaps -/

section Entries

variable {entry : SwapEntry} {programId : String} {kind : LiquidityProviderKind}

/-- A price holds the sides of its swap. -/
theorem sides_of_price (hprogram : entry.instruction.programId = some programId)
    (hkind : liquidityProviderKind programId = .ok kind) {price : TokenPairPrice}
    (hprice : entry.price = .ok price) :
    price.liquidityProviderKind = kind ∧ price.liquidityProviderAddress = entry.swap.pool ∧
      sidesOf entry.swap kind = .ok ⟨price.baseTokenAddress, price.quoteTokenAddress,
        price.baseAmount, price.quoteAmount⟩ := by
  rcases tokenPairPrice_eq_ok hprice with
    ⟨found, sides, hfound, hfoundKind, hsides, hpool, hbase, hquote, hbaseAmount, hquoteAmount, -⟩
  rcases Option.some.inj (hprogram.symm.trans hfound) with rfl
  have hkinds : price.liquidityProviderKind = kind :=
    Except.ok.inj (hfoundKind.symm.trans hkind)
  refine ⟨hkinds, hpool, ?_⟩
  rw [← hkinds, hsides, hbase, hquote, hbaseAmount, hquoteAmount]

/-- A swap has no price when its sides cannot be told, or when one of its mints has
no decimals. -/
theorem price_eq_error (hprogram : entry.instruction.programId = some programId)
    (hkind : liquidityProviderKind programId = .ok kind) {error : SaverError}
    (hprice : entry.price = .error error) :
    sidesOf entry.swap kind = .error error ∨
      ∃ sides mint, sidesOf entry.swap kind = .ok sides ∧
        (mint = sides.baseTokenAddress ∨ mint = sides.quoteTokenAddress) ∧
        entry.transaction.tokenDecimals[mint]? = none ∧ mint ≠ wrappedSolMint ∧
        error = .missingTokenDecimals mint := by
  rw [SwapEntry.price, tokenPairPrice_of_sides hprogram hkind] at hprice
  simp only [Rust.except_bind_eq_error_iff, tokenDecimals_eq_error_iff, pure, Except.pure,
    reduceCtorEq, and_false, exists_false, or_false] at hprice
  rcases hprice with hsides | ⟨sides, hsides, ⟨hnone, hmint, herror⟩ | ⟨-, -, hnone, hmint, herror⟩⟩
  · exact .inl hsides
  · exact .inr ⟨sides, _, hsides, .inl rfl, hnone, hmint, herror⟩
  · exact .inr ⟨sides, _, hsides, .inr rfl, hnone, hmint, herror⟩

/-- When the sides of a swap can be told, only decimals can be missing. -/
theorem price_eq_error_of_sides (hprogram : entry.instruction.programId = some programId)
    (hkind : liquidityProviderKind programId = .ok kind) {sides : Sides}
    (hsides : sidesOf entry.swap kind = .ok sides) {error : SaverError}
    (hprice : entry.price = .error error) :
    ∃ mint, (mint = sides.baseTokenAddress ∨ mint = sides.quoteTokenAddress) ∧
      error = .missingTokenDecimals mint := by
  rcases price_eq_error hprogram hkind hprice with
    hfound | ⟨found, mint, hfound, hmint, -, -, herror⟩
  · cases hsides.symm.trans hfound
  · rw [← Except.ok.inj (hsides.symm.trans hfound)] at hmint
    exact ⟨mint, hmint, herror⟩

end Entries

/-! ## Rows of parsed swaps -/

/-- The row of a PumpSwap swap, in terms of its event and of its parent. -/
structure AmmRow (context parent : InstructionContext) (price : TokenPairPrice) : Prop where
  kind : price.liquidityProviderKind = .amm
  baseToken : parent.accounts[Pumpswap.baseMintAccountIndex]? = some price.baseTokenAddress
  quoteToken : parent.accounts[Pumpswap.quoteMintAccountIndex]? = some price.quoteTokenAddress
  amounts :
    (Pumpswap.eventDiscriminator context = Pumpswap.buyEventDiscriminator ∧
      ∃ event : Pumpswap.BuyEventPrefix,
        decodeEventPrefix (context.data.drop Pumpswap.eventHeaderLen) "BuyEvent" = .ok event ∧
        price.baseAmount = event.baseAmountOut ∧
        (parent.data.take 8 = Pumpswap.buyDiscriminator ∧
            price.quoteAmount = event.userQuoteAmountIn ∨
          parent.data.take 8 = Pumpswap.buyExactQuoteInDiscriminator ∧
            price.quoteAmount = event.quoteAmountIn)) ∨
    (Pumpswap.eventDiscriminator context = Pumpswap.sellEventDiscriminator ∧
      ∃ event : Pumpswap.SellEventPrefix,
        decodeEventPrefix (context.data.drop Pumpswap.eventHeaderLen) "SellEvent" = .ok event ∧
        price.baseAmount = event.baseAmountIn ∧ price.quoteAmount = event.userQuoteAmountOut)

/-- The row of a Pump.fun swap, in terms of its event. -/
structure BondingCurveRow (crates : Crates) (event : Pumpfun.TradeEventPrefix)
    (price : TokenPairPrice) : Prop where
  kind : price.liquidityProviderKind = .bondingCurve
  baseToken : price.baseTokenAddress = crates.pubkeyToString event.mint
  quoteToken : price.quoteTokenAddress = wrappedSolMint
  baseAmount : price.baseAmount = event.tokenAmount
  quoteAmount :
    if event.isBuy then
      price.quoteAmount.toNat = event.quoteAmount.toNat +
        (event.fee.toNat + event.creatorFee.toNat + event.cashback.toNat)
    else
      price.quoteAmount.toNat +
        (event.fee.toNat + event.creatorFee.toNat + event.cashback.toNat) =
          event.quoteAmount.toNat

/-- What the saver makes of a swap whose instruction is this one. -/
inductive Oriented (crates : Crates) (context : InstructionContext) (entry : SwapEntry) : Prop where
  | amm (parent : InstructionContext)
      (hprogram : context.programId = Pumpswap.programId)
      (hparent : context.parentInstruction = some parent)
      (hrow : ∀ price, entry.price = .ok price →
        parent.accounts[Pumpswap.baseMintAccountIndex]? ≠
          parent.accounts[Pumpswap.quoteMintAccountIndex]? →
        AmmRow context parent price)
      (herror : ∀ error, entry.price = .error error → ∃ mint,
        (mint = entry.swap.inputMint ∨ mint = entry.swap.outputMint) ∧
          error = .missingTokenDecimals mint)
  | bondingCurve (event : Pumpfun.TradeEventPrefix)
      (hprogram : context.programId = Pumpfun.programId)
      (hevent : decodeEventPrefix (context.data.drop Pumpfun.eventHeaderLen) "TradeEvent" =
        .ok event)
      (hrow : ∀ price, entry.price = .ok price →
        crates.pubkeyToString event.mint ≠ wrappedSolMint → BondingCurveRow crates event price)
      (herror : ∀ error, entry.price = .error error →
        (∃ mint, (mint = entry.swap.inputMint ∨ mint = entry.swap.outputMint) ∧
          error = .missingTokenDecimals mint) ∨
        error = .pumpfunSwapWithoutWrappedSol ∧
          (entry.swap.inputMint = wrappedSolMint ↔ entry.swap.outputMint = wrappedSolMint))

section Oriented

variable {crates : Crates} {context : InstructionContext} {entry : SwapEntry}

/-- A trade of Pump.fun is oriented by its direction. -/
theorem oriented_of_trade (hinstruction : entry.instruction.programId = some context.programId)
    {event : Pumpfun.TradeEventPrefix} (hprogram : context.programId = Pumpfun.programId)
    (hevent : decodeEventPrefix (context.data.drop Pumpfun.eventHeaderLen) "TradeEvent" =
      .ok event)
    (hswap : Pumpfun.IsTradeSwap crates event entry.swap) : Oriented crates context entry := by
  rw [hprogram] at hinstruction
  refine .bondingCurve event hprogram hevent ?_ ?_
  · intro price hprice hmint
    rcases sides_of_price hinstruction liquidityProviderKind_pumpfun hprice with
      ⟨hkind, -, hsides⟩
    rcases bondingCurveSides_of_trade hswap hmint hsides with ⟨hbase, hquote, htoken, hamount⟩
    exact ⟨hkind, hbase, hquote, htoken, hamount⟩
  · intro error hprice
    rcases price_eq_error hinstruction liquidityProviderKind_pumpfun hprice with
      hsides | ⟨sides, mint, hsides, hmint, -, -, herror⟩
    · exact .inr (bondingCurveSides_eq_error hsides)
    · refine .inl ⟨mint, ?_, herror⟩
      rcases bondingCurveSides_eq_ok hsides with ⟨-, -, rfl⟩ | ⟨-, -, rfl⟩
      · exact hmint
      · exact hmint.symm

/-- A buy of PumpSwap has what is bought as its base. -/
theorem oriented_of_buy (hinstruction : entry.instruction.programId = some context.programId)
    {parent : InstructionContext} {event : Pumpswap.BuyEventPrefix}
    (hprogram : context.programId = Pumpswap.programId)
    (hparent : context.parentInstruction = some parent)
    (hdiscriminator : Pumpswap.eventDiscriminator context = Pumpswap.buyEventDiscriminator)
    (hevent : decodeEventPrefix (context.data.drop Pumpswap.eventHeaderLen) "BuyEvent" =
      .ok event)
    (hswap : Pumpswap.IsBuySwap crates event parent entry.swap) :
    Oriented crates context entry := by
  rw [hprogram] at hinstruction
  have hsides := ammSides_of_buy hswap
  refine .amm parent hprogram hparent ?_ ?_
  · intro price hprice hdistinct
    have hmints : entry.swap.inputMint ≠ entry.swap.outputMint := by
      intro heq
      rw [hswap.baseAccount, hswap.quoteAccount, heq] at hdistinct
      exact hdistinct rfl
    rcases sides_of_price hinstruction liquidityProviderKind_pumpswap hprice with
      ⟨hkind, -, hfound⟩
    rw [if_neg hmints] at hsides
    have heq := Except.ok.inj (hsides.symm.trans hfound)
    rw [Sides.mk.injEq] at heq
    rcases heq with ⟨hbase, hquote, hbaseAmount, hquoteAmount⟩
    refine ⟨hkind, hbase ▸ hswap.baseAccount, hquote ▸ hswap.quoteAccount, .inl ?_⟩
    exact ⟨hdiscriminator, event, hevent, hbaseAmount ▸ hswap.outputAmount,
      hquoteAmount ▸ hswap.inputAmount⟩
  · intro error hprice
    rcases price_eq_error_of_sides hinstruction liquidityProviderKind_pumpswap hsides hprice with
      ⟨mint, hmint, herror⟩
    refine ⟨mint, ?_, herror⟩
    split at hmint <;> exact hmint.symm

/-- A sell of PumpSwap has what is sold as its base. -/
theorem oriented_of_sell (hinstruction : entry.instruction.programId = some context.programId)
    {parent : InstructionContext} {event : Pumpswap.SellEventPrefix}
    (hprogram : context.programId = Pumpswap.programId)
    (hparent : context.parentInstruction = some parent)
    (hdiscriminator : Pumpswap.eventDiscriminator context = Pumpswap.sellEventDiscriminator)
    (hevent : decodeEventPrefix (context.data.drop Pumpswap.eventHeaderLen) "SellEvent" =
      .ok event)
    (hswap : Pumpswap.IsSellSwap crates event parent entry.swap) :
    Oriented crates context entry := by
  rw [hprogram] at hinstruction
  have hsides := ammSides_of_sell hswap
  refine .amm parent hprogram hparent ?_ ?_
  · intro price hprice _
    rcases sides_of_price hinstruction liquidityProviderKind_pumpswap hprice with
      ⟨hkind, -, hfound⟩
    have heq := Except.ok.inj (hsides.symm.trans hfound)
    rw [Sides.mk.injEq] at heq
    rcases heq with ⟨hbase, hquote, hbaseAmount, hquoteAmount⟩
    refine ⟨hkind, hbase ▸ hswap.baseAccount, hquote ▸ hswap.quoteAccount, .inr ?_⟩
    exact ⟨hdiscriminator, event, hevent, hbaseAmount ▸ hswap.inputAmount,
      hquoteAmount ▸ hswap.outputAmount⟩
  · intro error hprice
    exact price_eq_error_of_sides hinstruction liquidityProviderKind_pumpswap hsides hprice

/-- A swap is oriented as the event that it comes from. -/
theorem oriented_of_source (hinstruction : entry.instruction.programId = some context.programId)
    (hsource : SwapSource crates context entry.swap) : Oriented crates context entry := by
  cases hsource with
  | trade event hprogram hevent hswap =>
      exact oriented_of_trade hinstruction hprogram hevent hswap
  | buy parent event hprogram hparent hdiscriminator hevent hswap =>
      exact oriented_of_buy hinstruction hprogram hparent hdiscriminator hevent hswap
  | sell parent event hprogram hparent hdiscriminator hevent hswap =>
      exact oriented_of_sell hinstruction hprogram hparent hdiscriminator hevent hswap

/-- Base and quote keep their meaning from the chain to the row, and the only
errors are missing decimals and a Pump.fun swap without wrapped SOL. -/
theorem base_quote_orientation (hcrates : crates.Documented) {config : ParserConfig}
    {registry : ParserRegistry} (hregistry : ParserRegistry.fromConfig crates config = .ok registry)
    {block : Value} {events : BlockEvents}
    (hparse : parseBlock crates registry block = .ok events) (hentry : entry ∈ swapEntries events) :
    ∃ context,
      blockContextAt crates registry block entry.transaction.transactionIndex
        entry.instruction.executionOrdinal = some context ∧
      Oriented crates context entry := by
  rcases mem_swapEntries.mp hentry with ⟨htransaction, hinstruction, hresult⟩
  rcases exists_source_of_swap hcrates hregistry hparse htransaction hinstruction hresult with
    ⟨context, hcontext, hprogram, hsource⟩
  exact ⟨context, hcontext, oriented_of_source hprogram hsource⟩

/-- The price of a sell has the sold mint as its base. -/
theorem base_quote_orientation_sell :
    (soldAt TestSupport.crates (sellOf 1 10 20) 0).price =
        .ok (sellPrice TestSupport.crates (sellOf 1 10 20) 0) ∧
      ∃ context,
        blockContextAt TestSupport.crates (pumpSwapRegistry TestSupport.crates)
          (TestSupport.block [(sellOf 1 10 20).entry TestSupport.crates]) 0 1 = some context ∧
        Oriented TestSupport.crates context (soldAt TestSupport.crates (sellOf 1 10 20) 0) := by
  have hentry : soldAt TestSupport.crates (sellOf 1 10 20) 0 ∈
      swapEntries (sellEvents TestSupport.crates [sellOf 1 10 20]) := by
    rw [sellEvents, swapEntries_sellEventsAt]
    exact List.mem_singleton.mpr rfl
  have hcrates := TestSupport.crates_documented
  have horiented := base_quote_orientation hcrates (fromConfig_pumpSwap TestSupport.crates)
    (parseBlock_sellEvents hcrates [sellOf 1 10 20]) hentry
  exact ⟨price_soldAt (sellOf 1 10 20) 0 hcrates, horiented⟩

end Oriented

end Saver
end PumpRealtimePrices
