import PumpRealtimePrices.Saver.Orientation
import PumpRealtimePrices.Saver.Save

/-!
# Constraints of the stored rows

The table of the latest prices checks every row: positive amounts, two different
tokens, addresses of at most 44 characters.  Nothing between the decoders and the
upsert filters trades by these conditions, so whether a batch is accepted depends
on the trades themselves: on the last one of each pool.

Main results:

- Theorem {lit}`SwapEntry.ignored_iff`: which swaps are passed over.
- Theorem {lit}`valid_record_iff_tradable`: the row of a parsed swap satisfies the
  constraints exactly when its trade moves both tokens of two different mints.
- Theorem {lit}`batch_valid_iff`: the batch of a parsed block satisfies the constraints
  exactly when the last stored trade of each pool does.
-/

namespace PumpRealtimePrices
namespace Saver

open PumpRealtimePrices.Parser SerdeJson

/-! ## Trades -/

/-- The trade that an instruction emitted moves a nonzero amount of either token,
and its two tokens are different. -/
structure Tradable (context : InstructionContext) : Prop where
  trade : context.programId = Pumpfun.programId → ∀ event : Pumpfun.TradeEventPrefix,
    decodeEventPrefix (context.data.drop Pumpfun.eventHeaderLen) "TradeEvent" = .ok event →
    event.tokenAmount ≠ 0 ∧
      if event.isBuy then
        event.quoteAmount.toNat +
          (event.fee.toNat + event.creatorFee.toNat + event.cashback.toNat) ≠ 0
      else
        event.quoteAmount.toNat ≠
          event.fee.toNat + event.creatorFee.toNat + event.cashback.toNat
  mints : context.programId = Pumpswap.programId → ∀ parent,
    context.parentInstruction = some parent →
    parent.accounts[Pumpswap.baseMintAccountIndex]? ≠
      parent.accounts[Pumpswap.quoteMintAccountIndex]?
  buy : context.programId = Pumpswap.programId →
    Pumpswap.eventDiscriminator context = Pumpswap.buyEventDiscriminator →
    ∀ event : Pumpswap.BuyEventPrefix,
    decodeEventPrefix (context.data.drop Pumpswap.eventHeaderLen) "BuyEvent" = .ok event →
    event.baseAmountOut ≠ 0 ∧ ∀ parent, context.parentInstruction = some parent →
      (parent.data.take 8 = Pumpswap.buyDiscriminator → event.userQuoteAmountIn ≠ 0) ∧
      (parent.data.take 8 = Pumpswap.buyExactQuoteInDiscriminator → event.quoteAmountIn ≠ 0)
  sell : context.programId = Pumpswap.programId →
    Pumpswap.eventDiscriminator context = Pumpswap.sellEventDiscriminator →
    ∀ event : Pumpswap.SellEventPrefix,
    decodeEventPrefix (context.data.drop Pumpswap.eventHeaderLen) "SellEvent" = .ok event →
    event.baseAmountIn ≠ 0 ∧ event.userQuoteAmountOut ≠ 0

/-- The same for a parsed swap. -/
def MovesTokens (swap : TokenSwap) : Prop :=
  swap.inputAmount ≠ 0 ∧ swap.outputAmount ≠ 0 ∧ swap.inputMint ≠ swap.outputMint

section Sources

variable {crates : Crates} {context : InstructionContext} {swap : TokenSwap}

private theorem programId_ne : Pumpfun.programId ≠ Pumpswap.programId := by
  decide

private theorem discriminator_ne :
    Pumpswap.buyEventDiscriminator ≠ Pumpswap.sellEventDiscriminator := by
  decide

private theorem parentDiscriminator_ne :
    Pumpswap.buyDiscriminator ≠ Pumpswap.buyExactQuoteInDiscriminator := by
  decide

/-- A trade moves tokens exactly when its token amount and its settled quote are not zero.
-/
theorem movesTokens_iff_of_trade {event : Pumpfun.TradeEventPrefix}
    (hswap : Pumpfun.IsTradeSwap crates event swap) (hmints : swap.inputMint ≠ swap.outputMint) :
    MovesTokens swap ↔ event.tokenAmount ≠ 0 ∧
      if event.isBuy then
        event.quoteAmount.toNat +
          (event.fee.toNat + event.creatorFee.toNat + event.cashback.toNat) ≠ 0
      else
        event.quoteAmount.toNat ≠
          event.fee.toNat + event.creatorFee.toNat + event.cashback.toNat := by
  rcases hswap.amounts with ⟨totalFees, htotal, hamounts⟩
  rw [htotal]
  simp only [MovesTokens, hmints, ne_eq, not_false_eq_true, and_true]
  cases hbuy : event.isBuy with
  | true =>
      rw [hbuy, if_pos rfl] at hamounts
      rcases hamounts with ⟨-, hpaid, -, htoken⟩
      rw [if_pos rfl, htoken, hpaid, and_comm]
      exact and_congr_right fun _ => Rust.ne_zero_iff_toNat
  | false =>
      rw [hbuy, if_neg Bool.false_ne_true] at hamounts
      rcases hamounts with ⟨-, htoken, -, hreceived⟩
      rw [if_neg Bool.false_ne_true, htoken, ← hreceived]
      refine and_congr_right fun _ => Rust.ne_zero_iff_toNat.trans ?_
      omega

/-- A Pump.fun swap moves both tokens exactly when its trade does. -/
theorem movesTokens_iff_tradable_of_trade {event : Pumpfun.TradeEventPrefix}
    (hprogram : context.programId = Pumpfun.programId)
    (hevent : decodeEventPrefix (context.data.drop Pumpfun.eventHeaderLen) "TradeEvent" =
      .ok event)
    (hswap : Pumpfun.IsTradeSwap crates event swap) (hmints : swap.inputMint ≠ swap.outputMint) :
    MovesTokens swap ↔ Tradable context := by
  rw [movesTokens_iff_of_trade hswap hmints]
  have hother : context.programId ≠ Pumpswap.programId := by
    rw [hprogram]
    exact programId_ne
  constructor
  · intro hmoves
    refine ⟨fun _ found hfound => ?_, fun h => absurd h hother, fun h => absurd h hother,
      fun h => absurd h hother⟩
    rw [← Except.ok.inj (hevent.symm.trans hfound)]
    exact hmoves
  · intro htradable
    exact htradable.trade hprogram event hevent

/-- A buy moves tokens exactly when it is tradable. -/
theorem movesTokens_iff_tradable_of_buy {parent : InstructionContext}
    {event : Pumpswap.BuyEventPrefix} (hprogram : context.programId = Pumpswap.programId)
    (hparent : context.parentInstruction = some parent)
    (hdiscriminator : Pumpswap.eventDiscriminator context = Pumpswap.buyEventDiscriminator)
    (hevent : decodeEventPrefix (context.data.drop Pumpswap.eventHeaderLen) "BuyEvent" =
      .ok event)
    (hswap : Pumpswap.IsBuySwap crates event parent swap) :
    MovesTokens swap ↔ Tradable context := by
  have hother : context.programId ≠ Pumpfun.programId := by
    rw [hprogram]
    exact programId_ne.symm
  have hevents : Pumpswap.eventDiscriminator context ≠ Pumpswap.sellEventDiscriminator := by
    rw [hdiscriminator]
    exact discriminator_ne
  constructor
  · intro hmoves
    rcases hmoves with ⟨hinput, houtput, hmint⟩
    refine ⟨fun h => absurd h hother, fun _ found hfound => ?_, fun _ _ found hfound => ?_,
      fun _ h => absurd h hevents⟩
    · rw [← Option.some.inj (hparent.symm.trans hfound), hswap.baseAccount, hswap.quoteAccount]
      exact fun heq => hmint (Option.some.inj heq).symm
    · rw [← Except.ok.inj (hevent.symm.trans hfound)]
      refine ⟨hswap.outputAmount ▸ houtput, fun other hother => ?_⟩
      rw [← Option.some.inj (hparent.symm.trans hother)]
      -- The parent is one of the two buys; the other condition is about no swap.
      rcases hswap.inputAmount with ⟨hbuy, hamount⟩ | ⟨hexact, hamount⟩
      · refine ⟨fun _ => hamount ▸ hinput, fun hexact => ?_⟩
        exact absurd (hbuy.symm.trans hexact) parentDiscriminator_ne
      · refine ⟨fun hbuy => ?_, fun _ => hamount ▸ hinput⟩
        exact absurd (hbuy.symm.trans hexact) parentDiscriminator_ne
  · intro htradable
    rcases htradable.buy hprogram hdiscriminator event hevent with ⟨hbase, hquote⟩
    have hmint := htradable.mints hprogram parent hparent
    rw [hswap.baseAccount, hswap.quoteAccount] at hmint
    refine ⟨?_, hswap.outputAmount ▸ hbase, fun heq => hmint (congrArg some heq.symm)⟩
    rcases hswap.inputAmount with ⟨hbuy, hamount⟩ | ⟨hexact, hamount⟩
    · rw [hamount]
      exact (hquote parent hparent).1 hbuy
    · rw [hamount]
      exact (hquote parent hparent).2 hexact

/-- A sell moves tokens exactly when it is tradable. -/
theorem movesTokens_iff_tradable_of_sell {parent : InstructionContext}
    {event : Pumpswap.SellEventPrefix} (hprogram : context.programId = Pumpswap.programId)
    (hparent : context.parentInstruction = some parent)
    (hdiscriminator : Pumpswap.eventDiscriminator context = Pumpswap.sellEventDiscriminator)
    (hevent : decodeEventPrefix (context.data.drop Pumpswap.eventHeaderLen) "SellEvent" =
      .ok event)
    (hswap : Pumpswap.IsSellSwap crates event parent swap) :
    MovesTokens swap ↔ Tradable context := by
  have hother : context.programId ≠ Pumpfun.programId := by
    rw [hprogram]
    exact programId_ne.symm
  have hevents : Pumpswap.eventDiscriminator context ≠ Pumpswap.buyEventDiscriminator := by
    rw [hdiscriminator]
    exact discriminator_ne.symm
  constructor
  · intro hmoves
    rcases hmoves with ⟨hinput, houtput, hmint⟩
    refine ⟨fun h => absurd h hother, fun _ found hfound => ?_, fun _ h => absurd h hevents,
      fun _ _ found hfound => ?_⟩
    · rw [← Option.some.inj (hparent.symm.trans hfound), hswap.baseAccount, hswap.quoteAccount]
      exact fun heq => hmint (Option.some.inj heq)
    · rw [← Except.ok.inj (hevent.symm.trans hfound)]
      exact ⟨hswap.inputAmount ▸ hinput, hswap.outputAmount ▸ houtput⟩
  · intro htradable
    rcases htradable.sell hprogram hdiscriminator event hevent with ⟨hbase, hquote⟩
    have hmint := htradable.mints hprogram parent hparent
    rw [hswap.baseAccount, hswap.quoteAccount] at hmint
    exact ⟨hswap.inputAmount ▸ hbase, hswap.outputAmount ▸ hquote,
      fun heq => hmint (congrArg some heq)⟩

/-- A parsed swap moves both tokens exactly when its trade does. -/
theorem movesTokens_iff_tradable (hsource : SwapSource crates context swap)
    (hmints : context.programId = Pumpfun.programId → swap.inputMint ≠ swap.outputMint) :
    MovesTokens swap ↔ Tradable context := by
  cases hsource with
  | trade event hprogram hevent hswap =>
      exact movesTokens_iff_tradable_of_trade hprogram hevent hswap (hmints hprogram)
  | buy parent event hprogram hparent hdiscriminator hevent hswap =>
      exact movesTokens_iff_tradable_of_buy hprogram hparent hdiscriminator hevent hswap
  | sell parent event hprogram hparent hdiscriminator hevent hswap =>
      exact movesTokens_iff_tradable_of_sell hprogram hparent hdiscriminator hevent hswap

/-- The texts of a parsed swap are addresses. -/
theorem length_le_of_source (hcrates : crates.Documented)
    (hsource : SwapSource crates context swap) :
    swap.pool.length ≤ 44 ∧ swap.inputMint.length ≤ 44 ∧ swap.outputMint.length ≤ 44 := by
  cases hsource with
  | trade event _ _ hswap =>
      rcases hswap.pool with ⟨pool, hpool⟩
      rcases hswap.amounts with ⟨totalFees, -, hamounts⟩
      have hquote : (Pumpfun.tradeQuoteMint crates event).length ≤ 44 := by
        unfold Pumpfun.tradeQuoteMint
        split
        · decide
        · exact hcrates.length_le event.quoteMint
      have hmint := hcrates.length_le event.mint
      refine ⟨hpool ▸ hcrates.length_le pool, ?_⟩
      split at hamounts
      · rw [hamounts.1, hamounts.2.2.1]
        exact ⟨hquote, hmint⟩
      · rw [hamounts.1, hamounts.2.2.1]
        exact ⟨hmint, hquote⟩
  | buy parent event _ _ _ _ hswap =>
      rcases hswap.addresses with ⟨base, quote, hbase, hquote⟩
      rw [hswap.pool, hbase, hquote]
      exact ⟨hcrates.length_le _, hcrates.length_le _, hcrates.length_le _⟩
  | sell parent event _ _ _ _ hswap =>
      rcases hswap.addresses with ⟨base, quote, hbase, hquote⟩
      rw [hswap.pool, hbase, hquote]
      exact ⟨hcrates.length_le _, hcrates.length_le _, hcrates.length_le _⟩

end Sources

/-! ## Rows of single swaps -/

/-- The two sides of a row are the two sides of its swap, in one order or the other. -/
theorem sidesOf_eq_ok {swap : TokenSwap} {kind : LiquidityProviderKind} {sides : Sides}
    (hsides : sidesOf swap kind = .ok sides) :
    sides = ⟨swap.inputMint, swap.outputMint, swap.inputAmount, swap.outputAmount⟩ ∨
      sides = ⟨swap.outputMint, swap.inputMint, swap.outputAmount, swap.inputAmount⟩ := by
  cases kind with
  | amm =>
      simp only [sidesOf, ammSides, Rust.except_bind_eq_ok_iff, Rust.okOr_eq_ok_iff] at hsides
      rcases hsides with ⟨base, -, quote, -, hsides⟩
      split at hsides
      · next hsame =>
          rw [hsame.1, hsame.2]
          exact .inl (Except.ok.inj hsides).symm
      · split at hsides
        · next hcrossed =>
            rw [hcrossed.2.2.1, hcrossed.2.2.2]
            exact .inr (Except.ok.inj hsides).symm
        · cases hsides
  | bondingCurve =>
      rcases bondingCurveSides_eq_ok hsides with ⟨-, -, hsell⟩ | ⟨-, -, hbuy⟩
      · exact .inl hsell
      · exact .inr hbuy

/-- A Pump.fun swap that names wrapped SOL on neither side, or on both. -/
def SwapEntry.WithoutWrappedSol (entry : SwapEntry) : Prop :=
  entry.instruction.programId = some Pumpfun.programId ∧
    (entry.swap.inputMint = wrappedSolMint ↔ entry.swap.outputMint = wrappedSolMint)

instance (entry : SwapEntry) : Decidable entry.WithoutWrappedSol :=
  inferInstanceAs (Decidable (_ ∧ _))

/-- PumpSwap swaps fail with other errors. -/
theorem ammSides_ne_error (swap : TokenSwap) :
    ammSides swap ≠ .error .pumpfunSwapWithoutWrappedSol := by
  intro hsides
  simp only [ammSides, Rust.except_bind_eq_error_iff, Rust.okOr_eq_error_iff] at hsides
  rcases hsides with ⟨-, herror⟩ | ⟨_, -, ⟨-, herror⟩ | ⟨_, -, hsides⟩⟩
  · cases herror
  · cases herror
  · split at hsides
    · cases hsides
    · split at hsides
      · cases hsides
      · cases hsides

/-- Which swaps are passed over. -/
theorem SwapEntry.ignored_iff (entry : SwapEntry) : entry.Ignored ↔ entry.WithoutWrappedSol := by
  constructor
  · intro hignored
    cases hprogram : entry.instruction.programId with
    | none =>
        rw [Ignored, SwapEntry.price, tokenPairPrice, hprogram] at hignored
        cases hignored
    | some programId =>
        cases hkind : liquidityProviderKind programId with
        | error error =>
            rw [Ignored, SwapEntry.price, tokenPairPrice, hprogram, Rust.okOr, Rust.ok_bind, hkind,
              liquidityProviderKind_eq_error hkind] at hignored
            cases hignored
        | ok kind =>
            rcases price_eq_error hprogram hkind hignored with hsides | ⟨_, _, -, -, -, -, herror⟩
            · rcases liquidityProviderKind_eq_ok hkind with ⟨rfl, rfl⟩ | ⟨-, rfl⟩
              · exact ⟨hprogram, (bondingCurveSides_eq_error hsides).2⟩
              · exact absurd hsides (ammSides_ne_error entry.swap)
            · cases herror
  · intro hwithout
    rcases hwithout with ⟨hprogram, hmints⟩
    have hsides : sidesOf entry.swap .bondingCurve = .error .pumpfunSwapWithoutWrappedSol := by
      rw [sidesOf, bondingCurveSides, if_neg (fun h => h.1 (hmints.mpr h.2)),
        if_neg (fun h => h.2 (hmints.mp h.1))]
    rw [Ignored, SwapEntry.price, tokenPairPrice_of_sides hprogram liquidityProviderKind_pumpfun,
      hsides]
    rfl

/-- The swaps of a block that are stored. -/
def storedSwaps (events : BlockEvents) : List SwapEntry :=
  (swapEntries events).filter fun entry => ¬ entry.WithoutWrappedSol

/-- The swaps that are kept are those that are stored. -/
theorem keptEntries_eq (events : BlockEvents) : keptEntries events = storedSwaps events := by
  simp only [keptEntries, storedSwaps, SwapEntry.ignored_iff]

/-- The row of a parsed swap satisfies the constraints exactly when its trade moves
both tokens of two different mints. -/
theorem valid_record_iff_tradable {crates : Crates} (hcrates : crates.Documented)
    {context : InstructionContext} {entry : SwapEntry} {price : TokenPairPrice}
    (hprogram : entry.instruction.programId = some context.programId)
    (hsource : SwapSource crates context entry.swap) (hprice : entry.price = .ok price) :
    price.record.Valid ↔ Tradable context := by
  rcases tokenPairPrice_eq_ok hprice with
    ⟨-, sides, -, -, hsides, hpool, hbase, hquote, hbaseAmount, hquoteAmount, -⟩
  rcases length_le_of_source hcrates hsource with ⟨hpoolLength, hinputLength, houtputLength⟩
  have hmints : context.programId = Pumpfun.programId →
      entry.swap.inputMint ≠ entry.swap.outputMint := by
    intro hpumpfun heq
    have hignored : entry.Ignored :=
      entry.ignored_iff.mpr ⟨hpumpfun ▸ hprogram, by rw [heq]⟩
    rw [SwapEntry.Ignored, hprice] at hignored
    cases hignored
  rw [← movesTokens_iff_tradable hsource hmints]
  rw [← hpool] at hpoolLength
  rcases sidesOf_eq_ok hsides with rfl | rfl
  · rw [valid_record_iff hpoolLength (hbase ▸ hinputLength) (hquote ▸ houtputLength), hbase, hquote,
      hbaseAmount, hquoteAmount]
    rfl
  · rw [valid_record_iff hpoolLength (hbase ▸ houtputLength) (hquote ▸ hinputLength), hbase, hquote,
      hbaseAmount, hquoteAmount, MovesTokens]
    tauto

/-! ## Batches -/

/-- The last price of a liquidity provider is that of its last stored swap. -/
theorem rel_lastOf_prices {events : BlockEvents} {prices : List TokenPairPrice}
    (hcollect : collectTokenPairPrices events = .ok prices) (pool : String) :
    Option.Rel (fun entry price => entry.price = .ok price)
      (LastWrite.lastOf (fun entry => entry.swap.pool) pool (storedSwaps events))
      (LastWrite.lastOf TokenPairPrice.liquidityProviderAddress pool prices) := by
  rw [collectTokenPairPrices_eq_ok_iff, keptEntries_eq] at hcollect
  refine LastWrite.rel_lastOf ?_ pool hcollect
  intro entry price hprice
  rcases tokenPairPrice_eq_ok hprice with ⟨-, -, -, -, -, hpool, -⟩
  exact hpool.symm

/-- The batch satisfies the constraints of the table, and names no liquidity provider
twice. -/
def BatchValid (prices : List TokenPairPrice) : Prop :=
  (∀ price ∈ deduplicateTokenPairPrices prices, price.record.Valid) ∧
    ((deduplicateTokenPairPrices prices).map TokenPairPrice.liquidityProviderAddress).Nodup

section Batches

variable {crates : Crates} {config : ParserConfig} {registry : ParserRegistry} {block : Value}
  {events : BlockEvents} {prices : List TokenPairPrice}

/-- A stored swap comes from an instruction of the block that its own program parsed. -/
theorem exists_source_of_stored (hcrates : crates.Documented)
    (hregistry : ParserRegistry.fromConfig crates config = .ok registry)
    (hparse : parseBlock crates registry block = .ok events) {entry : SwapEntry}
    (hentry : entry ∈ storedSwaps events) :
    ∃ context,
      blockContextAt crates registry block entry.transaction.transactionIndex
        entry.instruction.executionOrdinal = some context ∧
      entry.instruction.programId = some context.programId ∧
      SwapSource crates context entry.swap := by
  rcases mem_swapEntries.mp (List.mem_filter.mp hentry).1 with
    ⟨htransaction, hinstruction, hresult⟩
  exact exists_source_of_swap hcrates hregistry hparse htransaction hinstruction hresult

/-- The batch of a parsed block satisfies the constraints exactly when the last stored
trade of each pool moves both tokens of two different mints. -/
theorem batch_valid_iff (hcrates : crates.Documented)
    (hregistry : ParserRegistry.fromConfig crates config = .ok registry)
    (hparse : parseBlock crates registry block = .ok events)
    (hcollect : collectTokenPairPrices events = .ok prices) :
    BatchValid prices ↔
      ∀ pool entry context,
        LastWrite.lastOf (fun entry => entry.swap.pool) pool (storedSwaps events) = some entry →
        blockContextAt crates registry block entry.transaction.transactionIndex
          entry.instruction.executionOrdinal = some context →
        Tradable context := by
  constructor
  · intro hvalid pool entry context hlast hcontext
    have hrel := rel_lastOf_prices hcollect pool
    rw [hlast] at hrel
    cases hprice : LastWrite.lastOf TokenPairPrice.liquidityProviderAddress pool prices with
    | none =>
        rw [hprice] at hrel
        cases hrel
    | some price =>
        rw [hprice, Option.rel_some_some] at hrel
        have hmem : price ∈ deduplicateTokenPairPrices prices := by
          rw [deduplicateTokenPairPrices, LastWrite.mem_deduplicate, LastWrite.key_of_lastOf hprice]
          exact hprice
        rcases exists_source_of_stored hcrates hregistry hparse (LastWrite.mem_of_lastOf hlast) with
          ⟨found, hfound, hprogram, hsource⟩
        rw [← Option.some.inj (hfound.symm.trans hcontext)]
        exact (valid_record_iff_tradable hcrates hprogram hsource hrel).mp (hvalid.1 price hmem)
  · intro htradable
    refine ⟨?_, nodup_deduplicateTokenPairPrices prices⟩
    intro price hmem
    have hrel := rel_lastOf_prices hcollect price.liquidityProviderAddress
    rw [LastWrite.mem_deduplicate.mp hmem] at hrel
    cases hlast : LastWrite.lastOf (fun entry => entry.swap.pool) price.liquidityProviderAddress
        (storedSwaps events) with
    | none =>
        rw [hlast] at hrel
        cases hrel
    | some entry =>
        rw [hlast, Option.rel_some_some] at hrel
        rcases exists_source_of_stored hcrates hregistry hparse (LastWrite.mem_of_lastOf hlast) with
          ⟨context, hcontext, hprogram, hsource⟩
        exact (valid_record_iff_tradable hcrates hprogram hsource hrel).mpr
          (htradable _ entry context hlast hcontext)

end Batches

section Dust

/-- A block with one sell so small that the user receives nothing. -/
def dustBlock : Value :=
  TestSupport.block ([sellOf 1 10 0].map (Sell.entry TestSupport.crates))

private theorem not_batchValid_dust :
    ¬ BatchValid [sellPrice TestSupport.crates (sellOf 1 10 0) 0] := by
  intro hvalid
  have hmem : sellPrice TestSupport.crates (sellOf 1 10 0) 0 ∈
      deduplicateTokenPairPrices [sellPrice TestSupport.crates (sellOf 1 10 0) 0] := by
    rw [deduplicateTokenPairPrices, LastWrite.mem_deduplicate]
    have hnodup : ([sellPrice TestSupport.crates (sellOf 1 10 0) 0].map
        TokenPairPrice.liquidityProviderAddress).Nodup := List.nodup_singleton _
    exact LastWrite.lastOf_of_nodup hnodup List.mem_cons_self
  exact absurd (hvalid.1 _ hmem).quoteAmount.2 (Nat.lt_irrefl 0)

/-- The sell that pays nothing is not tradable, so its batch breaks the schema. -/
theorem batch_valid_iff_dustBlock :
    ∃ events prices,
      parseBlock TestSupport.crates (pumpSwapRegistry TestSupport.crates) dustBlock = .ok events ∧
      collectTokenPairPrices events = .ok prices ∧
      ¬ ∀ pool entry context,
        LastWrite.lastOf (fun entry => entry.swap.pool) pool (storedSwaps events) = some entry →
        blockContextAt TestSupport.crates (pumpSwapRegistry TestSupport.crates) dustBlock
          entry.transaction.transactionIndex entry.instruction.executionOrdinal = some context →
        Tradable context := by
  have hparse := parseBlock_sellEvents TestSupport.crates_documented [sellOf 1 10 0]
  have hcollect := collect_sells TestSupport.crates_documented [sellOf 1 10 0]
  refine ⟨_, _, hparse, hcollect, fun htradable => ?_⟩
  exact not_batchValid_dust
    ((batch_valid_iff TestSupport.crates_documented (fromConfig_pumpSwap _) hparse hcollect).mpr
      htradable)

/-- A parsed block whose batch the table rejects. -/
theorem batch_of_dustBlock_invalid :
    ¬ ∀ (config : ParserConfig) (registry : ParserRegistry) (block : Value) (events : BlockEvents)
      (prices : List TokenPairPrice),
      ParserRegistry.fromConfig TestSupport.crates config = .ok registry →
      parseBlock TestSupport.crates registry block = .ok events →
      collectTokenPairPrices events = .ok prices → BatchValid prices := by
  intro hvalid
  exact not_batchValid_dust (hvalid _ _ dustBlock _ _ (fromConfig_pumpSwap _)
    (parseBlock_sellEvents TestSupport.crates_documented [sellOf 1 10 0])
    (collect_sells TestSupport.crates_documented [sellOf 1 10 0]))

end Dust

end Saver
end PumpRealtimePrices
