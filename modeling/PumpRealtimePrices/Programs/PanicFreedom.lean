import PumpRealtimePrices.Library.Panics
import PumpRealtimePrices.Programs.Pumpfun
import PumpRealtimePrices.Programs.Pumpswap

/-!
# Panics of the protocol parsers

The two parsers once more, with the slices, subtractions and unreachable arms of
the source as operations that may panic.  A function without such an operation is
the one of the model.  What the crates do is still a parameter: they return errors
and do not panic, and every program address search finds its bump seed.

Main results:

- Theorems {lit}`Pumpfun.Panicking.parseInstruction_returns` and
  {lit}`Pumpswap.Panicking.parseInstruction_returns`: no instruction, whatever its data,
  accounts and parent, makes a parser panic, and it ends as the model's parser does.
- Theorem {lit}`Pumpswap.Panicking.validateParentAmount_returns_iff`: the amount check
  alone does panic, on a parent without sixteen bytes of data.
-/

namespace PumpRealtimePrices

open Borsh Panics

/-! ## Event headers -/

/-- The length check of an event protects the slice of its discriminator, and what follows
may rely on it. -/
theorem discriminator_returns {β : Type} {ctx : InstructionContext} {tagLen headerLen : Nat}
    (htag : tagLen ≤ headerLen) {f : Bytes → Fallible ParseError β} {result : ParseResult β}
    (hf : headerLen ≤ ctx.data.length →
      Returns (f ((ctx.data.take headerLen).drop tagLen)) result) :
    Returns (do
        ofResult (ctx.ensureDataLen headerLen)
        let discriminator ← slice ctx.data tagLen headerLen
        f discriminator)
      (do
        ctx.ensureDataLen headerLen
        result) := by
  apply Returns.step
  intro _ hlen
  rw [InstructionContext.ensureDataLen_eq_ok_iff] at hlen
  apply Returns.guarded (slice_eq_ok_iff.mpr ⟨htag, hlen, rfl⟩)
  exact hf hlen

/-! ## Pump.fun -/

namespace Pumpfun
namespace Panicking

variable (crates : Crates)

/-- {lit}`PumpFunParser::parse_instruction` with its panics. -/
def parseInstruction (ctx : InstructionContext) : Fallible ParseError (Option ParsedEvent) := do
  ofResult (ctx.ensureProgramId programId)
  if ¬ eventIxTag <+: ctx.data then
    return none
  ofResult (ctx.ensureDataLen eventHeaderLen)
  let discriminator ← slice ctx.data eventIxTag.length eventHeaderLen
  if discriminator ≠ createEventDiscriminator ∧ discriminator ≠ tradeEventDiscriminator then
    return none
  if (← ofResult (ctx.account 0)) ≠ eventAuthority then
    throw (.invalidInstructionData "Pump.fun event CPI has an invalid event authority")
  let payload ← sliceFrom ctx.data eventHeaderLen
  if discriminator = createEventDiscriminator then
    return some (.tokenDiscovery (← ofResult (parseCreateEvent crates payload)))
  else if discriminator = tradeEventDiscriminator then
    return some (.tokenSwap (← ofResult (parseTradeEvent crates payload)))
  else
    unreachableCode

/-- The length check protects both slices, and the discriminator check the last arm. -/
theorem parseInstruction_returns (ctx : InstructionContext) :
    Returns (parseInstruction crates ctx) (Pumpfun.parseInstruction crates ctx) := by
  unfold parseInstruction Pumpfun.parseInstruction
  apply Returns.step
  intro _ _
  apply Returns.ite
  · intro _
    exact Returns.pure none
  intro _
  apply discriminator_returns (Nat.le_add_right _ _)
  intro hlen
  apply Returns.ite
  · intro _
    exact Returns.pure none
  intro hknown
  apply Returns.step
  intro authority _
  apply Returns.throwIf
  intro _
  apply Returns.guarded (sliceFrom_eq_ok_iff.mpr ⟨hlen, rfl⟩)
  apply Returns.ofTwo hknown
  · apply Returns.step
    intro discovery _
    exact Returns.pure _
  · apply Returns.step
    intro swap _
    exact Returns.pure _

end Panicking
end Pumpfun

/-! ## PumpSwap -/

namespace Pumpswap
namespace Panicking

/-- {lit}`parent_discriminator` with its panics. -/
def parentDiscriminator (parent : InstructionContext) : Fallible ParseError Bytes := do
  ofResult (parent.ensureDataLen 8)
  let bytes ← sliceTo parent.data 8
  if bytes.length ≠ 8 then
    throw (.invalidInstructionData "PumpSwap parent instruction has an invalid discriminator")
  return bytes

/-- {lit}`validate_parent_layout` with its panics. -/
def validateParentLayout (parent : InstructionContext) (minimumDataLen minimumAccountCount : Nat) :
    Fallible ParseError Unit := do
  ofResult (parent.ensureDataLen minimumDataLen)
  let lastIndex ← sub minimumAccountCount 1
  let _ ← ofResult (parent.account lastIndex)
  return ()

/-- {lit}`validate_parent_amount` with its panics. -/
def validateParentAmount (parent : InstructionContext) (eventAmount : UInt64) (field : String) :
    Fallible ParseError Unit := do
  let bytes ← slice parent.data 8 16
  if bytes.length ≠ 8 then
    throw (.invalidInstructionData "PumpSwap parent instruction has an invalid amount")
  if UInt64.ofNat (leNat bytes) = eventAmount then
    return ()
  else
    throw (.invalidInstructionData s!"{field} does not match its parent instruction")

variable (crates : Crates)

/-- Input amount of a buy, as {lit}`parse_buy_event` computes it, with its panics. -/
def buyInputAmount (event : BuyEventPrefix) (parent : InstructionContext) :
    Fallible ParseError UInt64 := do
  let discriminator ← parentDiscriminator parent
  if discriminator = buyDiscriminator then
    validateParentLayout parent buyParentDataLen buyParentAccountCount
    ofResult (validateIxName crates event.ixName "buy")
    validateParentAmount parent event.baseAmountOut "BuyEvent.base_amount_out"
    return event.userQuoteAmountIn
  else if discriminator = buyExactQuoteInDiscriminator then
    validateParentLayout parent buyExactQuoteInParentDataLen buyParentAccountCount
    ofResult (validateIxName crates event.ixName "buy_exact_quote_in")
    validateParentAmount parent event.quoteAmountIn "BuyEvent.quote_amount_in"
    return event.quoteAmountIn
  else
    throw (.invalidInstructionData "BuyEvent parent is not a supported PumpSwap buy instruction")

/-- {lit}`parse_buy_event` with its panics. -/
def parseBuyEvent (payload : Bytes) (parent : InstructionContext) :
    Fallible ParseError TokenSwap := do
  let event : BuyEventPrefix ← ofResult (decodeEventPrefix payload "BuyEvent")
  let inputAmount ← buyInputAmount crates event parent
  ofResult (validateParentAccounts crates event.pool event.user parent "BuyEvent")
  let baseMint ← ofResult (parentMint crates parent baseMintAccountIndex "base_mint")
  let quoteMint ← ofResult (parentMint crates parent quoteMintAccountIndex "quote_mint")
  return {
    user := crates.pubkeyToString event.user
    pool := crates.pubkeyToString event.pool
    baseMint := some baseMint
    quoteMint := some quoteMint
    inputMint := quoteMint
    inputAmount
    outputMint := baseMint
    outputAmount := event.baseAmountOut }

/-- {lit}`parse_sell_event` with its panics. -/
def parseSellEvent (payload : Bytes) (parent : InstructionContext) :
    Fallible ParseError TokenSwap := do
  let event : SellEventPrefix ← ofResult (decodeEventPrefix payload "SellEvent")
  if (← parentDiscriminator parent) ≠ sellDiscriminator then
    throw (.invalidInstructionData "SellEvent parent is not a PumpSwap sell instruction")
  validateParentLayout parent sellParentDataLen sellParentAccountCount
  validateParentAmount parent event.baseAmountIn "SellEvent.base_amount_in"
  ofResult (validateParentAccounts crates event.pool event.user parent "SellEvent")
  let baseMint ← ofResult (parentMint crates parent baseMintAccountIndex "base_mint")
  let quoteMint ← ofResult (parentMint crates parent quoteMintAccountIndex "quote_mint")
  return {
    user := crates.pubkeyToString event.user
    pool := crates.pubkeyToString event.pool
    baseMint := some baseMint
    quoteMint := some quoteMint
    inputMint := baseMint
    inputAmount := event.baseAmountIn
    outputMint := quoteMint
    outputAmount := event.userQuoteAmountOut }

/-- {lit}`parse_instruction_with_parent` with its panics. -/
def parseInstructionWithParent (ctx : InstructionContext) (parent : Option InstructionContext) :
    Fallible ParseError (Option ParsedEvent) := do
  if ¬ eventIxTag <+: ctx.data then
    return none
  ofResult (ctx.ensureDataLen eventHeaderLen)
  let discriminator ← slice ctx.data eventIxTag.length eventHeaderLen
  if discriminator ≠ buyEventDiscriminator ∧ discriminator ≠ sellEventDiscriminator then
    return none
  if (← ofResult (ctx.account 0)) ≠ eventAuthority then
    throw (.invalidInstructionData "PumpSwap event CPI has an invalid event authority")
  let parent ← ofResult (Rust.okOr
    (.invalidInstructionData "PumpSwap event CPI has no immediate parent instruction") parent)
  ofResult (validateParentProgram parent)
  let payload ← sliceFrom ctx.data eventHeaderLen
  if discriminator = buyEventDiscriminator then
    return some (.tokenSwap (← parseBuyEvent crates payload parent))
  else if discriminator = sellEventDiscriminator then
    return some (.tokenSwap (← parseSellEvent crates payload parent))
  else
    unreachableCode

/-- {lit}`PumpSwapParser::parse_instruction` with its panics. -/
def parseInstruction (ctx : InstructionContext) : Fallible ParseError (Option ParsedEvent) := do
  ofResult (ctx.ensureProgramId programId)
  parseInstructionWithParent crates ctx ctx.parentInstruction

/-! ### Parent validation -/

/-- The slice of the caller's data stays within it. -/
theorem parentDiscriminator_returns (parent : InstructionContext) :
    Returns (parentDiscriminator parent) (Pumpswap.parentDiscriminator parent) := by
  unfold parentDiscriminator Pumpswap.parentDiscriminator
  apply Returns.step
  intro _ hlen
  rw [InstructionContext.ensureDataLen_eq_ok_iff] at hlen
  apply Returns.guarded (sliceTo_eq_ok_iff.mpr ⟨hlen, rfl⟩)
  have htake : (parent.data.take 8).length = 8 := List.length_take_of_le hlen
  rw [if_neg (not_not.mpr htake)]
  exact Returns.pure _

/-- A layout has at least one account. -/
theorem validateParentLayout_returns (parent : InstructionContext)
    {minimumDataLen minimumAccountCount : Nat} (haccounts : 1 ≤ minimumAccountCount) :
    Returns (validateParentLayout parent minimumDataLen minimumAccountCount)
      (Pumpswap.validateParentLayout parent minimumDataLen minimumAccountCount) := by
  apply Returns.step
  intro _ _
  apply Returns.guarded (sub_eq_ok_iff.mpr ⟨haccounts, rfl⟩)
  apply Returns.step
  intro account _
  exact Returns.pure _

/-- The amount check relies on a length that it does not check: it panics exactly on
a parent without sixteen bytes of data. -/
theorem validateParentAmount_returns_iff (parent : InstructionContext) (eventAmount : UInt64)
    (field : String) :
    Returns (validateParentAmount parent eventAmount field)
        (Pumpswap.validateParentAmount parent eventAmount field) ↔
      16 ≤ parent.data.length := by
  constructor
  · intro hreturns
    by_contra hshort
    have hpanic : slice parent.data 8 16 = .error .sliceOutOfRange :=
      if_neg fun hrange => hshort hrange.2
    rw [Returns, validateParentAmount, hpanic] at hreturns
    cases hreturns
  · intro hlen
    unfold validateParentAmount Pumpswap.validateParentAmount
    apply Returns.guarded (slice_eq_ok_iff.mpr ⟨by omega, hlen, rfl⟩)
    have hbytes : ((parent.data.take 16).drop 8).length = 8 := by
      rw [List.length_drop, List.length_take_of_le hlen]
    rw [if_neg (not_not.mpr hbytes)]
    exact Returns.ite (fun _ => Returns.pure ()) fun _ => Returns.throw _

/-- A caller whose layout passes has enough data. -/
theorem dataLen_of_validateParentLayout {parent : InstructionContext}
    {minimumDataLen minimumAccountCount : Nat} {checked : PUnit}
    (hlayout : Pumpswap.validateParentLayout parent minimumDataLen minimumAccountCount =
      .ok checked) :
    minimumDataLen ≤ parent.data.length := by
  rw [Pumpswap.validateParentLayout, Rust.check_bind_eq_ok_iff] at hlayout
  exact (InstructionContext.ensureDataLen_eq_ok_iff parent minimumDataLen).mp hlayout.1

/-! ### Events -/

/-- The checks of a buy: the layout check of either variant protects its amount check. -/
theorem buyChecks_returns (parent : InstructionContext) {dataLen accountCount : Nat}
    (hdataLen : 16 ≤ dataLen) (haccounts : 1 ≤ accountCount) (actual expected field : String)
    (eventAmount paid : UInt64) :
    Returns (do
        validateParentLayout parent dataLen accountCount
        ofResult (validateIxName crates actual expected)
        validateParentAmount parent eventAmount field
        return paid)
      (do
        Pumpswap.validateParentLayout parent dataLen accountCount
        validateIxName crates actual expected
        Pumpswap.validateParentAmount parent eventAmount field
        return paid) := by
  apply Returns.bind (validateParentLayout_returns parent haccounts)
  intro _ hlayout
  have hlen : 16 ≤ parent.data.length :=
    hdataLen.trans (dataLen_of_validateParentLayout hlayout)
  apply Returns.step
  intro _ _
  apply Returns.bind ((validateParentAmount_returns_iff parent eventAmount field).mpr hlen)
  intro _ _
  exact Returns.pure paid

/-- The input amount of a buy does not panic. -/
theorem buyInputAmount_returns (event : BuyEventPrefix) (parent : InstructionContext) :
    Returns (buyInputAmount crates event parent)
      (Pumpswap.buyInputAmount crates event parent) := by
  unfold buyInputAmount Pumpswap.buyInputAmount
  apply Returns.bind (parentDiscriminator_returns parent)
  intro discriminator _
  apply Returns.ite
  · intro _
    exact buyChecks_returns crates parent (by decide) (by decide) _ _ _ _ _
  · intro _
    apply Returns.ite
    · intro _
      exact buyChecks_returns crates parent (by decide) (by decide) _ _ _ _ _
    · intro _
      exact Returns.throw _

/-- What every event does once its amounts are checked. -/
theorem correlation_returns (parent : InstructionContext) (pool user : Pubkey)
    (eventName : String) (swapOf : String → String → TokenSwap) :
    Returns (do
        ofResult (validateParentAccounts crates pool user parent eventName)
        let baseMint ← ofResult (parentMint crates parent baseMintAccountIndex "base_mint")
        let quoteMint ← ofResult (parentMint crates parent quoteMintAccountIndex "quote_mint")
        return swapOf baseMint quoteMint)
      (do
        validateParentAccounts crates pool user parent eventName
        let baseMint ← parentMint crates parent baseMintAccountIndex "base_mint"
        let quoteMint ← parentMint crates parent quoteMintAccountIndex "quote_mint"
        return swapOf baseMint quoteMint) := by
  apply Returns.step
  intro _ _
  apply Returns.step
  intro baseMint _
  apply Returns.step
  intro quoteMint _
  exact Returns.pure _

/-- The parsing of a buy does not panic. -/
theorem parseBuyEvent_returns (payload : Bytes) (parent : InstructionContext) :
    Returns (parseBuyEvent crates payload parent)
      (Pumpswap.parseBuyEvent crates payload parent) := by
  apply Returns.step
  intro event _
  apply Returns.bind (buyInputAmount_returns crates event parent)
  intro inputAmount _
  exact correlation_returns crates parent event.pool event.user "BuyEvent" _

/-- The parsing of a sell does not panic. -/
theorem parseSellEvent_returns (payload : Bytes) (parent : InstructionContext) :
    Returns (parseSellEvent crates payload parent)
      (Pumpswap.parseSellEvent crates payload parent) := by
  apply Returns.step
  intro event _
  apply Returns.bind (parentDiscriminator_returns parent)
  intro discriminator _
  apply Returns.throwIf
  intro _
  apply Returns.bind (validateParentLayout_returns parent (by decide))
  intro _ hlayout
  have hlen : 16 ≤ parent.data.length :=
    (by decide : 16 ≤ sellParentDataLen).trans (dataLen_of_validateParentLayout hlayout)
  apply Returns.bind ((validateParentAmount_returns_iff parent event.baseAmountIn _).mpr hlen)
  intro _ _
  exact correlation_returns crates parent event.pool event.user "SellEvent" _

/-! ### Instructions -/

/-- The header check protects the event's slices, and the discriminator check the last arm;
the parent may be any. -/
theorem parseInstructionWithParent_returns (ctx : InstructionContext)
    (parent : Option InstructionContext) :
    Returns (parseInstructionWithParent crates ctx parent)
      (Pumpswap.parseInstructionWithParent crates ctx parent) := by
  unfold parseInstructionWithParent Pumpswap.parseInstructionWithParent
  apply Returns.ite
  · intro _
    exact Returns.pure none
  intro _
  apply discriminator_returns (Nat.le_add_right _ _)
  intro hlen
  apply Returns.ite
  · intro _
    exact Returns.pure none
  intro hknown
  apply Returns.step
  intro authority _
  apply Returns.throwIf
  intro _
  apply Returns.step
  intro immediateParent _
  apply Returns.step
  intro _ _
  apply Returns.guarded (sliceFrom_eq_ok_iff.mpr ⟨hlen, rfl⟩)
  apply Returns.ofTwo hknown
  · apply Returns.bind (parseBuyEvent_returns crates _ immediateParent)
    intro swap _
    exact Returns.pure _
  · apply Returns.bind (parseSellEvent_returns crates _ immediateParent)
    intro swap _
    exact Returns.pure _

/-- The PumpSwap parser does not panic. -/
theorem parseInstruction_returns (ctx : InstructionContext) :
    Returns (parseInstruction crates ctx) (Pumpswap.parseInstruction crates ctx) := by
  apply Returns.step
  intro _ _
  exact parseInstructionWithParent_returns crates ctx ctx.parentInstruction

end Panicking
end Pumpswap

end PumpRealtimePrices
