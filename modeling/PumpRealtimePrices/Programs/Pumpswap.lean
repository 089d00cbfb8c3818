import PumpRealtimePrices.Common
import PumpRealtimePrices.Library.Rust

/-!
# PumpSwap program integration

The parser of PumpSwap buy and sell event self-CPIs.  An event is only
authoritative when it matches its immediate PumpSwap parent: the parent's
discriminator selects the variant, and its amount, pool and user must be those
of the event.  The pool's mints come from the parent's accounts.

Main results:

- Theorem {lit}`parseInstruction_eq_ok_iff`: an event is produced only with a parent
  that targets the program.
- Theorems {lit}`parseBuyEvent_eq_ok` and {lit}`parseSellEvent_eq_ok`: which swap an event
  yields against its parent.
- Theorem {lit}`parseInstruction_congr_parent`: a parent of another program is as good
  as none.
-/

namespace PumpRealtimePrices
namespace Pumpswap

open Borsh

/-! ## Constants -/

def programId : String := "pAMMBay6oceH9fJKBRHGP5D4bD4sWpmSwMn52FMfXEA"

def eventAuthority : String := "GS4CU59F31iL7aR2Q8zVS8DRrcRnXX1yjQ66TqNVQnaR"

def eventIxTag : Bytes := [228, 69, 165, 46, 81, 203, 154, 29]

def buyEventDiscriminator : Bytes := [103, 244, 82, 31, 44, 245, 119, 119]

def sellEventDiscriminator : Bytes := [62, 47, 55, 10, 165, 3, 220, 42]

def buyDiscriminator : Bytes := [102, 6, 61, 18, 1, 218, 235, 234]

def buyExactQuoteInDiscriminator : Bytes := [198, 46, 21, 82, 180, 217, 232, 112]

def sellDiscriminator : Bytes := [51, 230, 133, 164, 1, 127, 131, 173]

def eventHeaderLen : Nat := eventIxTag.length + buyEventDiscriminator.length

def poolAccountIndex : Nat := 0

def userAccountIndex : Nat := 1

def baseMintAccountIndex : Nat := 3

def quoteMintAccountIndex : Nat := 4

def buyParentAccountCount : Nat := 23

def sellParentAccountCount : Nat := 21

def buyParentDataLen : Nat := 25

def buyExactQuoteInParentDataLen : Nat := 24

def sellParentDataLen : Nat := 24

/-! ## Event prefixes -/

/-- Leading fields of {lit}`BuyEvent`, up to the last one the parser consumes. -/
structure BuyEventPrefix where
  timestamp : Int64
  baseAmountOut : UInt64
  maxQuoteAmountIn : UInt64
  userBaseTokenReserves : UInt64
  userQuoteTokenReserves : UInt64
  poolBaseTokenReserves : UInt64
  poolQuoteTokenReserves : UInt64
  quoteAmountIn : UInt64
  lpFeeBasisPoints : UInt64
  lpFee : UInt64
  protocolFeeBasisPoints : UInt64
  protocolFee : UInt64
  quoteAmountInWithLpFee : UInt64
  userQuoteAmountIn : UInt64
  pool : Pubkey
  user : Pubkey
  userBaseTokenAccount : Pubkey
  userQuoteTokenAccount : Pubkey
  protocolFeeRecipient : Pubkey
  protocolFeeRecipientTokenAccount : Pubkey
  coinCreator : Pubkey
  coinCreatorFeeBasisPoints : UInt64
  coinCreatorFee : UInt64
  trackVolume : Bool
  totalUnclaimedTokens : UInt64
  totalClaimedTokens : UInt64
  currentSolVolume : UInt64
  lastUpdateTimestamp : Int64
  minBaseAmountOut : UInt64
  ixName : String
deriving DecidableEq

/-- Leading fields of {lit}`SellEvent`, up to the last one the parser consumes. -/
structure SellEventPrefix where
  timestamp : Int64
  baseAmountIn : UInt64
  minQuoteAmountOut : UInt64
  userBaseTokenReserves : UInt64
  userQuoteTokenReserves : UInt64
  poolBaseTokenReserves : UInt64
  poolQuoteTokenReserves : UInt64
  quoteAmountOut : UInt64
  lpFeeBasisPoints : UInt64
  lpFee : UInt64
  protocolFeeBasisPoints : UInt64
  protocolFee : UInt64
  quoteAmountOutWithoutLpFee : UInt64
  userQuoteAmountOut : UInt64
  pool : Pubkey
  user : Pubkey
deriving DecidableEq

instance : BorshDeserialize BuyEventPrefix where
  deserialize := do
    let timestamp ← deserialize
    let baseAmountOut ← deserialize
    let maxQuoteAmountIn ← deserialize
    let userBaseTokenReserves ← deserialize
    let userQuoteTokenReserves ← deserialize
    let poolBaseTokenReserves ← deserialize
    let poolQuoteTokenReserves ← deserialize
    let quoteAmountIn ← deserialize
    let lpFeeBasisPoints ← deserialize
    let lpFee ← deserialize
    let protocolFeeBasisPoints ← deserialize
    let protocolFee ← deserialize
    let quoteAmountInWithLpFee ← deserialize
    let userQuoteAmountIn ← deserialize
    let pool ← deserialize
    let user ← deserialize
    let userBaseTokenAccount ← deserialize
    let userQuoteTokenAccount ← deserialize
    let protocolFeeRecipient ← deserialize
    let protocolFeeRecipientTokenAccount ← deserialize
    let coinCreator ← deserialize
    let coinCreatorFeeBasisPoints ← deserialize
    let coinCreatorFee ← deserialize
    let trackVolume ← deserialize
    let totalUnclaimedTokens ← deserialize
    let totalClaimedTokens ← deserialize
    let currentSolVolume ← deserialize
    let lastUpdateTimestamp ← deserialize
    let minBaseAmountOut ← deserialize
    let ixName ← deserialize
    return {
      timestamp, baseAmountOut, maxQuoteAmountIn, userBaseTokenReserves,
      userQuoteTokenReserves, poolBaseTokenReserves, poolQuoteTokenReserves, quoteAmountIn,
      lpFeeBasisPoints, lpFee, protocolFeeBasisPoints, protocolFee, quoteAmountInWithLpFee,
      userQuoteAmountIn, pool, user, userBaseTokenAccount, userQuoteTokenAccount,
      protocolFeeRecipient, protocolFeeRecipientTokenAccount, coinCreator,
      coinCreatorFeeBasisPoints, coinCreatorFee, trackVolume, totalUnclaimedTokens,
      totalClaimedTokens, currentSolVolume, lastUpdateTimestamp, minBaseAmountOut, ixName }

instance : BorshDeserialize SellEventPrefix where
  deserialize := do
    let timestamp ← deserialize
    let baseAmountIn ← deserialize
    let minQuoteAmountOut ← deserialize
    let userBaseTokenReserves ← deserialize
    let userQuoteTokenReserves ← deserialize
    let poolBaseTokenReserves ← deserialize
    let poolQuoteTokenReserves ← deserialize
    let quoteAmountOut ← deserialize
    let lpFeeBasisPoints ← deserialize
    let lpFee ← deserialize
    let protocolFeeBasisPoints ← deserialize
    let protocolFee ← deserialize
    let quoteAmountOutWithoutLpFee ← deserialize
    let userQuoteAmountOut ← deserialize
    let pool ← deserialize
    let user ← deserialize
    return {
      timestamp, baseAmountIn, minQuoteAmountOut, userBaseTokenReserves,
      userQuoteTokenReserves, poolBaseTokenReserves, poolQuoteTokenReserves, quoteAmountOut,
      lpFeeBasisPoints, lpFee, protocolFeeBasisPoints, protocolFee,
      quoteAmountOutWithoutLpFee, userQuoteAmountOut, pool, user }

/-! ## Parent validation -/

/-- The parent must target the program. -/
def validateParentProgram (parent : InstructionContext) : ParseResult Unit :=
  if parent.programId = programId then .ok ()
  else .error (.invalidInstructionData
    s!"PumpSwap event CPI parent targets program {parent.programId}")

/-- The check of the caller's program passes exactly for the program itself. -/
@[simp]
theorem validateParentProgram_eq_ok_iff {parent : InstructionContext} {checked : PUnit} :
    validateParentProgram parent = .ok checked ↔ parent.programId = programId := by
  unfold validateParentProgram
  split <;> simp [*]

/-- First eight data bytes of the parent. -/
def parentDiscriminator (parent : InstructionContext) : ParseResult Bytes := do
  parent.ensureDataLen 8
  return parent.data.take 8

/-- Minimum data length and account count of a parent variant. -/
def validateParentLayout (parent : InstructionContext) (minimumDataLen minimumAccountCount : Nat) :
    ParseResult Unit := do
  parent.ensureDataLen minimumDataLen
  let _ ← parent.account (minimumAccountCount - 1)
  return ()

/-- The first argument of the parent must be the amount of the event. -/
def validateParentAmount (parent : InstructionContext) (eventAmount : UInt64) (field : String) :
    ParseResult Unit :=
  let parentAmount := UInt64.ofNat (leNat ((parent.data.take 16).drop 8))
  if parentAmount = eventAmount then .ok ()
  else .error (.invalidInstructionData s!"{field} does not match its parent instruction")

variable (crates : Crates)

/-- Mint address at an account of the parent. -/
def parentMint (parent : InstructionContext) (accountIndex : Nat) (accountName : String) :
    ParseResult String := do
  let address ← parent.account accountIndex
  let mint ← (crates.pubkeyTryFrom address).mapError fun error =>
    ParseError.invalidInstructionData
      s!"PumpSwap parent {accountName} is not a valid address: {error}"
  return crates.pubkeyToString mint

/-- Pool and user of the event must be the parent's first two accounts. -/
def validateParentAccounts (eventPool eventUser : Pubkey) (parent : InstructionContext)
    (eventName : String) : ParseResult Unit := do
  if crates.pubkeyToString eventPool ≠ (← parent.account poolAccountIndex) then
    throw (.invalidInstructionData s!"{eventName}.pool does not match its parent instruction")
  if crates.pubkeyToString eventUser ≠ (← parent.account userAccountIndex) then
    throw (.invalidInstructionData s!"{eventName}.user does not match its parent instruction")

/-- The event's instruction name must be the one of the parent's variant. -/
def validateIxName (actual expected : String) : ParseResult Unit :=
  if actual = expected then .ok ()
  else
    let actual := crates.debugString actual
    let expected := crates.debugString expected
    .error (.invalidInstructionData
      s!"BuyEvent.ix_name is {actual}, expected {expected} for its parent instruction")

/-! ## Parser -/

/-- Checks of a buy that depend on the parent's variant, and the amount the user paid. -/
def buyInputAmount (event : BuyEventPrefix) (parent : InstructionContext) :
    ParseResult UInt64 := do
  let discriminator ← parentDiscriminator parent
  if discriminator = buyDiscriminator then
    validateParentLayout parent buyParentDataLen buyParentAccountCount
    validateIxName crates event.ixName "buy"
    validateParentAmount parent event.baseAmountOut "BuyEvent.base_amount_out"
    return event.userQuoteAmountIn
  else if discriminator = buyExactQuoteInDiscriminator then
    validateParentLayout parent buyExactQuoteInParentDataLen buyParentAccountCount
    validateIxName crates event.ixName "buy_exact_quote_in"
    validateParentAmount parent event.quoteAmountIn "BuyEvent.quote_amount_in"
    return event.quoteAmountIn
  else
    throw (.invalidInstructionData "BuyEvent parent is not a supported PumpSwap buy instruction")

/-- Decode and correlate a {lit}`BuyEvent`. -/
def parseBuyEvent (payload : Bytes) (parent : InstructionContext) : ParseResult TokenSwap := do
  let event : BuyEventPrefix ← decodeEventPrefix payload "BuyEvent"
  let inputAmount ← buyInputAmount crates event parent
  validateParentAccounts crates event.pool event.user parent "BuyEvent"
  let baseMint ← parentMint crates parent baseMintAccountIndex "base_mint"
  let quoteMint ← parentMint crates parent quoteMintAccountIndex "quote_mint"
  return {
    user := crates.pubkeyToString event.user
    pool := crates.pubkeyToString event.pool
    baseMint := some baseMint
    quoteMint := some quoteMint
    inputMint := quoteMint
    inputAmount
    outputMint := baseMint
    outputAmount := event.baseAmountOut }

/-- Decode and correlate a {lit}`SellEvent`. -/
def parseSellEvent (payload : Bytes) (parent : InstructionContext) : ParseResult TokenSwap := do
  let event : SellEventPrefix ← decodeEventPrefix payload "SellEvent"
  if (← parentDiscriminator parent) ≠ sellDiscriminator then
    throw (.invalidInstructionData "SellEvent parent is not a PumpSwap sell instruction")
  validateParentLayout parent sellParentDataLen sellParentAccountCount
  validateParentAmount parent event.baseAmountIn "SellEvent.base_amount_in"
  validateParentAccounts crates event.pool event.user parent "SellEvent"
  let baseMint ← parentMint crates parent baseMintAccountIndex "base_mint"
  let quoteMint ← parentMint crates parent quoteMintAccountIndex "quote_mint"
  return {
    user := crates.pubkeyToString event.user
    pool := crates.pubkeyToString event.pool
    baseMint := some baseMint
    quoteMint := some quoteMint
    inputMint := baseMint
    inputAmount := event.baseAmountIn
    outputMint := quoteMint
    outputAmount := event.userQuoteAmountOut }

/-- Parse one instruction against a given parent. -/
def parseInstructionWithParent (ctx : InstructionContext) (parent : Option InstructionContext) :
    ParseResult (Option ParsedEvent) := do
  if ¬ eventIxTag <+: ctx.data then
    return none
  ctx.ensureDataLen eventHeaderLen
  let discriminator := (ctx.data.take eventHeaderLen).drop eventIxTag.length
  if discriminator ≠ buyEventDiscriminator ∧ discriminator ≠ sellEventDiscriminator then
    return none
  if (← ctx.account 0) ≠ eventAuthority then
    throw (.invalidInstructionData "PumpSwap event CPI has an invalid event authority")
  let parent ← Rust.okOr
    (.invalidInstructionData "PumpSwap event CPI has no immediate parent instruction") parent
  validateParentProgram parent
  let payload := ctx.data.drop eventHeaderLen
  if discriminator = buyEventDiscriminator then
    return some (.tokenSwap (← parseBuyEvent crates payload parent))
  else
    -- Only the sell discriminator is left here; the source's last arm is unreachable.
    return some (.tokenSwap (← parseSellEvent crates payload parent))

/-- Parse one instruction of the program. -/
def parseInstruction (ctx : InstructionContext) : ParseResult (Option ParsedEvent) := do
  ctx.ensureProgramId programId
  parseInstructionWithParent crates ctx ctx.parentInstruction

/-- The PumpSwap parser as the registry holds it. -/
def parser : InstructionParser where
  programId := programId
  parseInstruction := parseInstruction crates

/-! ## What the parser accepts -/

/-- Discriminator of an event self-CPI. -/
def eventDiscriminator (ctx : InstructionContext) : Bytes :=
  (ctx.data.take eventHeaderLen).drop eventIxTag.length

/-- What an event yields against its parent. -/
def parseEvent (ctx parent : InstructionContext) : ParseResult TokenSwap :=
  if eventDiscriminator ctx = buyEventDiscriminator then
    parseBuyEvent crates (ctx.data.drop eventHeaderLen) parent
  else parseSellEvent crates (ctx.data.drop eventHeaderLen) parent

/-- The last step of the parser: a buy or a sell, as the discriminator says. -/
theorem bind_parseEvent_eq_ok_iff {ctx parent : InstructionContext}
    {result : Option ParsedEvent} :
    (if eventDiscriminator ctx = buyEventDiscriminator then do
        let swap ← parseBuyEvent crates (ctx.data.drop eventHeaderLen) parent
        return some (ParsedEvent.tokenSwap swap)
      else do
        let swap ← parseSellEvent crates (ctx.data.drop eventHeaderLen) parent
        return some (ParsedEvent.tokenSwap swap)) = .ok result ↔
      ∃ swap, parseEvent crates ctx parent = .ok swap ∧ result = some (.tokenSwap swap) := by
  unfold parseEvent
  split <;>
    simp only [Rust.except_bind_eq_ok_iff, pure, Except.pure, Except.ok.injEq,
      eq_comm (b := result)]

/-- What the parser accepts: an instruction without the event tag, an event of another kind,
or a buy or sell of its own program under the authority. -/
theorem parseInstruction_eq_ok_iff {ctx : InstructionContext} {result : Option ParsedEvent} :
    parseInstruction crates ctx = .ok result ↔
      ctx.programId = programId ∧
        (¬ eventIxTag <+: ctx.data ∧ result = none ∨
        eventIxTag <+: ctx.data ∧ eventHeaderLen ≤ ctx.data.length ∧
          (eventDiscriminator ctx ≠ buyEventDiscriminator ∧
              eventDiscriminator ctx ≠ sellEventDiscriminator ∧ result = none ∨
            (eventDiscriminator ctx = buyEventDiscriminator ∨
              eventDiscriminator ctx = sellEventDiscriminator) ∧
            ctx.accounts[0]? = some eventAuthority ∧
            ∃ parent swap, ctx.parent = some parent ∧ parent.programId = programId ∧
              parseEvent crates ctx { instruction := parent, parent := none } = .ok swap ∧
              result = some (.tokenSwap swap))) := by
  unfold parseInstruction parseInstructionWithParent
  rw [Rust.check_bind_eq_ok_iff, InstructionContext.ensureProgramId_eq_ok_iff]
  refine and_congr_right fun _ => ?_
  by_cases htag : eventIxTag <+: ctx.data
  · rw [if_neg (not_not.mpr htag), Rust.check_bind_eq_ok_iff,
      InstructionContext.ensureDataLen_eq_ok_iff]
    simp only [htag, not_true_eq_false, false_and, true_and, false_or]
    refine and_congr_right fun _ => ?_
    by_cases hevent : eventDiscriminator ctx ≠ buyEventDiscriminator ∧
        eventDiscriminator ctx ≠ sellEventDiscriminator
    · change (if eventDiscriminator ctx ≠ buyEventDiscriminator ∧
          eventDiscriminator ctx ≠ sellEventDiscriminator then _ else _) = _ ↔ _
      rw [if_pos hevent]
      simp [hevent, pure, Except.pure, eq_comm]
    · change (if eventDiscriminator ctx ≠ buyEventDiscriminator ∧
          eventDiscriminator ctx ≠ sellEventDiscriminator then _ else _) = _ ↔ _
      rw [if_neg hevent]
      have hone : eventDiscriminator ctx = buyEventDiscriminator ∨
          eventDiscriminator ctx = sellEventDiscriminator := by
        by_contra hnone
        exact hevent (not_or.mp hnone)
      simp only [Rust.except_bind_eq_ok_iff, Rust.throw_if_eq_ok_iff, Rust.okOr_eq_ok_iff,
        InstructionContext.account_eq_ok_iff, validateParentProgram_eq_ok_iff, not_not]
      constructor
      · rintro ⟨_, haccount, rfl, parent, hparent, -, hprogram, hrest⟩
        rcases (bind_parseEvent_eq_ok_iff crates).mp hrest with ⟨swap, hswap, hresult⟩
        rcases Option.map_eq_some_iff.mp hparent with ⟨view, hview, rfl⟩
        exact .inr ⟨hone, haccount, view, swap, hview, hprogram, hswap, hresult⟩
      · rintro (⟨hbuy, hsell, -⟩ | ⟨-, haccount, view, swap, hview, hprogram, hswap, hresult⟩)
        · exact absurd ⟨hbuy, hsell⟩ hevent
        · exact ⟨eventAuthority, haccount, rfl, _, Option.map_eq_some_iff.mpr ⟨view, hview, rfl⟩,
            ⟨⟩, hprogram, (bind_parseEvent_eq_ok_iff crates).mpr ⟨swap, hswap, hresult⟩⟩
  · rw [if_pos htag]
    simp [htag, pure, Except.pure, eq_comm]

/-- Two contexts that agree on the parents of the program yield the same events. -/
theorem parseInstruction_congr_parent {ctx ctx' : InstructionContext}
    (hinstruction : ctx.instruction = ctx'.instruction)
    (hparent : ∀ parent : InstructionView, parent.programId = programId →
      (ctx.parent = some parent ↔ ctx'.parent = some parent)) (result : Option ParsedEvent) :
    parseInstruction crates ctx = .ok result ↔ parseInstruction crates ctx' = .ok result := by
  have hevents : ∀ ctx ctx' : InstructionContext, ctx.instruction = ctx'.instruction →
      (∀ parent : InstructionView, parent.programId = programId →
        ctx.parent = some parent → ctx'.parent = some parent) →
      parseInstruction crates ctx = .ok result → parseInstruction crates ctx' = .ok result := by
    intro ctx ctx' hinstruction hparent
    rcases ctx with ⟨instruction, parent⟩
    rcases ctx' with ⟨instruction', parent'⟩
    obtain rfl : instruction = instruction' := hinstruction
    rw [parseInstruction_eq_ok_iff, parseInstruction_eq_ok_iff]
    rintro ⟨hprogram, hdata | ⟨htag, hlen, hother | ⟨hevent, haccount, view, swap, hview,
      hviewProgram, hswap⟩⟩⟩
    · exact ⟨hprogram, .inl hdata⟩
    · exact ⟨hprogram, .inr ⟨htag, hlen, .inl hother⟩⟩
    · exact ⟨hprogram, .inr ⟨htag, hlen, .inr ⟨hevent, haccount, view, swap,
        hparent view hviewProgram hview, hviewProgram, hswap⟩⟩⟩
  exact ⟨hevents ctx ctx' hinstruction fun parent hprogram => (hparent parent hprogram).mp,
    hevents ctx' ctx hinstruction.symm fun parent hprogram => (hparent parent hprogram).mpr⟩

/-! ## Which swap an event yields -/

/-- The swap of a buy: the mints are the parent's, and what the user paid depends
on the parent's variant. -/
structure IsBuySwap (event : BuyEventPrefix) (parent : InstructionContext) (swap : TokenSwap) :
    Prop where
  pool : swap.pool = crates.pubkeyToString event.pool
  baseMint : swap.baseMint = some swap.outputMint
  quoteMint : swap.quoteMint = some swap.inputMint
  addresses : ∃ base quote, swap.outputMint = crates.pubkeyToString base ∧
    swap.inputMint = crates.pubkeyToString quote
  baseAccount : parent.accounts[baseMintAccountIndex]? = some swap.outputMint
  quoteAccount : parent.accounts[quoteMintAccountIndex]? = some swap.inputMint
  outputAmount : swap.outputAmount = event.baseAmountOut
  inputAmount : parent.data.take 8 = buyDiscriminator ∧
      swap.inputAmount = event.userQuoteAmountIn ∨
    parent.data.take 8 = buyExactQuoteInDiscriminator ∧ swap.inputAmount = event.quoteAmountIn

/-- The swap of a sell. -/
structure IsSellSwap (event : SellEventPrefix) (parent : InstructionContext) (swap : TokenSwap) :
    Prop where
  pool : swap.pool = crates.pubkeyToString event.pool
  baseMint : swap.baseMint = some swap.inputMint
  quoteMint : swap.quoteMint = some swap.outputMint
  addresses : ∃ base quote, swap.inputMint = crates.pubkeyToString base ∧
    swap.outputMint = crates.pubkeyToString quote
  baseAccount : parent.accounts[baseMintAccountIndex]? = some swap.inputMint
  quoteAccount : parent.accounts[quoteMintAccountIndex]? = some swap.outputMint
  inputAmount : swap.inputAmount = event.baseAmountIn
  outputAmount : swap.outputAmount = event.userQuoteAmountOut

variable {crates}

/-- A mint is the text of the parent's account, which is an address. -/
theorem account_of_parentMint (hcrates : crates.Documented) {parent : InstructionContext}
    {accountIndex : Nat} {accountName mint : String}
    (hmint : parentMint crates parent accountIndex accountName = .ok mint) :
    parent.accounts[accountIndex]? = some mint ∧
      ∃ address, mint = crates.pubkeyToString address := by
  simp only [parentMint, Rust.except_bind_eq_ok_iff, Rust.mapError_eq_ok_iff,
    InstructionContext.account_eq_ok_iff, pure, Except.pure, Except.ok.injEq] at hmint
  rcases hmint with ⟨address, haddress, pubkey, hpubkey, rfl⟩
  rw [haddress, hcrates.toString_of_tryFrom hpubkey]
  exact ⟨rfl, pubkey, (hcrates.toString_of_tryFrom hpubkey).symm⟩

/-- The discriminator of a caller is its first eight bytes. -/
theorem parentDiscriminator_eq_ok {parent : InstructionContext} {discriminator : Bytes}
    (hdiscriminator : parentDiscriminator parent = .ok discriminator) :
    discriminator = parent.data.take 8 := by
  rw [parentDiscriminator, Rust.check_bind_eq_ok_iff] at hdiscriminator
  exact (Except.ok.inj hdiscriminator.2).symm

/-- What the user paid is read from the field that the parent's variant names. -/
theorem buyInputAmount_eq_ok {event : BuyEventPrefix} {parent : InstructionContext}
    {amount : UInt64} (hamount : buyInputAmount crates event parent = .ok amount) :
    parent.data.take 8 = buyDiscriminator ∧ amount = event.userQuoteAmountIn ∨
      parent.data.take 8 = buyExactQuoteInDiscriminator ∧ amount = event.quoteAmountIn := by
  rw [buyInputAmount, Rust.except_bind_eq_ok_iff] at hamount
  rcases hamount with ⟨discriminator, hdiscriminator, hamount⟩
  have hparent := parentDiscriminator_eq_ok hdiscriminator
  split at hamount
  · next hbuy =>
      simp only [Rust.check_bind_eq_ok_iff, pure, Except.pure, Except.ok.injEq] at hamount
      exact .inl ⟨hparent.symm.trans hbuy, hamount.2.2.2.symm⟩
  · split at hamount
    · next hexact =>
        simp only [Rust.check_bind_eq_ok_iff, pure, Except.pure, Except.ok.injEq] at hamount
        exact .inr ⟨hparent.symm.trans hexact, hamount.2.2.2.symm⟩
    · cases hamount

/-- A buy that parses is the swap of its event and its parent. -/
theorem parseBuyEvent_eq_ok (hcrates : crates.Documented) {payload : Bytes}
    {parent : InstructionContext} {swap : TokenSwap}
    (hparse : parseBuyEvent crates payload parent = .ok swap) :
    ∃ event, decodeEventPrefix payload "BuyEvent" = .ok event ∧
      IsBuySwap crates event parent swap := by
  simp only [parseBuyEvent, Rust.except_bind_eq_ok_iff, pure, Except.pure,
    Except.ok.injEq] at hparse
  rcases hparse with ⟨event, hevent, amount, hamount, -, -, base, hbase, quote, hquote, rfl⟩
  rcases account_of_parentMint hcrates hbase with ⟨hbaseAccount, baseAddress, hbaseAddress⟩
  rcases account_of_parentMint hcrates hquote with ⟨hquoteAccount, quoteAddress, hquoteAddress⟩
  exact ⟨event, hevent, {
    pool := rfl
    baseMint := rfl
    quoteMint := rfl
    addresses := ⟨baseAddress, quoteAddress, hbaseAddress, hquoteAddress⟩
    baseAccount := hbaseAccount
    quoteAccount := hquoteAccount
    outputAmount := rfl
    inputAmount := buyInputAmount_eq_ok hamount }⟩

/-- A sell that parses is the swap of its event and its parent. -/
theorem parseSellEvent_eq_ok (hcrates : crates.Documented) {payload : Bytes}
    {parent : InstructionContext} {swap : TokenSwap}
    (hparse : parseSellEvent crates payload parent = .ok swap) :
    ∃ event, decodeEventPrefix payload "SellEvent" = .ok event ∧
      IsSellSwap crates event parent swap := by
  simp only [parseSellEvent, Rust.except_bind_eq_ok_iff, Rust.throw_if_eq_ok_iff, pure,
    Except.pure, Except.ok.injEq] at hparse
  rcases hparse with
    ⟨event, hevent, discriminator, -, -, -, -, -, -, -, -, base, hbase, quote, hquote, rfl⟩
  rcases account_of_parentMint hcrates hbase with ⟨hbaseAccount, baseAddress, hbaseAddress⟩
  rcases account_of_parentMint hcrates hquote with ⟨hquoteAccount, quoteAddress, hquoteAddress⟩
  exact ⟨event, hevent, {
    pool := rfl
    baseMint := rfl
    quoteMint := rfl
    addresses := ⟨baseAddress, quoteAddress, hbaseAddress, hquoteAddress⟩
    baseAccount := hbaseAccount
    quoteAccount := hquoteAccount
    inputAmount := rfl
    outputAmount := rfl }⟩

end Pumpswap
end PumpRealtimePrices
