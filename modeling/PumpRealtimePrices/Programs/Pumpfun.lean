import PumpRealtimePrices.Common
import PumpRealtimePrices.Library.Rust

/-!
# Pump.fun program integration

The parser of Pump.fun event self-CPIs.  An instruction that starts with the
Anchor event tag and one of the two modelled discriminators is checked against
the event authority, its payload is decoded as a Borsh prefix, and a trade is
turned into a swap whose quote side carries the fees.

Main results:

- Theorem {lit}`parseTradeEvent_eq_ok`: which swap a trade payload yields.
- Theorem {lit}`parseInstruction_eq_ok_some`: which events are produced.
- Theorem {lit}`parseInstruction_eq_of_instruction`: the parser never looks at the
  parent.
-/

namespace PumpRealtimePrices
namespace Pumpfun

open Borsh

/-! ## Constants -/

def programId : String := "6EF8rrecthR5Dkzon8Nwu78hRvfCKubJ14M5uBEwF6P"

def eventAuthority : String := "Ce6TQqeHC9p8KetsN6JsjHK7UTZk7nasjjnr7XxXp9F1"

def wrappedSolMint : String := "So11111111111111111111111111111111111111112"

def eventIxTag : Bytes := [228, 69, 165, 46, 81, 203, 154, 29]

def createEventDiscriminator : Bytes := [27, 114, 169, 77, 222, 235, 99, 118]

def tradeEventDiscriminator : Bytes := [189, 219, 127, 211, 78, 230, 97, 238]

def eventHeaderLen : Nat := eventIxTag.length + createEventDiscriminator.length

/-! ## Event prefixes -/

/-- One entry of the shareholders of a trade. -/
structure Shareholder where
  address : Pubkey
  shareBps : UInt16
deriving DecidableEq

/-- Leading fields of {lit}`CreateEvent`, up to the last one the parser consumes. -/
structure CreateEventPrefix where
  name : String
  symbol : String
  uri : String
  mint : Pubkey
  bondingCurve : Pubkey
  user : Pubkey
  creator : Pubkey
deriving DecidableEq

/-- Leading fields of {lit}`TradeEvent`, up to the last one the parser consumes. -/
structure TradeEventPrefix where
  mint : Pubkey
  solAmount : UInt64
  tokenAmount : UInt64
  isBuy : Bool
  user : Pubkey
  timestamp : Int64
  virtualSolReserves : UInt64
  virtualTokenReserves : UInt64
  realSolReserves : UInt64
  realTokenReserves : UInt64
  feeRecipient : Pubkey
  feeBasisPoints : UInt64
  fee : UInt64
  creator : Pubkey
  creatorFeeBasisPoints : UInt64
  creatorFee : UInt64
  trackVolume : Bool
  totalUnclaimedTokens : UInt64
  totalClaimedTokens : UInt64
  currentSolVolume : UInt64
  lastUpdateTimestamp : Int64
  ixName : String
  mayhemMode : Bool
  cashbackFeeBasisPoints : UInt64
  cashback : UInt64
  buybackFeeBasisPoints : UInt64
  buybackFee : UInt64
  shareholders : List Shareholder
  quoteMint : Pubkey
  quoteAmount : UInt64
deriving DecidableEq

instance : BorshDeserialize Shareholder where
  deserialize := do
    let address ← deserialize
    let shareBps ← deserialize
    return { address, shareBps }

instance : BorshDeserialize CreateEventPrefix where
  deserialize := do
    let name ← deserialize
    let symbol ← deserialize
    let uri ← deserialize
    let mint ← deserialize
    let bondingCurve ← deserialize
    let user ← deserialize
    let creator ← deserialize
    return { name, symbol, uri, mint, bondingCurve, user, creator }

instance : BorshDeserialize TradeEventPrefix where
  deserialize := do
    let mint ← deserialize
    let solAmount ← deserialize
    let tokenAmount ← deserialize
    let isBuy ← deserialize
    let user ← deserialize
    let timestamp ← deserialize
    let virtualSolReserves ← deserialize
    let virtualTokenReserves ← deserialize
    let realSolReserves ← deserialize
    let realTokenReserves ← deserialize
    let feeRecipient ← deserialize
    let feeBasisPoints ← deserialize
    let fee ← deserialize
    let creator ← deserialize
    let creatorFeeBasisPoints ← deserialize
    let creatorFee ← deserialize
    let trackVolume ← deserialize
    let totalUnclaimedTokens ← deserialize
    let totalClaimedTokens ← deserialize
    let currentSolVolume ← deserialize
    let lastUpdateTimestamp ← deserialize
    let ixName ← deserialize
    let mayhemMode ← deserialize
    let cashbackFeeBasisPoints ← deserialize
    let cashback ← deserialize
    let buybackFeeBasisPoints ← deserialize
    let buybackFee ← deserialize
    let shareholders ← deserialize
    let quoteMint ← deserialize
    let quoteAmount ← deserialize
    return {
      mint, solAmount, tokenAmount, isBuy, user, timestamp, virtualSolReserves,
      virtualTokenReserves, realSolReserves, realTokenReserves, feeRecipient, feeBasisPoints,
      fee, creator, creatorFeeBasisPoints, creatorFee, trackVolume, totalUnclaimedTokens,
      totalClaimedTokens, currentSolVolume, lastUpdateTimestamp, ixName, mayhemMode,
      cashbackFeeBasisPoints, cashback, buybackFeeBasisPoints, buybackFee, shareholders,
      quoteMint, quoteAmount }

/-! ## Parser -/

variable (crates : Crates)

/-- Decode a {lit}`CreateEvent` payload into a token discovery. -/
def parseCreateEvent (payload : Bytes) : ParseResult TokenDiscovery := do
  let event : CreateEventPrefix ← decodeEventPrefix payload "CreateEvent"
  return {
    mint := crates.pubkeyToString event.mint
    creator := crates.pubkeyToString event.creator
    name := event.name
    symbol := event.symbol
    uri := event.uri }

/-- Decode a {lit}`TradeEvent` payload into a swap. -/
def parseTradeEvent (payload : Bytes) : ParseResult TokenSwap := do
  let event : TradeEventPrefix ← decodeEventPrefix payload "TradeEvent"
  let totalFees ← Rust.okOr (.invalidInstructionData "TradeEvent fee total overflows u64")
    ((Rust.checkedAdd event.fee event.creatorFee).bind fun amount =>
      Rust.checkedAdd amount event.cashback)
  let quoteMint :=
    if event.quoteMint = Pubkey.default then wrappedSolMint
    else crates.pubkeyToString event.quoteMint
  let programAddress ← (crates.pubkeyTryFrom programId).mapError fun error =>
    ParseError.invalidInstructionData s!"invalid Pump.fun program address: {error}"
  let pool := crates.findProgramAddress ["bonding-curve".toUTF8.data.toList, event.mint.bytes]
    programAddress
  let (inputMint, inputAmount, outputMint, outputAmount) ←
    if event.isBuy then do
      let inputAmount ← Rust.okOr
        (.invalidInstructionData "TradeEvent gross input amount overflows u64")
        (Rust.checkedAdd event.quoteAmount totalFees)
      pure (quoteMint, inputAmount, crates.pubkeyToString event.mint, event.tokenAmount)
    else do
      let outputAmount ← Rust.okOr
        (.invalidInstructionData "TradeEvent fees exceed the quote output amount")
        (Rust.checkedSub event.quoteAmount totalFees)
      pure (crates.pubkeyToString event.mint, event.tokenAmount, quoteMint, outputAmount)
  return {
    user := crates.pubkeyToString event.user
    pool := crates.pubkeyToString pool
    baseMint := none
    quoteMint := none
    inputMint, inputAmount, outputMint, outputAmount }

/-- Parse one instruction of the program. -/
def parseInstruction (ctx : InstructionContext) : ParseResult (Option ParsedEvent) := do
  ctx.ensureProgramId programId
  if ¬ eventIxTag <+: ctx.data then
    return none
  ctx.ensureDataLen eventHeaderLen
  let discriminator := (ctx.data.take eventHeaderLen).drop eventIxTag.length
  if discriminator ≠ createEventDiscriminator ∧ discriminator ≠ tradeEventDiscriminator then
    return none
  if (← ctx.account 0) ≠ eventAuthority then
    throw (.invalidInstructionData "Pump.fun event CPI has an invalid event authority")
  let payload := ctx.data.drop eventHeaderLen
  if discriminator = createEventDiscriminator then
    return some (.tokenDiscovery (← parseCreateEvent crates payload))
  else
    -- Only the trade discriminator is left here; the source's last arm is unreachable.
    return some (.tokenSwap (← parseTradeEvent crates payload))

/-- The Pump.fun parser as the registry holds it. -/
def parser : InstructionParser where
  programId := programId
  parseInstruction := parseInstruction crates

/-! ## What the parser accepts -/

/-- Mint that a trade was quoted in; the default address stands for wrapped SOL. -/
def tradeQuoteMint (event : TradeEventPrefix) : String :=
  if event.quoteMint = Pubkey.default then wrappedSolMint
  else crates.pubkeyToString event.quoteMint

/-- The swap of a trade: fees are added to what a buyer pays, and subtracted from
what a seller receives. -/
structure IsTradeSwap (event : TradeEventPrefix) (swap : TokenSwap) : Prop where
  baseMint : swap.baseMint = none
  quoteMint : swap.quoteMint = none
  pool : ∃ pool, swap.pool = crates.pubkeyToString pool
  amounts : ∃ totalFees : UInt64,
    event.fee.toNat + event.creatorFee.toNat + event.cashback.toNat = totalFees.toNat ∧
    if event.isBuy then
      swap.inputMint = tradeQuoteMint crates event ∧
        event.quoteAmount.toNat + totalFees.toNat = swap.inputAmount.toNat ∧
        swap.outputMint = crates.pubkeyToString event.mint ∧
        swap.outputAmount = event.tokenAmount
    else
      swap.inputMint = crates.pubkeyToString event.mint ∧
        swap.inputAmount = event.tokenAmount ∧
        swap.outputMint = tradeQuoteMint crates event ∧
        totalFees.toNat + swap.outputAmount.toNat = event.quoteAmount.toNat

/-- A trade that parses is the swap of its event. -/
theorem parseTradeEvent_eq_ok {payload : Bytes} {swap : TokenSwap}
    (hparse : parseTradeEvent crates payload = .ok swap) :
    ∃ event, decodeEventPrefix payload "TradeEvent" = .ok event ∧
      IsTradeSwap crates event swap := by
  unfold parseTradeEvent at hparse
  simp only [Rust.except_bind_eq_ok_iff, Rust.okOr_eq_ok_iff, Rust.mapError_eq_ok_iff,
    Option.bind_eq_some_iff, pure, Except.pure] at hparse
  rcases hparse with ⟨event, hevent, totalFees, ⟨fees, hfees, htotal⟩, programAddress, -, hparse⟩
  refine ⟨event, hevent, ?_⟩
  rw [Rust.checkedAdd_eq_some_iff] at hfees htotal
  have hsum : event.fee.toNat + event.creatorFee.toNat + event.cashback.toNat =
      totalFees.toNat := by
    omega
  split at hparse
  · next hbuy =>
      simp only [Rust.except_bind_eq_ok_iff, Rust.okOr_eq_ok_iff, Except.ok.injEq] at hparse
      rcases hparse with ⟨inputAmount, hinput, _, rfl, rfl⟩
      rw [Rust.checkedAdd_eq_some_iff] at hinput
      refine ⟨rfl, rfl, ⟨_, rfl⟩, totalFees, hsum, ?_⟩
      rw [if_pos hbuy]
      exact ⟨rfl, hinput, rfl, rfl⟩
  · next hsell =>
      simp only [Rust.except_bind_eq_ok_iff, Rust.okOr_eq_ok_iff, Except.ok.injEq] at hparse
      rcases hparse with ⟨outputAmount, houtput, _, rfl, rfl⟩
      rw [Rust.checkedSub_eq_some_iff] at houtput
      refine ⟨rfl, rfl, ⟨_, rfl⟩, totalFees, hsum, ?_⟩
      rw [if_neg hsell]
      exact ⟨rfl, rfl, rfl, houtput⟩

/-- Which events are produced, and from what. -/
theorem parseInstruction_eq_ok_some {ctx : InstructionContext} {event : ParsedEvent}
    (hparse : parseInstruction crates ctx = .ok (some event)) :
    (∃ discovery, event = .tokenDiscovery discovery) ∨
      ∃ swap, parseTradeEvent crates (ctx.data.drop eventHeaderLen) = .ok swap ∧
        event = .tokenSwap swap := by
  unfold parseInstruction at hparse
  rw [Rust.check_bind_eq_ok_iff] at hparse
  rcases hparse with ⟨-, hparse⟩
  split at hparse
  · cases hparse
  · rw [Rust.check_bind_eq_ok_iff] at hparse
    rcases hparse with ⟨-, hparse⟩
    simp only at hparse
    split at hparse
    · cases hparse
    · simp only [Rust.except_bind_eq_ok_iff, Rust.throw_if_eq_ok_iff] at hparse
      rcases hparse with ⟨authority, -, -, hparse⟩
      split at hparse
      · simp only [Rust.except_bind_eq_ok_iff, pure, Except.pure, Except.ok.injEq,
          Option.some.injEq] at hparse
        rcases hparse with ⟨discovery, -, rfl⟩
        exact .inl ⟨discovery, rfl⟩
      · simp only [Rust.except_bind_eq_ok_iff, pure, Except.pure, Except.ok.injEq,
          Option.some.injEq] at hparse
        rcases hparse with ⟨swap, hswap, rfl⟩
        exact .inr ⟨swap, hswap, rfl⟩

/-- The parser never looks at the parent. -/
theorem parseInstruction_eq_of_instruction {ctx ctx' : InstructionContext}
    (hinstruction : ctx.instruction = ctx'.instruction) :
    parseInstruction crates ctx = parseInstruction crates ctx' := by
  rcases ctx with ⟨instruction, parent⟩
  rcases ctx' with ⟨instruction', parent'⟩
  obtain rfl : instruction = instruction' := hinstruction
  rfl

end Pumpfun
end PumpRealtimePrices
