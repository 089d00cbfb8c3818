import PumpRealtimePrices.Programs.EventLayouts

/-!
# Fees of a trade

A trade event names a quote amount and three fees apart from it.  A buyer pays the
quote amount and the fees, and a seller receives what the fees leave of it.  The
parser computes this with checked operations one after the other, so it has to be
shown that the chain refuses exactly the trades whose result no {lit}`u64` can hold.

Main results:

- Theorem {lit}`parseTradeEvent_eq_ok_iff`: a trade parses to the swap of the exact
  amount.
- Theorem {lit}`parseTradeEvent_exact`: it parses exactly when that amount fits, and
  nothing else in the event matters.
-/

namespace PumpRealtimePrices
namespace Pumpfun

open Borsh

/-! ## Exact amounts -/

namespace TradeEventPrefix

/-- Fees that are part of what the user pays or receives. -/
def totalFees (event : TradeEventPrefix) : Nat :=
  event.fee.toNat + event.creatorFee.toNat + event.cashback.toNat

/-- What a buyer pays or a seller receives, as an integer without bounds. -/
def settledQuote (event : TradeEventPrefix) : Int :=
  if event.isBuy then event.quoteAmount.toNat + event.totalFees
  else event.quoteAmount.toNat - event.totalFees

/-- Two trades of the same user, mints, direction and amounts. -/
structure SameTrade (event event' : TradeEventPrefix) : Prop where
  mint : event.mint = event'.mint
  user : event.user = event'.user
  quoteMint : event.quoteMint = event'.quoteMint
  isBuy : event.isBuy = event'.isBuy
  tokenAmount : event.tokenAmount = event'.tokenAmount
  quoteAmount : event.quoteAmount = event'.quoteAmount
  fee : event.fee = event'.fee
  creatorFee : event.creatorFee = event'.creatorFee
  cashback : event.cashback = event'.cashback

end TradeEventPrefix

/-! ## The program address -/

/-- The bytes of the program address. -/
def programAddress : Pubkey where
  bytes := [1, 86, 224, 246, 147, 102, 90, 207, 68, 219, 21, 104, 191, 23, 91, 170, 81, 137, 203,
    151, 245, 210, 255, 59, 101, 93, 43, 182, 253, 109, 24, 176]
  length_bytes := rfl

/-- The text of the program's address. -/
theorem encode_programAddress : Base58.encode programAddress.bytes = programId := by
  decide +kernel

variable {crates : Crates}

/-- The text of the program is that of its address. -/
theorem pubkeyTryFrom_programId (hcrates : crates.Documented) :
    crates.pubkeyTryFrom programId = .ok programAddress :=
  (hcrates.pubkeyTryFrom_eq_ok_iff _ _).mpr encode_programAddress.symm

/-! ## The swap of a trade -/

variable (crates) in
/-- The swap of a trade that moves a given amount on its quote side. -/
def tradeSwap (event : TradeEventPrefix) (quoteAmount : UInt64) : TokenSwap where
  user := crates.pubkeyToString event.user
  pool := crates.pubkeyToString (crates.findProgramAddress
    ["bonding-curve".toUTF8.data.toList, event.mint.bytes] programAddress)
  baseMint := none
  quoteMint := none
  inputMint :=
    if event.isBuy then tradeQuoteMint crates event else crates.pubkeyToString event.mint
  inputAmount := if event.isBuy then quoteAmount else event.tokenAmount
  outputMint :=
    if event.isBuy then crates.pubkeyToString event.mint else tradeQuoteMint crates event
  outputAmount := if event.isBuy then event.tokenAmount else quoteAmount

/-- A trade parses to the swap of the exact amount. -/
theorem parseTradeEvent_eq_ok_iff (hcrates : crates.Documented) {payload : Bytes}
    {event : TradeEventPrefix} (hevent : decodeEventPrefix payload "TradeEvent" = .ok event)
    {swap : TokenSwap} :
    parseTradeEvent crates payload = .ok swap ↔
      ∃ quoteAmount : UInt64, (quoteAmount.toNat : Int) = event.settledQuote ∧
        swap = tradeSwap crates event quoteAmount := by
  have hprogram : (crates.pubkeyTryFrom programId).mapError (fun error =>
      ParseError.invalidInstructionData s!"invalid Pump.fun program address: {error}") =
        .ok programAddress :=
    Rust.mapError_eq_ok_iff.mpr (pubkeyTryFrom_programId hcrates)
  unfold parseTradeEvent
  rw [hevent, Rust.ok_bind, hprogram]
  have hfees : event.fee.toNat + event.creatorFee.toNat + event.cashback.toNat =
      event.totalFees := rfl
  simp only [Rust.except_bind_eq_ok_iff, Rust.okOr_eq_ok_iff, Rust.checkedAdd_bind_eq_some_iff,
    Except.ok.injEq, exists_eq_left', hfees]
  cases hbuy : event.isBuy with
  | true =>
      have hsettled : event.settledQuote = event.quoteAmount.toNat + event.totalFees := if_pos hbuy
      simp only [if_true, Rust.except_bind_eq_ok_iff, Rust.okOr_eq_ok_iff,
        Rust.checkedAdd_eq_some_iff, pure, Except.pure, Except.ok.injEq, exists_eq_left']
      constructor
      · intro hparse
        rcases hparse with ⟨totalFees, htotal, quoteAmount, hpaid, rfl⟩
        exact ⟨quoteAmount, by omega, by simp only [tradeSwap, hbuy, if_true, tradeQuoteMint]⟩
      · intro hswap
        rcases hswap with ⟨quoteAmount, hpaid, rfl⟩
        have hlt := quoteAmount.toNat_lt
        have htotal : event.totalFees < 2 ^ 64 := by omega
        have hread := UInt64.toNat_ofNat_of_lt' htotal
        exact ⟨UInt64.ofNat event.totalFees, hread.symm, quoteAmount, by omega,
          by simp only [tradeSwap, hbuy, if_true, tradeQuoteMint]⟩
  | false =>
      have hsettled : event.settledQuote = event.quoteAmount.toNat - event.totalFees :=
        if_neg (by rw [hbuy]; exact Bool.false_ne_true)
      simp only [Bool.false_eq_true, if_false, Rust.except_bind_eq_ok_iff, Rust.okOr_eq_ok_iff,
        Rust.checkedSub_eq_some_iff, pure, Except.pure, Except.ok.injEq, exists_eq_left']
      constructor
      · intro hparse
        rcases hparse with ⟨totalFees, htotal, quoteAmount, hreceived, rfl⟩
        exact ⟨quoteAmount, by omega,
          by simp only [tradeSwap, hbuy, Bool.false_eq_true, if_false, tradeQuoteMint]⟩
      · intro hswap
        rcases hswap with ⟨quoteAmount, hreceived, rfl⟩
        have hlt := event.quoteAmount.toNat_lt
        have htotal : event.totalFees < 2 ^ 64 := by omega
        have hread := UInt64.toNat_ofNat_of_lt' htotal
        exact ⟨UInt64.ofNat event.totalFees, hread.symm, quoteAmount, by omega,
          by simp only [tradeSwap, hbuy, Bool.false_eq_true, if_false, tradeQuoteMint]⟩

/-- A trade parses exactly when what its user pays or receives is a {lit}`u64`. -/
theorem exists_swap_iff_settledQuote (hcrates : crates.Documented) {payload : Bytes}
    {event : TradeEventPrefix} (hevent : decodeEventPrefix payload "TradeEvent" = .ok event) :
    (∃ swap, parseTradeEvent crates payload = .ok swap) ↔
      0 ≤ event.settledQuote ∧ event.settledQuote < 2 ^ 64 := by
  rw [← Rust.exists_toNat_eq_iff]
  constructor
  · intro hparse
    rcases hparse with ⟨swap, hswap⟩
    rcases (parseTradeEvent_eq_ok_iff hcrates hevent).mp hswap with ⟨quoteAmount, hamount, -⟩
    exact ⟨quoteAmount, hamount⟩
  · intro hfits
    rcases hfits with ⟨quoteAmount, hamount⟩
    exact ⟨tradeSwap crates event quoteAmount,
      (parseTradeEvent_eq_ok_iff hcrates hevent).mpr ⟨quoteAmount, hamount, rfl⟩⟩

/-- Only the named fields of a trade matter, also for its errors. -/
theorem parseTradeEvent_of_sameTrade {payload payload' : Bytes} {event event' : TradeEventPrefix}
    (hevent : decodeEventPrefix payload "TradeEvent" = .ok event)
    (hevent' : decodeEventPrefix payload' "TradeEvent" = .ok event')
    (hsame : event.SameTrade event') :
    parseTradeEvent crates payload = parseTradeEvent crates payload' := by
  unfold parseTradeEvent
  rw [hevent, hevent', Rust.ok_bind, Rust.ok_bind]
  simp only [hsame.mint, hsame.user, hsame.quoteMint, hsame.isBuy, hsame.tokenAmount,
    hsame.quoteAmount, hsame.fee, hsame.creatorFee, hsame.cashback]

/-- A trade parses exactly when what its user pays or receives is a {lit}`u64`.  Its swap
then carries exactly that amount, and nothing depends on the other fields. -/
theorem parseTradeEvent_exact (hcrates : crates.Documented) {payload : Bytes}
    {event : TradeEventPrefix} (hevent : decodeEventPrefix payload "TradeEvent" = .ok event) :
    ((∃ swap, parseTradeEvent crates payload = .ok swap) ↔
        0 ≤ event.settledQuote ∧ event.settledQuote < 2 ^ 64) ∧
      (∀ swap, parseTradeEvent crates payload = .ok swap →
        ∃ quoteAmount : UInt64, (quoteAmount.toNat : Int) = event.settledQuote ∧
          swap = tradeSwap crates event quoteAmount) ∧
      ∀ payload' event', decodeEventPrefix payload' "TradeEvent" = .ok event' →
        event.SameTrade event' →
          parseTradeEvent crates payload = parseTradeEvent crates payload' := by
  refine ⟨exists_swap_iff_settledQuote hcrates hevent, ?_, ?_⟩
  · intro swap hswap
    exact (parseTradeEvent_eq_ok_iff hcrates hevent).mp hswap
  · intro payload' event' hevent' hsame
    exact parseTradeEvent_of_sameTrade hevent hevent' hsame

/-! ## A trade at the limit -/

/-- A trade of the given amounts; the other fields play no role. -/
def tradeOf (isBuy : Bool) (tokenAmount quoteAmount fee creatorFee cashback : UInt64) :
    TradeEventPrefix where
  mint := programAddress
  solAmount := 0
  tokenAmount := tokenAmount
  isBuy := isBuy
  user := programAddress
  timestamp := 0
  virtualSolReserves := 0
  virtualTokenReserves := 0
  realSolReserves := 0
  realTokenReserves := 0
  feeRecipient := Pubkey.default
  feeBasisPoints := 0
  fee := fee
  creator := Pubkey.default
  creatorFeeBasisPoints := 0
  creatorFee := creatorFee
  trackVolume := false
  totalUnclaimedTokens := 0
  totalClaimedTokens := 0
  currentSolVolume := 0
  lastUpdateTimestamp := 0
  ixName := ""
  mayhemMode := false
  cashbackFeeBasisPoints := 0
  cashback := cashback
  buybackFeeBasisPoints := 0
  buybackFee := 0
  shareholders := []
  quoteMint := Pubkey.default
  quoteAmount := quoteAmount

/-- Payload of a trade. -/
def tradePayload (event : TradeEventPrefix) : Bytes :=
  (serialize event).getD []

/-- The payload of a trade decodes to the trade. -/
theorem decodeEventPrefix_tradePayload
    (isBuy : Bool) (tokenAmount quoteAmount fee creatorFee cashback : UInt64) :
    decodeEventPrefix
        (tradePayload (tradeOf isBuy tokenAmount quoteAmount fee creatorFee cashback))
        "TradeEvent" =
      .ok (tradeOf isBuy tokenAmount quoteAmount fee creatorFee cashback) := by
  have hname : FitsLengthPrefix "" := Nat.two_pow_pos 32
  have hencodable := (tradeEvent_encodable_iff
    (tradeOf isBuy tokenAmount quoteAmount fee creatorFee cashback)).mpr
      ⟨hname, Nat.two_pow_pos 32⟩
  rcases Option.isSome_iff_exists.mp hencodable with ⟨payload, hpayload⟩
  rw [tradePayload, hpayload, Option.getD_some]
  exact (decodeEventPrefix_prefixCodec TradeEventPrefix "TradeEvent").round_trip _ _ hpayload

/-- A buy whose quote amount and fees add up to the greatest {lit}`u64`. -/
def greatestBuy : TradeEventPrefix :=
  tradeOf true 1000 18446744073709551612 1 1 1

/-- The buy at the limit parses to its exact amount. -/
theorem parseTradeEvent_exact_greatestBuy :
    ∃ quoteAmount : UInt64, (quoteAmount.toNat : Int) = 2 ^ 64 - 1 ∧
      parseTradeEvent (Crates.reference fun _ program => program) (tradePayload greatestBuy) =
        .ok (tradeSwap (Crates.reference fun _ program => program) greatestBuy quoteAmount) := by
  have hexact := parseTradeEvent_exact
    (Crates.reference_documented fun _ program => program)
    (decodeEventPrefix_tradePayload true 1000 18446744073709551612 1 1 1)
  have hsettled : greatestBuy.settledQuote = 2 ^ 64 - 1 := by decide +kernel
  rcases hexact.1.mpr (by decide +kernel) with ⟨swap, hswap⟩
  rcases hexact.2.1 swap hswap with ⟨quoteAmount, hamount, rfl⟩
  exact ⟨quoteAmount, hamount.trans hsettled, hswap⟩

end Pumpfun
end PumpRealtimePrices
