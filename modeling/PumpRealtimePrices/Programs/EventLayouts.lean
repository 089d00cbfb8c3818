import PumpRealtimePrices.Programs.Pumpfun
import PumpRealtimePrices.Programs.Pumpswap

/-!
# Event layouts

The layouts that the two programs publish for their events, written as encoders
that list the leading fields in the order of the interface description.  The
derived readers of the event prefixes invert them, whatever bytes a protocol
upgrade appends.

Main results:

- Theorem {lit}`event_prefixes_decode_exactly`: for the four modelled events,
  decoding accepts exactly an encoding followed by appended bytes.
-/

namespace PumpRealtimePrices

open Borsh

/-! ## Pump.fun events -/

namespace Pumpfun

/-- Fields of {lit}`Shareholder` in the order of the interface description. -/
def shareholderFields (entry : Shareholder) : List (Option Bytes) :=
  [serialize entry.address, serialize entry.shareBps]

instance : BorshSerialize Shareholder where
  serialize entry := concat (shareholderFields entry)

instance : LawfulBorsh Shareholder :=
  LawfulBorsh.of_reads (fun _ => rfl) fun entry => by
    iterate 2 refine Reads.bind fun _ => ?_
    refine Reads.pure ?_
    cases entry
    simp

/-- Leading fields of {lit}`CreateEvent` in the order of the interface description. -/
def createEventFields (event : CreateEventPrefix) : List (Option Bytes) :=
  [serialize event.name, serialize event.symbol, serialize event.uri, serialize event.mint,
    serialize event.bondingCurve, serialize event.user, serialize event.creator]

instance : BorshSerialize CreateEventPrefix where
  serialize event := concat (createEventFields event)

instance : LawfulBorsh CreateEventPrefix :=
  LawfulBorsh.of_reads (fun _ => rfl) fun event => by
    iterate 7 refine Reads.bind fun _ => ?_
    refine Reads.pure ?_
    cases event
    simp [and_assoc]

/-- Leading fields of {lit}`TradeEvent` in the order of the interface description. -/
def tradeEventFields (event : TradeEventPrefix) : List (Option Bytes) :=
  [serialize event.mint, serialize event.solAmount, serialize event.tokenAmount,
    serialize event.isBuy, serialize event.user, serialize event.timestamp,
    serialize event.virtualSolReserves, serialize event.virtualTokenReserves,
    serialize event.realSolReserves, serialize event.realTokenReserves,
    serialize event.feeRecipient, serialize event.feeBasisPoints, serialize event.fee,
    serialize event.creator, serialize event.creatorFeeBasisPoints,
    serialize event.creatorFee, serialize event.trackVolume,
    serialize event.totalUnclaimedTokens, serialize event.totalClaimedTokens,
    serialize event.currentSolVolume, serialize event.lastUpdateTimestamp,
    serialize event.ixName, serialize event.mayhemMode,
    serialize event.cashbackFeeBasisPoints, serialize event.cashback,
    serialize event.buybackFeeBasisPoints, serialize event.buybackFee,
    serialize event.shareholders, serialize event.quoteMint, serialize event.quoteAmount]

instance : BorshSerialize TradeEventPrefix where
  serialize event := concat (tradeEventFields event)

instance : LawfulBorsh TradeEventPrefix :=
  LawfulBorsh.of_reads (fun _ => rfl) fun event => by
    iterate 30 refine Reads.bind fun _ => ?_
    refine Reads.pure ?_
    cases event
    simp [and_assoc]

end Pumpfun

/-! ## PumpSwap events -/

namespace Pumpswap

/-- Leading fields of {lit}`BuyEvent` in the order of the interface description. -/
def buyEventFields (event : BuyEventPrefix) : List (Option Bytes) :=
  [serialize event.timestamp, serialize event.baseAmountOut, serialize event.maxQuoteAmountIn,
    serialize event.userBaseTokenReserves, serialize event.userQuoteTokenReserves,
    serialize event.poolBaseTokenReserves, serialize event.poolQuoteTokenReserves,
    serialize event.quoteAmountIn, serialize event.lpFeeBasisPoints, serialize event.lpFee,
    serialize event.protocolFeeBasisPoints, serialize event.protocolFee,
    serialize event.quoteAmountInWithLpFee, serialize event.userQuoteAmountIn,
    serialize event.pool, serialize event.user, serialize event.userBaseTokenAccount,
    serialize event.userQuoteTokenAccount, serialize event.protocolFeeRecipient,
    serialize event.protocolFeeRecipientTokenAccount, serialize event.coinCreator,
    serialize event.coinCreatorFeeBasisPoints, serialize event.coinCreatorFee,
    serialize event.trackVolume, serialize event.totalUnclaimedTokens,
    serialize event.totalClaimedTokens, serialize event.currentSolVolume,
    serialize event.lastUpdateTimestamp, serialize event.minBaseAmountOut,
    serialize event.ixName]

instance : BorshSerialize BuyEventPrefix where
  serialize event := concat (buyEventFields event)

instance : LawfulBorsh BuyEventPrefix :=
  LawfulBorsh.of_reads (fun _ => rfl) fun event => by
    iterate 30 refine Reads.bind fun _ => ?_
    refine Reads.pure ?_
    cases event
    simp [and_assoc]

/-- Leading fields of {lit}`SellEvent` in the order of the interface description. -/
def sellEventFields (event : SellEventPrefix) : List (Option Bytes) :=
  [serialize event.timestamp, serialize event.baseAmountIn, serialize event.minQuoteAmountOut,
    serialize event.userBaseTokenReserves, serialize event.userQuoteTokenReserves,
    serialize event.poolBaseTokenReserves, serialize event.poolQuoteTokenReserves,
    serialize event.quoteAmountOut, serialize event.lpFeeBasisPoints, serialize event.lpFee,
    serialize event.protocolFeeBasisPoints, serialize event.protocolFee,
    serialize event.quoteAmountOutWithoutLpFee, serialize event.userQuoteAmountOut,
    serialize event.pool, serialize event.user]

instance : BorshSerialize SellEventPrefix where
  serialize event := concat (sellEventFields event)

instance : LawfulBorsh SellEventPrefix :=
  LawfulBorsh.of_reads (fun _ => rfl) fun event => by
    iterate 16 refine Reads.bind fun _ => ?_
    refine Reads.pure ?_
    cases event
    simp [and_assoc]

end Pumpswap

/-! ## Decoding is the inverse of the layout -/

/-- Text lengths that fit the {lit}`u32` length prefix. -/
def FitsLengthPrefix (text : String) : Prop :=
  (utf8Bytes text).length < 2 ^ 32

/-- A creation has an encoding exactly when its texts have lengths that are {lit}`u32`. -/
theorem createEvent_encodable_iff (event : Pumpfun.CreateEventPrefix) :
    (serialize event).isSome ↔
      FitsLengthPrefix event.name ∧ FitsLengthPrefix event.symbol ∧
        FitsLengthPrefix event.uri := by
  change (concat (Pumpfun.createEventFields event)).isSome ↔ _
  rw [concat_isSome_iff]
  simp [Pumpfun.createEventFields, serialize_string_isSome_iff, FitsLengthPrefix]

/-- A trade has an encoding exactly when its name and its list of shareholders have lengths
that are {lit}`u32`. -/
theorem tradeEvent_encodable_iff (event : Pumpfun.TradeEventPrefix) :
    (serialize event).isSome ↔
      FitsLengthPrefix event.ixName ∧ event.shareholders.length < 2 ^ 32 := by
  have hentry : ∀ entry : Pumpfun.Shareholder, (serialize entry).isSome := by
    intro entry
    rfl
  change (concat (Pumpfun.tradeEventFields event)).isSome ↔ _
  rw [concat_isSome_iff]
  simp [Pumpfun.tradeEventFields, serialize_string_isSome_iff, serialize_list_isSome_iff, hentry,
    FitsLengthPrefix]

/-- A buy has an encoding exactly when its name has a length that is a {lit}`u32`. -/
theorem buyEvent_encodable_iff (event : Pumpswap.BuyEventPrefix) :
    (serialize event).isSome ↔ FitsLengthPrefix event.ixName := by
  change (concat (Pumpswap.buyEventFields event)).isSome ↔ _
  rw [concat_isSome_iff]
  simp [Pumpswap.buyEventFields, serialize_string_isSome_iff, FitsLengthPrefix]

/-- Every sell has an encoding. -/
theorem sellEvent_encodable (event : Pumpswap.SellEventPrefix) : (serialize event).isSome := by
  change (concat (Pumpswap.sellEventFields event)).isSome
  rw [concat_isSome_iff]
  simp [Pumpswap.sellEventFields]

/-- For each of the four modelled events, the payloads that decode to a value are
its encoding followed by any bytes, and every value has an encoding unless a
string or the shareholder vector is too long for its length prefix. -/
theorem event_prefixes_decode_exactly :
    (PrefixCodec
        (fun payload =>
          (decodeEventPrefix payload "CreateEvent" : ParseResult Pumpfun.CreateEventPrefix))
        (fun event => concat (Pumpfun.createEventFields event)) ∧
      ∀ event, (concat (Pumpfun.createEventFields event)).isSome ↔
        FitsLengthPrefix event.name ∧ FitsLengthPrefix event.symbol ∧
          FitsLengthPrefix event.uri) ∧
    (PrefixCodec
        (fun payload =>
          (decodeEventPrefix payload "TradeEvent" : ParseResult Pumpfun.TradeEventPrefix))
        (fun event => concat (Pumpfun.tradeEventFields event)) ∧
      ∀ event, (concat (Pumpfun.tradeEventFields event)).isSome ↔
        FitsLengthPrefix event.ixName ∧ event.shareholders.length < 2 ^ 32) ∧
    (PrefixCodec
        (fun payload =>
          (decodeEventPrefix payload "BuyEvent" : ParseResult Pumpswap.BuyEventPrefix))
        (fun event => concat (Pumpswap.buyEventFields event)) ∧
      ∀ event, (concat (Pumpswap.buyEventFields event)).isSome ↔
        FitsLengthPrefix event.ixName) ∧
    (PrefixCodec
        (fun payload =>
          (decodeEventPrefix payload "SellEvent" : ParseResult Pumpswap.SellEventPrefix))
        (fun event => concat (Pumpswap.sellEventFields event)) ∧
      ∀ event, (concat (Pumpswap.sellEventFields event)).isSome) := by
  refine ⟨⟨?_, createEvent_encodable_iff⟩, ⟨?_, tradeEvent_encodable_iff⟩,
    ⟨?_, buyEvent_encodable_iff⟩, ⟨?_, sellEvent_encodable⟩⟩
  · exact decodeEventPrefix_prefixCodec Pumpfun.CreateEventPrefix "CreateEvent"
  · exact decodeEventPrefix_prefixCodec Pumpfun.TradeEventPrefix "TradeEvent"
  · exact decodeEventPrefix_prefixCodec Pumpswap.BuyEventPrefix "BuyEvent"
  · exact decodeEventPrefix_prefixCodec Pumpswap.SellEventPrefix "SellEvent"

end PumpRealtimePrices
