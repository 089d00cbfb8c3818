import PumpRealtimePrices.Parser.InvocationStack
import PumpRealtimePrices.Parser.PacketData
import PumpRealtimePrices.Programs.EventLayouts

/-!
# PumpSwap sells as the chain records them

A sell is an outer instruction of the program whose group holds the event that
the program emitted to itself.  Blocks of such transactions give inputs to the
results about parsed swaps, for any event and any mints.

Main results:

- Theorem {lit}`parseBlock_sells`: a block of sells parses to one swap for each of
  them.
-/

namespace PumpRealtimePrices
namespace Parser

open SerdeJson Borsh

/-! ## The fixture -/

/-- A sell: its event, the mints of the pool and their decimals. -/
structure Sell where
  signature : String
  event : Pumpswap.SellEventPrefix
  baseMint : Pubkey
  quoteMint : Pubkey
  baseDecimals : UInt8
  quoteDecimals : UInt8

namespace Sell

variable (crates : Crates) (sell : Sell)

def accountKeys : List String :=
  [Pumpswap.programId, Pumpswap.eventAuthority, crates.pubkeyToString sell.event.pool,
    crates.pubkeyToString sell.event.user, crates.pubkeyToString sell.baseMint,
    crates.pubkeyToString sell.quoteMint]

/-- Accounts of the sell instruction; those after the mints play no role. -/
def accounts : List String :=
  [crates.pubkeyToString sell.event.pool, crates.pubkeyToString sell.event.user,
    Pumpswap.eventAuthority, crates.pubkeyToString sell.baseMint,
    crates.pubkeyToString sell.quoteMint] ++ List.replicate 16 Pumpswap.eventAuthority

/-- Data of the sell instruction. -/
def instructionData : Bytes :=
  Pumpswap.sellDiscriminator ++ leBytes 8 sell.event.baseAmountIn.toNat ++
    leBytes 8 sell.event.minQuoteAmountOut.toNat

/-- The sell instruction as the parent of its event. -/
def parent : InstructionContext where
  instruction := ⟨Pumpswap.programId, sell.accounts crates, sell.instructionData⟩
  parent := none

/-- Data of the event that the program emits to itself. -/
def eventData : Bytes :=
  Pumpswap.eventIxTag ++ Pumpswap.sellEventDiscriminator ++ (serialize sell.event).getD []

def instruction : Value :=
  TestSupport.instruction 0 ([2, 3, 1, 4, 5] ++ List.replicate 16 1) sell.instructionData 1

def eventInstruction : Value :=
  TestSupport.instruction 0 [1] sell.eventData 2

def balance (mint : String) (decimals : UInt8) : Value :=
  .object [
    ("mint", .string mint),
    ("uiTokenAmount", .object [("decimals", .number (.posInt decimals.toUInt64))])]

/-- The transaction of the sell. -/
def entry : Value :=
  .object [
    ("meta", .object [
      ("err", .null),
      ("innerInstructions", .array [TestSupport.innerInstructions 0 [sell.eventInstruction]]),
      ("postTokenBalances", .array [
        balance (crates.pubkeyToString sell.baseMint) sell.baseDecimals,
        balance (crates.pubkeyToString sell.quoteMint) sell.quoteDecimals])]),
    ("transaction", .object [
      ("message", .object [
        ("accountKeys", TestSupport.strings (sell.accountKeys crates)),
        ("instructions", .array [sell.instruction])]),
      ("signatures", TestSupport.strings [sell.signature])])]

/-- Decimals that the balances of the transaction name. -/
def tokenDecimals : TokenDecimals :=
  (Std.TreeMap.insert ∅ (crates.pubkeyToString sell.baseMint) sell.baseDecimals).insert
    (crates.pubkeyToString sell.quoteMint) sell.quoteDecimals

def header : TransactionHeader where
  signature := sell.signature
  outerInstructions := [sell.instruction]
  accountKeys := sell.accountKeys crates
  innerInstructionGroups := Std.TreeMap.insert ∅ 0 [sell.eventInstruction]
  tokenDecimals := sell.tokenDecimals crates

/-- The swap that the sell is parsed to. -/
def swap : TokenSwap where
  user := crates.pubkeyToString sell.event.user
  pool := crates.pubkeyToString sell.event.pool
  baseMint := some (crates.pubkeyToString sell.baseMint)
  quoteMint := some (crates.pubkeyToString sell.quoteMint)
  inputMint := crates.pubkeyToString sell.baseMint
  inputAmount := sell.event.baseAmountIn
  outputMint := crates.pubkeyToString sell.quoteMint
  outputAmount := sell.event.userQuoteAmountOut

/-- The entry that the sell is reported with. -/
def reported : InstructionEvents where
  programId := some Pumpswap.programId
  outerInstructionIndex := 0
  innerInstructionIndex := some 0
  stackHeight := some 2
  executionOrdinal := 1
  result := .ok (.tokenSwap (sell.swap crates))

/-- The output of the transaction. -/
def events (transactionIndex : Nat) : TransactionEvents where
  signature := sell.signature
  transactionIndex := transactionIndex
  tokenDecimals := sell.tokenDecimals crates
  instructions := [sell.reported crates]

/-! ## Reading the fixture -/

/-- A balance is read back. -/
theorem readTokenBalance_balance (mint : String) (decimals : UInt8) :
    readTokenBalance (balance mint decimals) = some (mint, decimals) := by
  have hlt : decimals.toNat < 2 ^ 8 := decimals.toNat_lt
  have hdecimals : Rust.u8TryFrom decimals.toUInt64 = some decimals := by
    rw [Rust.u8TryFrom, UInt8.toNat_toUInt64, if_pos hlt, UInt8.toUInt8_toUInt64]
  change ((some mint).bind fun mint => ((Rust.u8TryFrom decimals.toUInt64)).bind
    fun decimals => some (mint, decimals)) = _
  rw [hdecimals]
  rfl

/-- The structural stage reads back the sell. -/
theorem readTransaction_entry :
    readTransaction (sell.entry crates) = .ok (some (sell.header crates)) := by
  have hkeys : resolveAccountKeys
      [("accountKeys", TestSupport.strings (sell.accountKeys crates)),
        ("instructions", .array [sell.instruction])]
      [("err", .null),
        ("innerInstructions", .array [TestSupport.innerInstructions 0 [sell.eventInstruction]]),
        ("postTokenBalances", .array [
          balance (crates.pubkeyToString sell.baseMint) sell.baseDecimals,
          balance (crates.pubkeyToString sell.quoteMint) sell.quoteDecimals])] =
      .ok (sell.accountKeys crates) := by
    change (do
      let accountKeys ← appendStringValues [] ((sell.accountKeys crates).map .string)
        "transaction.message.accountKeys[]"
      pure accountKeys) = _
    rw [TestSupport.appendStringValues_strings]
    rfl
  have hdecimals : [balance (crates.pubkeyToString sell.baseMint) sell.baseDecimals,
      balance (crates.pubkeyToString sell.quoteMint) sell.quoteDecimals].filterMap
        readTokenBalance =
      [(crates.pubkeyToString sell.baseMint, sell.baseDecimals),
        (crates.pubkeyToString sell.quoteMint, sell.quoteDecimals)] := by
    simp only [List.filterMap_cons, List.filterMap_nil, readTokenBalance_balance]
  refine readTransaction_eq_ok_some_iff.mpr ⟨_, _, _, rfl, rfl, rfl, rfl, rfl, rfl, hkeys, rfl, ?_⟩
  change ([balance (crates.pubkeyToString sell.baseMint) sell.baseDecimals,
    balance (crates.pubkeyToString sell.quoteMint) sell.quoteDecimals].filterMap
      readTokenBalance).foldl
        (fun (decimals : TokenDecimals) found => decimals.insert found.1 found.2) ∅ = _
  rw [hdecimals]
  rfl

/-- A sell is visited before its event. -/
theorem visits_header :
    visits (sell.header crates) =
      [⟨0, none, sell.instruction⟩, ⟨0, some 0, sell.eventInstruction⟩] :=
  rfl

/-- The event of a sell has an encoding of 176 bytes. -/
theorem serialize_event :
    ∃ payload, serialize sell.event = some payload ∧ payload.length = 176 := by
  rcases Option.isSome_iff_exists.mp (sellEvent_encodable sell.event) with ⟨payload, hpayload⟩
  refine ⟨payload, hpayload, ?_⟩
  change concat (Pumpswap.sellEventFields sell.event) = some payload at hpayload
  simp only [Pumpswap.sellEventFields, concat, serialize_u64, serialize_i64, Pubkey.serialize_eq,
    Option.bind_eq_bind, Option.bind_some, Option.pure_def, Option.some.injEq] at hpayload
  rw [← hpayload]
  simp [Pubkey.length_bytes]

/-! ## Parsing the fixture -/

section Parsing

variable {crates} {registry : ParserRegistry}

/-- The sell instruction is normalized to its accounts and data. -/
theorem normalize_instruction (hcrates : crates.Documented)
    (hconfigured : isConfigured registry Pumpswap.programId = true) :
    (⟨0, none, sell.instruction⟩ : Visit).normalize crates registry (sell.accountKeys crates) =
      .ok (⟨Pumpswap.programId, sell.accounts crates, sell.instructionData, some 1⟩, some 1) := by
  have hdata : decodeData crates Pumpswap.programId (some 1) sell.instruction =
      .ok sell.instructionData := by
    refine decodeData_encode hcrates rfl ?_ _ _
    simp [packetLen, instructionData, Pumpswap.sellDiscriminator]
  exact normalizeInstruction_of_fields rfl hconfigured rfl rfl rfl hdata

/-- The event instruction is normalized to its authority and data. -/
theorem normalize_eventInstruction (hcrates : crates.Documented)
    (hconfigured : isConfigured registry Pumpswap.programId = true) :
    (⟨0, some 0, sell.eventInstruction⟩ : Visit).normalize crates registry
        (sell.accountKeys crates) =
      .ok (⟨Pumpswap.programId, [Pumpswap.eventAuthority], sell.eventData, some 2⟩, some 2) := by
  rcases sell.serialize_event with ⟨payload, hpayload, hlength⟩
  have hdata : decodeData crates Pumpswap.programId (some 2) sell.eventInstruction =
      .ok sell.eventData := by
    refine decodeData_encode hcrates rfl ?_ _ _
    simp [packetLen, eventData, hpayload, hlength, Pumpswap.eventIxTag,
      Pumpswap.sellEventDiscriminator]
  exact normalizeInstruction_of_fields rfl hconfigured rfl rfl rfl hdata

/-- The event is parsed against the sell that emitted it. -/
theorem parentAt_event (hcrates : crates.Documented)
    (hconfigured : isConfigured registry Pumpswap.programId = true) :
    parentAt crates registry (sell.header crates) 1 =
      some ⟨Pumpswap.programId, sell.accounts crates, sell.instructionData, some 1⟩ := by
  have hstack : stackBefore crates registry (sell.header crates) 1 =
      [⟨Pumpswap.programId, sell.accounts crates, sell.instructionData, some 1⟩] := by
    change ((⟨0, none, sell.instruction⟩ : Visit).parse crates registry (sell.accountKeys crates)
      0 []).2 = _
    rw [Visit.parse_snd, sell.normalize_instruction hcrates hconfigured]
    rfl
  rw [parentAt, visits_header, hstack]
  rfl

/-- The sell instruction carries no event. -/
theorem parse_instruction {context : InstructionContext}
    (hprogram : context.programId = Pumpswap.programId)
    (hdata : context.data = sell.instructionData) :
    Pumpswap.parseInstruction crates context = .ok none := by
  refine (Pumpswap.parseInstruction_eq_ok_iff crates).mpr ⟨hprogram, .inl ⟨?_, rfl⟩⟩
  rw [hdata]
  simp [instructionData, Pumpswap.eventIxTag, Pumpswap.sellDiscriminator]

/-- The event is accepted against the sell that emitted it. -/
theorem parseSellEvent_instruction (hcrates : crates.Documented) {payload : Bytes}
    (hevent : decodeEventPrefix payload "SellEvent" = .ok sell.event) :
    Pumpswap.parseSellEvent crates payload (sell.parent crates) = .ok (sell.swap crates) := by
  have hlength : (sell.parent crates).data.length = 24 := by
    simp [parent, InstructionContext.data, instructionData, Pumpswap.sellDiscriminator]
  have hdiscriminator : Pumpswap.parentDiscriminator (sell.parent crates) =
      .ok Pumpswap.sellDiscriminator := by
    rw [Pumpswap.parentDiscriminator,
      (InstructionContext.ensureDataLen_eq_ok_iff _ 8).mpr (by omega), Rust.ok_bind]
    rfl
  have hlayout : Pumpswap.validateParentLayout (sell.parent crates) Pumpswap.sellParentDataLen
      Pumpswap.sellParentAccountCount = .ok () := by
    rw [Pumpswap.validateParentLayout,
      (InstructionContext.ensureDataLen_eq_ok_iff _ Pumpswap.sellParentDataLen).mpr hlength.ge,
      Rust.ok_bind]
    rfl
  have hamount : Pumpswap.validateParentAmount (sell.parent crates) sell.event.baseAmountIn
      "SellEvent.base_amount_in" = .ok () := by
    have hbytes : ((sell.parent crates).data.take 16).drop 8 =
        leBytes 8 sell.event.baseAmountIn.toNat := rfl
    have hlt : sell.event.baseAmountIn.toNat < 256 ^ 8 := sell.event.baseAmountIn.toNat_lt
    rw [Pumpswap.validateParentAmount, hbytes, leNat_leBytes hlt, UInt64.ofNat_toNat]
    exact if_pos rfl
  have haccounts : Pumpswap.validateParentAccounts crates sell.event.pool sell.event.user
      (sell.parent crates) "SellEvent" = .ok () := by
    have hpool : (sell.parent crates).account Pumpswap.poolAccountIndex =
        .ok (crates.pubkeyToString sell.event.pool) := rfl
    have huser : (sell.parent crates).account Pumpswap.userAccountIndex =
        .ok (crates.pubkeyToString sell.event.user) := rfl
    rw [Pumpswap.validateParentAccounts, hpool, huser]
    simp [Rust.ok_bind, pure, Except.pure]
  have hmint : ∀ (index : Nat) (address : Pubkey) (name : String),
      (sell.accounts crates)[index]? = some (crates.pubkeyToString address) →
      Pumpswap.parentMint crates (sell.parent crates) index name =
        .ok (crates.pubkeyToString address) := by
    intro index address name hget
    have hread := (hcrates.pubkeyTryFrom_eq_ok_iff _ address).mpr
      (hcrates.pubkeyToString_eq address)
    rw [Pumpswap.parentMint, (InstructionContext.account_eq_ok_iff _ _ _).mpr hget, Rust.ok_bind,
      hread]
    rfl
  rw [Pumpswap.parseSellEvent, hevent, Rust.ok_bind, hdiscriminator, Rust.ok_bind,
    if_neg (not_not.mpr rfl), hlayout, Rust.ok_bind, hamount, Rust.ok_bind, haccounts, Rust.ok_bind,
    hmint _ sell.baseMint _ rfl, Rust.ok_bind, hmint _ sell.quoteMint _ rfl]
  rfl

/-- The event instruction is parsed to the swap. -/
theorem parse_event (hcrates : crates.Documented) {context : InstructionContext}
    (hprogram : context.programId = Pumpswap.programId)
    (haccounts : context.accounts = [Pumpswap.eventAuthority])
    (hdata : context.data = sell.eventData)
    (hparent : context.parent = some (sell.parent crates).instruction) :
    Pumpswap.parseInstruction crates context = .ok (some (.tokenSwap (sell.swap crates))) := by
  rcases sell.serialize_event with ⟨payload, hpayload, hlength⟩
  have hevent : decodeEventPrefix payload "SellEvent" = .ok sell.event :=
    (decodeEventPrefix_prefixCodec Pumpswap.SellEventPrefix "SellEvent").round_trip _ _ hpayload
  have htext : sell.eventData =
      Pumpswap.eventIxTag ++ (Pumpswap.sellEventDiscriminator ++ payload) := by
    rw [eventData, hpayload, Option.getD_some, List.append_assoc]
  have hdiscriminator : Pumpswap.eventDiscriminator context = Pumpswap.sellEventDiscriminator := by
    rw [Pumpswap.eventDiscriminator, hdata, htext]
    rfl
  refine (Pumpswap.parseInstruction_eq_ok_iff crates).mpr
    ⟨hprogram, .inr ⟨?_, ?_, .inr ⟨.inr hdiscriminator, ?_, _, _, hparent, rfl, ?_, rfl⟩⟩⟩
  · rw [hdata, htext]
    exact List.prefix_append _ _
  · rw [hdata, htext]
    simp [Pumpswap.eventHeaderLen, Pumpswap.eventIxTag, Pumpswap.buyEventDiscriminator,
      Pumpswap.sellEventDiscriminator]
  · rw [haccounts]
    rfl
  · have hne : Pumpswap.sellEventDiscriminator ≠ Pumpswap.buyEventDiscriminator := by decide
    have hdrop : context.data.drop Pumpswap.eventHeaderLen = payload := by
      rw [hdata, htext]
      rfl
    rw [Pumpswap.parseEvent, hdiscriminator, if_neg hne, hdrop]
    exact sell.parseSellEvent_instruction hcrates hevent

/-- The instruction of a sell reports nothing, and its event the swap. -/
theorem instructionEvents_header (hcrates : crates.Documented)
    (hregistry : registry.get Pumpswap.programId = some (Pumpswap.parser crates)) :
    instructionEvents crates registry (sell.header crates) = [sell.reported crates] := by
  have hconfigured : isConfigured registry Pumpswap.programId = true := by
    rw [isConfigured, ParserRegistry.contains_eq_isSome_get, hregistry]
    rfl
  have hfirst : (visits (sell.header crates))[0]? = some ⟨0, none, sell.instruction⟩ := rfl
  have hsecond : (visits (sell.header crates))[1]? = some ⟨0, some 0, sell.eventInstruction⟩ := rfl
  have hoblivious : entryAt crates registry (sell.header crates) 0 = none := by
    have hnormalize := sell.normalize_instruction hcrates hconfigured
    have hcontext := contextAt_of_normalize hfirst hnormalize
    rw [entryAt_of_dispatched hfirst hnormalize hcontext, dispatch_of_get hregistry]
    change outcomeEntry _ _ _ _ _ (outcomeOf _ (Pumpswap.parseInstruction crates _)) = _
    rw [sell.parse_instruction (by rfl) (by rfl)]
    rfl
  have hevent : entryAt crates registry (sell.header crates) 1 = some (sell.reported crates) := by
    have hnormalize := sell.normalize_eventInstruction hcrates hconfigured
    have hcontext := contextAt_of_normalize hsecond hnormalize
    rw [sell.parentAt_event hcrates hconfigured] at hcontext
    rw [entryAt_of_dispatched hsecond hnormalize hcontext, dispatch_of_get hregistry]
    change outcomeEntry _ _ _ _ _ (outcomeOf _ (Pumpswap.parseInstruction crates _)) = _
    rw [sell.parse_event hcrates (by rfl) (by rfl) (by rfl) (by rfl)]
    rfl
  rw [instructionEvents_eq, visits_header]
  change [0, 1].filterMap (entryAt crates registry (sell.header crates)) = _
  rw [List.filterMap_cons_none hoblivious, List.filterMap_cons_some hevent, List.filterMap_nil]

/-- The output of a sell. -/
theorem transactionEvents_header (hcrates : crates.Documented)
    (hregistry : registry.get Pumpswap.programId = some (Pumpswap.parser crates))
    (transactionIndex : Nat) :
    transactionEvents crates registry (sell.header crates) transactionIndex =
      some (sell.events crates transactionIndex) := by
  rw [transactionEvents, sell.instructionEvents_header hcrates hregistry]
  rfl

end Parsing

end Sell

/-- The transactions of a fixture block are read one after another. -/
theorem readBlock_block (transactions : List Value) :
    readBlock (TestSupport.block transactions) = readTransactions 0 transactions :=
  rfl

/-- A block of sells parses to one swap for each of them, in block order. -/
theorem parseBlock_sells {crates : Crates} {registry : ParserRegistry}
    (hcrates : crates.Documented)
    (hregistry : registry.get Pumpswap.programId = some (Pumpswap.parser crates))
    (sells : List Sell) :
    parseBlock crates registry (TestSupport.block (sells.map (Sell.entry crates))) =
      .ok { transactions := sells.zipIdx.map fun (sell, index) => sell.events crates index } := by
  have hread : readBlock (TestSupport.block (sells.map (Sell.entry crates))) =
      .ok (sells.map fun sell => some (sell.header crates)) := by
    rw [readBlock_block, readTransactions_eq_ok_iff, List.map_map, List.map_map]
    exact List.map_congr_left fun sell _ => Sell.readTransaction_entry crates sell
  have hevents : transactionsEvents crates registry 0
      (sells.map fun sell => some (sell.header crates)) =
        sells.zipIdx.map fun (sell, index) => sell.events crates index := by
    unfold transactionsEvents
    rw [List.zipIdx_map, List.filterMap_map, ← List.filterMap_eq_map]
    refine List.filterMap_congr fun indexed _ => ?_
    exact indexed.1.transactionEvents_header hcrates hregistry indexed.2
  rw [parseBlock_eq, hread, ← hevents]
  rfl

/-- The registry with the PumpSwap parser alone. -/
def pumpSwapRegistry (crates : Crates) : ParserRegistry :=
  ParserRegistry.empty.insert (Pumpswap.parser crates)

/-- The configuration with PumpSwap alone has the registry with its parser. -/
theorem fromConfig_pumpSwap (crates : Crates) :
    ParserRegistry.fromConfig crates (ParserConfig.single .pumpSwap) =
      .ok (pumpSwapRegistry crates) :=
  rfl

/-- The registry with the PumpSwap parser alone has it for its program. -/
theorem get_pumpSwapRegistry (crates : Crates) :
    (pumpSwapRegistry crates).get Pumpswap.programId = some (Pumpswap.parser crates) := by
  rw [pumpSwapRegistry, ParserRegistry.get_insert]
  exact if_pos rfl

/-- Every transaction of a block of sells has two instructions. -/
theorem length_visits_sells {crates : Crates} {sells : List Sell} {entry : Value}
    (hentry : entry ∈ sells.map (Sell.entry crates)) {header : TransactionHeader}
    (hread : readTransaction entry = .ok (some header)) : (visits header).length = 2 := by
  rcases List.mem_map.mp hentry with ⟨sell, -, rfl⟩
  rw [Sell.readTransaction_entry] at hread
  rw [← Option.some.inj (Except.ok.inj hread)]
  rfl

/-- An address all of whose bytes are the same. -/
def testAddress (byte : UInt8) : Pubkey where
  bytes := List.replicate 32 byte
  length_bytes := List.length_replicate

/-- A sell of a test pool. -/
def sellOf (pool : UInt8) (baseAmountIn userQuoteAmountOut : UInt64) : Sell where
  signature := "signature"
  event := {
    timestamp := 0
    baseAmountIn
    minQuoteAmountOut := 0
    userBaseTokenReserves := 0
    userQuoteTokenReserves := 0
    poolBaseTokenReserves := 0
    poolQuoteTokenReserves := 0
    quoteAmountOut := userQuoteAmountOut
    lpFeeBasisPoints := 0
    lpFee := 0
    protocolFeeBasisPoints := 0
    protocolFee := 0
    quoteAmountOutWithoutLpFee := userQuoteAmountOut
    userQuoteAmountOut
    pool := testAddress pool
    user := testAddress 2 }
  baseMint := testAddress 3
  quoteMint := testAddress 4
  baseDecimals := 6
  quoteDecimals := 9

end Parser
end PumpRealtimePrices
