import PumpRealtimePrices.Parser.PacketData
import PumpRealtimePrices.Parser.Provenance
import PumpRealtimePrices.Programs.TradeFees

/-!
# Events of outer instructions

Both programs emit their events by calling themselves, so an event belongs to an inner
instruction.  The PumpSwap parser asks for the instruction that called it, which an outer
instruction does not have.  The Pump.fun parser looks at the instruction alone, and takes
an outer instruction with the accounts and the data of an event for one.

Main results:

- Theorem {lit}`Pumpfun.parseInstruction_isSome_iff`: which accounts and data the Pump.fun
  parser takes for an event.
- Theorem {lit}`eventsFromInner_iff`: the events of a transaction all belong to inner
  instructions unless an outer Pump.fun instruction looks like an event.
-/

namespace PumpRealtimePrices

open Borsh

/-! ## What the Pump.fun parser takes for an event -/

namespace Pumpfun

/-- Event data: the tag, a discriminator, and a payload that yields an event. -/
inductive EventData (data : Bytes) : Prop where
  | create (payload : Bytes) (event : CreateEventPrefix)
      (hdata : data = eventIxTag ++ createEventDiscriminator ++ payload)
      (hevent : decodeEventPrefix payload "CreateEvent" = .ok event)
  | trade (payload : Bytes) (event : TradeEventPrefix)
      (hdata : data = eventIxTag ++ tradeEventDiscriminator ++ payload)
      (hevent : decodeEventPrefix payload "TradeEvent" = .ok event)
      (hnonneg : 0 ≤ event.settledQuote) (hlt : event.settledQuote < 2 ^ 64)

variable {crates : Crates} {ctx : InstructionContext}

/-- A creation is parsed exactly where its event is decoded. -/
theorem parseCreateEvent_eq_ok_iff {payload : Bytes} :
    (∃ discovery, parseCreateEvent crates payload = .ok discovery) ↔
      ∃ event : CreateEventPrefix, decodeEventPrefix payload "CreateEvent" = .ok event := by
  simp only [parseCreateEvent, Rust.except_bind_eq_ok_iff, pure, Except.pure, Except.ok.injEq]
  constructor
  · intro hparse
    rcases hparse with ⟨_, event, hevent, -⟩
    exact ⟨event, hevent⟩
  · intro hparse
    rcases hparse with ⟨event, hevent⟩
    exact ⟨_, event, hevent, rfl⟩

/-- A trade is parsed exactly where its event is decoded and its quote amount fits. -/
theorem exists_parseTradeEvent_eq_ok_iff (hcrates : crates.Documented) {payload : Bytes} :
    (∃ swap, parseTradeEvent crates payload = .ok swap) ↔
      ∃ event : TradeEventPrefix, decodeEventPrefix payload "TradeEvent" = .ok event ∧
        0 ≤ event.settledQuote ∧ event.settledQuote < 2 ^ 64 := by
  constructor
  · intro hparse
    rcases hparse with ⟨swap, hswap⟩
    rcases parseTradeEvent_eq_ok crates hswap with ⟨event, hevent, -⟩
    exact ⟨event, hevent, (exists_swap_iff_settledQuote hcrates hevent).mp ⟨swap, hswap⟩⟩
  · intro hparse
    rcases hparse with ⟨event, hevent, hfits⟩
    exact (exists_swap_iff_settledQuote hcrates hevent).mpr hfits

/-- Discriminator of an event self-CPI. -/
def eventDiscriminator (ctx : InstructionContext) : Bytes :=
  (ctx.data.take eventHeaderLen).drop eventIxTag.length

/-- The last step of the parser: the payload is that of a creation or of a trade. -/
theorem bind_parseEvent_eq_ok_iff {event : ParsedEvent} :
    (if eventDiscriminator ctx = createEventDiscriminator then do
        return some (.tokenDiscovery (← parseCreateEvent crates (ctx.data.drop eventHeaderLen)))
      else do
        return some (.tokenSwap (← parseTradeEvent crates (ctx.data.drop eventHeaderLen)))
      : ParseResult (Option ParsedEvent)) = .ok (some event) ↔
      eventDiscriminator ctx = createEventDiscriminator ∧
          (∃ discovery, parseCreateEvent crates (ctx.data.drop eventHeaderLen) = .ok discovery ∧
            event = .tokenDiscovery discovery) ∨
        eventDiscriminator ctx ≠ createEventDiscriminator ∧
          ∃ swap, parseTradeEvent crates (ctx.data.drop eventHeaderLen) = .ok swap ∧
            event = .tokenSwap swap := by
  by_cases hcreate : eventDiscriminator ctx = createEventDiscriminator
  · rw [if_pos hcreate]
    simp only [hcreate, Rust.except_bind_eq_ok_iff, pure, Except.pure, Except.ok.injEq,
      Option.some.injEq, eq_comm (a := event), ne_eq, not_true_eq_false, true_and, false_and,
      or_false]
  · rw [if_neg hcreate]
    simp only [hcreate, Rust.except_bind_eq_ok_iff, pure, Except.pure, Except.ok.injEq,
      Option.some.injEq, eq_comm (a := event), ne_eq, not_false_eq_true, true_and, false_and,
      false_or]

/-- An event is a creation or a trade, and in both cases the authority is the first account. -/
theorem parseInstruction_eq_some_iff {event : ParsedEvent} :
    parseInstruction crates ctx = .ok (some event) ↔
      ctx.programId = programId ∧ eventIxTag <+: ctx.data ∧ eventHeaderLen ≤ ctx.data.length ∧
        ctx.accounts[0]? = some eventAuthority ∧
        (eventDiscriminator ctx = createEventDiscriminator ∧
            (∃ discovery, parseCreateEvent crates (ctx.data.drop eventHeaderLen) = .ok discovery ∧
              event = .tokenDiscovery discovery) ∨
          eventDiscriminator ctx = tradeEventDiscriminator ∧
            ∃ swap, parseTradeEvent crates (ctx.data.drop eventHeaderLen) = .ok swap ∧
              event = .tokenSwap swap) := by
  have hevents : tradeEventDiscriminator ≠ createEventDiscriminator := by decide
  unfold parseInstruction
  rw [Rust.check_bind_eq_ok_iff, InstructionContext.ensureProgramId_eq_ok_iff]
  refine and_congr_right fun _ => ?_
  by_cases htag : eventIxTag <+: ctx.data
  · rw [if_neg (not_not.mpr htag), Rust.check_bind_eq_ok_iff,
      InstructionContext.ensureDataLen_eq_ok_iff, and_iff_right htag]
    refine and_congr_right fun _ => ?_
    change (if eventDiscriminator ctx ≠ createEventDiscriminator ∧
      eventDiscriminator ctx ≠ tradeEventDiscriminator then _ else _) = _ ↔ _
    by_cases hother : eventDiscriminator ctx ≠ createEventDiscriminator ∧
        eventDiscriminator ctx ≠ tradeEventDiscriminator
    · rw [if_pos hother]
      simp [hother, pure, Except.pure]
    · rw [if_neg hother]
      simp only [Rust.except_bind_eq_ok_iff, Rust.throw_if_eq_ok_iff,
        InstructionContext.account_eq_ok_iff, not_not]
      constructor
      · intro hparse
        rcases hparse with ⟨_, hauthority, rfl, hparse⟩
        refine ⟨hauthority, ?_⟩
        rcases bind_parseEvent_eq_ok_iff.mp hparse with hcreate | ⟨hcreate, htrade⟩
        · exact .inl hcreate
        · exact .inr ⟨not_not.mp fun hne => hother ⟨hcreate, hne⟩, htrade⟩
      · intro hevent
        rcases hevent with ⟨hauthority, hcreate | ⟨htrade, hswap⟩⟩
        · exact ⟨_, hauthority, rfl, bind_parseEvent_eq_ok_iff.mpr (.inl hcreate)⟩
        · have hne : eventDiscriminator ctx ≠ createEventDiscriminator := htrade ▸ hevents
          exact ⟨_, hauthority, rfl, bind_parseEvent_eq_ok_iff.mpr (.inr ⟨hne, hswap⟩)⟩
  · rw [if_pos htag]
    simp [htag, pure, Except.pure]

/-- Which accounts and data the parser takes for an event. -/
theorem parseInstruction_isSome_iff (hcrates : crates.Documented)
    (hprogram : ctx.programId = programId) :
    (∃ event, parseInstruction crates ctx = .ok (some event)) ↔
      ctx.accounts[0]? = some eventAuthority ∧ EventData ctx.data := by
  have hcreateLen : eventHeaderLen = eventIxTag.length + createEventDiscriminator.length := rfl
  have htradeLen : eventHeaderLen = eventIxTag.length + tradeEventDiscriminator.length := rfl
  simp only [parseInstruction_eq_some_iff]
  constructor
  · intro hparse
    rcases hparse with ⟨event, -, htag, hlength, hauthority,
      ⟨hcreate, discovery, hdiscovery, -⟩ | ⟨htrade, swap, hswap, -⟩⟩
    · rcases parseCreateEvent_eq_ok_iff.mp ⟨discovery, hdiscovery⟩ with ⟨event, hevent⟩
      have hdata := (eventData_eq_iff hcreateLen).mpr ⟨htag, hlength, hcreate, rfl⟩
      exact ⟨hauthority, .create _ event hdata hevent⟩
    · rcases (exists_parseTradeEvent_eq_ok_iff hcrates).mp ⟨swap, hswap⟩ with
        ⟨event, hevent, hnonneg, hlt⟩
      have hdata := (eventData_eq_iff htradeLen).mpr ⟨htag, hlength, htrade, rfl⟩
      exact ⟨hauthority, .trade _ event hdata hevent hnonneg hlt⟩
  · intro hevent
    rcases hevent with ⟨hauthority, ⟨payload, event, hdata, hevent⟩ |
      ⟨payload, event, hdata, hevent, hnonneg, hlt⟩⟩
    · rcases (eventData_eq_iff hcreateLen).mp hdata with ⟨htag, hlength, hcreate, rfl⟩
      rcases parseCreateEvent_eq_ok_iff.mpr ⟨event, hevent⟩ with ⟨discovery, hdiscovery⟩
      exact ⟨_, hprogram, htag, hlength, hauthority, .inl ⟨hcreate, discovery, hdiscovery, rfl⟩⟩
    · rcases (eventData_eq_iff htradeLen).mp hdata with ⟨htag, hlength, htrade, rfl⟩
      rcases (exists_parseTradeEvent_eq_ok_iff hcrates).mpr ⟨event, hevent, hnonneg, hlt⟩ with
        ⟨swap, hswap⟩
      exact ⟨_, hprogram, htag, hlength, hauthority, .inr ⟨htrade, swap, hswap, rfl⟩⟩

end Pumpfun

namespace Parser

open SerdeJson

/-! ## Outer instructions that look like an event -/

/-- Address of an account of an instruction. -/
def accountAt (accountKeys : List String) (instruction : Value) (accountIndex : Nat) :
    Option String := do
  let accountIndexes ← (instruction.get "accounts").bind Value.asArray
  let value ← accountIndexes[accountIndex]?
  let index ← value.asU64
  accountKeys[index.toNat]?

/-- An instruction of the Pump.fun program with the accounts and the data of an event. -/
structure LooksLikeEvent (accountKeys : List String) (instruction : Value) : Prop where
  inOrder : InOrder accountKeys Pumpfun.programId instruction
  authority : accountAt accountKeys instruction 0 = some Pumpfun.eventAuthority
  data : ∃ data, instruction.get "data" = some (.string (Base58.encode data)) ∧
    (Base58.encode data).length ≤ maxBase58InstructionDataLen ∧ Pumpfun.EventData data

section Fields

variable {crates : Crates} {registry : ParserRegistry} {accountKeys : List String}
  {inner : Option Nat} {instruction : Value}

/-- Only unsigned numbers are read as a {lit}`u64`. -/
theorem asU64_eq_some_iff {value : Value} {n : UInt64} :
    value.asU64 = some n ↔ value = .number (.posInt n) := by
  unfold Value.asU64
  split <;> simp_all

/-- Only strings are read as a string. -/
theorem asStr_eq_some_iff {value : Value} {text : String} :
    value.asStr = some text ↔ value = .string text := by
  cases value <;> simp [Value.asStr]

/-- A program address is resolved by its index into the account keys. -/
theorem resolveProgramId_eq_ok_iff {programId : String} :
    resolveProgramId instruction accountKeys = .ok programId ↔
      ∃ index, (instruction.get "programIdIndex").bind Value.asU64 = some index ∧
        accountKeys[index.toNat]? = some programId := by
  simp only [resolveProgramId, Rust.except_bind_eq_ok_iff, Rust.okOr_eq_ok_iff]

/-- A stack height is read when it is absent, null or a {lit}`u32`. -/
theorem stackHeight_of_read {programId : String} {stackHeight : Option UInt32}
    (hread : readStackHeight programId instruction = .ok stackHeight) :
    instruction.get "stackHeight" = none ∨ instruction.get "stackHeight" = some .null ∨
      ∃ height : UInt64, instruction.get "stackHeight" = some (.number (.posInt height)) ∧
        height.toNat < 2 ^ 32 := by
  unfold readStackHeight at hread
  split at hread
  · next hnone => exact .inl hnone
  · next hnull => exact .inr (.inl hnull)
  · next value _ hvalue =>
      split at hread
      · next height hheight =>
          rcases Option.bind_eq_some_iff.mp hheight with ⟨wide, hwide, hnarrow⟩
          rcases asU64_eq_some_iff.mp hwide with rfl
          refine .inr (.inr ⟨wide, hvalue, ?_⟩)
          unfold Rust.u32TryFrom at hnarrow
          split at hnarrow
          · next hlt => exact hlt
          · cases hnarrow
      · cases hread

/-- Accounts are resolved one by one. -/
theorem getElem?_resolveAccounts {programId : String} {stackHeight : Option UInt32}
    {accountIndexes : List Value} {accounts : List String}
    (haccounts : resolveAccounts programId stackHeight accountKeys accountIndexes = .ok accounts)
    (accountIndex : Nat) :
    accounts[accountIndex]? = accountIndexes[accountIndex]?.bind fun value =>
      value.asU64.bind fun index => accountKeys[index.toNat]? := by
  have hmap := congrArg (fun results => results[accountIndex]?) (Rust.mapM_eq_ok_iff.mp haccounts)
  simp only [List.getElem?_map] at hmap
  cases hvalue : accountIndexes[accountIndex]? with
  | none =>
      rw [hvalue] at hmap
      simpa using hmap.symm
  | some value =>
      rw [hvalue] at hmap
      rcases Option.map_eq_some_iff.mp hmap.symm with ⟨account, haccount, hresolved⟩
      simp only [Rust.except_bind_eq_ok_iff, Rust.okOr_eq_ok_iff, eq_comm (a := Except.ok account)]
        at hresolved
      rcases hresolved with ⟨index, hindex, hkey⟩
      rw [haccount, Option.bind_some, hindex, Option.bind_some, hkey]

/-- Data is decoded exactly from its Base58 text, if that is not too long. -/
theorem decodeData_eq_ok_iff (hcrates : crates.Documented) {programId : String}
    {stackHeight : Option UInt32} {data : Bytes} :
    decodeData crates programId stackHeight instruction = .ok data ↔
      instruction.get "data" = some (.string (Base58.encode data)) ∧
        (Base58.encode data).length ≤ maxBase58InstructionDataLen := by
  simp only [decodeData, Rust.except_bind_eq_ok_iff, Rust.throw_if_eq_ok_iff, Rust.okOr_eq_ok_iff,
    Rust.mapError_eq_ok_iff, hcrates.bs58Decode_eq_ok_iff, Nat.not_lt, Option.bind_eq_some_iff,
    asStr_eq_some_iff]
  constructor
  · intro hdecode
    rcases hdecode with ⟨text, ⟨value, hvalue, rfl⟩, hsize, rfl⟩
    rw [Base58.utf8ByteSize_encode] at hsize
    exact ⟨hvalue, hsize⟩
  · intro htext
    refine ⟨_, ⟨_, htext.1, rfl⟩, ?_, rfl⟩
    rw [Base58.utf8ByteSize_encode]
    exact htext.2

/-- What an instruction is normalized to is in its fields. -/
theorem fields_of_normalize (hcrates : crates.Documented) {normalized : NormalizedInstruction}
    {stackHeight : Option UInt32}
    (hnormalize : normalizeInstruction crates registry accountKeys inner instruction =
      .ok (normalized, stackHeight)) :
    InOrder accountKeys normalized.programId instruction ∧
      (∀ index, accountAt accountKeys instruction index = normalized.accounts[index]?) ∧
      instruction.get "data" = some (.string (Base58.encode normalized.data)) ∧
      (Base58.encode normalized.data).length ≤ maxBase58InstructionDataLen := by
  unfold normalizeInstruction at hnormalize
  simp only [Rust.except_bind_eq_ok_iff, Rust.throw_if_eq_ok_iff, Rust.okOr_eq_ok_iff, pure,
    Except.pure] at hnormalize
  rcases hnormalize with ⟨programId, hprogram, -, height, hheight, accountIndexes, hindexes,
    accounts, haccounts, data, hdata, heq⟩
  rcases Prod.mk.inj (Except.ok.inj heq) with ⟨rfl, rfl⟩
  have hget := getElem?_resolveAccounts haccounts
  refine ⟨⟨resolveProgramId_eq_ok_iff.mp hprogram, ⟨accountIndexes, hindexes, ?_⟩,
    stackHeight_of_read hheight⟩, ?_, (decodeData_eq_ok_iff hcrates).mp hdata⟩
  · intro value hvalue
    rcases Rust.exists_mem_of_mapM_eq_ok haccounts hvalue with ⟨account, -, hresolved⟩
    simp only [Rust.except_bind_eq_ok_iff, Rust.okOr_eq_ok_iff] at hresolved
    rcases hresolved with ⟨index, hindex, hkey⟩
    exact ⟨index, hindex, (List.getElem?_eq_some_iff.mp hkey).1⟩
  · intro index
    simp only [accountAt, hindexes, hget, Option.bind_eq_bind, Option.bind_some]

/-- An instruction looks like an event exactly when it is normalized to one. -/
theorem looksLikeEvent_iff (hcrates : crates.Documented)
    (hconfigured : isConfigured registry Pumpfun.programId = true) :
    LooksLikeEvent accountKeys instruction ↔
      ∃ normalized stackHeight,
        normalizeInstruction crates registry accountKeys inner instruction =
          .ok (normalized, stackHeight) ∧
        normalized.programId = Pumpfun.programId ∧
        normalized.accounts[0]? = some Pumpfun.eventAuthority ∧
        Pumpfun.EventData normalized.data := by
  constructor
  · intro hlooks
    rcases hlooks.data with ⟨data, htext, hlength, hdata⟩
    rcases hlooks.inOrder.readStackHeight with ⟨stackHeight, hheight⟩
    rcases hlooks.inOrder.resolveAccounts stackHeight with
      ⟨accountIndexes, accounts, hindexes, haccounts⟩
    have hnormalize : normalizeInstruction crates registry accountKeys inner instruction =
        .ok (⟨Pumpfun.programId, accounts, data,
          stackHeight.or (if inner.isNone then some 1 else none)⟩, stackHeight) :=
      normalizeInstruction_of_fields hlooks.inOrder.resolveProgramId hconfigured hheight hindexes
        haccounts ((decodeData_eq_ok_iff hcrates).mpr ⟨htext, hlength⟩)
    have hauthority := (fields_of_normalize hcrates hnormalize).2.1 0
    rw [hlooks.authority] at hauthority
    exact ⟨_, stackHeight, hnormalize, rfl, hauthority.symm, hdata⟩
  · intro hnormalized
    rcases hnormalized with ⟨normalized, stackHeight, hnormalize, hprogram, hauthority, hdata⟩
    rcases fields_of_normalize hcrates hnormalize with ⟨horder, haccounts, htext, hlength⟩
    rw [hprogram] at horder
    exact ⟨horder, (haccounts 0).trans hauthority, normalized.data, htext, hlength, hdata⟩

end Fields

/-! ## Events of a transaction -/

section Transaction

variable {crates : Crates} {registry : ParserRegistry} {config : ParserConfig}

variable (crates registry) in
/-- Every event of a transaction belongs to an inner instruction. -/
def EventsFromInner (entry : Value) : Prop :=
  ∀ transactionIndex events,
    parseTransaction crates registry entry transactionIndex = .ok (some events) →
    ∀ instruction ∈ events.instructions, ∀ event, instruction.result = .ok event →
      instruction.innerInstructionIndex.isSome

/-- The output of a transaction with a header is that of its header. -/
theorem exists_header_of_parse {entry : Value} {transactionIndex : Nat}
    {events : TransactionEvents}
    (hparse : parseTransaction crates registry entry transactionIndex = .ok (some events)) :
    ∃ header, readTransaction entry = .ok (some header) ∧
      events.instructions = instructionEvents crates registry header := by
  rw [parseTransaction_eq] at hparse
  rcases hread : readTransaction entry with error | header | header
  · rw [hread] at hparse
    cases hparse
  · rw [hread] at hparse
    cases hparse
  · rw [hread] at hparse
    exact ⟨header, rfl, instructions_of_transactionEvents (Except.ok.inj hparse)⟩

/-- The parser of an outer instruction is given no parent. -/
theorem parent_of_outer {header : TransactionHeader} {position outer : Nat} {instruction : Value}
    (hvisit : (visits header)[position]? = some ⟨outer, none, instruction⟩) :
    parentAt crates registry header position = none := by
  rw [parentAt, hvisit]
  rfl

/-- An event of an outer instruction is one that looks like a Pump.fun event. -/
theorem looksLikeEvent_of_outer (hcrates : crates.Documented)
    (hregistry : ParserRegistry.fromConfig crates config = .ok registry)
    {header : TransactionHeader} {entry : InstructionEvents} {event : ParsedEvent}
    (hentry : entry ∈ instructionEvents crates registry header)
    (hresult : entry.result = .ok event) (houter : entry.innerInstructionIndex = none) :
    .pumpFun ∈ config.parsers ∧
      ∃ instruction ∈ header.outerInstructions,
        LooksLikeEvent header.accountKeys instruction := by
  have hat := mem_instructionEvents.mp hentry
  rcases exists_answer_of_entryAt hat hresult with ⟨context, parser, hcontext, hparser, hanswer, -⟩
  rcases exists_parser_of_contextAt hcontext with
    ⟨visit, normalized, stackHeight, -, hvisit, hnormalize, hprogram, -⟩
  rcases entryAt_eq_some hat with ⟨visit', hvisit', -, -, hinner⟩
  rcases Option.some.inj (hvisit.symm.trans hvisit') with rfl
  rcases visit with ⟨outer, inner, instruction⟩
  rcases hinner.symm.trans houter with rfl
  have hget := contextAt_of_normalize hvisit hnormalize
  rw [parent_of_outer hvisit, hcontext] at hget
  rcases Option.some.inj hget with rfl
  rcases ParserRegistry.get_fromConfig hregistry hparser with ⟨name, hname, hnameProgram, rfl⟩
  cases name with
  | pumpFun =>
      have hconfigured := (normalizeInstruction_eq_ok hnormalize).2.1
      have hpumpfun : InstructionContext.programId ⟨normalized.view, none⟩ = Pumpfun.programId :=
        hnameProgram.symm
      have hprogramId : normalized.programId = Pumpfun.programId := hpumpfun
      rw [hprogramId] at hconfigured
      rcases (Pumpfun.parseInstruction_isSome_iff hcrates hpumpfun).mp ⟨event, hanswer⟩ with
        ⟨hauthority, hdata⟩
      refine ⟨hname, instruction, ?_, (looksLikeEvent_iff hcrates hconfigured).mpr
        ⟨normalized, stackHeight, hnormalize, hpumpfun, hauthority, hdata⟩⟩
      exact List.mem_of_getElem? (instructionOf_of_visit hvisit)
  | pumpSwap =>
      rcases (Pumpswap.parseInstruction_eq_ok_iff crates).mp hanswer with
        ⟨-, ⟨-, hnone⟩ | ⟨-, -, ⟨-, -, hnone⟩ | ⟨-, -, parent, swap, hparent, -⟩⟩⟩
      · cases hnone
      · cases hnone
      · cases hparent

/-- An outer instruction that looks like a Pump.fun event yields one. -/
theorem exists_event_of_looksLikeEvent (hcrates : crates.Documented)
    (hregistry : ParserRegistry.fromConfig crates config = .ok registry)
    (hpumpfun : .pumpFun ∈ config.parsers) {header : TransactionHeader} {instruction : Value}
    (hinstruction : instruction ∈ header.outerInstructions)
    (hlooks : LooksLikeEvent header.accountKeys instruction) :
    ∃ entry ∈ instructionEvents crates registry header, entry.innerInstructionIndex = none ∧
      ∃ event, entry.result = .ok event := by
  have hget : registry.get Pumpfun.programId = some (Pumpfun.parser crates) := by
    rcases ParserRegistry.fromConfig_eq_ok crates config with ⟨built, hbuilt, hconfigured, -⟩
    rcases Except.ok.inj (hregistry.symm.trans hbuilt) with rfl
    exact hconfigured .pumpFun hpumpfun
  have hconfigured : isConfigured registry Pumpfun.programId = true := by
    rw [isConfigured, ParserRegistry.contains_eq_isSome_get, hget]
    rfl
  rcases (looksLikeEvent_iff hcrates hconfigured).mp hlooks with
    ⟨normalized, stackHeight, hnormalize, hprogram, hauthority, hdata⟩
  rcases List.mem_iff_getElem?.mp hinstruction with ⟨outer, houter⟩
  have hinstructionOf : instructionOf header (outer, none) = some instruction := houter
  rcases exists_visit_of_instructionOf (List.getElem?_eq_some_iff.mp houter).1 hinstructionOf with
    ⟨position, hvisit⟩
  have hcontext := contextAt_of_normalize hvisit hnormalize
  rw [parent_of_outer hvisit, Option.map_none] at hcontext
  have hcontextProgram : InstructionContext.programId ⟨normalized.view, none⟩ =
      Pumpfun.programId := hprogram
  rcases (Pumpfun.parseInstruction_isSome_iff hcrates hcontextProgram).mpr ⟨hauthority, hdata⟩
    with ⟨event, hevent⟩
  have hparser : registry.get (InstructionContext.programId ⟨normalized.view, none⟩) =
      some (Pumpfun.parser crates) := hcontextProgram.symm ▸ hget
  have hanswer : (Pumpfun.parser crates).parseInstruction ⟨normalized.view, none⟩ =
      .ok (some event) := hevent
  have hentry : entryAt crates registry header position =
      some ⟨some normalized.programId, outer, none, stackHeight, position, .ok event⟩ := by
    rw [entryAt_of_dispatched hvisit hnormalize hcontext, dispatch_of_get hparser, hanswer]
    rfl
  exact ⟨⟨some normalized.programId, outer, none, stackHeight, position, .ok event⟩,
    mem_instructionEvents.mpr hentry, rfl, event, rfl⟩

/-- An outer instruction that looks like an event yields one. -/
theorem not_eventsFromInner (hcrates : crates.Documented)
    (hregistry : ParserRegistry.fromConfig crates config = .ok registry)
    (hpumpfun : .pumpFun ∈ config.parsers) {entry instruction : Value}
    {header : TransactionHeader} (hread : readTransaction entry = .ok (some header))
    (hinstruction : instruction ∈ header.outerInstructions)
    (hlooks : LooksLikeEvent header.accountKeys instruction) :
    ¬ EventsFromInner crates registry entry := by
  intro hinner
  rcases exists_event_of_looksLikeEvent hcrates hregistry hpumpfun hinstruction hlooks with
    ⟨outer, houter, hnone, event, hevent⟩
  rcases parseTransaction_of_read crates registry hread 0 with ⟨result, hparse, hentries⟩
  rw [← hentries] at houter
  cases result with
  | none => cases houter
  | some events =>
      have hsome := hinner 0 events hparse outer houter event hevent
      rw [hnone] at hsome
      cases hsome

/-- The events of a transaction all belong to inner instructions unless Pump.fun is
configured and one of its outer instructions looks like an event. -/
theorem eventsFromInner_iff (hcrates : crates.Documented)
    (hregistry : ParserRegistry.fromConfig crates config = .ok registry) (entry : Value) :
    EventsFromInner crates registry entry ↔
      (.pumpFun ∈ config.parsers → ∀ header, readTransaction entry = .ok (some header) →
        ∀ instruction ∈ header.outerInstructions,
          ¬ LooksLikeEvent header.accountKeys instruction) := by
  constructor
  · intro hinner hpumpfun header hread instruction hinstruction hlooks
    exact not_eventsFromInner hcrates hregistry hpumpfun hread hinstruction hlooks hinner
  · intro hnever transactionIndex events hparse instruction hinstruction event hevent
    rcases exists_header_of_parse hparse with ⟨header, hread, hinstructions⟩
    rw [hinstructions] at hinstruction
    cases hindex : instruction.innerInstructionIndex with
    | some index => rfl
    | none =>
        rcases looksLikeEvent_of_outer hcrates hregistry hinstruction hevent hindex with
          ⟨hpumpfun, found, hfound, hlooks⟩
        exact absurd hlooks (hnever hpumpfun header hread found hfound)

end Transaction

/-! ## A trade in an outer instruction -/

/-- Data of a trade event. -/
def tradeData : Bytes :=
  Pumpfun.eventIxTag ++ Pumpfun.tradeEventDiscriminator ++
    Pumpfun.tradePayload (Pumpfun.tradeOf true 1000 100 1 1 1)

/-- The data of the trade event has 347 bytes. -/
theorem length_tradeData : tradeData.length = 347 := by decide +kernel

/-- An outer instruction with the accounts and the data of a trade event. -/
def outerTrade : Value :=
  TestSupport.transaction "outer" [Pumpfun.programId, Pumpfun.eventAuthority] [] []
    [TestSupport.instruction 0 [1] tradeData 1] [] .null

/-- The same event as an inner instruction, as the program emits it. -/
def innerTrade : Value :=
  TestSupport.transaction "inner" [Pumpfun.programId, Pumpfun.eventAuthority] [] []
    [TestSupport.instruction 0 [1] [1] 1]
    [TestSupport.innerInstructions 0 [TestSupport.instruction 0 [1] tradeData 2]] .null

/-- The outer trade looks like an event. -/
theorem looksLikeEvent_outerTrade :
    LooksLikeEvent [Pumpfun.programId, Pumpfun.eventAuthority]
      (TestSupport.instruction 0 [1] tradeData 1) := by
  have hlength : tradeData.length ≤ packetLen := by
    rw [length_tradeData]
    decide
  have hdata : Pumpfun.EventData tradeData :=
    .trade _ _ rfl (Pumpfun.decodeEventPrefix_tradePayload true 1000 100 1 1 1) (by decide +kernel)
      (by decide +kernel)
  refine ⟨⟨⟨0, rfl, rfl⟩, ⟨[TestSupport.unsigned 1], rfl, ?_⟩, .inr (.inr ⟨1, rfl, by decide⟩)⟩,
    rfl, tradeData, rfl, encode_length_le_of_packet hlength, hdata⟩
  intro value hvalue
  rcases List.mem_singleton.mp hvalue with rfl
  exact ⟨1, rfl, by decide⟩

/-- The outer instruction yields an event. -/
theorem not_eventsFromInner_outerTrade :
    ∃ registry,
      ParserRegistry.fromConfig TestSupport.crates (ParserConfig.single .pumpFun) = .ok registry ∧
        ¬ EventsFromInner TestSupport.crates registry outerTrade := by
  rcases ParserRegistry.fromConfig_eq_ok TestSupport.crates (ParserConfig.single .pumpFun) with
    ⟨registry, hregistry, -⟩
  have hread := TestSupport.readTransaction_transaction "outer"
    [Pumpfun.programId, Pumpfun.eventAuthority] [] [] [TestSupport.instruction 0 [1] tradeData 1] []
    rfl
  exact ⟨registry, hregistry, not_eventsFromInner TestSupport.crates_documented hregistry
    List.mem_cons_self hread List.mem_cons_self looksLikeEvent_outerTrade⟩

/-- The inner instruction is where an event belongs. -/
theorem eventsFromInner_iff_innerTrade :
    ∃ registry,
      ParserRegistry.fromConfig TestSupport.crates (ParserConfig.single .pumpFun) = .ok registry ∧
        EventsFromInner TestSupport.crates registry innerTrade := by
  rcases ParserRegistry.fromConfig_eq_ok TestSupport.crates (ParserConfig.single .pumpFun) with
    ⟨registry, hregistry, -⟩
  refine ⟨registry, hregistry, (eventsFromInner_iff TestSupport.crates_documented hregistry
    innerTrade).mpr ?_⟩
  intro _ header hread instruction hinstruction hlooks
  have hheader := TestSupport.readTransaction_transaction "inner"
    [Pumpfun.programId, Pumpfun.eventAuthority] [] [] [TestSupport.instruction 0 [1] [1] 1]
    [TestSupport.innerInstructions 0 [TestSupport.instruction 0 [1] tradeData 2]] rfl
  rcases Option.some.inj (Except.ok.inj (hread.symm.trans hheader)) with rfl
  rcases List.mem_singleton.mp hinstruction with rfl
  rcases hlooks.data with ⟨data, htext, -, hdata⟩
  have hshort : data = [1] :=
    Base58.encode_injective (Value.string.inj (Option.some.inj htext)).symm
  rcases hdata with ⟨payload, event, hevent, -⟩ | ⟨payload, event, hevent, -, -, -⟩
  · rw [hshort] at hevent
    cases hevent
  · rw [hshort] at hevent
    cases hevent

end Parser

end PumpRealtimePrices
