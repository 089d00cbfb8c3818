import PumpRealtimePrices.Parser.Acceptance
import PumpRealtimePrices.Parser.InvocationStack
import PumpRealtimePrices.Parser.SelfCpis
import PumpRealtimePrices.Programs.Correlation

/-!
# The market events of a block

What the two programs emitted in a block, said about the JSON value alone: which fields an
instruction has, which instruction called it, and which event its bytes lay out.  A parsed
block reports these events and no others, each under the indexes of its instruction.

Main results:

- Theorem {lit}`contextAt_eq_some_iff`: a parser is given an executed instruction with its
  immediate caller.
- Theorem {lit}`Pumpfun.parseInstruction_eq_event_iff`: the Pump.fun parser accepts exactly
  the laid out events.
- Theorem {lit}`events_of_parseBlock`: a parsed block reports exactly the emitted events.
-/

namespace PumpRealtimePrices

open Borsh

/-! ## Events of Pump.fun -/

namespace Pumpfun

variable (crates : Crates)

/-- The token of a creation. -/
def discoveryOf (event : CreateEventPrefix) : TokenDiscovery where
  mint := crates.pubkeyToString event.mint
  creator := crates.pubkeyToString event.creator
  name := event.name
  symbol := event.symbol
  uri := event.uri

/-- An instruction lays out an event: the tag, the discriminator and the fields of the
event, and whatever later versions of the program append. -/
inductive Emits (instruction : InstructionView) : ParsedEvent → Prop
  | create (event : CreateEventPrefix) (layout appended : Bytes)
      (hauthority : instruction.accounts[0]? = some eventAuthority)
      (hlayout : serialize event = some layout)
      (hdata : instruction.data = eventIxTag ++ createEventDiscriminator ++ (layout ++ appended)) :
      Emits instruction (.tokenDiscovery (discoveryOf crates event))
  | trade (event : TradeEventPrefix) (layout appended : Bytes) (quoteAmount : UInt64)
      (hauthority : instruction.accounts[0]? = some eventAuthority)
      (hlayout : serialize event = some layout)
      (hdata : instruction.data = eventIxTag ++ tradeEventDiscriminator ++ (layout ++ appended))
      (hsettled : (quoteAmount.toNat : Int) = event.settledQuote) :
      Emits instruction (.tokenSwap (tradeSwap crates event quoteAmount))

variable {crates}

/-- A creation is parsed exactly from the encoding of its event. -/
theorem parseCreateEvent_eq_ok_discoveryOf_iff {payload : Bytes} {discovery : TokenDiscovery} :
    parseCreateEvent crates payload = .ok discovery ↔
      ∃ event, decodeEventPrefix payload "CreateEvent" = .ok event ∧
        discovery = discoveryOf crates event := by
  simp only [parseCreateEvent, Rust.except_bind_eq_ok_iff, pure, Except.pure, Except.ok.injEq,
    discoveryOf, eq_comm (a := discovery)]

/-- The parser accepts exactly the laid out events. -/
theorem parseInstruction_eq_event_iff (hcrates : crates.Documented) {ctx : InstructionContext}
    (hprogram : ctx.programId = programId) {event : ParsedEvent} :
    parseInstruction crates ctx = .ok (some event) ↔ Emits crates ctx.instruction event := by
  have hcreateLen : eventHeaderLen = eventIxTag.length + createEventDiscriminator.length := rfl
  have htradeLen : eventHeaderLen = eventIxTag.length + tradeEventDiscriminator.length := rfl
  have hcreations :=
    (decodeEventPrefix_prefixCodec CreateEventPrefix "CreateEvent").decode_eq_ok_iff
  have htrades := (decodeEventPrefix_prefixCodec TradeEventPrefix "TradeEvent").decode_eq_ok_iff
  rw [parseInstruction_eq_some_iff]
  constructor
  · intro hparse
    rcases hparse with ⟨-, htag, hlength, hauthority, ⟨hcreate, discovery, hdiscovery, rfl⟩ |
      ⟨htrade, swap, hswap, rfl⟩⟩
    · rcases parseCreateEvent_eq_ok_discoveryOf_iff.mp hdiscovery with ⟨event, hevent, rfl⟩
      rcases (hcreations _ _).mp hevent with ⟨layout, appended, hlayout, hpayload⟩
      exact .create event layout appended hauthority hlayout
        ((eventData_eq_iff hcreateLen).mpr ⟨htag, hlength, hcreate, hpayload.symm⟩)
    · rcases parseTradeEvent_eq_ok crates hswap with ⟨event, hevent, -⟩
      rcases (parseTradeEvent_eq_ok_iff hcrates hevent).mp hswap with ⟨quoteAmount, hsettled, rfl⟩
      rcases (htrades _ _).mp hevent with ⟨layout, appended, hlayout, hpayload⟩
      exact .trade event layout appended quoteAmount hauthority hlayout
        ((eventData_eq_iff htradeLen).mpr ⟨htag, hlength, htrade, hpayload.symm⟩) hsettled
  · intro hemits
    refine ⟨hprogram, ?_⟩
    cases hemits with
    | create event layout appended hauthority hlayout hdata =>
        rcases (eventData_eq_iff hcreateLen).mp hdata with ⟨htag, hlength, hcreate, hpayload⟩
        have hevent := (hcreations _ _).mpr ⟨layout, appended, hlayout, hpayload.symm⟩
        exact ⟨htag, hlength, hauthority, .inl ⟨hcreate, _,
          parseCreateEvent_eq_ok_discoveryOf_iff.mpr ⟨event, hevent, rfl⟩, rfl⟩⟩
    | trade event layout appended quoteAmount hauthority hlayout hdata hsettled =>
        rcases (eventData_eq_iff htradeLen).mp hdata with ⟨htag, hlength, htrade, hpayload⟩
        have hevent := (htrades _ _).mpr ⟨layout, appended, hlayout, hpayload.symm⟩
        exact ⟨htag, hlength, hauthority, .inr ⟨htrade, _,
          (parseTradeEvent_eq_ok_iff hcrates hevent).mpr ⟨quoteAmount, hsettled, rfl⟩, rfl⟩⟩

end Pumpfun

namespace Parser

open SerdeJson

/-! ## Executed instructions -/

/-- The program, the accounts and the data that the fields of an instruction denote. -/
structure Denotes (accountKeys : List String) (instruction : Value) (view : InstructionView) :
    Prop where
  inOrder : InOrder accountKeys view.programId instruction
  accounts : ∀ index, accountAt accountKeys instruction index = view.accounts[index]?
  data : instruction.get "data" = some (.string (Base58.encode view.data))
  dataLen : (Base58.encode view.data).length ≤ maxBase58InstructionDataLen

/-- A program is one of the configured ones. -/
def ParserConfig.Covers (config : ParserConfig) (programId : String) : Prop :=
  ∃ name ∈ config.parsers, name.programId = programId

/-- An instruction of a configured program calls the one at a position. -/
def CalledBy (config : ParserConfig) (header : TransactionHeader) (position : Nat)
    (caller : InstructionView) : Prop :=
  config.Covers caller.programId ∧
    ∃ callerPosition visit, ImmediateCaller header position callerPosition ∧
      (visits header)[callerPosition]? = some visit ∧
      Denotes header.accountKeys visit.instruction caller

/-- The instruction at a position belongs to a configured program, and the context says
what it is and which instruction called it. -/
structure ExecutedAt (config : ParserConfig) (header : TransactionHeader) (position : Nat)
    (context : InstructionContext) : Prop where
  configured : config.Covers context.programId
  instruction : ∃ visit, (visits header)[position]? = some visit ∧
    Denotes header.accountKeys visit.instruction context.instruction
  parent : ∀ parent, context.parent = some parent ↔ CalledBy config header position parent

section Executed

variable {crates : Crates} {config : ParserConfig} {registry : ParserRegistry}

/-- A program is configured exactly when the configuration covers it. -/
theorem isConfigured_iff_covers
    (hregistry : ParserRegistry.fromConfig crates config = .ok registry) {programId : String} :
    isConfigured registry programId = true ↔ config.Covers programId := by
  rw [isConfigured, ParserRegistry.contains_eq_isSome_get]
  constructor
  · intro hsome
    rcases Option.isSome_iff_exists.mp hsome with ⟨parser, hparser⟩
    rcases ParserRegistry.get_fromConfig hregistry hparser with ⟨name, hmem, hname, -⟩
    exact ⟨name, hmem, hname⟩
  · intro hcovers
    rcases hcovers with ⟨name, hmem, rfl⟩
    rcases ParserRegistry.fromConfig_eq_ok crates config with ⟨built, hbuilt, hget, -⟩
    rcases Except.ok.inj (hregistry.symm.trans hbuilt) with rfl
    rw [hget name hmem]
    rfl

/-- An instruction is normalized exactly to what its fields denote. -/
theorem exists_normalize_iff_denotes (hcrates : crates.Documented)
    (hregistry : ParserRegistry.fromConfig crates config = .ok registry)
    {accountKeys : List String} {inner : Option Nat} {instruction : Value}
    {view : InstructionView} :
    (∃ normalized stackHeight, normalizeInstruction crates registry accountKeys inner instruction =
        .ok (normalized, stackHeight) ∧ normalized.view = view) ↔
      config.Covers view.programId ∧ Denotes accountKeys instruction view := by
  constructor
  · intro hnormalized
    rcases hnormalized with ⟨normalized, stackHeight, hnormalize, rfl⟩
    rcases normalizeInstruction_eq_ok hnormalize with ⟨-, hconfigured, -⟩
    rcases fields_of_normalize hcrates hnormalize with ⟨horder, haccounts, hdata, hlength⟩
    exact ⟨(isConfigured_iff_covers hregistry).mp hconfigured, horder, haccounts, hdata, hlength⟩
  · intro hdenotes
    rcases hdenotes with ⟨hcovers, horder, haccounts, hdata, hlength⟩
    rcases horder.readStackHeight with ⟨stackHeight, hheight⟩
    rcases horder.resolveAccounts stackHeight with ⟨accountIndexes, accounts, hindexes, hresolve⟩
    have hnormalize : normalizeInstruction crates registry accountKeys inner instruction =
        .ok (⟨view.programId, accounts, view.data,
          stackHeight.or (if inner.isNone then some 1 else none)⟩, stackHeight) :=
      normalizeInstruction_of_fields horder.resolveProgramId
        ((isConfigured_iff_covers hregistry).mpr hcovers) hheight hindexes hresolve
        ((decodeData_eq_ok_iff hcrates).mpr ⟨hdata, hlength⟩)
    have hsame : accounts = view.accounts := by
      apply List.ext_getElem?
      intro index
      rw [← haccounts index]
      exact ((fields_of_normalize hcrates hnormalize).2.1 index).symm
    refine ⟨_, stackHeight, hnormalize, ?_⟩
    rw [hsame]
    rfl

/-- The recorded caller is the immediate caller, if its program is configured and its
fields denote an instruction. -/
theorem parentAt_iff_calledBy (hcrates : crates.Documented)
    (hregistry : ParserRegistry.fromConfig crates config = .ok registry)
    {header : TransactionHeader} {position : Nat} {parent : InstructionView} :
    (parentAt crates registry header position).map NormalizedInstruction.view = some parent ↔
      CalledBy config header position parent := by
  rw [Option.map_eq_some_iff]
  constructor
  · intro hparent
    rcases hparent with ⟨normalized, hrecorded, hview⟩
    rcases parentAt_eq_some_iff.mp hrecorded with
      ⟨caller, visit, stackHeight, hcaller, hvisit, hnormalize⟩
    rcases (exists_normalize_iff_denotes hcrates hregistry).mp
      ⟨normalized, stackHeight, hnormalize, hview⟩ with ⟨hcovers, hdenotes⟩
    exact ⟨hcovers, caller, visit, hcaller, hvisit, hdenotes⟩
  · intro hcalled
    rcases hcalled with ⟨hcovers, caller, visit, hcaller, hvisit, hdenotes⟩
    rcases (exists_normalize_iff_denotes hcrates hregistry).mpr ⟨hcovers, hdenotes⟩ with
      ⟨normalized, stackHeight, hnormalize, hview⟩
    exact ⟨normalized, parentAt_eq_some_iff.mpr
      ⟨caller, visit, stackHeight, hcaller, hvisit, hnormalize⟩, hview⟩

/-- A parser is given an executed instruction with its immediate caller. -/
theorem contextAt_eq_some_iff (hcrates : crates.Documented)
    (hregistry : ParserRegistry.fromConfig crates config = .ok registry)
    {header : TransactionHeader} {position : Nat} {context : InstructionContext} :
    contextAt crates registry header position = some context ↔
      ExecutedAt config header position context := by
  constructor
  · intro hcontext
    rcases exists_parser_of_contextAt hcontext with
      ⟨visit, normalized, stackHeight, -, hvisit, hnormalize, -⟩
    rcases (exists_normalize_iff_denotes hcrates hregistry).mp
      ⟨normalized, stackHeight, hnormalize, rfl⟩ with ⟨hcovers, hdenotes⟩
    rw [contextAt_of_normalize hvisit hnormalize] at hcontext
    rcases Option.some.inj hcontext with rfl
    exact ⟨hcovers, ⟨visit, hvisit, hdenotes⟩, fun _ => parentAt_iff_calledBy hcrates hregistry⟩
  · intro hexecuted
    rcases hexecuted with ⟨hcovers, ⟨visit, hvisit, hdenotes⟩, hparent⟩
    rcases (exists_normalize_iff_denotes hcrates hregistry).mpr ⟨hcovers, hdenotes⟩ with
      ⟨normalized, stackHeight, hnormalize, hview⟩
    rw [contextAt_of_normalize hvisit hnormalize, hview]
    have hsame : (parentAt crates registry header position).map NormalizedInstruction.view =
        context.parent := by
      apply Option.ext
      intro parent
      rw [hparent parent]
      exact parentAt_iff_calledBy hcrates hregistry
    rw [hsame]

end Executed

/-! ## Emitted events -/

/-- The event that an executed instruction emits. -/
inductive Emits (crates : Crates) (context : InstructionContext) : ParsedEvent → Prop
  | pumpFun (event : ParsedEvent) (hprogram : context.programId = Pumpfun.programId)
      (hemits : Pumpfun.Emits crates context.instruction event) : Emits crates context event
  | pumpSwap (swap : TokenSwap) (hprogram : context.programId = Pumpswap.programId)
      (hcorrelated : Pumpswap.Correlated context swap) : Emits crates context (.tokenSwap swap)

section Emitted

variable {crates : Crates} {config : ParserConfig} {registry : ParserRegistry}

/-- A built-in parser answers with the event that an instruction of its program emits. -/
theorem createParser_eq_event_iff (hcrates : crates.Documented) {name : ParserName}
    {context : InstructionContext} (hprogram : name.programId = context.programId)
    {event : ParsedEvent} :
    (ParserRegistry.createParser crates name).parseInstruction context = .ok (some event) ↔
      Emits crates context event := by
  have hprograms : Pumpfun.programId ≠ Pumpswap.programId := by decide
  cases name with
  | pumpFun =>
      have hpumpfun : context.programId = Pumpfun.programId := hprogram.symm
      change Pumpfun.parseInstruction crates context = _ ↔ _
      rw [Pumpfun.parseInstruction_eq_event_iff hcrates hpumpfun]
      constructor
      · intro hemits
        exact .pumpFun event hpumpfun hemits
      · intro hemits
        cases hemits with
        | pumpFun _ _ hemits => exact hemits
        | pumpSwap swap hpumpswap _ => exact absurd (hpumpfun.symm.trans hpumpswap) hprograms
  | pumpSwap =>
      have hpumpswap : context.programId = Pumpswap.programId := hprogram.symm
      change Pumpswap.parseInstruction crates context = _ ↔ _
      rw [Pumpswap.parseInstruction_eq_some_iff hcrates hpumpswap]
      constructor
      · intro hcorrelated
        rcases hcorrelated with ⟨swap, rfl, hcorrelated⟩
        exact .pumpSwap swap hpumpswap hcorrelated
      · intro hemits
        cases hemits with
        | pumpFun _ hpumpfun _ => exact absurd (hpumpfun.symm.trans hpumpswap) hprograms
        | pumpSwap swap _ hcorrelated => exact ⟨swap, rfl, hcorrelated⟩

/-- An event is reported at a position exactly when its instruction emits it. -/
theorem exists_event_iff_emits (hcrates : crates.Documented)
    (hregistry : ParserRegistry.fromConfig crates config = .ok registry)
    {header : TransactionHeader} {position : Nat} {programId : String} {event : ParsedEvent} :
    (∃ instruction, entryAt crates registry header position = some instruction ∧
        instruction.programId = some programId ∧ instruction.result = .ok event) ↔
      ∃ context, ExecutedAt config header position context ∧ context.programId = programId ∧
        Emits crates context event := by
  constructor
  · intro hreported
    rcases hreported with ⟨instruction, hentry, hprogram, hresult⟩
    rcases exists_answer_of_entryAt hentry hresult with
      ⟨context, parser, hcontext, hparser, hanswer, hfound⟩
    rcases ParserRegistry.get_fromConfig hregistry hparser with ⟨name, -, hname, rfl⟩
    exact ⟨context, (contextAt_eq_some_iff hcrates hregistry).mp hcontext,
      Option.some.inj (hfound.symm.trans hprogram),
      (createParser_eq_event_iff hcrates hname).mp hanswer⟩
  · intro hemitted
    rcases hemitted with ⟨context, hexecuted, rfl, hemits⟩
    have hcontext := (contextAt_eq_some_iff hcrates hregistry).mpr hexecuted
    rcases exists_parser_of_contextAt hcontext with ⟨-, -, -, parser, -, -, -, hparser⟩
    rcases ParserRegistry.get_fromConfig hregistry hparser with ⟨name, -, hname, rfl⟩
    rcases entryAt_of_contextAt hcontext hparser with ⟨visit, stackHeight, -, hspec⟩
    rw [(createParser_eq_event_iff hcrates hname).mpr hemits] at hspec
    exact ⟨_, hspec, rfl, rfl⟩

end Emitted

/-! ## Parsed blocks -/

/-- A block reports this event of an instruction of the program: the one that is visited with
this ordinal in the transaction with this index. -/
def ReportsAt (events : BlockEvents) (transactionIndex executionOrdinal : Nat)
    (programId : String) (event : ParsedEvent) : Prop :=
  ∃ transaction ∈ events.transactions, transaction.transactionIndex = transactionIndex ∧
    ∃ instruction ∈ transaction.instructions, instruction.executionOrdinal = executionOrdinal ∧
      instruction.programId = some programId ∧ instruction.result = .ok event

/-- An instruction of the program emits this event: the one that is visited with this ordinal
in the transaction with this index, which did not fail. -/
def EmittedAt (crates : Crates) (config : ParserConfig) (transactions : List Value)
    (transactionIndex executionOrdinal : Nat) (programId : String) (event : ParsedEvent) : Prop :=
  ∃ entry header context, transactions[transactionIndex]? = some entry ∧
    readTransaction entry = .ok (some header) ∧
    ExecutedAt config header executionOrdinal context ∧ context.programId = programId ∧
    Emits crates context event

/-- What is reported under two indexes is what is emitted there. -/
theorem reportsAt_iff_emittedAt {crates : Crates} (hcrates : crates.Documented)
    {config : ParserConfig} {registry : ParserRegistry}
    (hregistry : ParserRegistry.fromConfig crates config = .ok registry) {block : Value}
    {events : BlockEvents} (hparse : parseBlock crates registry block = .ok events)
    {transactions : List Value}
    (htransactions : block.get "transactions" = some (.array transactions))
    {transactionIndex executionOrdinal : Nat} {programId : String} {event : ParsedEvent} :
    ReportsAt events transactionIndex executionOrdinal programId event ↔
      EmittedAt crates config transactions transactionIndex executionOrdinal programId event := by
  rw [ReportsAt, exists_reported_iff hparse (bind_asArray_eq_some_iff.mpr htransactions)]
  constructor
  · intro hreported
    rcases hreported with ⟨entry, header, instruction, hentry, hread, hinstruction⟩
    rcases (exists_event_iff_emits hcrates hregistry).mp ⟨instruction, hinstruction⟩ with
      ⟨context, hexecuted, hemits⟩
    exact ⟨entry, header, context, hentry, hread, hexecuted, hemits⟩
  · intro hemitted
    rcases hemitted with ⟨entry, header, context, hentry, hread, hexecuted, hemits⟩
    rcases (exists_event_iff_emits hcrates hregistry).mpr ⟨context, hexecuted, hemits⟩ with
      ⟨instruction, hinstruction⟩
    exact ⟨entry, header, instruction, hentry, hread, hinstruction⟩

/-- A parsed block reports exactly the events that its instructions emit. -/
theorem events_of_parseBlock {crates : Crates} (hcrates : crates.Documented)
    {config : ParserConfig} {registry : ParserRegistry}
    (hregistry : ParserRegistry.fromConfig crates config = .ok registry) {block : Value}
    {events : BlockEvents} (hparse : parseBlock crates registry block = .ok events) :
    ∃ transactions, block.get "transactions" = some (.array transactions) ∧
      ∀ transactionIndex executionOrdinal programId event,
        ReportsAt events transactionIndex executionOrdinal programId event ↔
          EmittedAt crates config transactions transactionIndex executionOrdinal programId
            event := by
  rcases parseBlock_eq_ok hparse with ⟨transactions, -, htransactions, -, -⟩
  have hblock := bind_asArray_eq_some_iff.mp htransactions
  exact ⟨transactions, hblock, fun _ _ _ _ =>
    reportsAt_iff_emittedAt hcrates hregistry hparse hblock⟩

/-- The second of two sells emits its event with the inner instruction, and nothing with the
outer one. -/
theorem events_of_parseBlock_sells :
    EmittedAt TestSupport.crates (ParserConfig.single .pumpSwap)
        ([sellOf 1 30 40, sellOf 2 50 60].map (Sell.entry TestSupport.crates)) 1 1
        Pumpswap.programId (.tokenSwap ((sellOf 2 50 60).swap TestSupport.crates)) ∧
      ∀ programId event, ¬ EmittedAt TestSupport.crates (ParserConfig.single .pumpSwap)
        ([sellOf 1 30 40, sellOf 2 50 60].map (Sell.entry TestSupport.crates)) 1 0 programId
        event := by
  rcases events_of_parseBlock TestSupport.crates_documented (fromConfig_pumpSwap TestSupport.crates)
    (parseBlock_sells TestSupport.crates_documented (get_pumpSwapRegistry TestSupport.crates)
      [sellOf 1 30 40, sellOf 2 50 60]) with ⟨transactions, htransactions, hevents⟩
  rcases Value.array.inj (Option.some.inj htransactions) with rfl
  refine ⟨(hevents 1 1 _ _).mp ?_, fun programId event hemitted => ?_⟩
  · exact ⟨_, List.mem_cons_of_mem _ List.mem_cons_self, rfl, _, List.mem_cons_self, rfl, rfl, rfl⟩
  · rcases (hevents 1 0 programId event).mpr hemitted with
      ⟨transaction, hmem, -, instruction, hinstruction, hordinal, -⟩
    rcases List.mem_map.mp hmem with ⟨⟨sell, index⟩, -, rfl⟩
    rcases List.mem_singleton.mp hinstruction with rfl
    cases hordinal

end Parser

end PumpRealtimePrices
