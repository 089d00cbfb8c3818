import Mathlib.Data.List.Forall2
import PumpRealtimePrices.Parser.SelfCpis
import PumpRealtimePrices.Parser.SellTransaction

/-!
# Independence of the protocols

The configuration decides which instructions the traversal pushes, so two
configurations see different stacks, and sometimes a caller in one where the
other sees none.  A caller of a protocol that both know is seen by both.
Pump.fun never looks at its caller, and PumpSwap rejects every caller but its own
program, so the events of a protocol are the same under both.

Main results:

- Theorem {lit}`parentAt_eq_some_iff_of_configured`: a caller of a program that two
  registries know is recorded by both.
- Theorem {lit}`entriesOfProgram_sameReport`: the entries of a protocol under any two
  configurations that hold it.
- Theorem {lit}`protocol_independence`: the same for the two supported protocols.
-/

namespace PumpRealtimePrices
namespace Parser

open SerdeJson

/-! ## Entries of a block -/

/-- Entries of a block with their transaction index, in execution order. -/
def BlockEvents.entries (events : BlockEvents) : List (Nat × InstructionEvents) :=
  events.transactions.flatMap fun transaction =>
    transaction.instructions.map fun entry => (transaction.transactionIndex, entry)

/-- Entries that carry a program address, or those that carry none. -/
def BlockEvents.entriesOfProgram (events : BlockEvents) (programId : Option String) :
    List (Nat × InstructionEvents) :=
  events.entries.filter fun entry => entry.2.programId = programId

/-- The same position reports the same event, or an error on both sides. -/
structure SameReport (a b : Nat × InstructionEvents) : Prop where
  transactionIndex : a.1 = b.1
  programId : a.2.programId = b.2.programId
  outerInstructionIndex : a.2.outerInstructionIndex = b.2.outerInstructionIndex
  innerInstructionIndex : a.2.innerInstructionIndex = b.2.innerInstructionIndex
  stackHeight : a.2.stackHeight = b.2.stackHeight
  executionOrdinal : a.2.executionOrdinal = b.2.executionOrdinal
  event_iff : ∀ event, a.2.result = .ok event ↔ b.2.result = .ok event
  error_iff : (∃ failure, a.2.result = .error failure) ↔ ∃ failure, b.2.result = .error failure

/-- A report is the same as itself. -/
theorem SameReport.refl (a : Nat × InstructionEvents) : SameReport a a :=
  ⟨rfl, rfl, rfl, rfl, rfl, rfl, fun _ => Iff.rfl, Iff.rfl⟩

section Entries

variable (crates : Crates) (registry : ParserRegistry)

/-- The entries of a block, transaction by transaction. -/
theorem entries_transactionsEvents (start : Nat) (headers : List (Option TransactionHeader)) :
    BlockEvents.entries { transactions := transactionsEvents crates registry start headers } =
      (headers.zipIdx start).flatMap fun indexed =>
        (indexed.1.elim [] (instructionEvents crates registry)).map fun entry =>
          (indexed.2, entry) := by
  induction headers generalizing start with
  | nil => rfl
  | cons header headers ih =>
      have hhead : ∀ rest : List TransactionEvents,
          BlockEvents.entries { transactions :=
            (header.bind fun header => transactionEvents crates registry header start).toList ++
              rest } =
            (header.elim [] (instructionEvents crates registry)).map
                (fun entry => (start, entry)) ++
              BlockEvents.entries { transactions := rest } := by
        intro rest
        rw [BlockEvents.entries, BlockEvents.entries, List.flatMap_append]
        congr 1
        cases header with
        | none => rfl
        | some header =>
            simp only [Option.bind_some, transactionEvents, List.isEmpty_iff, Option.elim_some]
            split
            · next hempty => rw [hempty]; rfl
            · simp
      rw [transactionsEvents_cons, hhead, ih (start + 1), List.zipIdx_cons, List.flatMap_cons]

/-- The entries of a program, position by position. -/
theorem filter_instructionEvents (header : TransactionHeader) (programId : Option String) :
    (instructionEvents crates registry header).filter (fun entry => entry.programId = programId) =
      (List.range (visits header).length).filterMap fun position =>
        (entryAt crates registry header position).filter fun entry =>
          entry.programId = programId := by
  rw [instructionEvents_eq, List.filter_filterMap]

/-- The entries of a program, transaction by transaction. -/
theorem entriesOfProgram_transactionsEvents (start : Nat)
    (headers : List (Option TransactionHeader)) (programId : Option String) :
    BlockEvents.entriesOfProgram
        { transactions := transactionsEvents crates registry start headers } programId =
      (headers.zipIdx start).flatMap fun indexed =>
        (indexed.1.elim [] fun header =>
          (List.range (visits header).length).filterMap fun position =>
            (entryAt crates registry header position).filter fun entry =>
              entry.programId = programId).map fun entry => (indexed.2, entry) := by
  rw [BlockEvents.entriesOfProgram, entries_transactionsEvents, List.filter_flatMap]
  refine congrArg (fun f => List.flatMap f _) (funext fun indexed => ?_)
  rw [List.filter_map]
  cases indexed.1 with
  | none => rfl
  | some header =>
      rw [Option.elim_some, Option.elim_some, ← filter_instructionEvents]
      rfl

/-- Entries of a block of two transactions. -/
theorem entries_pair (first second : TransactionHeader) :
    BlockEvents.entries
        { transactions := transactionsEvents crates registry 0 [some first, some second] } =
      (instructionEvents crates registry first).map (fun entry => (0, entry)) ++
        (instructionEvents crates registry second).map (fun entry => (1, entry)) := by
  rw [entries_transactionsEvents]
  simp

end Entries

/-! ## One position under two registries -/

section TwoRegistries

variable {crates : Crates} {registry registry' : ParserRegistry} {header : TransactionHeader}
  {position : Nat} {visit : Visit}

/-- An instruction whose program address does not resolve is reported under any registry. -/
theorem entryAt_of_unresolved (crates : Crates) {rejection : Rejection}
    (hvisit : (visits header)[position]? = some visit)
    (hprogram : resolveProgramId visit.instruction header.accountKeys = .error rejection) :
    ∃ error, ∀ registry, entryAt crates registry header position =
      some (instructionFailure none visit.outerInstructionIndex visit.innerInstructionIndex none
        position error) := by
  rcases resolveProgramId_eq_error hprogram with ⟨error, rfl⟩
  exact ⟨error, fun registry =>
    entryAt_of_failed hvisit (normalizeInstruction_of_unresolved hprogram)⟩

/-- Any other entry carries the address of its program, which is configured. -/
theorem programId_of_entryAt {programId : String} {entry : InstructionEvents}
    (hvisit : (visits header)[position]? = some visit)
    (hprogram : resolveProgramId visit.instruction header.accountKeys = .ok programId)
    (hentry : entryAt crates registry header position = some entry) :
    entry.programId = some programId ∧ isConfigured registry programId = true := by
  have hconfigured : isConfigured registry programId = true := by
    by_contra hnot
    rw [Bool.not_eq_true] at hnot
    rw [entryAt_of_unconfigured hvisit (normalizeInstruction_of_unconfigured hprogram hnot)]
      at hentry
    cases hentry
  refine ⟨?_, hconfigured⟩
  rcases hnormalize : visit.normalize crates registry header.accountKeys with
    rejection | ⟨normalized, stackHeight⟩
  · rcases normalizeInstruction_eq_error hprogram hconfigured hnormalize with
      ⟨stackHeight, error, rfl⟩
    rw [entryAt_of_failed hvisit hnormalize] at hentry
    rcases Option.some.inj hentry with rfl
    rfl
  · rcases normalizeInstruction_eq_ok hnormalize with ⟨hprogram', -⟩
    rcases Except.ok.inj (hprogram.symm.trans hprogram') with rfl
    rw [entryAt_of_dispatched hvisit hnormalize (contextAt_of_normalize hvisit hnormalize)]
      at hentry
    unfold outcomeEntry at hentry
    split at hentry
    · cases hentry
    · rw [← Option.some.inj hentry]
    · rw [← Option.some.inj hentry]

/-- Entries with a given program: all that an instruction of this program has, and none
of any other instruction. -/
theorem filter_entryAt {programId : String}
    (hvisit : (visits header)[position]? = some visit)
    (hprogram : resolveProgramId visit.instruction header.accountKeys = .ok programId)
    (registry : ParserRegistry) (wanted : Option String) :
    (entryAt crates registry header position).filter (fun entry => entry.programId = wanted) =
      if wanted = some programId then entryAt crates registry header position else none := by
  cases hentry : entryAt crates registry header position with
  | none => simp
  | some entry =>
      have hfound := (programId_of_entryAt hvisit hprogram hentry).1
      by_cases hwanted : wanted = some programId
      · rw [if_pos hwanted, Option.filter_some, hfound, hwanted]
        simp
      · rw [if_neg hwanted, Option.filter_some, hfound]
        simp [Ne.symm hwanted]

/-- A caller of a program that both registries know is recorded by both. -/
theorem parentAt_eq_some_iff_of_configured {parent : NormalizedInstruction}
    (hconfigured : isConfigured registry parent.programId = true)
    (hconfigured' : isConfigured registry' parent.programId = true) :
    parentAt crates registry header position = some parent ↔
      parentAt crates registry' header position = some parent := by
  have hnormalize : ∀ {registry registry' : ParserRegistry} {visit : Visit}
      {stackHeight : Option UInt32}, isConfigured registry' parent.programId = true →
      visit.normalize crates registry header.accountKeys = .ok (parent, stackHeight) →
      visit.normalize crates registry' header.accountKeys = .ok (parent, stackHeight) := by
    intro registry registry' visit stackHeight hconfigured' hnormalize
    rcases normalizeInstruction_eq_ok hnormalize with ⟨hprogram, hconfigured, -⟩
    exact (normalizeInstruction_congr hprogram
      (hconfigured'.trans hconfigured.symm)).trans hnormalize
  rw [parentAt_eq_some_iff, parentAt_eq_some_iff]
  constructor
  · rintro ⟨caller, visit, stackHeight, hcaller, hvisit, hparent⟩
    exact ⟨caller, visit, stackHeight, hcaller, hvisit, hnormalize hconfigured' hparent⟩
  · rintro ⟨caller, visit, stackHeight, hcaller, hvisit, hparent⟩
    exact ⟨caller, visit, stackHeight, hcaller, hvisit, hnormalize hconfigured hparent⟩

/-- The same for what a parser sees of the caller. -/
theorem map_view_parentAt_iff_of_configured {parent : InstructionView}
    (hconfigured : isConfigured registry parent.programId = true)
    (hconfigured' : isConfigured registry' parent.programId = true) :
    (parentAt crates registry header position).map NormalizedInstruction.view = some parent ↔
      (parentAt crates registry' header position).map NormalizedInstruction.view =
        some parent := by
  simp only [Option.map_eq_some_iff]
  refine exists_congr fun caller => and_congr_left fun hview => ?_
  subst hview
  exact parentAt_eq_some_iff_of_configured hconfigured hconfigured'

end TwoRegistries

/-- A built-in parser yields the same events to contexts that agree on the
callers of its own program. -/
theorem createParser_congr_parent (crates : Crates) (name : ParserName)
    {ctx ctx' : InstructionContext} (hinstruction : ctx.instruction = ctx'.instruction)
    (hparent : ∀ parent : InstructionView, parent.programId = name.programId →
      (ctx.parent = some parent ↔ ctx'.parent = some parent)) (result : Option ParsedEvent) :
    (ParserRegistry.createParser crates name).parseInstruction ctx = .ok result ↔
      (ParserRegistry.createParser crates name).parseInstruction ctx' = .ok result := by
  cases name with
  | pumpFun =>
      have hsame := Pumpfun.parseInstruction_eq_of_instruction crates hinstruction
      exact ⟨fun h => hsame.symm.trans h, fun h => hsame.trans h⟩
  | pumpSwap => exact Pumpswap.parseInstruction_congr_parent crates hinstruction hparent result

/-! ## Two configurations -/

/-- A registry built from a configuration holds the parser of each of its protocols. -/
theorem get_of_mem_config {crates : Crates} {config : ParserConfig} {registry : ParserRegistry}
    (hregistry : ParserRegistry.fromConfig crates config = .ok registry) {name : ParserName}
    (hname : name ∈ config.parsers) :
    registry.get name.programId = some (ParserRegistry.createParser crates name) ∧
      isConfigured registry name.programId = true := by
  rcases ParserRegistry.fromConfig_eq_ok crates config with ⟨built, hbuilt, hget, -⟩
  rcases Except.ok.inj (hregistry.symm.trans hbuilt) with rfl
  refine ⟨hget name hname, ?_⟩
  rw [isConfigured, ParserRegistry.contains_eq_isSome_get, hget name hname]
  rfl

section TwoConfigurations

variable {crates : Crates} {config config' : ParserConfig} {registry registry' : ParserRegistry}
  {name : ParserName}

/-- What a dispatched instruction of a common protocol reports is the same. -/
theorem rel_outcomeEntry {answer answer' : ParseResult (Option ParsedEvent)}
    (hanswer : ∀ result, answer = .ok result ↔ answer' = .ok result) (programId : String)
    (outer : Nat) (inner : Option Nat) (stackHeight : Option UInt32)
    (transactionIndex position : Nat) :
    Option.Rel (fun a b => SameReport (transactionIndex, a) (transactionIndex, b))
      (outcomeEntry programId outer inner stackHeight position (outcomeOf programId answer))
      (outcomeEntry programId outer inner stackHeight position (outcomeOf programId answer')) := by
  rcases answer with error | result
  · rcases answer' with error' | result'
    · refine .some ⟨rfl, rfl, rfl, rfl, rfl, rfl, fun event => ?_,
        ⟨fun _ => ⟨_, rfl⟩, fun _ => ⟨_, rfl⟩⟩⟩
      constructor <;> rintro ⟨⟩
    · cases (hanswer result').mpr rfl
  · rcases (hanswer result).mp rfl with rfl
    rcases result with _ | event
    · exact .none
    · exact .some (SameReport.refl _)

/-- What an instruction of a common protocol reports is the same. -/
theorem rel_entryAt_of_visit
    (hget : registry.get name.programId = some (ParserRegistry.createParser crates name))
    (hget' : registry'.get name.programId = some (ParserRegistry.createParser crates name))
    {header : TransactionHeader} {transactionIndex position : Nat} {visit : Visit}
    (hvisit : (visits header)[position]? = some visit)
    (hprogram : resolveProgramId visit.instruction header.accountKeys = .ok name.programId) :
    Option.Rel (fun a b => SameReport (transactionIndex, a) (transactionIndex, b))
      (entryAt crates registry header position) (entryAt crates registry' header position) := by
  have hconfigured : isConfigured registry name.programId = true := by
    rw [isConfigured, ParserRegistry.contains_eq_isSome_get, hget, Option.isSome_some]
  have hconfigured' : isConfigured registry' name.programId = true := by
    rw [isConfigured, ParserRegistry.contains_eq_isSome_get, hget', Option.isSome_some]
  have hcongr : visit.normalize crates registry header.accountKeys =
      visit.normalize crates registry' header.accountKeys :=
    normalizeInstruction_congr hprogram (hconfigured.trans hconfigured'.symm)
  rcases hnormalize : visit.normalize crates registry header.accountKeys with
    rejection | ⟨normalized, stackHeight⟩
  · rcases normalizeInstruction_eq_error hprogram hconfigured hnormalize with
      ⟨stackHeight, error, rfl⟩
    rw [entryAt_of_failed hvisit hnormalize,
      entryAt_of_failed hvisit (hcongr.symm.trans hnormalize)]
    exact .some (SameReport.refl _)
  · rcases normalizeInstruction_eq_ok hnormalize with ⟨hprogram', -⟩
    have hname : normalized.programId = name.programId :=
      (Except.ok.inj (hprogram.symm.trans hprogram')).symm
    have hcontext := contextAt_of_normalize hvisit hnormalize
    have hcontext' := contextAt_of_normalize hvisit (hcongr.symm.trans hnormalize)
    have hdispatch : ∀ {registry : ParserRegistry} {parent : Option InstructionView},
        registry.get name.programId = some (ParserRegistry.createParser crates name) →
        dispatch registry { instruction := normalized.view, parent } =
          outcomeOf normalized.programId ((ParserRegistry.createParser crates name).parseInstruction
            { instruction := normalized.view, parent }) := by
      intro registry parent hget
      refine dispatch_of_get ?_
      change registry.get normalized.programId = _
      rwa [hname]
    rw [entryAt_of_dispatched hvisit hnormalize hcontext, hdispatch hget,
      entryAt_of_dispatched hvisit (hcongr.symm.trans hnormalize) hcontext', hdispatch hget']
    apply rel_outcomeEntry
    apply createParser_congr_parent crates name (by rfl)
    intro parent hparent
    exact map_view_parentAt_iff_of_configured (by rwa [hparent]) (by rwa [hparent])

/-- At a position two registries with the protocol report the same of it. -/
theorem rel_entryAt (hregistry : ParserRegistry.fromConfig crates config = .ok registry)
    (hregistry' : ParserRegistry.fromConfig crates config' = .ok registry')
    (hname : name ∈ config.parsers) (hname' : name ∈ config'.parsers)
    (header : TransactionHeader) (transactionIndex position : Nat) :
    Option.Rel (fun a b => SameReport (transactionIndex, a) (transactionIndex, b))
      ((entryAt crates registry header position).filter fun entry =>
        entry.programId = some name.programId)
      ((entryAt crates registry' header position).filter fun entry =>
        entry.programId = some name.programId) := by
  rcases get_of_mem_config hregistry hname with ⟨hget, hconfigured⟩
  rcases get_of_mem_config hregistry' hname' with ⟨hget', hconfigured'⟩
  cases hvisit : (visits header)[position]? with
  | none =>
      rw [entryAt, entryAt, hvisit]
      exact .none
  | some visit =>
      rcases hprogram : resolveProgramId visit.instruction header.accountKeys with
        rejection | programId
      · rcases entryAt_of_unresolved crates hvisit hprogram with ⟨error, hentry⟩
        rw [hentry registry, hentry registry']
        exact .none
      · rw [filter_entryAt hvisit hprogram, filter_entryAt hvisit hprogram]
        by_cases hsame : some name.programId = some programId
        · rw [if_pos hsame, if_pos hsame]
          rcases Option.some.inj hsame with rfl
          exact rel_entryAt_of_visit hget hget' hvisit hprogram
        · rw [if_neg hsame, if_neg hsame]
          exact .none

/-- The entries of a protocol under any two configurations that hold it. -/
theorem entriesOfProgram_sameReport
    (hregistry : ParserRegistry.fromConfig crates config = .ok registry)
    (hregistry' : ParserRegistry.fromConfig crates config' = .ok registry')
    (hname : name ∈ config.parsers) (hname' : name ∈ config'.parsers)
    (headers : List (Option TransactionHeader)) :
    List.Forall₂ SameReport
      (BlockEvents.entriesOfProgram
        { transactions := transactionsEvents crates registry 0 headers } (some name.programId))
      (BlockEvents.entriesOfProgram
        { transactions := transactionsEvents crates registry' 0 headers }
        (some name.programId)) := by
  rw [entriesOfProgram_transactionsEvents, entriesOfProgram_transactionsEvents]
  refine List.rel_flatMap (R := Eq) (List.forall₂_refl _) fun indexed _ heq => ?_
  obtain rfl : indexed = _ := heq
  rw [List.forall₂_map_left_iff, List.forall₂_map_right_iff]
  cases indexed.1 with
  | none => exact .nil
  | some header =>
      refine List.rel_filterMap (R := Eq) (fun position _ heq => ?_) (List.forall₂_refl _)
      obtain rfl : position = _ := heq
      exact rel_entryAt hregistry hregistry' hname hname' header indexed.2 position

/-- Entries without a program are the same under any two registries. -/
theorem entriesOfProgram_none (crates : Crates) (registry registry' : ParserRegistry)
    (headers : List (Option TransactionHeader)) :
    BlockEvents.entriesOfProgram
        { transactions := transactionsEvents crates registry 0 headers } none =
      BlockEvents.entriesOfProgram
        { transactions := transactionsEvents crates registry' 0 headers } none := by
  have hposition : ∀ header position,
      (entryAt crates registry header position).filter (fun entry => entry.programId = none) =
        (entryAt crates registry' header position).filter fun entry => entry.programId = none := by
    intro header position
    cases hvisit : (visits header)[position]? with
    | none =>
        rw [entryAt, entryAt, hvisit]
        rfl
    | some visit =>
        rcases hprogram : resolveProgramId visit.instruction header.accountKeys with
          rejection | programId
        · rcases entryAt_of_unresolved crates hvisit hprogram with ⟨error, hentry⟩
          rw [hentry registry, hentry registry']
        · rw [filter_entryAt hvisit hprogram, filter_entryAt hvisit hprogram,
            if_neg (Option.some_ne_none programId).symm,
            if_neg (Option.some_ne_none programId).symm]
  rw [entriesOfProgram_transactionsEvents, entriesOfProgram_transactionsEvents]
  refine congrArg (fun f => List.flatMap f _) (funext fun indexed => ?_)
  cases indexed.1 with
  | none => rfl
  | some header => simp only [Option.elim_some, hposition]

end TwoConfigurations

/-- Under both protocols, and under each of them alone, a block fails with the
same error, or the entries of each protocol, and those without a program, are
the same. -/
theorem protocol_independence (crates : Crates) (config : ParserConfig)
    (hboth : ∀ name, name ∈ config.parsers) (block : Value) :
    ∃ both, ∃ registryOf : ParserName → ParserRegistry,
      ParserRegistry.fromConfig crates config = .ok both ∧
      (∀ name, ParserRegistry.fromConfig crates (ParserConfig.single name) =
        .ok (registryOf name)) ∧
      ((∃ error, parseBlock crates both block = .error error ∧
          ∀ name, parseBlock crates (registryOf name) block = .error error) ∨
        ∃ events, ∃ eventsOf : ParserName → BlockEvents,
          parseBlock crates both block = .ok events ∧
          (∀ name, parseBlock crates (registryOf name) block = .ok (eventsOf name)) ∧
          ∀ name : ParserName,
            List.Forall₂ SameReport (events.entriesOfProgram (some name.programId))
              ((eventsOf name).entriesOfProgram (some name.programId)) ∧
            events.entriesOfProgram none = (eventsOf name).entriesOfProgram none) := by
  rcases ParserRegistry.fromConfig_eq_ok crates config with ⟨both, hregistry, -⟩
  choose registryOf hregistryOf using fun name =>
    ParserRegistry.fromConfig_eq_ok crates (ParserConfig.single name)
  refine ⟨both, registryOf, hregistry, fun name => (hregistryOf name).1, ?_⟩
  rcases hread : readBlock block with error | headers
  · refine .inl ⟨error, ?_, fun name => ?_⟩ <;> rw [parseBlock_eq, hread] <;> rfl
  · refine .inr ⟨{ transactions := transactionsEvents crates both 0 headers },
      fun name => { transactions := transactionsEvents crates (registryOf name) 0 headers },
      ?_, fun name => ?_, fun name => ⟨?_, ?_⟩⟩
    · rw [parseBlock_eq, hread]
      rfl
    · rw [parseBlock_eq, hread]
      rfl
    · exact entriesOfProgram_sameReport hregistry (hregistryOf name).1 (hboth name)
        List.mem_cons_self headers
    · exact entriesOfProgram_none crates both (registryOf name) headers

/-! ## A block of both protocols -/

/-- The configuration with both protocols. -/
def bothProtocols : ParserConfig where
  parsers := [.pumpFun, .pumpSwap]
  parsers_ne_nil := by decide
  parsers_nodup := by decide

/-- The registry of the configuration with both protocols. -/
def bothRegistry : ParserRegistry :=
  (ParserRegistry.empty.insert (Pumpfun.parser TestSupport.crates)).insert
    (Pumpswap.parser TestSupport.crates)

/-- A PumpSwap instruction that ends after the event tag calls a trade of Pump.fun and a program
that does not resolve. -/
def calledTrade : Value :=
  TestSupport.transaction "called" [Pumpfun.programId, Pumpfun.eventAuthority, Pumpswap.programId]
    [] [] [TestSupport.instruction 2 [] Pumpswap.eventIxTag 1]
    [TestSupport.innerInstructions 0
      [TestSupport.instruction 0 [1] tradeData 2, TestSupport.instruction 3 [] [] 2]] .null

/-- The transaction as it is read. -/
def calledTradeHeader : TransactionHeader where
  signature := "called"
  outerInstructions := [TestSupport.instruction 2 [] Pumpswap.eventIxTag 1]
  accountKeys := [Pumpfun.programId, Pumpfun.eventAuthority, Pumpswap.programId]
  innerInstructionGroups := Std.TreeMap.insert ∅ 0
    [TestSupport.instruction 0 [1] tradeData 2, TestSupport.instruction 3 [] [] 2]
  tokenDecimals := ∅

/-- The swap of the trade. -/
def calledSwap : TokenSwap :=
  Pumpfun.tradeSwap TestSupport.crates (Pumpfun.tradeOf true 1000 100 1 1 1) 103

/-- The caller is refused for its length. -/
def callerReport : InstructionEvents where
  programId := some Pumpswap.programId
  outerInstructionIndex := 0
  innerInstructionIndex := none
  stackHeight := some 1
  executionOrdinal := 0
  result := .error {
    programId := some Pumpswap.programId
    error := .protocol (.dataTooShort 16 8) }

/-- The trade is reported as its swap. -/
def calledReport : InstructionEvents where
  programId := some Pumpfun.programId
  outerInstructionIndex := 0
  innerInstructionIndex := some 0
  stackHeight := some 2
  executionOrdinal := 1
  result := .ok (.tokenSwap calledSwap)

/-- The last instruction is reported without a program. -/
def unresolvedReport : InstructionEvents where
  programId := none
  outerInstructionIndex := 0
  innerInstructionIndex := some 1
  stackHeight := none
  executionOrdinal := 2
  result := .error {
    programId := none
    error := .indexOutOfBounds "programIdIndex" 3 3 }

/-- The trade parses whatever its caller. -/
theorem parseInstruction_tradeData {context : InstructionContext}
    (hprogram : context.programId = Pumpfun.programId)
    (haccounts : context.accounts = [Pumpfun.eventAuthority]) (hdata : context.data = tradeData) :
    Pumpfun.parseInstruction TestSupport.crates context = .ok (some (.tokenSwap calledSwap)) := by
  have hsettled : ((103 : UInt64).toNat : Int) =
      (Pumpfun.tradeOf true 1000 100 1 1 1).settledQuote := by decide +kernel
  have hswap : Pumpfun.parseTradeEvent TestSupport.crates
      (Pumpfun.tradePayload (Pumpfun.tradeOf true 1000 100 1 1 1)) = .ok calledSwap :=
    (Pumpfun.parseTradeEvent_eq_ok_iff TestSupport.crates_documented
      (Pumpfun.decodeEventPrefix_tradePayload true 1000 100 1 1 1)).mpr ⟨103, hsettled, rfl⟩
  have hlength : Pumpfun.eventHeaderLen ≤ tradeData.length := by
    rw [length_tradeData]
    decide
  rw [Pumpfun.parseInstruction_eq_some_iff, Pumpfun.eventDiscriminator, haccounts, hdata]
  exact ⟨hprogram, ⟨_, rfl⟩, hlength, rfl, .inr ⟨rfl, _, hswap, rfl⟩⟩

/-- The trade is reported, whatever its caller is taken for. -/
theorem entryAt_calledTrade :
    entryAt TestSupport.crates bothRegistry calledTradeHeader 1 = some calledReport := by
  have hvisit : (visits calledTradeHeader)[1]? =
      some ⟨0, some 0, TestSupport.instruction 0 [1] tradeData 2⟩ := rfl
  have hlength : tradeData.length ≤ packetLen := by
    rw [length_tradeData]
    decide
  have hdata : decodeData TestSupport.crates Pumpfun.programId (some 2)
      (TestSupport.instruction 0 [1] tradeData 2) = .ok tradeData :=
    decodeData_encode TestSupport.crates_documented rfl hlength _ _
  have hnormalize : (⟨0, some 0, TestSupport.instruction 0 [1] tradeData 2⟩ : Visit).normalize
      TestSupport.crates bothRegistry calledTradeHeader.accountKeys =
        .ok (⟨Pumpfun.programId, [Pumpfun.eventAuthority], tradeData, some 2⟩, some 2) :=
    normalizeInstruction_of_fields rfl rfl rfl rfl rfl hdata
  have hget : bothRegistry.get Pumpfun.programId = some (Pumpfun.parser TestSupport.crates) := rfl
  rw [entryAt_of_dispatched hvisit hnormalize (contextAt_of_normalize hvisit hnormalize),
    dispatch_of_get hget]
  change outcomeEntry _ _ _ _ _ (outcomeOf _ (Pumpfun.parseInstruction _ _)) = _
  rw [parseInstruction_tradeData (by rfl) (by rfl) (by rfl)]
  rfl

/-- All three instructions of the transaction report something. -/
theorem instructionEvents_calledTrade :
    instructionEvents TestSupport.crates bothRegistry calledTradeHeader =
      [callerReport, calledReport, unresolvedReport] := by
  have hcaller : entryAt TestSupport.crates bothRegistry calledTradeHeader 0 =
      some callerReport := rfl
  have hunresolved : entryAt TestSupport.crates bothRegistry calledTradeHeader 2 =
      some unresolvedReport := by
    have hvisit : (visits calledTradeHeader)[2]? =
        some ⟨0, some 1, TestSupport.instruction 3 [] [] 2⟩ := rfl
    rw [entryAt_of_failed hvisit (normalizeInstruction_of_unresolved rfl)]
    rfl
  rw [instructionEvents_eq]
  change [0, 1, 2].filterMap (entryAt TestSupport.crates bothRegistry calledTradeHeader) = _
  rw [List.filterMap_cons_some hcaller, List.filterMap_cons_some entryAt_calledTrade,
    List.filterMap_cons_some hunresolved, List.filterMap_nil]

/-- A sell of PumpSwap, and a trade of Pump.fun that PumpSwap calls. -/
def bothBlock : Value :=
  TestSupport.block [(sellOf 1 30 40).entry TestSupport.crates, calledTrade]

/-- What the block reports when both protocols are configured. -/
theorem exists_parseBlock_bothBlock :
    ∃ events, parseBlock TestSupport.crates bothRegistry bothBlock = .ok events ∧
      events.entries = [(0, (sellOf 1 30 40).reported TestSupport.crates), (1, callerReport),
        (1, calledReport), (1, unresolvedReport)] := by
  have hcalled : readTransaction calledTrade = .ok (some calledTradeHeader) :=
    TestSupport.readTransaction_transaction _ _ _ _ _ _ rfl
  have hread : readBlock bothBlock =
      .ok [some ((sellOf 1 30 40).header TestSupport.crates), some calledTradeHeader] := by
    rw [bothBlock, readBlock_block, readTransactions_eq_ok_iff]
    simp only [List.map_cons, List.map_nil, Sell.readTransaction_entry, hcalled]
  have hsell : instructionEvents TestSupport.crates bothRegistry
      ((sellOf 1 30 40).header TestSupport.crates) =
        [(sellOf 1 30 40).reported TestSupport.crates] :=
    Sell.instructionEvents_header _ TestSupport.crates_documented rfl
  refine ⟨⟨transactionsEvents TestSupport.crates bothRegistry 0
    [some ((sellOf 1 30 40).header TestSupport.crates), some calledTradeHeader]⟩, ?_, ?_⟩
  · rw [parseBlock_eq, hread]
    rfl
  · rw [entries_pair, hsell, instructionEvents_calledTrade]
    rfl

/-- Each protocol alone reports of the block what both report of it, and every report of the
block is of one of the three kinds. -/
theorem protocol_independence_bothBlock :
    ∃ both, ∃ registryOf : ParserName → ParserRegistry, ∃ events,
      ∃ eventsOf : ParserName → BlockEvents,
        ParserRegistry.fromConfig TestSupport.crates bothProtocols = .ok both ∧
        (∀ name, ParserRegistry.fromConfig TestSupport.crates (ParserConfig.single name) =
          .ok (registryOf name)) ∧
        parseBlock TestSupport.crates both bothBlock = .ok events ∧
        (∀ name, parseBlock TestSupport.crates (registryOf name) bothBlock =
          .ok (eventsOf name)) ∧
        (∀ name : ParserName,
          List.Forall₂ SameReport (events.entriesOfProgram (some name.programId))
            ((eventsOf name).entriesOfProgram (some name.programId)) ∧
          events.entriesOfProgram none = (eventsOf name).entriesOfProgram none) ∧
        events.entriesOfProgram (some Pumpfun.programId) = [(1, calledReport)] ∧
        events.entriesOfProgram (some Pumpswap.programId) =
          [(0, (sellOf 1 30 40).reported TestSupport.crates), (1, callerReport)] ∧
        events.entriesOfProgram none = [(1, unresolvedReport)] := by
  rcases exists_parseBlock_bothBlock with ⟨events, hevents, hentries⟩
  rcases protocol_independence TestSupport.crates bothProtocols
    (by intro name; cases name <;> decide) bothBlock with
    ⟨both, registryOf, hboth, hregistryOf, houtcome⟩
  obtain rfl : bothRegistry = both := Except.ok.inj hboth
  rcases houtcome with ⟨error, herror, -⟩ | ⟨events', eventsOf, hok, hoks, hsame⟩
  · cases hevents.symm.trans herror
  · obtain rfl := Except.ok.inj (hevents.symm.trans hok)
    refine ⟨bothRegistry, registryOf, events, eventsOf, hboth, hregistryOf, hok, hoks, hsame,
      ?_, ?_, ?_⟩ <;> rw [BlockEvents.entriesOfProgram, hentries] <;> rfl

end Parser
end PumpRealtimePrices
