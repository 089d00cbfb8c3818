import PumpRealtimePrices.Parser.TestSupport
import PumpRealtimePrices.Parser.Traversal

/-!
# Completeness of the traversal

A block that parses loses nothing silently.  The statement refers to the JSON
value itself: the flattening is computed from {lit}`message.instructions` and from
the listed groups, whatever their order, and every element of either is visited
at exactly one position.

Main results:

- Theorem {lit}`visits_of_read`: the visits of an accepted transaction are the
  flattening of its JSON value.
- Theorem {lit}`entryAt_isSome_iff`: which positions report something.
- Theorem {lit}`parseBlock_traverses`: the traversal of a block is complete and
  ordered.
-/

namespace PumpRealtimePrices
namespace Parser

open SerdeJson

/-! ## The flattening in terms of JSON -/

/-- Every element of {lit}`message.instructions`, followed by the elements of its group. -/
def flattening (entry : Value) : List Visit :=
  flatten (listedGroup entry) 0 (messageInstructions entry)

/-- The visits of an accepted transaction are the flattening of its JSON value. -/
theorem visits_of_read {entry : Value} {header : TransactionHeader}
    (hread : readTransaction entry = .ok (some header)) : visits header = flattening entry := by
  unfold visits flattening
  rw [messageInstructions_of_read hread, funext (listedGroup_of_read hread)]

/-! ## Which positions report something -/

/-- Why something is reported at a position: its program address does not
resolve, or its program is configured and either it cannot be normalized or its
parser finds an event or an error. -/
inductive Reported (crates : Crates) (registry : ParserRegistry) (header : TransactionHeader)
    (position : Nat) : Prop where
  | unresolved (visit : Visit) (rejection : Rejection)
      (hvisit : (visits header)[position]? = some visit)
      (hprogram : resolveProgramId visit.instruction header.accountKeys = .error rejection)
  | malformed (visit : Visit) (programId : String) (rejection : Rejection)
      (hvisit : (visits header)[position]? = some visit)
      (hprogram : resolveProgramId visit.instruction header.accountKeys = .ok programId)
      (hconfigured : isConfigured registry programId = true)
      (hnormalize : visit.normalize crates registry header.accountKeys = .error rejection)
  | answered (context : InstructionContext) (parser : InstructionParser)
      (hcontext : contextAt crates registry header position = some context)
      (hparser : registry.get context.programId = some parser)
      (hanswer : parser.parseInstruction context ≠ .ok none)

section Reported

variable {crates : Crates} {registry : ParserRegistry} {header : TransactionHeader}
  {position : Nat}

/-- A context is given to the parser that is registered for its program. -/
theorem exists_parser_of_contextAt {context : InstructionContext}
    (hcontext : contextAt crates registry header position = some context) :
    ∃ visit normalized stackHeight parser, (visits header)[position]? = some visit ∧
      visit.normalize crates registry header.accountKeys = .ok (normalized, stackHeight) ∧
      normalized.programId = context.programId ∧
      registry.get context.programId = some parser := by
  have hcontext' := hcontext
  rw [contextAt, Option.bind_eq_some_iff] at hcontext'
  rcases hcontext' with ⟨visit, hvisit, hmatch⟩
  split at hmatch
  · next normalized stackHeight hnormalize =>
      rw [contextAt_of_normalize hvisit hnormalize] at hcontext
      rcases Option.some.inj hcontext with rfl
      rcases normalizeInstruction_eq_ok hnormalize with ⟨-, hconfigured, -⟩
      rw [isConfigured, ParserRegistry.contains_eq_isSome_get] at hconfigured
      rcases Option.isSome_iff_exists.mp hconfigured with ⟨parser, hparser⟩
      exact ⟨visit, normalized, stackHeight, parser, hvisit, hnormalize, rfl, hparser⟩
  · cases hmatch

/-- What a dispatched position reports is its parser's answer. -/
theorem entryAt_of_contextAt {context : InstructionContext} {parser : InstructionParser}
    (hcontext : contextAt crates registry header position = some context)
    (hparser : registry.get context.programId = some parser) :
    ∃ visit stackHeight, (visits header)[position]? = some visit ∧
      entryAt crates registry header position =
        outcomeEntry context.programId visit.outerInstructionIndex visit.innerInstructionIndex
          stackHeight position
          (outcomeOf context.programId (parser.parseInstruction context)) := by
  rcases exists_parser_of_contextAt hcontext with
    ⟨visit, normalized, stackHeight, -, hvisit, hnormalize, hprogram, -⟩
  refine ⟨visit, stackHeight, hvisit, ?_⟩
  rw [entryAt_of_dispatched hvisit hnormalize hcontext, hprogram, dispatch_of_get hparser]

/-- An outcome has an entry unless it is that of no event. -/
theorem outcomeEntry_isSome_iff {programId : String} {outer position : Nat} {inner : Option Nat}
    {stackHeight : Option UInt32} {answer : ParseResult (Option ParsedEvent)} :
    (outcomeEntry programId outer inner stackHeight position
      (outcomeOf programId answer)).isSome ↔ answer ≠ .ok none := by
  rcases answer with error | _ | event <;> simp [outcomeOf, outcomeEntry]

/-- A position reports something exactly for one of the three reasons. -/
theorem entryAt_isSome_iff :
    (entryAt crates registry header position).isSome ↔
      Reported crates registry header position := by
  constructor
  · intro hsome
    rcases Option.isSome_iff_exists.mp hsome with ⟨entry, hentry⟩
    rcases entryAt_eq_some hentry with ⟨visit, hvisit, -⟩
    rcases hprogram : resolveProgramId visit.instruction header.accountKeys with
      rejection | programId
    · exact .unresolved visit rejection hvisit hprogram
    · rcases hnormalize : visit.normalize crates registry header.accountKeys with
        rejection | ⟨normalized, stackHeight⟩
      · cases hconfigured : isConfigured registry programId with
        | true => exact .malformed visit programId rejection hvisit hprogram hconfigured hnormalize
        | false =>
            have hunconfigured : visit.normalize crates registry header.accountKeys =
                .error .unconfigured := normalizeInstruction_of_unconfigured hprogram hconfigured
            rw [entryAt_of_unconfigured hvisit hunconfigured] at hsome
            cases hsome
      · have hcontext := contextAt_of_normalize hvisit hnormalize
        rcases exists_parser_of_contextAt hcontext with ⟨-, -, -, parser, -, -, -, hparser⟩
        rcases entryAt_of_contextAt hcontext hparser with ⟨_, _, -, hspec⟩
        refine .answered _ parser hcontext hparser ?_
        rwa [hspec, outcomeEntry_isSome_iff] at hsome
  · rintro (⟨visit, rejection, hvisit, hprogram⟩ |
      ⟨visit, programId, rejection, hvisit, hprogram, hconfigured, hnormalize⟩ |
      ⟨context, parser, hcontext, hparser, hanswer⟩)
    · rcases resolveProgramId_eq_error hprogram with ⟨error, rfl⟩
      rw [entryAt_of_failed hvisit (normalizeInstruction_of_unresolved hprogram)]
      rfl
    · rcases normalizeInstruction_eq_error hprogram hconfigured hnormalize with
        ⟨stackHeight, error, rfl⟩
      rw [entryAt_of_failed hvisit hnormalize]
      rfl
    · rcases entryAt_of_contextAt hcontext hparser with ⟨_, _, -, hspec⟩
      rw [hspec, outcomeEntry_isSome_iff]
      exact hanswer

/-- A transaction has entries exactly when one of its positions is reported. -/
theorem exists_mem_instructionEvents_iff :
    (∃ event, event ∈ instructionEvents crates registry header) ↔
      ∃ position, Reported crates registry header position := by
  simp only [← entryAt_isSome_iff, Option.isSome_iff_exists]
  constructor
  · rintro ⟨event, hmem⟩
    exact ⟨event.executionOrdinal, event, mem_instructionEvents.mp hmem⟩
  · rintro ⟨position, event, hevent⟩
    rcases entryAt_eq_some hevent with ⟨-, -, rfl, -⟩
    exact ⟨event, mem_instructionEvents.mpr hevent⟩

end Reported

/-! ## Transactions -/

/-- The traversal of one transaction: every element is visited once, and the
entries are those of the reporting positions, in order. -/
structure Traverses (crates : Crates) (registry : ParserRegistry) (entry : Value)
    (header : TransactionHeader) (events : List InstructionEvents) : Prop where
  visits_eq : visits header = flattening entry
  outer_once : ∀ (index : Nat) instruction, (messageInstructions entry)[index]? = some instruction →
    ∃! position : Nat, (flattening entry)[position]? = some (⟨index, none, instruction⟩ : Visit)
  group_once : ∀ (listed : Nat) group, (innerInstructionGroups entry)[listed]? = some group →
    ∃ index instructions, groupIndex group = some index ∧
      groupInstructions group = some instructions ∧
      index < (messageInstructions entry).length ∧
      (∀ (listed' : Nat) group', (innerInstructionGroups entry)[listed']? = some group' →
        groupIndex group' = some index → listed' = listed) ∧
      ∀ (inner : Nat) instruction, instructions[inner]? = some instruction →
        ∃! position : Nat, (flattening entry)[position]? =
          some (⟨index, some inner, instruction⟩ : Visit)
  reported_iff : ∀ position, (∃ event ∈ events, event.executionOrdinal = position) ↔
    Reported crates registry header position
  ordered : events.Pairwise fun a b => a.executionOrdinal < b.executionOrdinal
  indexes : ∀ event ∈ events, ∃ visit,
    (flattening entry)[event.executionOrdinal]? = some visit ∧
      event.outerInstructionIndex = visit.outerInstructionIndex ∧
      event.innerInstructionIndex = visit.innerInstructionIndex
  answers : ∀ event ∈ events, ∀ context parser,
    contextAt crates registry header event.executionOrdinal = some context →
    registry.get context.programId = some parser →
    (∀ found, parser.parseInstruction context = .ok (some found) → event.result = .ok found) ∧
    ∀ error, parser.parseInstruction context = .error error → event.result = .error {
      programId := some context.programId, error := .protocol error }

section Transaction

variable {crates : Crates} {registry : ParserRegistry} {entry : Value} {header : TransactionHeader}

/-- An element of the flattening is visited at exactly one position. -/
theorem existsUnique_position (hread : readTransaction entry = .ok (some header)) {visit : Visit}
    (hmem : visit ∈ flattening entry) :
    ∃! position : Nat, (flattening entry)[position]? = some visit := by
  rcases List.mem_iff_getElem?.mp hmem with ⟨position, hposition⟩
  refine ⟨position, hposition, fun other hother => ?_⟩
  rw [← visits_of_read hread] at hposition hother
  exact position_unique hother hposition rfl rfl

/-- The traversal of an accepted transaction is complete and ordered. -/
theorem traverses_of_read (hread : readTransaction entry = .ok (some header)) :
    Traverses crates registry entry header (instructionEvents crates registry header) where
  visits_eq := visits_of_read hread
  outer_once index instruction hget :=
    existsUnique_position hread (mem_flatten.mpr (.inl ⟨rfl, hget⟩))
  group_once listed group hlisted := by
    rcases innerGroup_of_read hread with ⟨hnodup, hgroups, -⟩
    rcases hgroups group (List.mem_of_getElem? hlisted) with
      ⟨index, instructions, hindex, hbound, hinstructions, hget⟩
    rw [← messageInstructions_of_read hread] at hbound
    refine ⟨index, instructions, hindex, hinstructions, hbound, ?_, ?_⟩
    · intro listed' group' hlisted' hindex'
      have hlt := (List.getElem?_eq_some_iff.mp hlisted').1
      refine (List.getElem?_inj (by simpa using hlt) hnodup).mp ?_
      rw [List.getElem?_map, List.getElem?_map, hlisted, hlisted', Option.map_some,
        Option.map_some, hindex, hindex']
    · intro inner instruction hinner
      refine existsUnique_position hread (mem_flatten.mpr (.inr ⟨inner, rfl, hbound, ?_⟩))
      rwa [listedGroup_of_read hread, hget]
  reported_iff position := by
    rw [← entryAt_isSome_iff, Option.isSome_iff_exists]
    constructor
    · rintro ⟨event, hmem, rfl⟩
      exact ⟨event, mem_instructionEvents.mp hmem⟩
    · rintro ⟨event, hevent⟩
      rcases entryAt_eq_some hevent with ⟨-, -, rfl, -⟩
      exact ⟨event, mem_instructionEvents.mpr hevent, rfl⟩
  ordered := pairwise_instructionEvents crates registry header
  indexes event hmem := by
    rcases entryAt_eq_some (mem_instructionEvents.mp hmem) with ⟨visit, hvisit, -, houter, hinner⟩
    rw [visits_of_read hread] at hvisit
    exact ⟨visit, hvisit, houter, hinner⟩
  answers event hmem context parser hcontext hparser := by
    rcases entryAt_of_contextAt hcontext hparser with ⟨visit, stackHeight, -, hspec⟩
    rw [mem_instructionEvents.mp hmem] at hspec
    constructor
    · intro found hfound
      rw [hfound] at hspec
      rw [Option.some.inj hspec]
    · intro error herror
      rw [herror] at hspec
      rw [Option.some.inj hspec]

end Transaction

/-! ## Blocks -/

section Block

variable {crates : Crates} {registry : ParserRegistry}

/-- An output of a block is that of the transaction at its index. -/
theorem mem_transactionsEvents {headers : List (Option TransactionHeader)}
    {events : TransactionEvents} :
    events ∈ transactionsEvents crates registry 0 headers ↔
      ∃ header, headers[events.transactionIndex]? = some (some header) ∧
        transactionEvents crates registry header events.transactionIndex = some events := by
  unfold transactionsEvents
  simp only [List.mem_filterMap, Prod.exists, List.mem_zipIdx_iff_getElem?,
    Option.bind_eq_some_iff]
  constructor
  · rintro ⟨_, index, hget, header, rfl, hevents⟩
    rcases transactionEvents_eq_some_iff.mp hevents with ⟨-, -, rfl, -⟩
    exact ⟨header, hget, hevents⟩
  · rintro ⟨header, hget, hevents⟩
    exact ⟨some header, events.transactionIndex, hget, header, rfl, hevents⟩

/-- Transactions are in the order of their indexes. -/
theorem pairwise_transactionsEvents (start : Nat) (headers : List (Option TransactionHeader)) :
    (transactionsEvents crates registry start headers).Pairwise fun a b =>
      a.transactionIndex < b.transactionIndex := by
  rw [transactionsEvents, List.pairwise_filterMap]
  have hsorted : (headers.zipIdx start).Pairwise fun a b => a.2 < b.2 := by
    rw [← List.pairwise_map, List.zipIdx_map_snd]
    exact List.pairwise_lt_range'
  refine hsorted.imp fun hlt events hevents other hother => ?_
  rcases Option.bind_eq_some_iff.mp hevents with ⟨_, -, hevents⟩
  rcases Option.bind_eq_some_iff.mp hother with ⟨_, -, hother⟩
  rcases transactionEvents_eq_some_iff.mp hevents with ⟨-, -, hindex, -⟩
  rcases transactionEvents_eq_some_iff.mp hother with ⟨-, -, hindex', -⟩
  rwa [hindex, hindex']

section Parsed

variable {block : Value} {events : BlockEvents}

/-- Outputs stand in the order of the transactions. -/
theorem pairwise_transactions_of_parse (hparse : parseBlock crates registry block = .ok events) :
    events.transactions.Pairwise fun a b => a.transactionIndex < b.transactionIndex := by
  rcases parseBlock_eq_ok hparse with ⟨_, headers, -, -, hevents⟩
  rw [hevents]
  exact pairwise_transactionsEvents 0 headers

/-- An output of a parsed block is computed from the header of the transaction at its index. -/
theorem exists_header_of_transaction (hparse : parseBlock crates registry block = .ok events)
    {transaction : TransactionEvents} (hmem : transaction ∈ events.transactions) :
    ∃ entries entry header, (block.get "transactions").bind Value.asArray = some entries ∧
      entries[transaction.transactionIndex]? = some entry ∧
      readTransaction entry = .ok (some header) ∧
      transactionEvents crates registry header transaction.transactionIndex =
        some transaction := by
  rcases parseBlock_eq_ok hparse with ⟨entries, headers, hentries, hheaders, hevents⟩
  rw [hevents] at hmem
  rcases mem_transactionsEvents.mp hmem with ⟨header, hget, htransaction⟩
  have hread := congrArg (fun results => results[transaction.transactionIndex]?) hheaders
  simp only [List.getElem?_map, hget, Option.map_some] at hread
  rcases Option.map_eq_some_iff.mp hread with ⟨entry, hentry, hheader⟩
  exact ⟨entries, entry, header, hentries, hentry, hheader, htransaction⟩

/-- What a parsed block reports under two indexes is what the transaction with the first
one reports at the position of the second one. -/
theorem exists_reported_iff (hparse : parseBlock crates registry block = .ok events)
    {transactions : List Value}
    (htransactions : (block.get "transactions").bind Value.asArray = some transactions)
    {transactionIndex position : Nat} {property : InstructionEvents → Prop} :
    (∃ transaction ∈ events.transactions, transaction.transactionIndex = transactionIndex ∧
      ∃ instruction ∈ transaction.instructions, instruction.executionOrdinal = position ∧
        property instruction) ↔
      ∃ entry header instruction, transactions[transactionIndex]? = some entry ∧
        readTransaction entry = .ok (some header) ∧
        entryAt crates registry header position = some instruction ∧ property instruction := by
  constructor
  · intro hreported
    rcases hreported with ⟨transaction, hmem, rfl, instruction, hinstruction, rfl, hproperty⟩
    rcases exists_header_of_transaction hparse hmem with
      ⟨found, entry, header, hfound, hentry, hread, htransaction⟩
    rcases Option.some.inj (htransactions.symm.trans hfound) with rfl
    rw [instructions_of_transactionEvents htransaction] at hinstruction
    exact ⟨entry, header, instruction, hentry, hread, mem_instructionEvents.mp hinstruction,
      hproperty⟩
  · intro hentryAt
    rcases hentryAt with ⟨entry, header, instruction, hentry, hread, hinstruction, hproperty⟩
    rcases parseBlock_eq_ok hparse with ⟨found, headers, hfound, hheaders, hevents⟩
    rcases Option.some.inj (htransactions.symm.trans hfound) with rfl
    have hheader := congrArg (fun results => results[transactionIndex]?) hheaders
    simp only [List.getElem?_map, hentry, Option.map_some, hread] at hheader
    rcases Option.map_eq_some_iff.mp hheader.symm with ⟨other, hother, hok⟩
    rcases Except.ok.inj hok with rfl
    have hordinal : instruction.executionOrdinal = position := by
      rcases entryAt_eq_some hinstruction with ⟨-, -, hordinal, -⟩
      exact hordinal
    rw [← hordinal] at hinstruction
    have hmem := mem_instructionEvents.mpr hinstruction
    refine ⟨⟨header.signature, transactionIndex, header.tokenDecimals,
      instructionEvents crates registry header⟩, ?_, rfl, instruction, hmem, hordinal, hproperty⟩
    rw [hevents]
    exact mem_transactionsEvents.mpr ⟨header, hother,
      transactionEvents_eq_some_iff.mpr ⟨List.ne_nil_of_mem hmem, rfl, rfl, rfl, rfl⟩⟩

end Parsed

/-- The transactions of a parsed block: exactly those that did not fail and
report something, in block order under their original index. -/
structure TraversesBlock (crates : Crates) (registry : ParserRegistry) (entries : List Value)
    (transactions : List TransactionEvents) : Prop where
  ordered : transactions.Pairwise fun a b => a.transactionIndex < b.transactionIndex
  sound : ∀ events ∈ transactions, ∃ entry header,
    entries[events.transactionIndex]? = some entry ∧
      entry.pointer ["meta", "err"] = some .null ∧
      readTransaction entry = .ok (some header) ∧
      events.signature = header.signature ∧ events.tokenDecimals = header.tokenDecimals ∧
      events.instructions ≠ [] ∧ Traverses crates registry entry header events.instructions
  complete : ∀ (index : Nat) entry, entries[index]? = some entry →
    entry.pointer ["meta", "err"] = some .null →
    ∃ header, readTransaction entry = .ok (some header) ∧
      ((∃ events ∈ transactions, events.transactionIndex = index) ↔
        ∃ position, Reported crates registry header position)

/-- The traversal of a parsed block is complete and ordered, transaction by
transaction and instruction by instruction. -/
theorem parseBlock_traverses {block : Value} {events : BlockEvents}
    (hparse : parseBlock crates registry block = .ok events) :
    ∃ entries, (block.get "transactions").bind Value.asArray = some entries ∧
      TraversesBlock crates registry entries events.transactions := by
  rcases parseBlock_eq_ok hparse with ⟨entries, headers, hentries, hheaders, hevents⟩
  refine ⟨entries, hentries, pairwise_transactions_of_parse hparse, ?_, ?_⟩
  · intro transaction hmem
    rcases exists_header_of_transaction hparse hmem with
      ⟨entries', entry, header, hentries', hentry, hheader, htransaction⟩
    rcases Option.some.inj (hentries.symm.trans hentries') with rfl
    rcases transactionEvents_eq_some_iff.mp htransaction with
      ⟨hne, hsignature, -, hdecimals, hinstructions⟩
    refine ⟨entry, header, hentry, (isSome_of_readTransaction hheader).mp rfl, hheader,
      hsignature, hdecimals, hne, ?_⟩
    rw [hinstructions]
    exact traverses_of_read hheader
  · intro index entry hentry herror
    rw [hevents]
    have hindex := congrArg (fun results => results[index]?) hheaders
    simp only [List.getElem?_map, hentry, Option.map_some] at hindex
    rcases Option.map_eq_some_iff.mp hindex.symm with ⟨found, hget, hheader⟩
    rcases Option.isSome_iff_exists.mp ((isSome_of_readTransaction hheader.symm).mpr herror) with
      ⟨header, rfl⟩
    refine ⟨header, hheader.symm, ?_⟩
    rw [← exists_mem_instructionEvents_iff]
    constructor
    · rintro ⟨transaction, hmem, rfl⟩
      rcases mem_transactionsEvents.mp hmem with ⟨header', hget', htransaction⟩
      rcases transactionEvents_eq_some_iff.mp htransaction with ⟨hne, -, -, -, hinstructions⟩
      rcases Option.some.inj (Option.some.inj (hget.symm.trans hget')) with rfl
      rw [hinstructions] at hne
      exact List.exists_mem_of_ne_nil _ hne
    · rintro ⟨event, hmem⟩
      have hne : instructionEvents crates registry header ≠ [] := List.ne_nil_of_mem hmem
      refine ⟨⟨header.signature, index, header.tokenDecimals,
        instructionEvents crates registry header⟩, mem_transactionsEvents.mpr ⟨header, hget, ?_⟩,
        rfl⟩
      exact transactionEvents_eq_some_iff.mpr ⟨hne, rfl, rfl, rfl, rfl⟩

end Block

/-- One transaction with two outer instructions, whose groups are listed in the
opposite order. -/
def reorderedBlock : Value :=
  TestSupport.block [
    TestSupport.transaction "ordered-signature" [TestSupport.testProgramId] [] []
      [TestSupport.instruction 0 [] [1] 1, TestSupport.instruction 0 [] [0] 1]
      [TestSupport.innerInstructions 1 [TestSupport.instruction 0 [] [1] 2],
        TestSupport.innerInstructions 0
          [TestSupport.instruction 0 [] [1] 2, TestSupport.instruction 0 [] [2] 3]]
      .null]

/-- Groups listed out of order are visited in execution order. -/
theorem parseBlock_traverses_reorderedBlock :
    ∃ entries events,
      parseBlock TestSupport.crates TestSupport.registry reorderedBlock = .ok events ∧
      events.transactions.map (fun transaction =>
        transaction.instructions.map InstructionEvents.executionOrdinal) = [[0, 1, 2, 4]] ∧
      TraversesBlock TestSupport.crates TestSupport.registry entries events.transactions := by
  obtain ⟨events, hparse⟩ : ∃ events,
      parseBlock TestSupport.crates TestSupport.registry reorderedBlock = .ok events := ⟨_, rfl⟩
  rcases parseBlock_traverses hparse with ⟨entries, -, htraverses⟩
  exact ⟨entries, events, hparse, by obtain rfl := Except.ok.inj hparse; rfl, htraverses⟩

end Parser
end PumpRealtimePrices
