import PumpRealtimePrices.Parser.Diagnoses
import PumpRealtimePrices.Parser.MarketEvents
import PumpRealtimePrices.Programs.Refusals

/-!
# How a block answers for its instructions

An executed instruction of a configured program is answered in one of three ways.  It is
reported with the event that it emits, or as a failure if it looks like an event and has a
defect, or not at all.  Which of them holds is decided by the instruction and its immediate
caller alone.

Main results:

- Theorem {lit}`refused_of_createParser`: every error of a built-in parser describes a defect.
- Theorem {lit}`answered_of_parseBlock`: a parsed block answers for every executed
  instruction.
-/

namespace PumpRealtimePrices
namespace Parser

open SerdeJson

/-! ## Refused instructions -/

/-- What an error of the built-in parsers says about an executed instruction. -/
inductive Refused (crates : Crates) (context : InstructionContext) : ParseError → Prop
  | pumpFun (hprogram : context.programId = Pumpfun.programId) (error : ParseError)
      (hdefect : Pumpfun.EventDefect context.instruction error) : Refused crates context error
  | pumpSwap (hprogram : context.programId = Pumpswap.programId) (error : ParseError)
      (hdefect : Pumpswap.EventDefect crates context error) : Refused crates context error

section Refusals

variable {crates : Crates} {name : ParserName} {context : InstructionContext} {error : ParseError}

/-- An error of the parser of a program is true of the instruction. -/
theorem refused_of_createParser (hcrates : crates.Documented)
    (hprogram : name.programId = context.programId)
    (hparse : (ParserRegistry.createParser crates name).parseInstruction context =
      .error error) : Refused crates context error := by
  cases name with
  | pumpFun =>
      exact .pumpFun hprogram.symm error
        (Pumpfun.eventDefect_of_parseInstruction hcrates hprogram.symm hparse)
  | pumpSwap =>
      exact .pumpSwap hprogram.symm error
        (Pumpswap.eventDefect_of_parseInstruction hcrates hprogram.symm hparse)

/-- The parser of a program fails on an instruction that is to be refused. -/
theorem exists_error_of_refused (hcrates : crates.Documented)
    (hprogram : name.programId = context.programId) (hrefused : Refused crates context error) :
    ∃ found, (ParserRegistry.createParser crates name).parseInstruction context =
      .error found := by
  have hprograms : Pumpfun.programId ≠ Pumpswap.programId := by decide
  cases hrefused with
  | pumpFun hpumpfun _ hdefect =>
      cases name with
      | pumpFun => exact Pumpfun.exists_error_of_eventDefect hcrates hpumpfun hdefect
      | pumpSwap => exact absurd (hpumpfun.symm.trans hprogram.symm) hprograms
  | pumpSwap hpumpswap _ hdefect =>
      cases name with
      | pumpFun => exact absurd (hprogram.trans hpumpswap) hprograms
      | pumpSwap => exact Pumpswap.exists_error_of_eventDefect hcrates hpumpswap hdefect

end Refusals

/-! ## Answers -/

/-- How a block answers for the executed instruction under two indexes. -/
structure Answered (crates : Crates) (events : BlockEvents)
    (transactionIndex executionOrdinal : Nat) (context : InstructionContext) : Prop where
  event : ∀ programId event,
    ReportsAt events transactionIndex executionOrdinal programId event ↔
      programId = context.programId ∧ Emits crates context event
  failure : ∀ failure, FailsAt events transactionIndex executionOrdinal failure →
    ∃ error, failure = ⟨some context.programId, .protocol error⟩ ∧ Refused crates context error
  refused : ∀ error, Refused crates context error →
    ∃ failure, FailsAt events transactionIndex executionOrdinal failure

section Answers

variable {crates : Crates} {config : ParserConfig} {registry : ParserRegistry}
  {header : TransactionHeader} {position : Nat} {context : InstructionContext}

/-- Nothing else is executed at a position. -/
theorem ExecutedAt.unique (hcrates : crates.Documented)
    (hregistry : ParserRegistry.fromConfig crates config = .ok registry)
    (hexecuted : ExecutedAt config header position context) {other : InstructionContext}
    (hother : ExecutedAt config header position other) : other = context := by
  have hfound := (contextAt_eq_some_iff hcrates hregistry).mpr hother
  rw [(contextAt_eq_some_iff hcrates hregistry).mpr hexecuted] at hfound
  exact (Option.some.inj hfound).symm

/-- The failure at a position is a refusal of its instruction. -/
theorem refused_of_entryAt (hcrates : crates.Documented)
    (hregistry : ParserRegistry.fromConfig crates config = .ok registry)
    (hexecuted : ExecutedAt config header position context) {entry : InstructionEvents}
    (hentry : entryAt crates registry header position = some entry)
    {failure : InstructionParseFailure} (hfailure : entry.result = .error failure) :
    ∃ error, failure = ⟨some context.programId, .protocol error⟩ ∧
      Refused crates context error := by
  have hcontext := (contextAt_eq_some_iff hcrates hregistry).mpr hexecuted
  rcases exists_parser_of_contextAt hcontext with ⟨-, -, -, parser, -, -, -, hparser⟩
  rcases ParserRegistry.get_fromConfig hregistry hparser with ⟨name, -, hname, rfl⟩
  rcases entryAt_of_contextAt hcontext hparser with ⟨_, _, -, hspec⟩
  rw [hspec] at hentry
  rcases hanswer : (ParserRegistry.createParser crates name).parseInstruction context with
    error | _ | event
  · rw [hanswer] at hentry
    rcases Option.some.inj hentry with rfl
    rcases Except.error.inj hfailure with rfl
    exact ⟨error, rfl, refused_of_createParser hcrates hname hanswer⟩
  · rw [hanswer] at hentry
    cases hentry
  · rw [hanswer] at hentry
    rcases Option.some.inj hentry with rfl
    cases hfailure

/-- A refused instruction is a failure of its position. -/
theorem exists_failure_of_refused (hcrates : crates.Documented)
    (hregistry : ParserRegistry.fromConfig crates config = .ok registry)
    (hexecuted : ExecutedAt config header position context) {error : ParseError}
    (hrefused : Refused crates context error) :
    ∃ entry failure, entryAt crates registry header position = some entry ∧
      entry.result = .error failure := by
  have hcontext := (contextAt_eq_some_iff hcrates hregistry).mpr hexecuted
  rcases exists_parser_of_contextAt hcontext with ⟨-, -, -, parser, -, -, -, hparser⟩
  rcases ParserRegistry.get_fromConfig hregistry hparser with ⟨name, -, hname, rfl⟩
  rcases exists_error_of_refused hcrates hname hrefused with ⟨found, hanswer⟩
  exact exists_failure_of_diagnosis (.protocol context hcontext _ hparser found hanswer)

end Answers

/-- A parsed block answers for every executed instruction. -/
theorem answered_of_parseBlock {crates : Crates} (hcrates : crates.Documented)
    {config : ParserConfig} {registry : ParserRegistry}
    (hregistry : ParserRegistry.fromConfig crates config = .ok registry) {block : Value}
    {events : BlockEvents} (hparse : parseBlock crates registry block = .ok events) :
    ∃ transactions, block.get "transactions" = some (.array transactions) ∧
      ∀ (transactionIndex executionOrdinal : Nat) entry header context,
        transactions[transactionIndex]? = some entry → readTransaction entry = .ok (some header) →
          ExecutedAt config header executionOrdinal context →
            Answered crates events transactionIndex executionOrdinal context := by
  rcases parseBlock_eq_ok hparse with ⟨transactions, -, htransactions, -, -⟩
  have hblock := bind_asArray_eq_some_iff.mp htransactions
  refine ⟨transactions, hblock, ?_⟩
  intro transactionIndex executionOrdinal entry header context hentry hread hexecuted
  refine ⟨?_, ?_, ?_⟩
  · intro programId event
    rw [reportsAt_iff_emittedAt hcrates hregistry hparse hblock]
    constructor
    · intro hemitted
      rcases hemitted with ⟨other, otherHeader, found, hother, hotherRead, hfound, rfl, hemits⟩
      rcases Option.some.inj (hentry.symm.trans hother) with rfl
      rcases Option.some.inj (Except.ok.inj (hread.symm.trans hotherRead)) with rfl
      rcases hexecuted.unique hcrates hregistry hfound with rfl
      exact ⟨rfl, hemits⟩
    · intro hemits
      exact ⟨entry, header, context, hentry, hread, hexecuted, hemits.1.symm, hemits.2⟩
  · intro failure hfails
    rcases (exists_reported_iff hparse htransactions).mp hfails with
      ⟨other, otherHeader, found, hother, hotherRead, hfound, hfailure⟩
    rcases Option.some.inj (hentry.symm.trans hother) with rfl
    rcases Option.some.inj (Except.ok.inj (hread.symm.trans hotherRead)) with rfl
    exact refused_of_entryAt hcrates hregistry hexecuted hfound hfailure
  · intro error hrefused
    rcases exists_failure_of_refused hcrates hregistry hexecuted hrefused with
      ⟨found, failure, hfound, hfailure⟩
    exact ⟨failure, (exists_reported_iff hparse htransactions).mpr
      ⟨entry, header, found, hentry, hread, hfound, hfailure⟩⟩

/-- A transaction whose only instruction ends after the event tag. -/
def cutOffEntry : Value :=
  TestSupport.transaction "cut off" [Pumpswap.programId] [] []
    [TestSupport.instruction 0 [] Pumpswap.eventIxTag 1] [] .null

def cutOffHeader : TransactionHeader where
  signature := "cut off"
  outerInstructions := [TestSupport.instruction 0 [] Pumpswap.eventIxTag 1]
  accountKeys := [Pumpswap.programId]
  innerInstructionGroups := ∅
  tokenDecimals := ∅

def cutOffContext : InstructionContext :=
  InstructionContext.new Pumpswap.programId [] Pumpswap.eventIxTag

/-- The instruction that ends after the event tag is refused, and answered. -/
theorem answered_of_parseBlock_cutOff :
    ∃ events, parseBlock TestSupport.crates (pumpSwapRegistry TestSupport.crates)
        (TestSupport.block [cutOffEntry]) = .ok events ∧
      Refused TestSupport.crates cutOffContext (.dataTooShort 16 8) ∧
      Answered TestSupport.crates events 0 0 cutOffContext := by
  obtain ⟨events, hparse⟩ : ∃ events, parseBlock TestSupport.crates
      (pumpSwapRegistry TestSupport.crates) (TestSupport.block [cutOffEntry]) = .ok events :=
    ⟨_, rfl⟩
  have hregistry := fromConfig_pumpSwap TestSupport.crates
  have hread : readTransaction cutOffEntry = .ok (some cutOffHeader) :=
    TestSupport.readTransaction_transaction _ _ _ _ _ _ rfl
  have hexecuted : ExecutedAt (ParserConfig.single .pumpSwap) cutOffHeader 0 cutOffContext :=
    (contextAt_eq_some_iff TestSupport.crates_documented hregistry).mp rfl
  rcases answered_of_parseBlock TestSupport.crates_documented hregistry hparse with
    ⟨transactions, htransactions, hanswered⟩
  rcases Value.array.inj (Option.some.inj htransactions) with rfl
  refine ⟨events, hparse, ?_, hanswered 0 0 cutOffEntry cutOffHeader cutOffContext rfl hread
    hexecuted⟩
  exact .pumpSwap rfl _ (.header _ (.data (List.prefix_refl _) (by decide)))

end Parser
end PumpRealtimePrices
