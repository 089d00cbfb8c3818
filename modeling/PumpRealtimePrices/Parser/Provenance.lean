import PumpRealtimePrices.Parser.Completeness
import PumpRealtimePrices.Parser.Registry

/-!
# Where an event comes from

An entry of the output names its transaction and its execution ordinal.  These
two numbers lead back to the instruction of the block, with the parent it was
parsed against, and for a swap to the fields of the decoded event.

Main results:

- Theorem {lit}`exists_answer_of_event`: an event in the output is its parser's answer
  about the instruction that the entry names.
- Theorem {lit}`exists_source_of_swap`: with the built-in parsers, a swap in the output
  is that of a decoded Pump.fun trade, or of a PumpSwap event and its parent.
-/

namespace PumpRealtimePrices
namespace Parser

open SerdeJson

/-! ## Back to the instruction -/

/-- The instruction at a position of a block's transaction, as its parser sees it. -/
def blockContextAt (crates : Crates) (registry : ParserRegistry) (block : Value)
    (transactionIndex position : Nat) : Option InstructionContext := do
  let entries ← (block.get "transactions").bind Value.asArray
  let entry ← entries[transactionIndex]?
  match readTransaction entry with
  | .ok (some header) => contextAt crates registry header position
  | _ => none

section Answers

variable {crates : Crates} {registry : ParserRegistry} {header : TransactionHeader}
  {instruction : InstructionEvents} {event : ParsedEvent}

/-- An event in an entry is the answer of the parser. -/
theorem outcomeEntry_eq_some_ok {programId : String} {outer position : Nat} {inner : Option Nat}
    {stackHeight : Option UInt32} {answer : ParseResult (Option ParsedEvent)}
    (hentry : outcomeEntry programId outer inner stackHeight position
      (outcomeOf programId answer) = some instruction)
    (hresult : instruction.result = .ok event) :
    answer = .ok (some event) ∧ instruction.programId = some programId := by
  rcases answer with error | _ | found
  · have hfailure := Option.some.inj hentry
    rw [← hfailure] at hresult
    cases hresult
  · cases hentry
  · have hevent := Option.some.inj hentry
    rw [← hevent] at hresult ⊢
    have hfound : found = event := Except.ok.inj hresult
    rw [hfound]
    exact ⟨rfl, rfl⟩

/-- Only a dispatched instruction yields an event, and it is the parser's answer. -/
theorem exists_answer_of_entryAt {position : Nat}
    (hentry : entryAt crates registry header position = some instruction)
    (hresult : instruction.result = .ok event) :
    ∃ context parser, contextAt crates registry header position = some context ∧
      registry.get context.programId = some parser ∧
      parser.parseInstruction context = .ok (some event) ∧
      instruction.programId = some context.programId := by
  rcases entryAt_eq_some hentry with ⟨visit, hvisit, -⟩
  rcases hnormalize : visit.normalize crates registry header.accountKeys with
    (_ | ⟨programId, stackHeight, error⟩) | ⟨normalized, stackHeight⟩
  · rw [entryAt_of_unconfigured hvisit hnormalize] at hentry
    cases hentry
  · -- A failed normalization is reported as a failure.
    rw [entryAt_of_failed hvisit hnormalize] at hentry
    rw [← Option.some.inj hentry] at hresult
    cases hresult
  · have hcontext := contextAt_of_normalize hvisit hnormalize
    rcases exists_parser_of_contextAt hcontext with ⟨-, -, -, parser, -, -, -, hparser⟩
    rcases entryAt_of_contextAt hcontext hparser with ⟨_, _, -, hspec⟩
    rw [hentry] at hspec
    rcases outcomeEntry_eq_some_ok hspec.symm hresult with ⟨hanswer, hprogram⟩
    exact ⟨_, parser, hcontext, hparser, hanswer, hprogram⟩

/-- An event in the output is its parser's answer about the instruction that the
entry names. -/
theorem exists_answer_of_event {block : Value} {events : BlockEvents}
    (hparse : parseBlock crates registry block = .ok events) {transaction : TransactionEvents}
    (htransaction : transaction ∈ events.transactions)
    (hinstruction : instruction ∈ transaction.instructions)
    (hresult : instruction.result = .ok event) :
    ∃ context parser,
      blockContextAt crates registry block transaction.transactionIndex
        instruction.executionOrdinal = some context ∧
      registry.get context.programId = some parser ∧
      parser.parseInstruction context = .ok (some event) ∧
      instruction.programId = some context.programId := by
  rcases exists_header_of_transaction hparse htransaction with
    ⟨entries, entry, header, hentries, hentry, hheader, hevents⟩
  have hmem : instruction ∈ instructionEvents crates registry header := by
    rw [← instructions_of_transactionEvents hevents]
    exact hinstruction
  rcases exists_answer_of_entryAt (mem_instructionEvents.mp hmem) hresult with
    ⟨context, parser, hcontext, hanswer⟩
  refine ⟨context, parser, ?_, hanswer⟩
  simp only [blockContextAt, hentries, hentry, hheader, Option.bind_eq_bind, Option.bind_some,
    hcontext]

end Answers

/-! ## Sources of swaps -/

/-- The decoded event that a swap comes from, for each of the two programs. -/
inductive SwapSource (crates : Crates) (context : InstructionContext) (swap : TokenSwap) :
    Prop where
  | trade (event : Pumpfun.TradeEventPrefix)
      (hprogram : context.programId = Pumpfun.programId)
      (hevent : decodeEventPrefix (context.data.drop Pumpfun.eventHeaderLen) "TradeEvent" =
        .ok event)
      (hswap : Pumpfun.IsTradeSwap crates event swap)
  | buy (parent : InstructionContext) (event : Pumpswap.BuyEventPrefix)
      (hprogram : context.programId = Pumpswap.programId)
      (hparent : context.parentInstruction = some parent)
      (hdiscriminator : Pumpswap.eventDiscriminator context = Pumpswap.buyEventDiscriminator)
      (hevent : decodeEventPrefix (context.data.drop Pumpswap.eventHeaderLen) "BuyEvent" =
        .ok event)
      (hswap : Pumpswap.IsBuySwap crates event parent swap)
  | sell (parent : InstructionContext) (event : Pumpswap.SellEventPrefix)
      (hprogram : context.programId = Pumpswap.programId)
      (hparent : context.parentInstruction = some parent)
      (hdiscriminator : Pumpswap.eventDiscriminator context = Pumpswap.sellEventDiscriminator)
      (hevent : decodeEventPrefix (context.data.drop Pumpswap.eventHeaderLen) "SellEvent" =
        .ok event)
      (hswap : Pumpswap.IsSellSwap crates event parent swap)

section Sources

variable {crates : Crates} {context : InstructionContext} {swap : TokenSwap}

/-- A swap of Pump.fun comes from a trade event. -/
theorem source_of_pumpfun (hprogram : context.programId = Pumpfun.programId)
    (hanswer : Pumpfun.parseInstruction crates context = .ok (some (.tokenSwap swap))) :
    SwapSource crates context swap := by
  rcases Pumpfun.parseInstruction_eq_ok_some crates hanswer with
    ⟨discovery, hdiscovery⟩ | ⟨found, hfound, hevent⟩
  · cases hdiscovery
  · cases hevent
    rcases Pumpfun.parseTradeEvent_eq_ok crates hfound with ⟨event, hevent, hswap⟩
    exact .trade event hprogram hevent hswap

/-- A swap of PumpSwap comes from a buy or sell event and its caller. -/
theorem source_of_pumpswap (hcrates : crates.Documented)
    (hanswer : Pumpswap.parseInstruction crates context = .ok (some (.tokenSwap swap))) :
    SwapSource crates context swap := by
  rcases (Pumpswap.parseInstruction_eq_ok_iff crates).mp hanswer with
    ⟨hprogram, ⟨-, hnone⟩ | ⟨-, -, ⟨-, -, hnone⟩ |
      ⟨hdiscriminator, -, parent, found, hparent, -, hfound, hevent⟩⟩⟩
  · cases hnone
  · cases hnone
  · cases hevent
    have hparentInstruction : context.parentInstruction = some ⟨parent, none⟩ := by
      rw [InstructionContext.parentInstruction, hparent, Option.map_some]
    unfold Pumpswap.parseEvent at hfound
    split at hfound
    · next hbuy =>
        rcases Pumpswap.parseBuyEvent_eq_ok hcrates hfound with ⟨event, hevent, hswap⟩
        exact .buy _ event hprogram hparentInstruction hbuy hevent hswap
    · next hbuy =>
        rcases Pumpswap.parseSellEvent_eq_ok hcrates hfound with ⟨event, hevent, hswap⟩
        exact .sell _ event hprogram hparentInstruction (hdiscriminator.resolve_left hbuy) hevent
          hswap

/-- With the built-in parsers, a swap in the output is that of a decoded Pump.fun
trade, or of a PumpSwap event and its parent. -/
theorem exists_source_of_swap (hcrates : crates.Documented) {config : ParserConfig}
    {registry : ParserRegistry} (hregistry : ParserRegistry.fromConfig crates config = .ok registry)
    {block : Value} {events : BlockEvents}
    (hparse : parseBlock crates registry block = .ok events)
    {transaction : TransactionEvents} {instruction : InstructionEvents}
    (htransaction : transaction ∈ events.transactions)
    (hinstruction : instruction ∈ transaction.instructions)
    (hresult : instruction.result = .ok (.tokenSwap swap)) :
    ∃ context,
      blockContextAt crates registry block transaction.transactionIndex
        instruction.executionOrdinal = some context ∧
      instruction.programId = some context.programId ∧ SwapSource crates context swap := by
  rcases exists_answer_of_event hparse htransaction hinstruction hresult with
    ⟨context, parser, hcontext, hparser, hanswer, hprogram⟩
  refine ⟨context, hcontext, hprogram, ?_⟩
  rcases ParserRegistry.get_fromConfig hregistry hparser with ⟨name, -, hname, rfl⟩
  cases name with
  | pumpFun => exact source_of_pumpfun hname.symm hanswer
  | pumpSwap => exact source_of_pumpswap hcrates hanswer

end Sources

end Parser
end PumpRealtimePrices
