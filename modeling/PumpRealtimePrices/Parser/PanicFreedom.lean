import PumpRealtimePrices.Parser.Block
import PumpRealtimePrices.Programs.PanicFreedom

/-!
# Panics of the block parser

The path from a block to its entries once more, over parsers that may panic.
Outside the parsers this path has no operation that may panic: every lookup in the
JSON values and in the account keys is by {lit}`get`, and the indices it counts are
those of values held in memory.  Normalization and the structural stage are
therefore those of the model.

Main results:

- Theorem {lit}`Panicking.dispatch_eq`: dispatching through a registry of configured
  parsers does not panic.
- Theorem {lit}`Panicking.visitInstruction_eq`: neither does one step of the traversal.
- Theorem {lit}`Panicking.parseBlock_returns`: no block makes the parser panic, and it
  ends as the model's parser does.
-/

namespace PumpRealtimePrices
namespace Parser
namespace Panicking

open Borsh SerdeJson Panics

/-! ## The parser -/

variable (crates : Crates)

/-- {lit}`parse_instruction` of a built-in parser, with its panics. -/
def parserInstruction : ParserName → InstructionContext →
    Fallible ParseError (Option ParsedEvent)
  | .pumpFun => Pumpfun.Panicking.parseInstruction crates
  | .pumpSwap => Pumpswap.Panicking.parseInstruction crates

/-- The built-in parser that announces a program address. -/
def builtIn (programId : String) : Option ParserName :=
  [ParserName.pumpFun, ParserName.pumpSwap].find? fun name => name.programId = programId

/-- Call of a parser found in a registry of built-in parsers, by the address that it
announces. -/
def callParser (parser : InstructionParser) (instruction : InstructionContext) :
    Fallible ParseError (Option ParsedEvent) :=
  match builtIn parser.programId with
  | some name => parserInstruction crates name instruction
  | none => unreachableCode

variable (registry : ParserRegistry)

/-- {lit}`InstructionDispatcher::dispatch` with its panics. -/
def dispatch (instruction : InstructionContext) : Execution DispatchOutcome :=
  match registry.get instruction.programId with
  | none => return .noEvent
  | some parser => do
      match ← (callParser crates parser instruction).run with
      | .ok (some event) => return .event event
      | .ok none => return .noEvent
      | .error error =>
          return .failure { programId := some instruction.programId, error := .protocol error }

/-- {lit}`TransactionParser::parse_instruction` with its panics. -/
def parseInstruction (instruction : Value) (accountKeys : List String)
    (outerInstructionIndex : Nat) (innerInstructionIndex : Option Nat) (executionOrdinal : Nat)
    (invocationStack : InvocationStack) :
    Execution (Option InstructionEvents × InvocationStack) :=
  let stack := alignInvocationStack invocationStack innerInstructionIndex
    (observedStackHeight instruction)
  match normalizeInstruction crates registry accountKeys innerInstructionIndex instruction with
  | .error .unconfigured => return (none, stack)
  | .error (.failed programId stackHeight error) =>
      return (some (instructionFailure programId outerInstructionIndex innerInstructionIndex
        stackHeight executionOrdinal error), stack)
  | .ok (normalized, stackHeight) => do
      let context := dispatchContext stack innerInstructionIndex normalized stackHeight
      let outcome ← dispatch crates registry context
      return (outcomeEntry normalized.programId outerInstructionIndex innerInstructionIndex
        stackHeight executionOrdinal outcome, normalized :: stack)

/-- Loop body with its panics. -/
def visitInstruction (accountKeys : List String) (outerInstructionIndex : Nat)
    (innerInstructionIndex : Option Nat) (instruction : Value) (state : LoopState) :
    Execution LoopState := do
  let (result, invocationStack) ← parseInstruction crates registry instruction accountKeys
    outerInstructionIndex innerInstructionIndex state.executionOrdinal state.invocationStack
  return {
    executionOrdinal := state.executionOrdinal + 1
    instructionEvents := state.instructionEvents ++ result.toList
    invocationStack }

/-- Inner loop with its panics, from an inner index on. -/
def visitInnerInstructions (accountKeys : List String) (outerInstructionIndex : Nat) :
    Nat → List Value → LoopState → Execution LoopState
  | _, [], state => return state
  | innerInstructionIndex, instruction :: instructions, state => do
      let state ← visitInstruction crates registry accountKeys outerInstructionIndex
        (some innerInstructionIndex) instruction state
      visitInnerInstructions accountKeys outerInstructionIndex (innerInstructionIndex + 1)
        instructions state

/-- Outer loop with its panics, from an outer index on. -/
def visitOuterInstructions (accountKeys : List String)
    (innerInstructionGroups : Std.TreeMap Nat (List Value)) :
    Nat → List Value → LoopState → Execution LoopState
  | _, [], state => return state
  | outerInstructionIndex, instruction :: instructions, state => do
      let state ← visitInstruction crates registry accountKeys outerInstructionIndex none
        instruction { state with invocationStack := [] }
      let state ←
        match innerInstructionGroups[outerInstructionIndex]? with
        | some innerInstructions =>
            visitInnerInstructions crates registry accountKeys outerInstructionIndex 0
              innerInstructions state
        | none => pure state
      visitOuterInstructions accountKeys innerInstructionGroups (outerInstructionIndex + 1)
        instructions state

/-- Entries of a transaction, with their panics. -/
def instructionEvents (header : TransactionHeader) : Execution (List InstructionEvents) := do
  let state ← visitOuterInstructions crates registry header.accountKeys
    header.innerInstructionGroups 0 header.outerInstructions
    { executionOrdinal := 0, instructionEvents := [], invocationStack := [] }
  return state.instructionEvents

/-- {lit}`TransactionParser::parse_transaction` with its panics. -/
def parseTransaction (entry : Value) (transactionIndex : Nat) :
    Fallible TransactionParseError (Option TransactionEvents) := do
  match ← ofResult (readTransaction entry) with
  | none => return none
  | some header =>
      let instructions ← instructionEvents crates registry header
      if instructions.isEmpty then return none
      else
        return some {
          signature := header.signature
          transactionIndex
          tokenDecimals := header.tokenDecimals
          instructions }

/-- Loop over the transactions with its panics, from an index on. -/
def parseTransactions :
    Nat → List Value → Fallible BlockParseError (List TransactionEvents)
  | _, [] => return []
  | transactionIndex, transaction :: transactions => do
      let transactionEvents ← (parseTransaction crates registry transaction
        transactionIndex).adapt (BlockParseError.transaction transactionIndex)
      let events ← parseTransactions (transactionIndex + 1) transactions
      return transactionEvents.toList ++ events

/-- {lit}`BlockParser::parse_block` with its panics. -/
def parseBlock (block : Value) : Fallible BlockParseError BlockEvents := do
  let transactions ← ofResult (Rust.okOr (.invalidField "transactions" "an array")
    ((block.get "transactions").bind Value.asArray))
  let events ← parseTransactions crates registry 0 transactions
  return { transactions := events }

/-! ## Dispatch -/

/-- The program of a name has the built-in parser of the name. -/
theorem builtIn_programId (name : ParserName) : builtIn name.programId = some name := by
  cases name <;> decide

/-- No instruction makes a built-in parser panic. -/
theorem parserInstruction_returns (name : ParserName) (ctx : InstructionContext) :
    Returns (parserInstruction crates name ctx)
      ((ParserRegistry.createParser crates name).parseInstruction ctx) := by
  cases name with
  | pumpFun => exact Pumpfun.Panicking.parseInstruction_returns crates ctx
  | pumpSwap => exact Pumpswap.Panicking.parseInstruction_returns crates ctx

variable {crates registry}

/-- Dispatching through a registry of configured parsers does not panic. -/
theorem dispatch_eq {config : ParserConfig}
    (hregistry : ParserRegistry.fromConfig crates config = .ok registry)
    (instruction : InstructionContext) :
    dispatch crates registry instruction = .ok (Parser.dispatch registry instruction) := by
  unfold dispatch Parser.dispatch
  cases hget : registry.get instruction.programId with
  | none => rfl
  | some parser =>
      rcases ParserRegistry.get_fromConfig hregistry hget with ⟨name, -, -, rfl⟩
      have hcall : callParser crates (ParserRegistry.createParser crates name) instruction =
          parserInstruction crates name instruction := by
        rw [callParser, ParserRegistry.createParser_programId, builtIn_programId]
      have hreturns := parserInstruction_returns crates name instruction
      unfold Returns at hreturns
      simp only [hcall, hreturns, Rust.ok_bind]
      rcases (ParserRegistry.createParser crates name).parseInstruction instruction with
        error | event | event
      · rfl
      · rfl
      · rfl

/-! ## Traversal -/

section Traversal

variable (hdispatch : ∀ context,
  dispatch crates registry context = .ok (Parser.dispatch registry context))

include hdispatch

/-- A visit does not panic. -/
theorem parseInstruction_eq (instruction : Value) (accountKeys : List String)
    (outerInstructionIndex : Nat) (innerInstructionIndex : Option Nat) (executionOrdinal : Nat)
    (invocationStack : InvocationStack) :
    parseInstruction crates registry instruction accountKeys outerInstructionIndex
        innerInstructionIndex executionOrdinal invocationStack =
      .ok (Parser.parseInstruction crates registry instruction accountKeys outerInstructionIndex
        innerInstructionIndex executionOrdinal invocationStack) := by
  unfold parseInstruction Parser.parseInstruction
  rcases normalizeInstruction crates registry accountKeys innerInstructionIndex instruction with
    rejection | ⟨normalized, stackHeight⟩
  · cases rejection <;> rfl
  · simp only [hdispatch, Rust.ok_bind]
    rfl

/-- One step of the traversal does not panic. -/
theorem visitInstruction_eq (accountKeys : List String) (outerInstructionIndex : Nat)
    (innerInstructionIndex : Option Nat) (instruction : Value) (state : LoopState) :
    visitInstruction crates registry accountKeys outerInstructionIndex innerInstructionIndex
        instruction state =
      .ok (Parser.visitInstruction crates registry accountKeys outerInstructionIndex
        innerInstructionIndex instruction state) := by
  rw [visitInstruction, parseInstruction_eq hdispatch, Rust.ok_bind]
  rfl

/-- The loop over the inner instructions does not panic. -/
theorem visitInnerInstructions_eq (accountKeys : List String) (outerInstructionIndex : Nat)
    (start : Nat) (instructions : List Value) (state : LoopState) :
    visitInnerInstructions crates registry accountKeys outerInstructionIndex start instructions
        state =
      .ok (Parser.visitInnerInstructions crates registry accountKeys outerInstructionIndex start
        instructions state) := by
  induction instructions generalizing start state with
  | nil => rfl
  | cons instruction instructions ih =>
      rw [visitInnerInstructions, visitInstruction_eq hdispatch, Rust.ok_bind, ih]
      rfl

/-- The loop over the outer instructions does not panic. -/
theorem visitOuterInstructions_eq (accountKeys : List String)
    (innerInstructionGroups : Std.TreeMap Nat (List Value)) (start : Nat)
    (instructions : List Value) (state : LoopState) :
    visitOuterInstructions crates registry accountKeys innerInstructionGroups start instructions
        state =
      .ok (Parser.visitOuterInstructions crates registry accountKeys innerInstructionGroups start
        instructions state) := by
  induction instructions generalizing start state with
  | nil => rfl
  | cons instruction instructions ih =>
      rw [visitOuterInstructions, visitInstruction_eq hdispatch, Rust.ok_bind,
        Parser.visitOuterInstructions]
      cases innerInstructionGroups[start]? with
      | none => exact ih (start + 1) _
      | some innerInstructions =>
          simp only [visitInnerInstructions_eq hdispatch, Rust.ok_bind]
          exact ih (start + 1) _

/-- The traversal of a transaction does not panic. -/
theorem instructionEvents_eq (header : TransactionHeader) :
    instructionEvents crates registry header =
      .ok (Parser.instructionEvents crates registry header) := by
  rw [instructionEvents, visitOuterInstructions_eq hdispatch, Rust.ok_bind]
  rfl

/-! ## Transactions and blocks -/

/-- The parsing of a transaction does not panic. -/
theorem parseTransaction_returns (entry : Value) (transactionIndex : Nat) :
    Returns (parseTransaction crates registry entry transactionIndex)
      (Parser.parseTransaction crates registry entry transactionIndex) := by
  apply Returns.step
  intro result _
  cases result with
  | none => exact Returns.pure none
  | some header =>
      apply Returns.guarded (instructionEvents_eq hdispatch header)
      apply Returns.ite
      · intro _
        exact Returns.pure none
      · intro _
        exact Returns.pure _

/-- The loop over the transactions does not panic. -/
theorem parseTransactions_returns (start : Nat) (transactions : List Value) :
    Returns (parseTransactions crates registry start transactions)
      (Parser.parseTransactions crates registry start transactions) := by
  induction transactions generalizing start with
  | nil => exact Returns.pure []
  | cons transaction transactions ih =>
      apply Returns.bind (Returns.mapError _ (parseTransaction_returns hdispatch transaction start))
      intro transactionEvents _
      apply Returns.bind (ih (start + 1))
      intro events _
      exact Returns.pure _

end Traversal

/-- No block makes the parser panic, whatever the configuration. -/
theorem parseBlock_returns {config : ParserConfig}
    (hregistry : ParserRegistry.fromConfig crates config = .ok registry) (block : Value) :
    Returns (parseBlock crates registry block) (Parser.parseBlock crates registry block) := by
  apply Returns.step
  intro transactions _
  apply Returns.bind (parseTransactions_returns (dispatch_eq hregistry) 0 transactions)
  intro events _
  exact Returns.pure _

end Panicking
end Parser
end PumpRealtimePrices
