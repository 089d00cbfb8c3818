import PumpRealtimePrices.Library.SerdeJson
import PumpRealtimePrices.Parser.Registry

/-!
# Transaction parsing

One transaction is read in two stages.  The structural stage resolves the
signature, the outer instructions, the account keys, the inner instruction
groups and the token decimals, and any defect in it aborts the transaction.  The
traversal then visits every outer instruction and its group, normalizes and
dispatches each of them, and keeps what they report.

The invocation stack holds the normalized instructions that may still be calling,
top first.  Every visit first aligns it to the observed stack height, and only a
visit that reaches the dispatcher pushes onto it.

Machine sizes: {lit}`usize` is 64 bits, so a {lit}`u64` index always converts.
-/

namespace PumpRealtimePrices
namespace Parser

open Borsh SerdeJson

def maxBase58InstructionDataLen : Nat := 1683

/-! ## Invocation stack -/

/-- A configured instruction with resolved accounts and decoded data. -/
structure NormalizedInstruction where
  programId : String
  accounts : List String
  data : Bytes
  invocationHeight : Option UInt32
deriving DecidableEq, Repr

/-- Context of the instruction itself, without a parent. -/
def NormalizedInstruction.context (normalized : NormalizedInstruction) : InstructionContext :=
  InstructionContext.new normalized.programId normalized.accounts normalized.data

/-- Instructions that may still be calling, top of the stack first. -/
abbrev InvocationStack := List NormalizedInstruction

/-- Pop what an instruction at this height cannot have been called by. -/
def alignInvocationStack (stack : InvocationStack) (innerInstructionIndex : Option Nat)
    (stackHeight : Option UInt32) : InvocationStack :=
  match innerInstructionIndex, stackHeight with
  | none, _ => []
  | some _, none => []
  | some _, some stackHeight =>
      stack.dropWhile fun instruction =>
        instruction.invocationHeight.all fun height => stackHeight ≤ height

/-- The top of an aligned stack, when it is exactly one level up. -/
def immediateParent (stack : InvocationStack) (innerInstructionIndex : Option Nat)
    (stackHeight : Option UInt32) : Option NormalizedInstruction :=
  match innerInstructionIndex, stackHeight with
  | some _, some stackHeight =>
      stack.head?.filter fun instruction =>
        instruction.invocationHeight.bind Rust.u32CheckedSucc = some stackHeight
  | _, _ => none

/-! ## Normalization -/

/-- Why an instruction is not dispatched: its program is not configured, or it
is reported as a failure. -/
inductive Rejection where
  | unconfigured
  | failed (programId : Option String) (stackHeight : Option UInt32)
      (error : InstructionParseError)
deriving DecidableEq, Repr

/-- The stack height that aligns the stack: whatever reads as a {lit}`u32`. -/
def observedStackHeight (instruction : Value) : Option UInt32 :=
  ((instruction.get "stackHeight").bind Value.asU64).bind Rust.u32TryFrom

/-- Program address of an instruction. -/
def resolveProgramId (instruction : Value) (accountKeys : List String) :
    Except Rejection String := do
  let programIndex ← Rust.okOr
    (.failed none none (.invalidField "programIdIndex" "an unsigned integer"))
    ((instruction.get "programIdIndex").bind Value.asU64)
  Rust.okOr
    (.failed none none
      (.indexOutOfBounds "programIdIndex" programIndex accountKeys.length))
    accountKeys[programIndex.toNat]?

/-- Stack height of a configured instruction, which has to be a {lit}`u32` or null. -/
def readStackHeight (programId : String) (instruction : Value) :
    Except Rejection (Option UInt32) :=
  match instruction.get "stackHeight" with
  | none | some .null => .ok none
  | some value =>
      match value.asU64.bind Rust.u32TryFrom with
      | some height => .ok (some height)
      | none =>
          .error (.failed (some programId) none (.invalidField "stackHeight" "a u32 or null"))

/-- Account addresses of an instruction. -/
def resolveAccounts (programId : String) (stackHeight : Option UInt32)
    (accountKeys : List String) (accountIndexes : List Value) :
    Except Rejection (List String) :=
  accountIndexes.mapM fun accountIndex => do
    let index ← Rust.okOr
      (.failed (some programId) stackHeight (.invalidField "accounts[]" "an unsigned integer"))
      accountIndex.asU64
    Rust.okOr
      (.failed (some programId) stackHeight
        (.indexOutOfBounds "accounts" index accountKeys.length))
      accountKeys[index.toNat]?

/-- Data bytes of an instruction. -/
def decodeData (crates : Crates) (programId : String) (stackHeight : Option UInt32)
    (instruction : Value) : Except Rejection Bytes := do
  let encodedData ← Rust.okOr
    (.failed (some programId) stackHeight (.invalidField "data" "a base58 string"))
    ((instruction.get "data").bind Value.asStr)
  if maxBase58InstructionDataLen < encodedData.utf8ByteSize then
    throw (.failed (some programId) stackHeight
      (.instructionDataTooLong encodedData.utf8ByteSize maxBase58InstructionDataLen))
  (crates.bs58Decode encodedData).mapError fun error =>
    .failed (some programId) stackHeight (.invalidBase58Data error)

/-- Normalize an instruction of a configured program; also its stack height. -/
def normalizeInstruction (crates : Crates) (registry : ParserRegistry)
    (accountKeys : List String) (innerInstructionIndex : Option Nat) (instruction : Value) :
    Except Rejection (NormalizedInstruction × Option UInt32) := do
  let programId ← resolveProgramId instruction accountKeys
  if ¬ isConfigured registry programId then
    throw .unconfigured
  let stackHeight ← readStackHeight programId instruction
  let accountIndexes ← Rust.okOr
    (.failed (some programId) stackHeight
      (.invalidField "accounts" "an array of unsigned integers"))
    ((instruction.get "accounts").bind Value.asArray)
  let accounts ← resolveAccounts programId stackHeight accountKeys accountIndexes
  let data ← decodeData crates programId stackHeight instruction
  let invocationHeight := stackHeight.or (if innerInstructionIndex.isNone then some 1 else none)
  return ({ programId, accounts, data, invocationHeight }, stackHeight)

/-! ## One instruction -/

/-- Entry of an instruction that could not be normalized. -/
def instructionFailure (programId : Option String) (outerInstructionIndex : Nat)
    (innerInstructionIndex : Option Nat) (stackHeight : Option UInt32) (executionOrdinal : Nat)
    (error : InstructionParseError) : InstructionEvents where
  programId := programId
  outerInstructionIndex := outerInstructionIndex
  innerInstructionIndex := innerInstructionIndex
  stackHeight := stackHeight
  executionOrdinal := executionOrdinal
  result := .error { programId, error }

/-- Context that a normalized instruction is dispatched with on an aligned stack. -/
def dispatchContext (stack : InvocationStack) (innerInstructionIndex : Option Nat)
    (normalized : NormalizedInstruction) (stackHeight : Option UInt32) : InstructionContext :=
  match immediateParent stack innerInstructionIndex stackHeight with
  | some parent => normalized.context.withParentInstruction parent.context
  | none => normalized.context

/-- Entry of a dispatched instruction, unless its parser found nothing. -/
def outcomeEntry (programId : String) (outerInstructionIndex : Nat)
    (innerInstructionIndex : Option Nat) (stackHeight : Option UInt32) (executionOrdinal : Nat) :
    DispatchOutcome → Option InstructionEvents
  | .noEvent => none
  | .event event =>
      some {
        programId := some programId
        outerInstructionIndex, innerInstructionIndex, stackHeight, executionOrdinal
        result := .ok event }
  | .failure failure =>
      some {
        programId := some programId
        outerInstructionIndex, innerInstructionIndex, stackHeight, executionOrdinal
        result := .error failure }

/-- Visit one instruction: its entry, if it reports anything, and the stack after it. -/
def parseInstruction (crates : Crates) (registry : ParserRegistry) (instruction : Value)
    (accountKeys : List String) (outerInstructionIndex : Nat)
    (innerInstructionIndex : Option Nat) (executionOrdinal : Nat)
    (invocationStack : InvocationStack) : Option InstructionEvents × InvocationStack :=
  let stack := alignInvocationStack invocationStack innerInstructionIndex
    (observedStackHeight instruction)
  match normalizeInstruction crates registry accountKeys innerInstructionIndex instruction with
  | .error .unconfigured => (none, stack)
  | .error (.failed programId stackHeight error) =>
      (some (instructionFailure programId outerInstructionIndex innerInstructionIndex stackHeight
        executionOrdinal error), stack)
  | .ok (normalized, stackHeight) =>
      let context := dispatchContext stack innerInstructionIndex normalized stackHeight
      (outcomeEntry normalized.programId outerInstructionIndex innerInstructionIndex stackHeight
        executionOrdinal (dispatch registry context), normalized :: stack)

/-! ## Structural stage -/

/-- What the structural stage reads from a successful transaction. -/
structure TransactionHeader where
  signature : String
  outerInstructions : List Value
  accountKeys : List String
  innerInstructionGroups : Std.TreeMap Nat (List Value)
  tokenDecimals : TokenDecimals

/-- Append an array of strings. -/
def appendStringValues (output : List String) (values : List Value) (field : String) :
    Except TransactionParseError (List String) := do
  let strings ← values.mapM fun value =>
    Rust.okOr (TransactionParseError.invalidField field "a string") value.asStr
  return output ++ strings

/-- Append an array of strings that has to be present. -/
def appendRequiredStringArray (output : List String) (value : Option Value) (field : String) :
    Except TransactionParseError (List String) :=
  match value with
  | none | some .null => .error (.invalidField field "an array of strings")
  | some value => do
      let values ← Rust.okOr (.invalidField field "an array of strings") value.asArray
      appendStringValues output values field

/-- Account keys of a transaction: static ones, then loaded writable and readonly ones. -/
def resolveAccountKeys (message metadata : Map) : Except TransactionParseError (List String) := do
  let staticKeys ← Rust.okOr
    (.invalidField "transaction.message.accountKeys" "an array of strings")
    ((message.get "accountKeys").bind Value.asArray)
  let accountKeys ← appendStringValues [] staticKeys "transaction.message.accountKeys[]"
  match metadata.get "loadedAddresses" with
  | none | some .null => return accountKeys
  | some loadedAddresses =>
      let loadedAddresses ← Rust.okOr
        (.invalidField "meta.loadedAddresses" "an object or null") loadedAddresses.asObject
      let accountKeys ← appendRequiredStringArray accountKeys (loadedAddresses.get "writable")
        "meta.loadedAddresses.writable"
      appendRequiredStringArray accountKeys (loadedAddresses.get "readonly")
        "meta.loadedAddresses.readonly"

/-- Outer index and instructions of one listed group. -/
def readInnerInstructionGroup (outerInstructionCount : Nat) (group : Value) :
    Except TransactionParseError (Nat × List Value) := do
  let group ← Rust.okOr (.invalidField "meta.innerInstructions[]" "an object") group.asObject
  let index ← Rust.okOr
    (.invalidField "meta.innerInstructions[].index" "an unsigned integer")
    ((group.get "index").bind Value.asU64)
  if outerInstructionCount ≤ index.toNat then
    throw (.innerInstructionGroupOutOfBounds index.toNat outerInstructionCount)
  let instructions ← Rust.okOr
    (.invalidField "meta.innerInstructions[].instructions" "an array")
    ((group.get "instructions").bind Value.asArray)
  return (index.toNat, instructions)

/-- Insert the listed groups one by one; the second group of an index is an error. -/
def insertInnerInstructionGroups (outerInstructionCount : Nat) :
    Std.TreeMap Nat (List Value) → List Value →
      Except TransactionParseError (Std.TreeMap Nat (List Value))
  | resolved, [] => .ok resolved
  | resolved, group :: groups => do
      let (index, instructions) ← readInnerInstructionGroup outerInstructionCount group
      if resolved.contains index then
        throw (.duplicateInnerInstructionGroup index)
      insertInnerInstructionGroups outerInstructionCount (resolved.insert index instructions)
        groups

/-- Inner instruction groups by outer index. -/
def resolveInnerInstructionGroups (metadata : Map) (outerInstructionCount : Nat) :
    Except TransactionParseError (Std.TreeMap Nat (List Value)) :=
  match metadata.get "innerInstructions" with
  | none | some .null => .ok ∅
  | some value => do
      let groups ← Rust.okOr (.invalidField "meta.innerInstructions" "an array or null")
        value.asArray
      insertInnerInstructionGroups outerInstructionCount ∅ groups

/-- Mint and decimals of one token balance. -/
def readTokenBalance (balance : Value) : Option (String × UInt8) := do
  let mint ← (balance.get "mint").bind Value.asStr
  let decimals ← ((balance.pointer ["uiTokenAmount", "decimals"]).bind Value.asU64).bind
    Rust.u8TryFrom
  return (mint, decimals)

/-- Mint decimals of a transaction; a later balance of a mint replaces an earlier one. -/
def resolveTokenDecimals (metadata : Map) : TokenDecimals :=
  ["preTokenBalances", "postTokenBalances"].foldl (fun tokenDecimals field =>
    let balances := ((metadata.get field).bind Value.asArray).getD []
    (balances.filterMap readTokenBalance).foldl
      (fun tokenDecimals entry => tokenDecimals.insert entry.1 entry.2) tokenDecimals) ∅

/-- Structural stage; {lean}`none` for a failed transaction. -/
def readTransaction (entry : Value) :
    Except TransactionParseError (Option TransactionHeader) := do
  let metadata ← Rust.okOr (.invalidField "meta" "an object")
    ((entry.get "meta").bind Value.asObject)
  let transactionError ← Rust.okOr (.invalidField "meta.err" "a value") (metadata.get "err")
  if ¬ transactionError.isNull then
    return none
  let transaction ← Rust.okOr (.invalidField "transaction" "an object")
    ((entry.get "transaction").bind Value.asObject)
  let signature ← Rust.okOr (.invalidField "transaction.signatures[0]" "a string")
    ((((transaction.get "signatures").bind Value.asArray).bind List.head?).bind Value.asStr)
  let message ← Rust.okOr (.invalidField "transaction.message" "an object")
    ((transaction.get "message").bind Value.asObject)
  let outerInstructions ← Rust.okOr
    (.invalidField "transaction.message.instructions" "an array")
    ((message.get "instructions").bind Value.asArray)
  let accountKeys ← resolveAccountKeys message metadata
  let innerInstructionGroups ← resolveInnerInstructionGroups metadata outerInstructions.length
  let tokenDecimals := resolveTokenDecimals metadata
  return some { signature, outerInstructions, accountKeys, innerInstructionGroups, tokenDecimals }

/-! ## Traversal -/

/-- Variables of the traversal loops. -/
structure LoopState where
  executionOrdinal : Nat
  instructionEvents : List InstructionEvents
  invocationStack : InvocationStack

/-- Loop body: parse one instruction, keep its entry and count it. -/
def visitInstruction (crates : Crates) (registry : ParserRegistry) (accountKeys : List String)
    (outerInstructionIndex : Nat) (innerInstructionIndex : Option Nat) (instruction : Value)
    (state : LoopState) : LoopState :=
  let (result, invocationStack) := parseInstruction crates registry instruction accountKeys
    outerInstructionIndex innerInstructionIndex state.executionOrdinal state.invocationStack
  { executionOrdinal := state.executionOrdinal + 1
    instructionEvents := state.instructionEvents ++ result.toList
    invocationStack }

/-- Inner loop, from an inner index on. -/
def visitInnerInstructions (crates : Crates) (registry : ParserRegistry)
    (accountKeys : List String) (outerInstructionIndex : Nat) :
    Nat → List Value → LoopState → LoopState
  | _, [], state => state
  | innerInstructionIndex, instruction :: instructions, state =>
      visitInnerInstructions crates registry accountKeys outerInstructionIndex
        (innerInstructionIndex + 1) instructions
        (visitInstruction crates registry accountKeys outerInstructionIndex
          (some innerInstructionIndex) instruction state)

/-- Outer loop, from an outer index on.  Every outer instruction starts with an
empty stack. -/
def visitOuterInstructions (crates : Crates) (registry : ParserRegistry)
    (accountKeys : List String) (innerInstructionGroups : Std.TreeMap Nat (List Value)) :
    Nat → List Value → LoopState → LoopState
  | _, [], state => state
  | outerInstructionIndex, instruction :: instructions, state =>
      let state := visitInstruction crates registry accountKeys outerInstructionIndex none
        instruction { state with invocationStack := [] }
      let state :=
        match innerInstructionGroups[outerInstructionIndex]? with
        | some innerInstructions =>
            visitInnerInstructions crates registry accountKeys outerInstructionIndex 0
              innerInstructions state
        | none => state
      visitOuterInstructions crates registry accountKeys innerInstructionGroups
        (outerInstructionIndex + 1) instructions state

/-- Entries of a transaction, from its header. -/
def instructionEvents (crates : Crates) (registry : ParserRegistry)
    (header : TransactionHeader) : List InstructionEvents :=
  (visitOuterInstructions crates registry header.accountKeys header.innerInstructionGroups 0
    header.outerInstructions
    { executionOrdinal := 0, instructionEvents := [], invocationStack := [] }).instructionEvents

/-- Parse one transaction; {lean}`none` when it failed or reports nothing. -/
def parseTransaction (crates : Crates) (registry : ParserRegistry) (entry : Value)
    (transactionIndex : Nat) : Except TransactionParseError (Option TransactionEvents) := do
  match ← readTransaction entry with
  | none => return none
  | some header =>
      let instructions := instructionEvents crates registry header
      if instructions.isEmpty then return none
      else
        return some {
          signature := header.signature
          transactionIndex
          tokenDecimals := header.tokenDecimals
          instructions }

end Parser
end PumpRealtimePrices
