import Mathlib.Order.Basic
import PumpRealtimePrices.Common

/-!
# Parser output and errors

The ordered output containers of the parsing pipeline and the errors of its
three levels: structural errors of a block or a transaction, which abort
parsing, and failures of one instruction, which are part of the output.
-/

namespace PumpRealtimePrices
namespace Parser

/-! ## Errors -/

/-- Failure to normalize or to parse one instruction. -/
inductive InstructionParseError where
  | invalidField (field expected : String)
  | indexOutOfBounds (field : String) (index : UInt64) (len : Nat)
  | instructionDataTooLong (encodedLen maxEncodedLen : Nat)
  | invalidBase58Data (message : String)
  | protocol (error : ParseError)
deriving DecidableEq, Repr

/-- Text of an error. -/
def InstructionParseError.display : InstructionParseError → String
  | .invalidField field expected => s!"{field} must be {expected}"
  | .indexOutOfBounds field index len =>
      s!"{field} index {index} is out of bounds for {len} addresses"
  | .instructionDataTooLong encodedLen maxEncodedLen =>
      s!"encoded instruction data length {encodedLen} exceeds maximum {maxEncodedLen}"
  | .invalidBase58Data message => s!"instruction data is not valid base58: {message}"
  | .protocol error => error.display

/-- Instruction-scoped failure kept in the output. -/
structure InstructionParseFailure where
  programId : Option String
  error : InstructionParseError
deriving DecidableEq, Repr

/-- Structural error of a transaction. -/
inductive TransactionParseError where
  | invalidField (field expected : String)
  | duplicateInnerInstructionGroup (outerInstructionIndex : Nat)
  | innerInstructionGroupOutOfBounds (outerInstructionIndex outerInstructionCount : Nat)
deriving DecidableEq, Repr

def TransactionParseError.display : TransactionParseError → String
  | .invalidField field expected => s!"{field} must be {expected}"
  | .duplicateInnerInstructionGroup outerInstructionIndex =>
      s!"duplicate inner instruction group for outer instruction {outerInstructionIndex}"
  | .innerInstructionGroupOutOfBounds outerInstructionIndex outerInstructionCount =>
      s!"inner instruction group index {outerInstructionIndex} is out of bounds for " ++
        s!"{outerInstructionCount} outer instructions"

/-- Structural error of a block. -/
inductive BlockParseError where
  | invalidField (field expected : String)
  | transaction (transactionIndex : Nat) (source : TransactionParseError)
deriving DecidableEq, Repr

def BlockParseError.display : BlockParseError → String
  | .invalidField field expected => s!"{field} must be {expected}"
  | .transaction transactionIndex source =>
      s!"transaction {transactionIndex}: {source.display}"

/-- Error of building a registry. -/
inductive RegistryError where
  | duplicateProgramId (programId : String)
deriving DecidableEq, Repr

/-- Error of building a configuration from typed names. -/
inductive ConfigError where
  | emptyParsers
  | duplicateParser (name : String)
deriving DecidableEq, Repr

/-! ## Events -/

/-- Event or failure reported for one visited instruction. -/
structure InstructionEvents where
  programId : Option String
  outerInstructionIndex : Nat
  innerInstructionIndex : Option Nat
  stackHeight : Option UInt32
  executionOrdinal : Nat
  result : Except InstructionParseFailure ParsedEvent
deriving DecidableEq, Repr

/-- Mint decimals reported by the token balances of a transaction. -/
abbrev TokenDecimals := Std.TreeMap String UInt8

/-- Entries of one transaction, in execution order. -/
structure TransactionEvents where
  signature : String
  transactionIndex : Nat
  tokenDecimals : TokenDecimals
  instructions : List InstructionEvents

/-- Entries of one block, in block order. -/
structure BlockEvents where
  transactions : List TransactionEvents

/-- Outcome of dispatching one normalized instruction. -/
inductive DispatchOutcome where
  | noEvent
  | event (event : ParsedEvent)
  | failure (failure : InstructionParseFailure)
deriving DecidableEq, Repr

end Parser
end PumpRealtimePrices
