import PumpRealtimePrices.Parser.Header

/-!
# Test parser and JSON fixtures

The protocol parser and the JSON builders that the parser crate's own tests use.
They give concrete inputs to the theorems about parsing.

Main results:

- Theorem {lit}`readTransaction_transaction`: the structural stage reads back what a
  transaction was built from.
-/

namespace PumpRealtimePrices
namespace Parser
namespace TestSupport

open SerdeJson Borsh

/-! ## Test parser -/

def testProgramId : String := "Test111111111111111111111111111111111111"

def testEvent (mint : String) : ParsedEvent :=
  .tokenDiscovery {
    mint
    creator := "creator"
    name := "Test Token"
    symbol := "TEST"
    uri := "https://example.com/token.json" }

/-- The first data byte selects what the test parser answers. -/
def testParser : InstructionParser where
  programId := testProgramId
  parseInstruction instruction := do
    instruction.ensureProgramId testProgramId
    match instruction.data.head? with
    | some 1 => return some (testEvent "mint")
    | some 2 => throw (.invalidInstructionData "test parser failure")
    | some 3 => return some (testEvent (← instruction.account 0))
    | some 4 => do
        let parent ← Rust.okOr
          (.invalidInstructionData "test instruction has no immediate parent")
          instruction.parentInstruction
        return some (testEvent (← parent.account 0))
    | _ => return none

def registry : ParserRegistry :=
  ParserRegistry.empty.insert testParser

/-- Textbook crates; test instructions derive no addresses. -/
def crates : Crates :=
  Crates.reference fun _ programId => programId

/-- The crates of the fixtures behave as documented. -/
theorem crates_documented : crates.Documented :=
  Crates.reference_documented fun _ programId => programId

/-! ## JSON fixtures -/

def strings (values : List String) : Value :=
  .array (values.map .string)

def unsigned (n : Nat) : Value :=
  .number (.posInt n.toUInt64)

def instruction (programIdIndex : Nat) (accounts : List Nat) (data : Bytes)
    (stackHeight : Nat) : Value :=
  .object [
    ("accounts", .array (accounts.map unsigned)),
    ("data", .string (Base58.encode data)),
    ("programIdIndex", unsigned programIdIndex),
    ("stackHeight", unsigned stackHeight)]

def innerInstructions (index : Nat) (instructions : List Value) : Value :=
  .object [("index", unsigned index), ("instructions", .array instructions)]

def transaction (signature : String) (staticKeys loadedWritable loadedReadonly : List String)
    (instructions innerInstructions : List Value) (error : Value) : Value :=
  .object [
    ("meta", .object [
      ("err", error),
      ("innerInstructions", .array innerInstructions),
      ("loadedAddresses", .object [
        ("writable", strings loadedWritable),
        ("readonly", strings loadedReadonly)])]),
    ("transaction", .object [
      ("message", .object [
        ("accountKeys", strings staticKeys),
        ("instructions", .array instructions)]),
      ("signatures", strings [signature])]),
    ("version", unsigned 0)]

def block (transactions : List Value) : Value :=
  .object [("transactions", .array transactions)]

/-- Strings are read back from the array that they were put in. -/
theorem appendStringValues_strings (output values : List String) (field : String) :
    appendStringValues output (values.map .string) field = .ok (output ++ values) := by
  have hmap : (values.map Value.string).mapM (fun value =>
      Rust.okOr (TransactionParseError.invalidField field "a string") value.asStr) =
        .ok values := by
    rw [Rust.mapM_eq_ok_iff, List.map_map]
    rfl
  rw [appendStringValues, hmap]
  rfl

/-- The structural stage reads back what a transaction was built from. -/
theorem readTransaction_transaction (signature : String)
    (staticKeys loadedWritable loadedReadonly : List String)
    (instructions innerInstructions : List Value) {groups : Std.TreeMap Nat (List Value)}
    (hgroups : insertInnerInstructionGroups instructions.length ∅ innerInstructions =
      .ok groups) :
    readTransaction (transaction signature staticKeys loadedWritable loadedReadonly instructions
      innerInstructions .null) = .ok (some {
        signature
        outerInstructions := instructions
        accountKeys := staticKeys ++ loadedWritable ++ loadedReadonly
        innerInstructionGroups := groups
        tokenDecimals := ∅ }) := by
  refine readTransaction_eq_ok_some_iff.mpr
    ⟨_, _, _, rfl, rfl, rfl, rfl, rfl, rfl, ?_, hgroups, rfl⟩
  change (do
    let accountKeys ← appendStringValues [] (staticKeys.map .string) _
    let accountKeys ← appendStringValues accountKeys (loadedWritable.map .string) _
    appendStringValues accountKeys (loadedReadonly.map .string) _) = _
  simp only [appendStringValues_strings, Rust.ok_bind, List.nil_append]

end TestSupport
end Parser
end PumpRealtimePrices
