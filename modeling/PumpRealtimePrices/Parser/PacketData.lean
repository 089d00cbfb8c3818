import PumpRealtimePrices.Parser.Normalization
import PumpRealtimePrices.Parser.TestSupport

/-!
# Data of a transaction packet

Instruction data arrives as Base58 text, and a text that is too long is refused before
it is decoded.  A transaction packet holds 1232 bytes, whose text takes at most 1683
characters, so the limit refuses no data that the chain can carry: such data is
dispatched as it is.

Main results:

- Theorem {lit}`encode_length_le_of_packet`: texts of packet data are within the limit.
- Theorem {lit}`parseInstruction_of_packet`: an instruction with packet data whose other
  fields are in order is dispatched with exactly that data.
-/

namespace PumpRealtimePrices
namespace Parser

open SerdeJson Borsh

/-- Bytes of a transaction packet. -/
def packetLen : Nat := 1232

/-- A packet's bytes as a number in base 58 have at most 1683 digits. -/
theorem pow_packetLen_le : 256 ^ packetLen ≤ 58 ^ maxBase58InstructionDataLen := by
  decide +kernel

/-- Texts of packet data are within the limit, leading zero bytes included. -/
theorem encode_length_le_of_packet {data : Bytes} (hdata : data.length ≤ packetLen) :
    (Base58.encode data).length ≤ maxBase58InstructionDataLen :=
  Base58.encode_length_le ((Nat.pow_le_pow_right (by omega) hdata).trans pow_packetLen_le)

/-- Packet data is read back from its text. -/
theorem decodeData_encode {crates : Crates} (hcrates : crates.Documented) {instruction : Value}
    {data : Bytes} (htext : (instruction.get "data").bind Value.asStr = some (Base58.encode data))
    (hdata : data.length ≤ packetLen) (programId : String) (stackHeight : Option UInt32) :
    decodeData crates programId stackHeight instruction = .ok data := by
  have hsize : (Base58.encode data).utf8ByteSize ≤ maxBase58InstructionDataLen := by
    rw [Base58.utf8ByteSize_encode]
    exact encode_length_le_of_packet hdata
  have hdecode := (hcrates.bs58Decode_eq_ok_iff (Base58.encode data) data).mpr rfl
  rw [decodeData, htext, Rust.okOr, Rust.ok_bind, if_neg (Nat.not_lt.mpr hsize), hdecode]
  rfl

/-! ## Instructions whose other fields are in order -/

/-- An instruction of a program whose indexes resolve, and whose stack height is absent,
null or a {lit}`u32`. -/
structure InOrder (accountKeys : List String) (programId : String) (instruction : Value) :
    Prop where
  programIdIndex : ∃ index, (instruction.get "programIdIndex").bind Value.asU64 = some index ∧
    accountKeys[index.toNat]? = some programId
  accounts : ∃ indexes, (instruction.get "accounts").bind Value.asArray = some indexes ∧
    ∀ value ∈ indexes, ∃ index : UInt64, value.asU64 = some index ∧
      index.toNat < accountKeys.length
  stackHeight : instruction.get "stackHeight" = none ∨
    instruction.get "stackHeight" = some .null ∨
    ∃ height : UInt64, instruction.get "stackHeight" = some (.number (.posInt height)) ∧
      height.toNat < 2 ^ 32

variable {accountKeys : List String} {programId : String} {instruction : Value}

namespace InOrder

/-- An instruction in order resolves to its program. -/
theorem resolveProgramId (horder : InOrder accountKeys programId instruction) :
    resolveProgramId instruction accountKeys = .ok programId := by
  rcases horder.programIdIndex with ⟨index, hindex, hprogram⟩
  rw [Parser.resolveProgramId, hindex, Rust.okOr, Rust.ok_bind, hprogram, Rust.okOr]

/-- An instruction in order has a stack height, or none. -/
theorem readStackHeight (horder : InOrder accountKeys programId instruction) :
    ∃ stackHeight, readStackHeight programId instruction = .ok stackHeight := by
  unfold Parser.readStackHeight
  rcases horder.stackHeight with habsent | hnull | ⟨height, hheight, hlt⟩
  · rw [habsent]
    exact ⟨none, rfl⟩
  · rw [hnull]
    exact ⟨none, rfl⟩
  · have hread : (Value.number (.posInt height)).asU64.bind Rust.u32TryFrom =
        some height.toUInt32 := if_pos hlt
    rw [hheight]
    refine ⟨some height.toUInt32, ?_⟩
    simp only [hread]

/-- An instruction in order has its accounts resolved. -/
theorem resolveAccounts (horder : InOrder accountKeys programId instruction)
    (stackHeight : Option UInt32) :
    ∃ indexes accounts, (instruction.get "accounts").bind Value.asArray = some indexes ∧
      resolveAccounts programId stackHeight accountKeys indexes = .ok accounts := by
  rcases horder.accounts with ⟨indexes, hindexes, hresolve⟩
  have helement : ∀ value ∈ indexes, ∃ account, (do
      let index ← Rust.okOr (.failed (some programId) stackHeight
        (.invalidField "accounts[]" "an unsigned integer")) value.asU64
      Rust.okOr (.failed (some programId) stackHeight
        (.indexOutOfBounds "accounts" index accountKeys.length)) accountKeys[index.toNat]? :
          Except Rejection String) = .ok account := by
    intro value hvalue
    rcases hresolve value hvalue with ⟨index, hindex, hlt⟩
    refine ⟨accountKeys[index.toNat], ?_⟩
    rw [hindex, Rust.okOr, Rust.ok_bind, List.getElem?_eq_getElem hlt, Rust.okOr]
  rcases Rust.exists_mapM_eq_ok helement with ⟨accounts, haccounts⟩
  exact ⟨indexes, accounts, hindexes, haccounts⟩

end InOrder

/-- What is dispatched is the normalized instruction, with or without a parent. -/
theorem dispatchContext_instruction (stack : InvocationStack) (inner : Option Nat)
    (normalized : NormalizedInstruction) (stackHeight : Option UInt32) :
    (dispatchContext stack inner normalized stackHeight).instruction =
      ⟨normalized.programId, normalized.accounts, normalized.data⟩ := by
  unfold dispatchContext
  split <;> rfl

/-- The answer of a parser reports no failure but one of that parser. -/
theorem protocol_of_outcome {programId : String} {answer : ParseResult (Option ParsedEvent)}
    {outer ordinal : Nat} {inner : Option Nat} {stackHeight : Option UInt32}
    {event : InstructionEvents} {failure : InstructionParseFailure}
    (hentry : outcomeEntry programId outer inner stackHeight ordinal
      (outcomeOf programId answer) = some event)
    (hfailure : event.result = .error failure) : ∃ error, failure.error = .protocol error := by
  rcases answer with error | _ | found
  · cases hentry
    cases hfailure
    exact ⟨error, rfl⟩
  · cases hentry
  · cases hentry
    cases hfailure

/-- Packet data is dispatched as it is, and never reported as too long or as invalid text. -/
theorem parseInstruction_of_packet {crates : Crates} (hcrates : crates.Documented)
    {data : Bytes} (hdata : data.length ≤ 1232) :
    (Base58.encode data).length ≤ 1683 ∧
    ∀ (registry : ParserRegistry) (accountKeys : List String) (programId : String)
      (instruction : Value) (outer : Nat) (inner : Option Nat) (ordinal : Nat)
      (stack : InvocationStack),
      isConfigured registry programId = true → InOrder accountKeys programId instruction →
      instruction.get "data" = some (.string (Base58.encode data)) →
      ∃ stackHeight context parser, context.programId = programId ∧ context.data = data ∧
        registry.get programId = some parser ∧
        (parseInstruction crates registry instruction accountKeys outer inner ordinal stack).1 =
          outcomeEntry programId outer inner stackHeight ordinal
            (outcomeOf programId (parser.parseInstruction context)) ∧
        ∀ event failure,
          (parseInstruction crates registry instruction accountKeys outer inner ordinal stack).1 =
            some event → event.result = .error failure →
          (∀ encodedLen maxEncodedLen,
            failure.error ≠ .instructionDataTooLong encodedLen maxEncodedLen) ∧
          ∀ message, failure.error ≠ .invalidBase58Data message := by
  refine ⟨encode_length_le_of_packet hdata, ?_⟩
  intro registry accountKeys programId instruction outer inner ordinal stack hconfigured horder
    htext
  rcases horder.readStackHeight with ⟨stackHeight, hheight⟩
  rcases horder.resolveAccounts stackHeight with ⟨indexes, accounts, hindexes, haccounts⟩
  have hdecode : decodeData crates programId stackHeight instruction = .ok data :=
    decodeData_encode hcrates (by rw [htext]; rfl) hdata programId stackHeight
  have hnormalize : normalizeInstruction crates registry accountKeys inner instruction =
      .ok (⟨programId, accounts, data,
        stackHeight.or (if inner.isNone then some 1 else none)⟩, stackHeight) :=
    normalizeInstruction_of_fields horder.resolveProgramId hconfigured hheight hindexes haccounts
      hdecode
  have hsome := hconfigured
  rw [isConfigured, ParserRegistry.contains_eq_isSome_get] at hsome
  rcases Option.isSome_iff_exists.mp hsome with ⟨parser, hparser⟩
  let context := dispatchContext
    (alignInvocationStack stack inner (observedStackHeight instruction)) inner
    ⟨programId, accounts, data, stackHeight.or (if inner.isNone then some 1 else none)⟩ stackHeight
  have hprogram : context.programId = programId := by
    rw [InstructionContext.programId, dispatchContext_instruction]
  have hentry : (parseInstruction crates registry instruction accountKeys outer inner ordinal
      stack).1 = outcomeEntry programId outer inner stackHeight ordinal
        (outcomeOf programId (parser.parseInstruction context)) := by
    have hanswer := dispatch_of_get (hprogram.symm ▸ hparser)
    rw [hprogram] at hanswer
    rw [parseInstruction, hnormalize, ← hanswer]
  refine ⟨stackHeight, context, parser, hprogram, ?_, hparser, hentry, ?_⟩
  · rw [InstructionContext.data, dispatchContext_instruction]
  · intro event failure hevent hfailure
    rw [hentry] at hevent
    rcases protocol_of_outcome hevent hfailure with ⟨error, herror⟩
    rw [herror]
    exact ⟨fun _ _ => InstructionParseError.noConfusion, fun _ => InstructionParseError.noConfusion⟩

/-- The largest data of a packet, with leading zero bytes. -/
def largestData : Bytes :=
  List.replicate 32 0 ++ List.replicate 1200 255

/-- The test parser is given this data unchanged. -/
theorem parseInstruction_of_packet_largestData :
    ∃ stackHeight context, InstructionContext.data context = largestData ∧
      (parseInstruction TestSupport.crates TestSupport.registry
        (TestSupport.instruction 0 [1] largestData 1) [TestSupport.testProgramId, "account"] 0 none
          0 []).1 =
        outcomeEntry TestSupport.testProgramId 0 none stackHeight 0
          (outcomeOf TestSupport.testProgramId
            (TestSupport.testParser.parseInstruction context)) := by
  have hlength : largestData.length ≤ 1232 := by
    rw [largestData, List.length_append, List.length_replicate, List.length_replicate]
  have horder : InOrder [TestSupport.testProgramId, "account"] TestSupport.testProgramId
      (TestSupport.instruction 0 [1] largestData 1) := by
    refine ⟨⟨0, rfl, rfl⟩, ⟨[TestSupport.unsigned 1], rfl, ?_⟩, .inr (.inr ⟨1, rfl, by decide⟩)⟩
    intro value hvalue
    rcases List.mem_singleton.mp hvalue with rfl
    exact ⟨1, rfl, by decide⟩
  rcases (parseInstruction_of_packet TestSupport.crates_documented hlength).2 TestSupport.registry
    [TestSupport.testProgramId, "account"] TestSupport.testProgramId _ 0 none 0 []
    (by decide) horder rfl with ⟨stackHeight, context, parser, -, hdata, hparser, hentry, -⟩
  rcases Option.some.inj hparser with rfl
  exact ⟨stackHeight, context, hdata, hentry⟩

end Parser
end PumpRealtimePrices
