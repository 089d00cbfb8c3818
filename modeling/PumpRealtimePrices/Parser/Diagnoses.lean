import PumpRealtimePrices.Parser.Acceptance
import PumpRealtimePrices.Parser.Completeness
import PumpRealtimePrices.Parser.SelfCpis

/-!
# What a failed instruction suffers from

A parsed block reports some of its instructions as failures.  Such a report is never wrong
about the instruction: the named field has the defect that the error describes, or the
parser of the program answers with that error when it is given the instruction and its
recorded caller.  And no defect goes unreported: an instruction that has one is a failure
of its transaction, although the error may describe another of its defects.

Main results:

- Theorem {lit}`fieldDefect_of_normalize`: a failure to normalize an instruction describes a
  defect of it.
- Theorem {lit}`not_fieldDefect_of_normalize`: an instruction with a defect is never
  dispatched.
- Theorem {lit}`diagnosed_of_parseBlock`: the failures of a parsed block are the instructions
  with a defect.
-/

namespace PumpRealtimePrices
namespace Parser

open SerdeJson

/-! ## Defects -/

/-- The program of an instruction among the keys of its transaction. -/
def ProgramOf (accountKeys : List String) (instruction : Value) (programId : String) : Prop :=
  ∃ index, (instruction.get "programIdIndex").bind Value.asU64 = some index ∧
    accountKeys[index.toNat]? = some programId

/-- What an error says about the program of an instruction. -/
inductive ProgramDefect (accountKeys : List String) (instruction : Value) :
    InstructionParseError → Prop
  | index (hindex : (instruction.get "programIdIndex").bind Value.asU64 = none) :
      ProgramDefect accountKeys instruction
        (.invalidField "programIdIndex" "an unsigned integer")
  | outOfBounds (index : UInt64)
      (hindex : (instruction.get "programIdIndex").bind Value.asU64 = some index)
      (hbound : accountKeys.length ≤ index.toNat) :
      ProgramDefect accountKeys instruction
        (.indexOutOfBounds "programIdIndex" index accountKeys.length)

/-- What an error says about the other fields of an instruction. -/
inductive FieldDefect (crates : Crates) (accountKeys : List String) (instruction : Value) :
    InstructionParseError → Prop
  | stackHeight (hnothing : ¬ IsNothing (instruction.get "stackHeight"))
      (hheight : observedStackHeight instruction = none) :
      FieldDefect crates accountKeys instruction (.invalidField "stackHeight" "a u32 or null")
  | accounts (haccounts : (instruction.get "accounts").bind Value.asArray = none) :
      FieldDefect crates accountKeys instruction
        (.invalidField "accounts" "an array of unsigned integers")
  | account (accounts : List Value)
      (haccounts : instruction.get "accounts" = some (.array accounts)) (account : Value)
      (hmem : account ∈ accounts) (haccount : account.asU64 = none) :
      FieldDefect crates accountKeys instruction
        (.invalidField "accounts[]" "an unsigned integer")
  | outOfBounds (accounts : List Value)
      (haccounts : instruction.get "accounts" = some (.array accounts)) (account : Value)
      (hmem : account ∈ accounts) (index : UInt64) (haccount : account.asU64 = some index)
      (hbound : accountKeys.length ≤ index.toNat) :
      FieldDefect crates accountKeys instruction
        (.indexOutOfBounds "accounts" index accountKeys.length)
  | data (hdata : (instruction.get "data").bind Value.asStr = none) :
      FieldDefect crates accountKeys instruction (.invalidField "data" "a base58 string")
  | dataTooLong (encodedData : String)
      (hdata : (instruction.get "data").bind Value.asStr = some encodedData)
      (hlong : maxBase58InstructionDataLen < encodedData.utf8ByteSize) :
      FieldDefect crates accountKeys instruction
        (.instructionDataTooLong encodedData.utf8ByteSize maxBase58InstructionDataLen)
  | base58 (encodedData : String)
      (hdata : (instruction.get "data").bind Value.asStr = some encodedData) (message : String)
      (hdecode : crates.bs58Decode encodedData = .error message) :
      FieldDefect crates accountKeys instruction (.invalidBase58Data message)

/-- Why the instruction at a position fails. -/
inductive Diagnosis (crates : Crates) (registry : ParserRegistry) (header : TransactionHeader)
    (position : Nat) : InstructionParseFailure → Prop
  | program (visit : Visit) (hvisit : (visits header)[position]? = some visit)
      (error : InstructionParseError)
      (hdefect : ProgramDefect header.accountKeys visit.instruction error) :
      Diagnosis crates registry header position ⟨none, error⟩
  | field (visit : Visit) (hvisit : (visits header)[position]? = some visit) (programId : String)
      (hprogram : ProgramOf header.accountKeys visit.instruction programId)
      (hconfigured : isConfigured registry programId = true) (error : InstructionParseError)
      (hdefect : FieldDefect crates header.accountKeys visit.instruction error) :
      Diagnosis crates registry header position ⟨some programId, error⟩
  | protocol (context : InstructionContext)
      (hcontext : contextAt crates registry header position = some context)
      (parser : InstructionParser) (hparser : registry.get context.programId = some parser)
      (error : ParseError) (hanswer : parser.parseInstruction context = .error error) :
      Diagnosis crates registry header position ⟨some context.programId, .protocol error⟩

/-! ## Programs -/

section Fields

variable {crates : Crates} {registry : ParserRegistry} {accountKeys : List String}
  {inner : Option Nat} {instruction : Value}

/-- A program that does not resolve is reported with its defect. -/
theorem programDefect_of_resolve {rejection : Rejection}
    (hresolve : resolveProgramId instruction accountKeys = .error rejection) :
    ∃ error, rejection = .failed none none error ∧
      ProgramDefect accountKeys instruction error := by
  unfold resolveProgramId at hresolve
  rw [Rust.except_bind_eq_error_iff] at hresolve
  rcases hresolve with hindex | ⟨index, hindex, hkey⟩
  · rcases Rust.okOr_eq_error_iff.mp hindex with ⟨hnone, rfl⟩
    exact ⟨_, rfl, .index hnone⟩
  · rcases Rust.okOr_eq_error_iff.mp hkey with ⟨hnone, rfl⟩
    exact ⟨_, rfl, .outOfBounds index (Rust.okOr_eq_ok_iff.mp hindex)
      (List.getElem?_eq_none_iff.mp hnone)⟩

/-- A program with a defect does not resolve. -/
theorem not_programOf_of_programDefect {error : InstructionParseError}
    (hdefect : ProgramDefect accountKeys instruction error) (programId : String) :
    ¬ ProgramOf accountKeys instruction programId := by
  intro hprogram
  rcases hprogram with ⟨index, hindex, hkey⟩
  cases hdefect with
  | index hnone =>
      rw [hindex] at hnone
      cases hnone
  | outOfBounds other hother hbound =>
      rcases Option.some.inj (hindex.symm.trans hother) with rfl
      rw [List.getElem?_eq_none hbound] at hkey
      cases hkey

/-! ## Other fields -/

/-- An error of the stack height is a defect of its field. -/
theorem fieldDefect_of_readStackHeight {programId : String} {rejection : Rejection}
    (hread : readStackHeight programId instruction = .error rejection) :
    ∃ error, rejection = .failed (some programId) none error ∧
      FieldDefect crates accountKeys instruction error := by
  unfold readStackHeight at hread
  split at hread
  · cases hread
  · cases hread
  · next value hnull hvalue =>
      split at hread
      · cases hread
      · next hheight =>
          refine ⟨_, (Except.error.inj hread).symm, .stackHeight ?_ ?_⟩
          · rw [hvalue]
            rintro (hnone | hnull')
            · cases hnone
            · exact hnull (Option.some.inj hnull')
          · rw [observedStackHeight, hvalue, Option.bind_some, hheight]

/-- An error of the accounts is a defect of one of their indexes. -/
theorem fieldDefect_of_resolveAccounts {programId : String} {stackHeight : Option UInt32}
    {accounts : List Value} {rejection : Rejection}
    (haccounts : instruction.get "accounts" = some (.array accounts))
    (hresolve : resolveAccounts programId stackHeight accountKeys accounts = .error rejection) :
    ∃ error, rejection = .failed (some programId) stackHeight error ∧
      FieldDefect crates accountKeys instruction error := by
  rcases Rust.exists_mem_of_mapM_eq_error hresolve with ⟨account, hmem, hread⟩
  rw [Rust.except_bind_eq_error_iff] at hread
  rcases hread with hindex | ⟨index, hindex, hkey⟩
  · rcases Rust.okOr_eq_error_iff.mp hindex with ⟨hnone, rfl⟩
    exact ⟨_, rfl, .account accounts haccounts account hmem hnone⟩
  · rcases Rust.okOr_eq_error_iff.mp hkey with ⟨hnone, rfl⟩
    exact ⟨_, rfl, .outOfBounds accounts haccounts account hmem index
      (Rust.okOr_eq_ok_iff.mp hindex) (List.getElem?_eq_none_iff.mp hnone)⟩

/-- An error of the data is a defect of its field. -/
theorem fieldDefect_of_decodeData {programId : String} {stackHeight : Option UInt32}
    {rejection : Rejection}
    (hdecode : decodeData crates programId stackHeight instruction = .error rejection) :
    ∃ error, rejection = .failed (some programId) stackHeight error ∧
      FieldDefect crates accountKeys instruction error := by
  unfold decodeData at hdecode
  rw [Rust.except_bind_eq_error_iff] at hdecode
  rcases hdecode with hdata | ⟨encodedData, hdata, hdecode⟩
  · rcases Rust.okOr_eq_error_iff.mp hdata with ⟨hnone, rfl⟩
    exact ⟨_, rfl, .data hnone⟩
  have hdata := Rust.okOr_eq_ok_iff.mp hdata
  by_cases hlong : maxBase58InstructionDataLen < encodedData.utf8ByteSize
  · simp only [if_pos hlong] at hdecode
    rcases Except.error.inj hdecode with rfl
    exact ⟨_, rfl, .dataTooLong encodedData hdata hlong⟩
  · simp only [if_neg hlong] at hdecode
    rcases Rust.mapError_eq_error_iff.mp hdecode with ⟨message, hmessage, rfl⟩
    exact ⟨_, rfl, .base58 encodedData hdata message hmessage⟩

/-- An instruction of a configured program that cannot be normalized is reported with a
defect of one of its fields. -/
theorem fieldDefect_of_normalize {programId : String} {rejection : Rejection}
    (hprogram : ProgramOf accountKeys instruction programId)
    (hconfigured : isConfigured registry programId = true)
    (hnormalize : normalizeInstruction crates registry accountKeys inner instruction =
      .error rejection) :
    ∃ stackHeight error, rejection = .failed (some programId) stackHeight error ∧
      FieldDefect crates accountKeys instruction error := by
  unfold normalizeInstruction at hnormalize
  simp only [resolveProgramId_eq_ok_iff.mpr hprogram, Rust.ok_bind, hconfigured,
    not_true_eq_false, if_false] at hnormalize
  rw [Rust.except_bind_eq_error_iff] at hnormalize
  rcases hnormalize with hheight | ⟨stackHeight, -, hnormalize⟩
  · exact ⟨none, fieldDefect_of_readStackHeight hheight⟩
  refine ⟨stackHeight, ?_⟩
  rw [Rust.except_bind_eq_error_iff] at hnormalize
  rcases hnormalize with hindexes | ⟨accounts, hindexes, hnormalize⟩
  · rcases Rust.okOr_eq_error_iff.mp hindexes with ⟨hnone, rfl⟩
    exact ⟨_, rfl, .accounts hnone⟩
  have haccounts := bind_asArray_eq_some_iff.mp (Rust.okOr_eq_ok_iff.mp hindexes)
  rw [Rust.except_bind_eq_error_iff] at hnormalize
  rcases hnormalize with hresolve | ⟨addresses, -, hnormalize⟩
  · exact fieldDefect_of_resolveAccounts haccounts hresolve
  rw [Rust.except_bind_eq_error_iff] at hnormalize
  rcases hnormalize with hdecode | ⟨data, -, hpure⟩
  · exact fieldDefect_of_decodeData hdecode
  · cases hpure

/-! ## Instructions with a defect -/

/-- A normalized instruction has an array of accounts. -/
theorem exists_accounts_of_normalize {normalized : NormalizedInstruction}
    {stackHeight : Option UInt32}
    (hnormalize : normalizeInstruction crates registry accountKeys inner instruction =
      .ok (normalized, stackHeight)) :
    ∃ accounts, instruction.get "accounts" = some (.array accounts) ∧
      resolveAccounts normalized.programId stackHeight accountKeys accounts =
        .ok normalized.accounts ∧
      decodeData crates normalized.programId stackHeight instruction = .ok normalized.data := by
  unfold normalizeInstruction at hnormalize
  simp only [Rust.except_bind_eq_ok_iff, Rust.throw_if_eq_ok_iff, pure, Except.pure] at hnormalize
  rcases hnormalize with ⟨programId, -, -, height, -, accounts, hindexes, addresses, haccounts,
    data, hdata, heq⟩
  rcases Prod.mk.inj (Except.ok.inj heq) with ⟨rfl, rfl⟩
  exact ⟨accounts, bind_asArray_eq_some_iff.mp (Rust.okOr_eq_ok_iff.mp hindexes), haccounts, hdata⟩

/-- Every index of resolved accounts is one of the keys. -/
theorem exists_index_of_resolveAccounts {programId : String} {stackHeight : Option UInt32}
    {accounts : List Value} {addresses : List String}
    (hresolve : resolveAccounts programId stackHeight accountKeys accounts = .ok addresses)
    {account : Value} (hmem : account ∈ accounts) :
    ∃ index, account.asU64 = some index ∧ index.toNat < accountKeys.length := by
  rcases Rust.exists_mem_of_mapM_eq_ok hresolve hmem with ⟨address, -, hok⟩
  rcases Rust.except_bind_eq_ok_iff.mp hok with ⟨index, hindex, hkey⟩
  exact ⟨index, Rust.okOr_eq_ok_iff.mp hindex,
    (List.getElem?_eq_some_iff.mp (Rust.okOr_eq_ok_iff.mp hkey)).1⟩

/-- Decoded data has a text. -/
theorem exists_data_of_decodeData {programId : String} {stackHeight : Option UInt32}
    {data : Borsh.Bytes}
    (hdecode : decodeData crates programId stackHeight instruction = .ok data) :
    ∃ encodedData, (instruction.get "data").bind Value.asStr = some encodedData ∧
      encodedData.utf8ByteSize ≤ maxBase58InstructionDataLen ∧
      crates.bs58Decode encodedData = .ok data := by
  unfold decodeData at hdecode
  simp only [Rust.except_bind_eq_ok_iff, Rust.throw_if_eq_ok_iff, Rust.okOr_eq_ok_iff,
    Rust.mapError_eq_ok_iff] at hdecode
  rcases hdecode with ⟨encodedData, hdata, hlong, hdecode⟩
  exact ⟨encodedData, hdata, Nat.le_of_not_lt hlong, hdecode⟩

/-- An instruction with a defect is never dispatched. -/
theorem not_fieldDefect_of_normalize {normalized : NormalizedInstruction}
    {stackHeight : Option UInt32} {error : InstructionParseError}
    (hnormalize : normalizeInstruction crates registry accountKeys inner instruction =
      .ok (normalized, stackHeight)) :
    ¬ FieldDefect crates accountKeys instruction error := by
  intro hdefect
  rcases normalizeInstruction_eq_ok hnormalize with ⟨-, -, hheight, -⟩
  rcases exists_accounts_of_normalize hnormalize with ⟨accounts, haccounts, hresolve, hdecode⟩
  rcases exists_data_of_decodeData hdecode with ⟨encodedData, hdata, hlong, hdecode⟩
  cases hdefect with
  | stackHeight hnothing hnone =>
      rw [readStackHeight_eq_ok hheight, hnone] at hheight
      unfold readStackHeight at hheight
      split at hheight
      · next hget => exact hnothing (.inl hget)
      · next hget => exact hnothing (.inr hget)
      · split at hheight
        · cases hheight
        · cases hheight
  | accounts hnone =>
      rw [haccounts] at hnone
      cases hnone
  | account other hother account hmem hnone =>
      rcases Value.array.inj (Option.some.inj (haccounts.symm.trans hother)) with rfl
      rcases exists_index_of_resolveAccounts hresolve hmem with ⟨index, hindex, -⟩
      rw [hindex] at hnone
      cases hnone
  | outOfBounds other hother account hmem index hindex hbound =>
      rcases Value.array.inj (Option.some.inj (haccounts.symm.trans hother)) with rfl
      rcases exists_index_of_resolveAccounts hresolve hmem with ⟨found, hfound, hlt⟩
      rcases Option.some.inj (hindex.symm.trans hfound) with rfl
      omega
  | data hnone =>
      rw [hdata] at hnone
      cases hnone
  | dataTooLong other hother hbound =>
      rcases Option.some.inj (hdata.symm.trans hother) with rfl
      omega
  | base58 other hother message hmessage =>
      rcases Option.some.inj (hdata.symm.trans hother) with rfl
      rw [hdecode] at hmessage
      cases hmessage

end Fields

/-! ## Positions of a transaction -/

section Positions

variable {crates : Crates} {registry : ParserRegistry} {header : TransactionHeader}
  {position : Nat}

/-- The failure at a position is a diagnosis of its instruction. -/
theorem diagnosis_of_entryAt {entry : InstructionEvents} {failure : InstructionParseFailure}
    (hentry : entryAt crates registry header position = some entry)
    (hfailure : entry.result = .error failure) :
    Diagnosis crates registry header position failure := by
  rcases entryAt_eq_some hentry with ⟨visit, hvisit, -⟩
  rcases hresolve : resolveProgramId visit.instruction header.accountKeys with
    rejection | programId
  · rcases programDefect_of_resolve hresolve with ⟨error, rfl, hdefect⟩
    rw [entryAt_of_failed hvisit (normalizeInstruction_of_unresolved hresolve)] at hentry
    rcases Option.some.inj hentry with rfl
    rcases Except.error.inj hfailure with rfl
    exact .program visit hvisit error hdefect
  have hprogram := resolveProgramId_eq_ok_iff.mp hresolve
  rcases hconfigured : isConfigured registry programId
  · rw [entryAt_of_unconfigured hvisit (normalizeInstruction_of_unconfigured hresolve hconfigured)]
      at hentry
    cases hentry
  rcases hnormalize : visit.normalize crates registry header.accountKeys with
    rejection | ⟨normalized, stackHeight⟩
  · rcases fieldDefect_of_normalize hprogram hconfigured hnormalize with
      ⟨stackHeight, error, rfl, hdefect⟩
    rw [entryAt_of_failed hvisit hnormalize] at hentry
    rcases Option.some.inj hentry with rfl
    rcases Except.error.inj hfailure with rfl
    exact .field visit hvisit programId hprogram hconfigured error hdefect
  · have hcontext := contextAt_of_normalize hvisit hnormalize
    rcases exists_parser_of_contextAt hcontext with ⟨-, -, -, parser, -, -, -, hparser⟩
    rcases entryAt_of_contextAt hcontext hparser with ⟨_, _, -, hspec⟩
    rw [hspec] at hentry
    rcases hanswer : parser.parseInstruction _ with error | _ | event
    · rw [hanswer] at hentry
      rcases Option.some.inj hentry with rfl
      rcases Except.error.inj hfailure with rfl
      exact .protocol _ hcontext parser hparser error hanswer
    · rw [hanswer] at hentry
      cases hentry
    · rw [hanswer] at hentry
      rcases Option.some.inj hentry with rfl
      cases hfailure

/-- A position whose instruction has a diagnosis reports a failure. -/
theorem exists_failure_of_diagnosis {diagnosis : InstructionParseFailure}
    (hdiagnosis : Diagnosis crates registry header position diagnosis) :
    ∃ entry failure, entryAt crates registry header position = some entry ∧
      entry.result = .error failure := by
  cases hdiagnosis with
  | program visit hvisit error hdefect =>
      rcases hresolve : resolveProgramId visit.instruction header.accountKeys with
        rejection | programId
      · rcases resolveProgramId_eq_error hresolve with ⟨found, rfl⟩
        exact ⟨_, _, entryAt_of_failed hvisit (normalizeInstruction_of_unresolved hresolve), rfl⟩
      · exact absurd (resolveProgramId_eq_ok_iff.mp hresolve)
          (not_programOf_of_programDefect hdefect programId)
  | field visit hvisit programId hprogram hconfigured error hdefect =>
      rcases hnormalize : visit.normalize crates registry header.accountKeys with
        rejection | ⟨normalized, stackHeight⟩
      · rcases fieldDefect_of_normalize hprogram hconfigured hnormalize with
          ⟨stackHeight, found, rfl, -⟩
        exact ⟨_, _, entryAt_of_failed hvisit hnormalize, rfl⟩
      · exact absurd hdefect (not_fieldDefect_of_normalize hnormalize)
  | protocol context hcontext parser hparser error hanswer =>
      rcases entryAt_of_contextAt hcontext hparser with ⟨visit, stackHeight, -, hspec⟩
      rw [hanswer] at hspec
      exact ⟨_, _, hspec, rfl⟩

end Positions

/-! ## Parsed blocks -/

/-- A block reports this failure of the instruction that is visited with this ordinal in
the transaction with this index. -/
def FailsAt (events : BlockEvents) (transactionIndex executionOrdinal : Nat)
    (failure : InstructionParseFailure) : Prop :=
  ∃ transaction ∈ events.transactions, transaction.transactionIndex = transactionIndex ∧
    ∃ entry ∈ transaction.instructions, entry.executionOrdinal = executionOrdinal ∧
      entry.result = .error failure

/-- The failures that are reported for a list of transactions are true, and there is one
for every instruction that has a defect. -/
structure Diagnosed (crates : Crates) (registry : ParserRegistry) (transactions : List Value)
    (events : BlockEvents) : Prop where
  sound : ∀ (transactionIndex position : Nat) failure,
    FailsAt events transactionIndex position failure →
      ∃ entry header, transactions[transactionIndex]? = some entry ∧
        readTransaction entry = .ok (some header) ∧
        Diagnosis crates registry header position failure
  complete : ∀ (transactionIndex position : Nat) entry header diagnosis,
    transactions[transactionIndex]? = some entry → readTransaction entry = .ok (some header) →
      Diagnosis crates registry header position diagnosis →
        ∃ failure, FailsAt events transactionIndex position failure

/-- The failures of a parsed block are the instructions with a defect. -/
theorem diagnosed_of_parseBlock {crates : Crates} {registry : ParserRegistry} {block : Value}
    {events : BlockEvents} (hparse : parseBlock crates registry block = .ok events) :
    ∃ transactions, block.get "transactions" = some (.array transactions) ∧
      Diagnosed crates registry transactions events := by
  rcases parseBlock_eq_ok hparse with ⟨transactions, -, htransactions, -, -⟩
  refine ⟨transactions, bind_asArray_eq_some_iff.mp htransactions, ?_, ?_⟩
  · intro transactionIndex position failure hfails
    rcases (exists_reported_iff hparse htransactions).mp hfails with
      ⟨value, header, entry, hvalue, hread, hentry, hfailure⟩
    exact ⟨value, header, hvalue, hread, diagnosis_of_entryAt hentry hfailure⟩
  · intro transactionIndex position value header diagnosis hvalue hread hdiagnosis
    rcases exists_failure_of_diagnosis hdiagnosis with ⟨entry, failure, hentry, hfailure⟩
    exact ⟨failure, (exists_reported_iff hparse htransactions).mpr
      ⟨value, header, entry, hvalue, hread, hentry, hfailure⟩⟩

/-- Four failures: no key for the program, no key for an account, an answer of the test
parser, and nothing but the program. -/
def malformedBlock : Value :=
  TestSupport.block [
    TestSupport.transaction "malformed" [TestSupport.testProgramId] [] []
      [TestSupport.instruction 7 [] [1] 1, TestSupport.instruction 0 [9] [1] 1,
        TestSupport.instruction 0 [] [2] 1, .object [("programIdIndex", TestSupport.unsigned 0)],
        TestSupport.instruction 0 [] [1] 1] [] .null]

/-- Four malformed instructions are diagnosed beside one that reports an event. -/
theorem diagnosed_of_parseBlock_malformedBlock :
    ∃ transactions events,
      parseBlock TestSupport.crates TestSupport.registry malformedBlock = .ok events ∧
      (events.transactions.flatMap fun transaction =>
        transaction.instructions.map fun entry => entry.result.toOption.isSome) =
          [false, false, false, false, true] ∧
      malformedBlock.get "transactions" = some (.array transactions) ∧
      Diagnosed TestSupport.crates TestSupport.registry transactions events := by
  obtain ⟨events, hparse⟩ : ∃ events,
      parseBlock TestSupport.crates TestSupport.registry malformedBlock = .ok events := ⟨_, rfl⟩
  rcases diagnosed_of_parseBlock hparse with ⟨transactions, hblock, hdiagnosed⟩
  exact ⟨transactions, events, hparse, by obtain rfl := Except.ok.inj hparse; rfl, hblock,
    hdiagnosed⟩

end Parser
end PumpRealtimePrices
