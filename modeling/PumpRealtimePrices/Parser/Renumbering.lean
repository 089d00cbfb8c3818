import Mathlib.Data.List.Forall2
import PumpRealtimePrices.Parser.Block
import PumpRealtimePrices.Parser.TestSupport

/-!
# Account keys are only names

The instructions of a transaction name programs and accounts by their place in one list of
keys, which is put together from the message and from lookup tables.  A transaction that
is compiled with other places, or with other lookup tables, is reported in the same way as
long as each instruction names the same addresses.

Main results:

- Theorem {lit}`normalizeInstruction_renumbered`: an instruction is normalized to the same
  addresses, or rejected for the same reason.
- Theorem {lit}`parseTransaction_renumbered`: a renumbered transaction has the same output.
- Theorem {lit}`parseBlock_renumbered`: so has a block of renumbered transactions.
-/

namespace PumpRealtimePrices
namespace Parser

open SerdeJson

/-! ## Renumbering -/

/-- Places of one list of keys in another one; places outside of the lists are kept. -/
structure Renumbering (accountKeys accountKeys' : List String) (place : UInt64 → UInt64) :
    Prop where
  length_eq : accountKeys'.length = accountKeys.length
  key : ∀ index, index.toNat < accountKeys.length →
    accountKeys'[(place index).toNat]? = accountKeys[index.toNat]?
  outOfBounds : ∀ index, accountKeys.length ≤ index.toNat → place index = index

/-- An instruction with the same data that names its accounts by other places. -/
structure RenumberedInstruction (place : UInt64 → UInt64) (instruction instruction' : Value) :
    Prop where
  programIdIndex : (instruction'.get "programIdIndex").bind Value.asU64 =
    ((instruction.get "programIdIndex").bind Value.asU64).map place
  accounts : ((instruction'.get "accounts").bind Value.asArray).map (List.map Value.asU64) =
    ((instruction.get "accounts").bind Value.asArray).map
      (List.map fun index => index.asU64.map place)
  stackHeight : instruction'.get "stackHeight" = instruction.get "stackHeight"
  data : instruction'.get "data" = instruction.get "data"

/-- A transaction in which all instructions name their accounts by other places. -/
structure Renumbered (place : UInt64 → UInt64) (header header' : TransactionHeader) : Prop where
  signature : header'.signature = header.signature
  tokenDecimals : header'.tokenDecimals = header.tokenDecimals
  accountKeys : Renumbering header.accountKeys header'.accountKeys place
  outer : List.Forall₂ (RenumberedInstruction place) header.outerInstructions
    header'.outerInstructions
  inner : ∀ index : Nat, Option.Rel (List.Forall₂ (RenumberedInstruction place))
    header.innerInstructionGroups[index]? header'.innerInstructionGroups[index]?

/-! ## One instruction -/

section Instructions

variable {crates : Crates} {registry : ParserRegistry} {accountKeys accountKeys' : List String}
  {place : UInt64 → UInt64} {instruction instruction' : Value}

/-- The key at a place, or the error that names the place. -/
theorem Renumbering.okOr_eq (hkeys : Renumbering accountKeys accountKeys' place)
    (error : UInt64 → Nat → Rejection) (index : UInt64) :
    Rust.okOr (error (place index) accountKeys'.length) accountKeys'[(place index).toNat]? =
      Rust.okOr (error index accountKeys.length) accountKeys[index.toNat]? := by
  by_cases hindex : index.toNat < accountKeys.length
  · rw [hkeys.key index hindex, List.getElem?_eq_getElem hindex]
    rfl
  · have hle := not_lt.mp hindex
    rw [hkeys.outOfBounds index hle, hkeys.length_eq, List.getElem?_eq_none hle,
      List.getElem?_eq_none (hkeys.length_eq.trans_le hle)]

/-- A renumbered instruction has the same program. -/
theorem resolveProgramId_renumbered (hkeys : Renumbering accountKeys accountKeys' place)
    (hinstruction : RenumberedInstruction place instruction instruction') :
    resolveProgramId instruction' accountKeys' = resolveProgramId instruction accountKeys := by
  rw [resolveProgramId, resolveProgramId, hinstruction.programIdIndex]
  cases (instruction.get "programIdIndex").bind Value.asU64 with
  | none => rfl
  | some index =>
      exact hkeys.okOr_eq
        (fun index length => .failed none none (.indexOutOfBounds "programIdIndex" index length))
        index

/-- A renumbered instruction has the same accounts. -/
theorem resolveAccounts_renumbered (hkeys : Renumbering accountKeys accountKeys' place)
    (programId : String) (stackHeight : Option UInt32) {indexes indexes' : List Value}
    (hindexes : indexes'.map Value.asU64 = indexes.map fun index => index.asU64.map place) :
    resolveAccounts programId stackHeight accountKeys' indexes' =
      resolveAccounts programId stackHeight accountKeys indexes := by
  induction indexes generalizing indexes' with
  | nil =>
      rw [List.map_nil, List.map_eq_nil_iff] at hindexes
      rw [hindexes]
      rfl
  | cons index indexes ih =>
      rw [List.map_cons, List.map_eq_cons_iff] at hindexes
      rcases hindexes with ⟨index', rest, rfl, hindex, hrest⟩
      have hrest := ih hrest
      rw [resolveAccounts, resolveAccounts] at hrest ⊢
      rw [List.mapM_cons, List.mapM_cons, hrest, hindex]
      cases index.asU64 with
      | none => rfl
      | some found =>
          rw [Option.map_some]
          have hkey := hkeys.okOr_eq (fun index length =>
            .failed (some programId) stackHeight (.indexOutOfBounds "accounts" index length)) found
          simp only [Rust.okOr, Rust.ok_bind] at hkey ⊢
          rw [hkey]

/-- A renumbered instruction has the same data. -/
theorem decodeData_renumbered (programId : String) (stackHeight : Option UInt32)
    (hinstruction : RenumberedInstruction place instruction instruction') :
    decodeData crates programId stackHeight instruction' =
      decodeData crates programId stackHeight instruction := by
  rw [decodeData, decodeData, hinstruction.data]

/-- An instruction is normalized to the same addresses, or rejected for the same reason. -/
theorem normalizeInstruction_renumbered (hkeys : Renumbering accountKeys accountKeys' place)
    (hinstruction : RenumberedInstruction place instruction instruction') (inner : Option Nat) :
    normalizeInstruction crates registry accountKeys' inner instruction' =
      normalizeInstruction crates registry accountKeys inner instruction := by
  have hheight : ∀ programId, readStackHeight programId instruction' =
      readStackHeight programId instruction := by
    intro programId
    rw [readStackHeight, readStackHeight, hinstruction.stackHeight]
  rw [normalizeInstruction, normalizeInstruction, resolveProgramId_renumbered hkeys hinstruction]
  simp only [hheight, decodeData_renumbered _ _ hinstruction]
  have haccounts := hinstruction.accounts
  cases hindexes : (instruction.get "accounts").bind Value.asArray with
  | none =>
      rw [hindexes, Option.map_none, Option.map_eq_none_iff] at haccounts
      rw [haccounts]
      rfl
  | some indexes =>
      rw [hindexes, Option.map_some, Option.map_eq_some_iff] at haccounts
      rcases haccounts with ⟨indexes', hindexes', heq⟩
      rw [hindexes']
      simp only [Rust.okOr, Rust.ok_bind, resolveAccounts_renumbered hkeys _ _ heq]

/-- A visit of a renumbered instruction has the same entry and leaves the same stack. -/
theorem parseInstruction_renumbered (hkeys : Renumbering accountKeys accountKeys' place)
    (hinstruction : RenumberedInstruction place instruction instruction') (outer : Nat)
    (inner : Option Nat) (executionOrdinal : Nat) (stack : InvocationStack) :
    parseInstruction crates registry instruction' accountKeys' outer inner executionOrdinal stack =
      parseInstruction crates registry instruction accountKeys outer inner executionOrdinal
        stack := by
  have hheight : observedStackHeight instruction' = observedStackHeight instruction := by
    rw [observedStackHeight, observedStackHeight, hinstruction.stackHeight]
  rw [parseInstruction, parseInstruction, hheight,
    normalizeInstruction_renumbered hkeys hinstruction]

end Instructions

/-! ## The traversal -/

section Traversal

variable {crates : Crates} {registry : ParserRegistry} {accountKeys accountKeys' : List String}
  {place : UInt64 → UInt64}

/-- A step of a loop over renumbered instructions leaves the same state. -/
theorem visitInstruction_renumbered (hkeys : Renumbering accountKeys accountKeys' place)
    {instruction instruction' : Value}
    (hinstruction : RenumberedInstruction place instruction instruction') (outer : Nat)
    (inner : Option Nat) (state : LoopState) :
    visitInstruction crates registry accountKeys' outer inner instruction' state =
      visitInstruction crates registry accountKeys outer inner instruction state := by
  rw [visitInstruction, visitInstruction, parseInstruction_renumbered hkeys hinstruction]

/-- The loop over renumbered inner instructions leaves the same state. -/
theorem visitInnerInstructions_renumbered (hkeys : Renumbering accountKeys accountKeys' place)
    {instructions instructions' : List Value}
    (hinstructions : List.Forall₂ (RenumberedInstruction place) instructions instructions')
    (outer start : Nat) (state : LoopState) :
    visitInnerInstructions crates registry accountKeys' outer start instructions' state =
      visitInnerInstructions crates registry accountKeys outer start instructions state := by
  induction hinstructions generalizing start state with
  | nil => rfl
  | cons hinstruction _ ih =>
      rw [visitInnerInstructions, visitInnerInstructions,
        visitInstruction_renumbered hkeys hinstruction, ih]

/-- The loop over renumbered outer instructions leaves the same state. -/
theorem visitOuterInstructions_renumbered (hkeys : Renumbering accountKeys accountKeys' place)
    {groups groups' : Std.TreeMap Nat (List Value)}
    (hgroups : ∀ index : Nat, Option.Rel (List.Forall₂ (RenumberedInstruction place)) groups[index]?
      groups'[index]?) {instructions instructions' : List Value}
    (hinstructions : List.Forall₂ (RenumberedInstruction place) instructions instructions')
    (start : Nat) (state : LoopState) :
    visitOuterInstructions crates registry accountKeys' groups' start instructions' state =
      visitOuterInstructions crates registry accountKeys groups start instructions state := by
  induction hinstructions generalizing start state with
  | nil => rfl
  | cons hinstruction _ ih =>
      rw [visitOuterInstructions, visitOuterInstructions,
        visitInstruction_renumbered hkeys hinstruction, ih]
      congr 1
      have hgroup := hgroups start
      cases hfound : groups[start]? with
      | none =>
          cases hfound' : groups'[start]? with
          | none => rfl
          | some inner' =>
              rw [hfound, hfound'] at hgroup
              cases hgroup
      | some inner =>
          cases hfound' : groups'[start]? with
          | none =>
              rw [hfound, hfound'] at hgroup
              cases hgroup
          | some inner' =>
              rw [hfound, hfound', Option.rel_some_some] at hgroup
              exact visitInnerInstructions_renumbered hkeys hgroup start 0 _

end Traversal

/-! ## Transactions and blocks -/

/-- A renumbered transaction has the same output. -/
theorem transactionEvents_renumbered (crates : Crates) (registry : ParserRegistry)
    {place : UInt64 → UInt64} {header header' : TransactionHeader}
    (hrenumbered : Renumbered place header header') (transactionIndex : Nat) :
    transactionEvents crates registry header' transactionIndex =
      transactionEvents crates registry header transactionIndex := by
  have hinstructions : instructionEvents crates registry header' =
      instructionEvents crates registry header := by
    rw [instructionEvents, instructionEvents, visitOuterInstructions_renumbered
      hrenumbered.accountKeys hrenumbered.inner hrenumbered.outer]
  rw [transactionEvents, transactionEvents, hinstructions, hrenumbered.signature,
    hrenumbered.tokenDecimals]

/-- Two transactions that are read alike, or of which the second one is the first one
renumbered. -/
inductive Recompiled (entry entry' : Value) : Prop where
  | same (hread : readTransaction entry' = readTransaction entry)
  | renumbered (place : UInt64 → UInt64) (header header' : TransactionHeader)
      (hread : readTransaction entry = .ok (some header))
      (hread' : readTransaction entry' = .ok (some header'))
      (hrenumbered : Renumbered place header header')

/-- A renumbered transaction has the same output. -/
theorem parseTransaction_renumbered (crates : Crates) (registry : ParserRegistry)
    {entry entry' : Value} (hrecompiled : Recompiled entry entry') (transactionIndex : Nat) :
    parseTransaction crates registry entry' transactionIndex =
      parseTransaction crates registry entry transactionIndex := by
  rw [parseTransaction_eq, parseTransaction_eq]
  cases hrecompiled with
  | same hread => rw [hread]
  | renumbered place header header' hread hread' hrenumbered =>
      rw [hread, hread']
      simp only [Except.map, Option.bind_some,
        transactionEvents_renumbered crates registry hrenumbered]

/-- Recompiled transactions have the same outputs and errors. -/
theorem parseTransactions_renumbered (crates : Crates) (registry : ParserRegistry)
    {entries entries' : List Value} (hentries : List.Forall₂ Recompiled entries entries')
    (start : Nat) :
    parseTransactions crates registry start entries' =
      parseTransactions crates registry start entries := by
  induction hentries generalizing start with
  | nil => rfl
  | cons hentry _ ih =>
      rw [parseTransactions, parseTransactions, parseTransaction_renumbered crates registry hentry,
        ih]

/-- A block of renumbered transactions has the same output, or the same error, under any
registry. -/
theorem parseBlock_renumbered (crates : Crates) (registry : ParserRegistry) {block block' : Value}
    {entries entries' : List Value}
    (hblock : (block.get "transactions").bind Value.asArray = some entries)
    (hblock' : (block'.get "transactions").bind Value.asArray = some entries')
    (hentries : List.Forall₂ Recompiled entries entries') :
    parseBlock crates registry block' = parseBlock crates registry block := by
  rw [parseBlock, parseBlock, hblock, hblock']
  simp only [Rust.okOr, Rust.ok_bind, parseTransactions_renumbered crates registry hentries]

/-! ### Keys from a lookup table -/

/-- A transaction whose program and mint are keys of the message. -/
def staticTransaction : Value :=
  TestSupport.transaction "first" [TestSupport.testProgramId, "mint"] [] []
    [TestSupport.instruction 0 [1] [3] 1] [] .null

/-- The same, with the program in a lookup table. -/
def loadedTransaction : Value :=
  TestSupport.transaction "first" ["mint"] [] [TestSupport.testProgramId]
    [TestSupport.instruction 1 [0] [3] 1] [] .null

def swapFirstPlaces (index : UInt64) : UInt64 :=
  if index = 0 then 1 else if index = 1 then 0 else index

private theorem renumbering_swapFirstPlaces (first second : String) :
    Renumbering [first, second] [second, first] swapFirstPlaces where
  length_eq := rfl
  key index hindex := by
    have hcases : index = 0 ∨ index = 1 := by
      rw [← UInt64.toNat_inj, ← UInt64.toNat_inj]
      have hlt : index.toNat < 2 := hindex
      have hzero : (0 : UInt64).toNat = 0 := rfl
      have hone : (1 : UInt64).toNat = 1 := rfl
      omega
    rcases hcases with rfl | rfl <;> rfl
  outOfBounds index hindex := by
    have hle : 2 ≤ index.toNat := hindex
    have hzero : index ≠ 0 := by
      rintro rfl
      exact absurd hle (by decide)
    have hone : index ≠ 1 := by
      rintro rfl
      exact absurd hle (by decide)
    rw [swapFirstPlaces, if_neg hzero, if_neg hone]

private theorem recompiled_loadedTransaction : Recompiled staticTransaction loadedTransaction :=
  .renumbered swapFirstPlaces _ _
    (TestSupport.readTransaction_transaction "first" [TestSupport.testProgramId, "mint"] [] []
      [TestSupport.instruction 0 [1] [3] 1] [] rfl)
    (TestSupport.readTransaction_transaction "first" ["mint"] [] [TestSupport.testProgramId]
      [TestSupport.instruction 1 [0] [3] 1] [] rfl)
    { signature := rfl
      tokenDecimals := rfl
      accountKeys := renumbering_swapFirstPlaces TestSupport.testProgramId "mint"
      outer := .cons ⟨rfl, rfl, rfl, rfl⟩ .nil
      inner := fun _ => by
        simp only [Std.TreeMap.getElem?_emptyc]
        exact .none }

/-- Loaded addresses may as well be static keys. -/
theorem parseBlock_renumbered_loadedTransaction :
    parseBlock TestSupport.crates TestSupport.registry (TestSupport.block [loadedTransaction]) =
        parseBlock TestSupport.crates TestSupport.registry
          (TestSupport.block [staticTransaction]) ∧
      ∃ events, parseBlock TestSupport.crates TestSupport.registry
        (TestSupport.block [staticTransaction]) = .ok events ∧ events.transactions.length = 1 :=
  ⟨parseBlock_renumbered TestSupport.crates TestSupport.registry rfl rfl
    (.cons recompiled_loadedTransaction .nil), _, rfl, rfl⟩

end Parser
end PumpRealtimePrices
