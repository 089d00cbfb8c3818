import PumpRealtimePrices.Library.Rust
import PumpRealtimePrices.Parser.Transaction

/-!
# Block parsing

A block is parsed transaction by transaction.  A structural defect of one
transaction aborts the block; a failed transaction, and one that reports
nothing, leaves no trace in the output.

Only the structural stage can fail, and it does not look at the registry.  The
headers it reads therefore come first here, and the entries are a function of
them.

Main results:

- Theorem {lit}`parseBlock_eq`: parsing a block reads its headers and then
  computes the entries of each.
- Theorem {lit}`readTransactions_eq_ok_iff`: the structural stage of a block
  succeeds when it succeeds on every transaction.
-/

namespace PumpRealtimePrices
namespace Parser

open SerdeJson

/-! ## The parser -/

/-- Parse the transactions from an index on, up to the first structural error. -/
def parseTransactions (crates : Crates) (registry : ParserRegistry) :
    Nat → List Value → Except BlockParseError (List TransactionEvents)
  | _, [] => .ok []
  | transactionIndex, transaction :: transactions => do
      let transactionEvents ← (parseTransaction crates registry transaction
        transactionIndex).mapError (.transaction transactionIndex)
      let events ← parseTransactions crates registry (transactionIndex + 1) transactions
      return transactionEvents.toList ++ events

/-- Parse a block. -/
def parseBlock (crates : Crates) (registry : ParserRegistry) (block : Value) :
    Except BlockParseError BlockEvents := do
  let transactions ← Rust.okOr (.invalidField "transactions" "an array")
    ((block.get "transactions").bind Value.asArray)
  let events ← parseTransactions crates registry 0 transactions
  return { transactions := events }

/-! ## Headers first -/

/-- Output of a successful transaction, from its header. -/
def transactionEvents (crates : Crates) (registry : ParserRegistry) (header : TransactionHeader)
    (transactionIndex : Nat) : Option TransactionEvents :=
  let instructions := instructionEvents crates registry header
  if instructions.isEmpty then none
  else some {
    signature := header.signature
    transactionIndex
    tokenDecimals := header.tokenDecimals
    instructions }

/-- Structural stage of the transactions from an index on. -/
def readTransactions : Nat → List Value → Except BlockParseError (List (Option TransactionHeader))
  | _, [] => .ok []
  | transactionIndex, transaction :: transactions => do
      let header ← (readTransaction transaction).mapError (.transaction transactionIndex)
      let headers ← readTransactions (transactionIndex + 1) transactions
      return header :: headers

/-- Structural stage of a block. -/
def readBlock (block : Value) : Except BlockParseError (List (Option TransactionHeader)) := do
  let transactions ← Rust.okOr (.invalidField "transactions" "an array")
    ((block.get "transactions").bind Value.asArray)
  readTransactions 0 transactions

/-- Output of a block from an index on, from the headers of its transactions. -/
def transactionsEvents (crates : Crates) (registry : ParserRegistry) (start : Nat)
    (headers : List (Option TransactionHeader)) : List TransactionEvents :=
  (headers.zipIdx start).filterMap fun (header, transactionIndex) =>
    header.bind fun header => transactionEvents crates registry header transactionIndex

/-- A transaction has an output exactly when it has entries, and the output holds them under
the header's own data. -/
theorem transactionEvents_eq_some_iff {crates : Crates} {registry : ParserRegistry}
    {header : TransactionHeader} {transactionIndex : Nat} {events : TransactionEvents} :
    transactionEvents crates registry header transactionIndex = some events ↔
      events.instructions ≠ [] ∧ events.signature = header.signature ∧
        events.transactionIndex = transactionIndex ∧
        events.tokenDecimals = header.tokenDecimals ∧
        events.instructions = instructionEvents crates registry header := by
  rcases events with ⟨signature, index, tokenDecimals, instructions⟩
  simp only [transactionEvents, List.isEmpty_iff]
  split
  · next hempty =>
      rw [hempty]
      simp only [reduceCtorEq, false_iff]
      rintro ⟨hne, -, -, -, rfl⟩
      exact hne rfl
  · next hne =>
      simp only [Option.some.injEq, TransactionEvents.mk.injEq]
      constructor
      · rintro ⟨rfl, rfl, rfl, rfl⟩
        exact ⟨hne, rfl, rfl, rfl, rfl⟩
      · rintro ⟨-, rfl, rfl, rfl, rfl⟩
        exact ⟨rfl, rfl, rfl, rfl⟩

/-- The entries of an output are those of its header. -/
theorem instructions_of_transactionEvents {crates : Crates} {registry : ParserRegistry}
    {header : TransactionHeader} {transactionIndex : Nat} {events : TransactionEvents}
    (hevents : transactionEvents crates registry header transactionIndex = some events) :
    events.instructions = instructionEvents crates registry header := by
  rcases transactionEvents_eq_some_iff.mp hevents with ⟨-, -, -, -, hinstructions⟩
  exact hinstructions

/-- A transaction is read first and then executed; a failed one has no output. -/
theorem parseTransaction_eq (crates : Crates) (registry : ParserRegistry) (entry : Value)
    (transactionIndex : Nat) :
    parseTransaction crates registry entry transactionIndex =
      (readTransaction entry).map fun header =>
        header.bind fun header => transactionEvents crates registry header transactionIndex := by
  unfold parseTransaction transactionEvents
  rcases readTransaction entry with error | header | header
  · rfl
  · rfl
  · simp only [bind, Except.bind, pure, Except.pure, Except.map, Option.bind_some]
    split <;> rfl

/-- Entries of the output of one transaction. -/
def entriesOf (result : Option TransactionEvents) : List InstructionEvents :=
  result.elim [] TransactionEvents.instructions

/-- An accepted transaction parses, and its entries are those of its header. -/
theorem parseTransaction_of_read (crates : Crates) (registry : ParserRegistry) {entry : Value}
    {header : TransactionHeader} (hread : readTransaction entry = .ok (some header))
    (transactionIndex : Nat) :
    ∃ result, parseTransaction crates registry entry transactionIndex = .ok result ∧
      entriesOf result = instructionEvents crates registry header := by
  refine ⟨transactionEvents crates registry header transactionIndex, ?_, ?_⟩
  · rw [parseTransaction_eq, hread]
    rfl
  · simp only [transactionEvents, List.isEmpty_iff]
    split
    · next hempty =>
        rw [hempty]
        rfl
    · rfl

/-- The output of the first transaction comes first. -/
theorem transactionsEvents_cons (crates : Crates) (registry : ParserRegistry) (start : Nat)
    (header : Option TransactionHeader) (headers : List (Option TransactionHeader)) :
    transactionsEvents crates registry start (header :: headers) =
      (header.bind fun header => transactionEvents crates registry header start).toList ++
        transactionsEvents crates registry (start + 1) headers := by
  simp only [transactionsEvents, List.zipIdx_cons, List.filterMap_cons]
  split
  · next hnone => rw [hnone, Option.toList_none, List.nil_append]
  · next events hevents => rw [hevents, Option.toList_some, List.singleton_append]

/-- Transactions are read first and then executed. -/
theorem parseTransactions_eq (crates : Crates) (registry : ParserRegistry) (start : Nat)
    (transactions : List Value) :
    parseTransactions crates registry start transactions =
      (readTransactions start transactions).map (transactionsEvents crates registry start) := by
  induction transactions generalizing start with
  | nil => rfl
  | cons transaction transactions ih =>
      rw [parseTransactions, readTransactions, parseTransaction_eq, ih (start + 1)]
      rcases readTransaction transaction with error | header
      · rfl
      · rcases readTransactions (start + 1) transactions with error | headers
        · rfl
        · simp only [Except.map, Except.mapError, bind, Except.bind, pure, Except.pure,
            transactionsEvents_cons]

/-- Parsing a block fails only in the structural stage, whatever the registry. -/
theorem parseBlock_eq (crates : Crates) (registry : ParserRegistry) (block : Value) :
    parseBlock crates registry block = (readBlock block).map fun headers =>
      { transactions := transactionsEvents crates registry 0 headers } := by
  unfold parseBlock readBlock
  rcases (block.get "transactions").bind Value.asArray with _ | transactions
  · rfl
  · simp only [Rust.okOr, bind, Except.bind, parseTransactions_eq]
    rcases readTransactions 0 transactions with error | headers <;> rfl

/-- Transactions are read exactly when each of them is. -/
theorem readTransactions_eq_ok_iff {start : Nat} {transactions : List Value}
    {headers : List (Option TransactionHeader)} :
    readTransactions start transactions = .ok headers ↔
      transactions.map readTransaction = headers.map .ok := by
  induction transactions generalizing start headers with
  | nil => simp [readTransactions, eq_comm]
  | cons transaction transactions ih =>
      rw [readTransactions, List.map_cons, eq_comm (b := headers.map Except.ok),
        List.map_eq_cons_iff]
      simp only [Rust.except_bind_eq_ok_iff, Rust.mapError_eq_ok_iff, ih, pure, Except.pure,
        Except.ok.injEq]
      constructor
      · rintro ⟨header, hread, rest, hrest, rfl⟩
        exact ⟨header, rest, rfl, hread.symm, hrest.symm⟩
      · rintro ⟨header, rest, rfl, hread, hrest⟩
        exact ⟨header, hread.symm, rest, hrest.symm, rfl⟩

/-- A parsed block: headers of all its transactions, and the output computed from them. -/
theorem parseBlock_eq_ok {crates : Crates} {registry : ParserRegistry} {block : Value}
    {events : BlockEvents} (hparse : parseBlock crates registry block = .ok events) :
    ∃ entries headers, (block.get "transactions").bind Value.asArray = some entries ∧
      entries.map readTransaction = headers.map .ok ∧
      events.transactions = transactionsEvents crates registry 0 headers := by
  rw [parseBlock_eq] at hparse
  rcases hread : readBlock block with error | headers
  · rw [hread] at hparse
    cases hparse
  · rw [hread] at hparse
    rcases Except.ok.inj hparse with rfl
    rw [readBlock, Rust.except_bind_eq_ok_iff] at hread
    rcases hread with ⟨entries, hentries, hread⟩
    exact ⟨entries, headers, Rust.okOr_eq_ok_iff.mp hentries,
      readTransactions_eq_ok_iff.mp hread, rfl⟩

end Parser
end PumpRealtimePrices
