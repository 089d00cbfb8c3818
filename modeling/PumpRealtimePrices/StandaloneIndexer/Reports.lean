import PumpRealtimePrices.Library.Tally
import PumpRealtimePrices.Parser.Completeness
import PumpRealtimePrices.Saver.Constraints

/-!
# Failure reports and block counters

For every block the indexer groups the failed instructions by program and text, counts
the results, and adds the number of stored prices.  The three are computed by different
passes over the same output.

Main results:

- Theorem {lit}`groupFailures_eq`: the grouping is the tally of the failed instructions.
- Theorem {lit}`summarizeBlock_counts`: what each counter of a summary counts.
- Theorem {lit}`failureReports_account`: reports, counters and stored prices account for
  every result of a parsed block.
-/

namespace PumpRealtimePrices
namespace StandaloneIndexer

open PumpRealtimePrices.Parser PumpRealtimePrices.Saver SerdeJson

/-! ## Failure reports -/

def unknownProgramId : String := "unknown"

/-- What failures are grouped by.  Keys are compared as pairs. -/
structure FailureKey where
  programId : String
  reason : String
deriving DecidableEq, Repr

instance : Ord FailureKey where
  compare := compareLex (compareOn FailureKey.programId) (compareOn FailureKey.reason)

instance : Std.TransOrd FailureKey :=
  inferInstanceAs (Std.TransCmp
    (compareLex (compareOn FailureKey.programId) (compareOn FailureKey.reason)))

instance : Std.LawfulEqOrd FailureKey where
  eq_of_compare := by
    intro a b hcompare
    rcases compareLex_eq_eq.mp hcompare with ⟨hprogram, hreason⟩
    rcases a with ⟨programId, reason⟩
    rw [FailureKey.mk.injEq]
    exact ⟨Std.compare_eq_iff_eq.mp hprogram, Std.compare_eq_iff_eq.mp hreason⟩

/-- One line of the failure report of a block. -/
structure ParseFailureReport where
  programId : String
  reason : String
  count : Nat
  exampleSignature : String
deriving DecidableEq, Repr

def ParseFailureReport.display (report : ParseFailureReport) : String :=
  s!"Parse failure: count={report.count} program={report.programId} " ++
    s!"example_signature={report.exampleSignature} reason={report.reason}"

def ParseFailureReport.key (report : ParseFailureReport) : FailureKey where
  programId := report.programId
  reason := report.reason

/-- Loop body: count the failure of one instruction, if it has one. -/
def groupInstruction (transaction : TransactionEvents)
    (grouped : Std.TreeMap FailureKey (Nat × String)) (instruction : InstructionEvents) :
    Std.TreeMap FailureKey (Nat × String) :=
  match instruction.result with
  | .ok _ => grouped
  | .error failure =>
      let programId := failure.programId.getD unknownProgramId
      let key : FailureKey := ⟨programId, failure.error.display⟩
      let entry := grouped[key]?.getD (0, transaction.signature)
      grouped.insert key (entry.1 + 1, entry.2)

/-- Count the failures of a block by program and text. -/
def groupFailures (events : BlockEvents) : Std.TreeMap FailureKey (Nat × String) :=
  events.transactions.foldl (fun grouped transaction =>
    transaction.instructions.foldl (groupInstruction transaction) grouped) ∅

/-- Reports of the failures of a block, most frequent first. -/
def parseFailureReports (events : BlockEvents) : List ParseFailureReport :=
  let reports := (groupFailures events).toList.map fun (key, count, exampleSignature) =>
    { programId := key.programId, reason := key.reason, count, exampleSignature }
  reports.mergeSort fun a b => b.count ≤ a.count

/-! ## Block summaries -/

/-- Counters of a processed block; durations are in nanoseconds. -/
structure BlockSummary where
  slot : UInt64
  blockTransactions : Nat
  parsedTransactions : Nat
  results : Nat
  events : Nat
  tokenSwaps : Nat
  failures : Nat
  savedPrices : Nat
  parseDuration : Nat
  databaseWriteDuration : Nat
deriving DecidableEq, Repr

/-- An instruction that was parsed to an event. -/
def isEvent (instruction : InstructionEvents) : Bool :=
  match instruction.result with
  | .ok _ => true
  | .error _ => false

/-- An instruction that was parsed to a swap. -/
def isTokenSwap (instruction : InstructionEvents) : Bool :=
  match instruction.result with
  | .ok (.tokenSwap _) => true
  | _ => false

/-- Loop body of the counters. -/
def countInstruction (counters : Nat × Nat × Nat) (instruction : InstructionEvents) :
    Nat × Nat × Nat :=
  let (results, eventCount, tokenSwaps) := counters
  (results + 1, eventCount + (isEvent instruction).toNat,
    tokenSwaps + (isTokenSwap instruction).toNat)

/-- Summary of a block before its prices are stored. -/
def summarizeBlock (slot : UInt64) (block : Value) (events : BlockEvents)
    (parseDuration : Nat) : BlockSummary :=
  let (results, eventCount, tokenSwaps) :=
    (events.transactions.flatMap TransactionEvents.instructions).foldl countInstruction (0, 0, 0)
  { slot
    blockTransactions := (((block.get "transactions").bind Value.asArray).map List.length).getD 0
    parsedTransactions := events.transactions.length
    results
    events := eventCount
    tokenSwaps
    failures := results - eventCount
    savedPrices := 0
    parseDuration
    databaseWriteDuration := 0 }

/-! ## Failed instructions -/

/-- Results of a block, in block order. -/
def resultsOf (events : BlockEvents) : List InstructionEvents :=
  events.transactions.flatMap TransactionEvents.instructions

/-- Program and text of a failed instruction. -/
def failureKey (instruction : InstructionEvents) : Option FailureKey :=
  match instruction.result with
  | .ok _ => none
  | .error failure => some ⟨failure.programId.getD unknownProgramId, failure.error.display⟩

/-- Failed instructions of a transaction, with its signature. -/
def failuresOf (transaction : TransactionEvents) : List (FailureKey × String) :=
  transaction.instructions.filterMap fun instruction =>
    (failureKey instruction).map fun key => (key, transaction.signature)

/-- Failed instructions of a block, with their signatures. -/
def failures (events : BlockEvents) : List (FailureKey × String) :=
  events.transactions.flatMap failuresOf

/-- An instruction is counted under its key, if it fails. -/
theorem groupInstruction_eq (transaction : TransactionEvents)
    (grouped : Std.TreeMap FailureKey (Nat × String)) (instruction : InstructionEvents) :
    groupInstruction transaction grouped instruction =
      (failureKey instruction).elim grouped fun key =>
        Tally.add Prod.fst Prod.snd grouped (key, transaction.signature) := by
  unfold groupInstruction failureKey
  cases instruction.result with
  | ok event => rfl
  | error failure => rfl

/-- The grouping is the tally of the failed instructions. -/
theorem groupFailures_eq (events : BlockEvents) :
    groupFailures events = Tally.tally Prod.fst Prod.snd (failures events) := by
  have htransaction : ∀ (grouped : Std.TreeMap FailureKey (Nat × String))
      (transaction : TransactionEvents),
      transaction.instructions.foldl (groupInstruction transaction) grouped =
        (failuresOf transaction).foldl (Tally.add Prod.fst Prod.snd) grouped := by
    intro grouped transaction
    rw [failuresOf, List.foldl_filterMap]
    congr 1
    funext grouped instruction
    rw [groupInstruction_eq]
    cases failureKey instruction <;> rfl
  rw [groupFailures, Tally.tally, failures, List.foldl_flatMap]
  simp only [htransaction]

/-- The keys of the failures are those of the failing instructions. -/
theorem failures_map_fst (events : BlockEvents) :
    (failures events).map Prod.fst = (resultsOf events).filterMap failureKey := by
  rw [failures, resultsOf, List.map_flatMap, List.filterMap_flatMap]
  congr 1
  funext transaction
  rw [failuresOf, List.map_filterMap]
  congr 1
  funext instruction
  cases failureKey instruction <;> rfl

/-- A transaction holds an instruction that failed with a key. -/
def FailsWith (transaction : TransactionEvents) (key : FailureKey) : Prop :=
  ∃ instruction ∈ transaction.instructions, failureKey instruction = some key

private theorem find?_failuresOf_eq_some {transaction : TransactionEvents} {key : FailureKey}
    {found : FailureKey × String}
    (hfind : ((failuresOf transaction).find? fun failure => failure.1 = key) = some found) :
    FailsWith transaction key ∧ found.2 = transaction.signature := by
  have hmem := List.mem_of_find?_eq_some hfind
  have hkey : found.1 = key := by simpa using List.find?_some hfind
  rcases List.mem_filterMap.mp hmem with ⟨instruction, hinstruction, hfound⟩
  rcases Option.map_eq_some_iff.mp hfound with ⟨key', hfailure, rfl⟩
  exact ⟨⟨instruction, hinstruction, hkey ▸ hfailure⟩, rfl⟩

private theorem not_failsWith_of_find? {transaction : TransactionEvents} {key : FailureKey}
    (hfind : ((failuresOf transaction).find? fun failure => failure.1 = key) = none) :
    ¬ FailsWith transaction key := by
  intro hfails
  rcases hfails with ⟨instruction, hinstruction, hfailure⟩
  have hmem : (key, transaction.signature) ∈ failuresOf transaction :=
    List.mem_filterMap.mpr ⟨instruction, hinstruction, by rw [hfailure, Option.map_some]⟩
  exact List.find?_eq_none.mp hfind _ hmem (decide_eq_true rfl)

/-- The first failure with a key belongs to the first transaction that fails with it. -/
theorem find?_failures_eq_some {events : BlockEvents} {key : FailureKey}
    {found : FailureKey × String}
    (hfind : ((failures events).find? fun failure => failure.1 = key) = some found) :
    ∃ before transaction after, events.transactions = before ++ transaction :: after ∧
      (∀ other ∈ before, ¬ FailsWith other key) ∧ FailsWith transaction key ∧
      found.2 = transaction.signature := by
  rw [failures, List.find?_flatMap, List.findSome?_eq_some_iff] at hfind
  rcases hfind with ⟨before, transaction, after, hsplit, hfound, hbefore⟩
  exact ⟨before, transaction, after, hsplit,
    fun other hother => not_failsWith_of_find? (hbefore other hother),
    find?_failuresOf_eq_some hfound⟩

/-! ## What the reports say -/

/-- The reports of a block: one for each key that occurs, with its number of
occurrences and the first transaction that it occurs in, most frequent first. -/
structure Reported (events : BlockEvents) (reports : List ParseFailureReport) : Prop where
  nodup : (reports.map ParseFailureReport.key).Nodup
  occurs : ∀ key, key ∈ reports.map ParseFailureReport.key ↔
    ∃ transaction ∈ events.transactions, FailsWith transaction key
  counted : ∀ report ∈ reports, report.count =
    (resultsOf events).countP fun instruction => failureKey instruction = some report.key
  first : ∀ report ∈ reports, ∃ before transaction after,
    events.transactions = before ++ transaction :: after ∧
      (∀ other ∈ before, ¬ FailsWith other report.key) ∧ FailsWith transaction report.key ∧
      report.exampleSignature = transaction.signature
  sorted : reports.Pairwise fun a b => b.count < a.count ∨
    a.count = b.count ∧
      (a.programId < b.programId ∨ a.programId = b.programId ∧ a.reason < b.reason)

/-- Report of one entry of the grouping. -/
def reportOf (entry : FailureKey × Nat × String) : ParseFailureReport where
  programId := entry.1.programId
  reason := entry.1.reason
  count := entry.2.1
  exampleSignature := entry.2.2

/-- The reports are those of the tally, in another order. -/
theorem parseFailureReports_perm (events : BlockEvents) :
    (parseFailureReports events).Perm
      ((Tally.tally Prod.fst Prod.snd (failures events)).toList.map reportOf) := by
  rw [← groupFailures_eq]
  exact List.mergeSort_perm _ _

/-- The keys of the reports are those of the tally. -/
theorem map_key_reportOf (entries : List (FailureKey × Nat × String)) :
    (entries.map reportOf).map ParseFailureReport.key = entries.map Prod.fst := by
  rw [List.map_map]
  rfl

/-- A report is an entry of the tally. -/
theorem mem_parseFailureReports {events : BlockEvents} {report : ParseFailureReport}
    (hreport : report ∈ parseFailureReports events) :
    ∃ found, ((failures events).find? fun failure => failure.1 = report.key) = some found ∧
      report.count = ((failures events).map Prod.fst).count report.key ∧
      report.exampleSignature = found.2 := by
  rcases List.mem_map.mp ((parseFailureReports_perm events).mem_iff.mp hreport) with
    ⟨⟨key, count, signature⟩, hentry, rfl⟩
  exact (Tally.mem_toList_tally Prod.fst Prod.snd).mp hentry

/-- A key is reported exactly when some transaction fails with it. -/
theorem mem_keys_iff (events : BlockEvents) (key : FailureKey) :
    key ∈ (parseFailureReports events).map ParseFailureReport.key ↔
      ∃ transaction ∈ events.transactions, FailsWith transaction key := by
  rw [((parseFailureReports_perm events).map _).mem_iff, map_key_reportOf, Tally.mem_keys_tally,
    failures_map_fst, List.mem_filterMap]
  simp only [resultsOf, List.mem_flatMap, FailsWith]
  constructor
  · intro hfailed
    rcases hfailed with ⟨instruction, ⟨transaction, htransaction, hinstruction⟩, hkey⟩
    exact ⟨transaction, htransaction, instruction, hinstruction, hkey⟩
  · intro hfailed
    rcases hfailed with ⟨transaction, htransaction, instruction, hinstruction, hkey⟩
    exact ⟨instruction, ⟨transaction, htransaction, hinstruction⟩, hkey⟩

/-- Strings are compared by their order. -/
theorem compare_string_lt_iff {a b : String} : compare a b = .lt ↔ a < b :=
  compareOfLessAndEq_eq_lt

/-- Keys are compared by program, and then by reason. -/
theorem compare_failureKey_lt_iff {a b : FailureKey} :
    compare a b = .lt ↔
      a.programId < b.programId ∨ a.programId = b.programId ∧ a.reason < b.reason := by
  change compareLex (compareOn FailureKey.programId) (compareOn FailureKey.reason) a b = .lt ↔ _
  rw [compareLex, compareOn, compareOn, Ordering.then_eq_lt, compare_string_lt_iff,
    compare_string_lt_iff, Std.compare_eq_iff_eq]

/-- The reports say what failed, how often, and where first. -/
theorem parseFailureReports_reported (events : BlockEvents) :
    Reported events (parseFailureReports events) := by
  have hperm := parseFailureReports_perm events
  refine ⟨?_, mem_keys_iff events, fun report hreport => ?_, fun report hreport => ?_, ?_⟩
  · rw [(hperm.map _).nodup_iff, map_key_reportOf]
    exact Tally.nodup_keys_tally _ _ _
  · rcases mem_parseFailureReports hreport with ⟨found, -, hcount, -⟩
    rw [hcount, failures_map_fst, List.count_filterMap]
    simp only [beq_eq_decide]
  · rcases mem_parseFailureReports hreport with ⟨found, hfind, -, hexample⟩
    rw [hexample]
    exact find?_failures_eq_some hfind
  · -- The entries come in the order of their keys, and the sort is stable.
    have hkeys : ((groupFailures events).toList.map reportOf).Pairwise fun a b =>
        a.programId < b.programId ∨ a.programId = b.programId ∧ a.reason < b.reason := by
      rw [List.pairwise_map]
      exact Std.TreeMap.ordered_keys_toList.imp compare_failureKey_lt_iff.mp
    refine (Tally.pairwise_mergeSort_of_pairwise (fun a b c hab hbc => ?_) (fun a b => ?_)
      hkeys).imp fun {a b} hab => ?_
    · simp only [decide_eq_true_eq] at hab hbc ⊢
      omega
    · simp only [Bool.or_eq_true, decide_eq_true_eq]
      omega
    · simp only [decide_eq_true_eq] at hab
      rcases Nat.lt_or_eq_of_le hab.1 with hlt | heq
      · exact .inl hlt
      · exact .inr ⟨heq.symm, hab.2 heq.ge⟩

/-! ## What the counters count -/

/-- The loop of the counters, from any counters on. -/
theorem foldl_countInstruction (instructions : List InstructionEvents)
    (counters : Nat × Nat × Nat) :
    instructions.foldl countInstruction counters =
      (counters.1 + instructions.length, counters.2.1 + instructions.countP isEvent,
        counters.2.2 + instructions.countP isTokenSwap) := by
  induction instructions generalizing counters with
  | nil => rfl
  | cons instruction instructions ih =>
      rcases counters with ⟨results, eventCount, tokenSwaps⟩
      rw [List.foldl_cons, ih, countInstruction, List.length_cons, List.countP_cons,
        List.countP_cons]
      refine Prod.ext ?_ (Prod.ext ?_ ?_)
      · simp only
        omega
      · cases isEvent instruction <;> simp [Nat.add_comm, Nat.add_left_comm]
      · cases isTokenSwap instruction <;> simp [Nat.add_comm, Nat.add_left_comm]

section Summary

variable (slot : UInt64) (block : Value) (events : BlockEvents) (parseDuration : Nat)

/-- What each counter of a summary counts. -/
theorem summarizeBlock_counts :
    (summarizeBlock slot block events parseDuration).results = (resultsOf events).length ∧
      (summarizeBlock slot block events parseDuration).events =
        (resultsOf events).countP isEvent ∧
      (summarizeBlock slot block events parseDuration).tokenSwaps =
        (resultsOf events).countP isTokenSwap := by
  have hcounters : (resultsOf events).foldl countInstruction (0, 0, 0) = _ :=
    foldl_countInstruction (resultsOf events) (0, 0, 0)
  simp only [Nat.zero_add] at hcounters
  unfold resultsOf at hcounters ⊢
  rw [summarizeBlock, hcounters]
  exact ⟨rfl, rfl, rfl⟩

/-- Failures are results without an event. -/
theorem summarizeBlock_failures :
    (summarizeBlock slot block events parseDuration).failures =
      (summarizeBlock slot block events parseDuration).results -
        (summarizeBlock slot block events parseDuration).events :=
  rfl

/-- An instruction has either an event or a failure. -/
theorem length_resultsOf :
    (resultsOf events).length = (resultsOf events).countP isEvent + (failures events).length := by
  have hfailures : (failures events).length = (resultsOf events).countP fun instruction =>
      ¬ isEvent instruction = true := by
    rw [← List.length_map Prod.fst, failures_map_fst, List.length_filterMap_eq_countP]
    congr 1
    funext instruction
    unfold failureKey isEvent
    cases instruction.result <;> rfl
  rw [hfailures, List.length_eq_countP_add_countP isEvent]

/-- A swap is an event. -/
theorem countP_isTokenSwap_le :
    (resultsOf events).countP isTokenSwap ≤ (resultsOf events).countP isEvent := by
  refine List.countP_mono_left fun instruction _ hswap => ?_
  unfold isTokenSwap at hswap
  unfold isEvent
  split at hswap
  · next hresult => rw [hresult]
  · cases hswap

/-- The reports count every failure once. -/
theorem sum_counts_parseFailureReports :
    ((parseFailureReports events).map ParseFailureReport.count).sum = (failures events).length := by
  rw [((parseFailureReports_perm events).map _).sum_eq, List.map_map]
  exact Tally.sum_counts_toList Prod.fst Prod.snd (failures events)

/-- The swaps that the saver looks at are those that the summary counts. -/
theorem length_swapEntries :
    (swapEntries events).length = (resultsOf events).countP isTokenSwap := by
  rw [swapEntries, resultsOf, List.length_flatMap, List.countP_flatMap]
  congr 2
  funext transaction
  rw [swapsOf, List.length_filterMap_eq_countP]
  congr 1
  funext instruction
  unfold swapOf isTokenSwap
  cases instruction.result with
  | error failure => rfl
  | ok event => cases event <;> rfl

end Summary

/-- A parsed block has an output for at most each of its transactions. -/
theorem length_transactions_le {crates : Crates} {registry : ParserRegistry} {block : Value}
    {events : BlockEvents} (hparse : parseBlock crates registry block = .ok events)
    (slot : UInt64) (parseDuration : Nat) :
    events.transactions.length ≤
      (summarizeBlock slot block events parseDuration).blockTransactions := by
  rcases parseBlock_eq_ok hparse with ⟨entries, headers, hentries, hheaders, hevents⟩
  have hlength : entries.length = headers.length := by
    rw [← List.length_map readTransaction, hheaders, List.length_map]
  have hblock : (summarizeBlock slot block events parseDuration).blockTransactions =
      (((block.get "transactions").bind Value.asArray).map List.length).getD 0 := rfl
  rw [hblock, hentries, Option.map_some, Option.getD_some, hlength, hevents, transactionsEvents]
  exact (List.length_filterMap_le _ _).trans_eq List.length_zipIdx

/-- Without the swaps that it passes over, the saver stores every swap of a block. -/
theorem stored_add_ignored {env : Environment} {events : BlockEvents} {tables tables' : Tables}
    {count : Nat} (hsave : saveBlockEvents env events tables = .ok count tables') :
    count + ((swapEntries events).countP fun entry => entry.WithoutWrappedSol) =
      (resultsOf events).countP isTokenSwap := by
  rcases saveBlockEvents_eq_ok hsave with ⟨prices, hcollect, rfl, -⟩
  have hstored := (collectTokenPairPrices_eq_ok_iff.mp hcollect).length_eq
  rw [keptEntries_eq, storedSwaps, ← List.countP_eq_length_filter] at hstored
  rw [← hstored, ← length_swapEntries, Nat.add_comm]
  rw [List.length_eq_countP_add_countP fun entry : SwapEntry => decide entry.WithoutWrappedSol]
  simp only [decide_eq_true_eq]

/-- Reports, counters and stored prices account for every result of a parsed block. -/
theorem failureReports_account {crates : Crates} {registry : ParserRegistry} {block : Value}
    {events : BlockEvents} (hparse : parseBlock crates registry block = .ok events)
    (slot : UInt64) (parseDuration : Nat) :
    Reported events (parseFailureReports events) ∧
      ((parseFailureReports events).map ParseFailureReport.count).sum =
        (summarizeBlock slot block events parseDuration).failures ∧
      (summarizeBlock slot block events parseDuration).results =
        (summarizeBlock slot block events parseDuration).events +
          (summarizeBlock slot block events parseDuration).failures ∧
      (summarizeBlock slot block events parseDuration).tokenSwaps ≤
        (summarizeBlock slot block events parseDuration).events ∧
      (summarizeBlock slot block events parseDuration).parsedTransactions ≤
        (summarizeBlock slot block events parseDuration).blockTransactions ∧
      ∀ env tables savedPrices tables',
        saveBlockEvents env events tables = .ok savedPrices tables' →
        savedPrices + ((swapEntries events).countP fun entry => entry.WithoutWrappedSol) =
          (summarizeBlock slot block events parseDuration).tokenSwaps := by
  rcases summarizeBlock_counts slot block events parseDuration with
    ⟨hresults, hevents, htokenSwaps⟩
  have hlength := length_resultsOf events
  have hfailures : (summarizeBlock slot block events parseDuration).failures =
      (failures events).length := by
    rw [summarizeBlock_failures, hresults, hevents]
    omega
  refine ⟨parseFailureReports_reported events, ?_, ?_, ?_, length_transactions_le hparse _ _, ?_⟩
  · rw [sum_counts_parseFailureReports, hfailures]
  · rw [hresults, hevents, hfailures, hlength]
  · rw [htokenSwaps, hevents]
    exact countP_isTokenSwap_le events
  · intro env tables savedPrices tables' hsave
    rw [htokenSwaps]
    exact stored_add_ignored hsave

/-- Three failures of two kinds in two transactions, beside an event. -/
def failingBlock : Value :=
  TestSupport.block [
    TestSupport.transaction "first" [TestSupport.testProgramId] [] []
      [TestSupport.instruction 0 [] [2] 1, TestSupport.instruction 0 [] [3] 1] [] .null,
    TestSupport.transaction "second" [TestSupport.testProgramId] [] []
      [TestSupport.instruction 0 [] [1] 1, TestSupport.instruction 0 [] [2] 1] [] .null]

/-- The counts of the failing block add up to its three failures. -/
theorem failureReports_account_failingBlock :
    ∃ events, parseBlock TestSupport.crates TestSupport.registry failingBlock = .ok events ∧
      ((parseFailureReports events).map ParseFailureReport.count).sum = 3 ∧
      ∀ report ∈ parseFailureReports events, report.count =
        (resultsOf events).countP fun instruction => failureKey instruction = some report.key := by
  obtain ⟨events, hparse⟩ : ∃ events,
      parseBlock TestSupport.crates TestSupport.registry failingBlock = .ok events := ⟨_, rfl⟩
  rcases failureReports_account hparse 0 0 with ⟨hreported, hsum, -⟩
  refine ⟨events, hparse, ?_, hreported.counted⟩
  rw [hsum]
  obtain rfl := Except.ok.inj hparse
  rfl

end StandaloneIndexer
end PumpRealtimePrices