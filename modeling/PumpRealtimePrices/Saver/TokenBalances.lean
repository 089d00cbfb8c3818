import PumpRealtimePrices.Parser.Acceptance
import PumpRealtimePrices.Saver.Constraints

/-!
# Decimals and token balances

A price needs the decimals of both mints, and the only place to find them is the token
balances that the transaction of the swap lists before and after its execution.  A mint may
be listed many times, and a balance may be malformed.  What counts is the last well-formed
balance of the mint; only wrapped SOL can do without one.

One swap with an unknown mint costs the prices of its whole block.

Main results:

- Theorem {lit}`getElem?_tokenDecimals_of_read`: the decimals that a header holds.
- Theorem {lit}`collect_of_parseBlock`: the decimals of every collected price, or the first
  swap of the block without them.
- Theorem {lit}`settled_or_refused`: the same for a block that is saved.
-/

namespace PumpRealtimePrices
namespace Saver

open PumpRealtimePrices.Parser SerdeJson

/-! ## Balances of a transaction -/

/-- Well-formed balances of a transaction, those before its execution first. -/
def listedBalances (entry : Value) : List (String × UInt8) :=
  ["preTokenBalances", "postTokenBalances"].flatMap fun field =>
    (((entry.pointer ["meta", field]).bind Value.asArray).getD []).filterMap readTokenBalance

/-- Decimals of the last well-formed balance of a mint. -/
def reportedDecimals (entry : Value) (mint : String) : Option UInt8 :=
  (LastWrite.lastOf Prod.fst mint (listedBalances entry)).map Prod.snd

/-- The last balance of a mint gives its decimals. -/
theorem getElem?_foldl_insert (balances : List (String × UInt8)) (decimals : TokenDecimals)
    (mint : String) :
    (balances.foldl (fun decimals entry => decimals.insert entry.1 entry.2) decimals)[mint]? =
      ((LastWrite.lastOf Prod.fst mint balances).map Prod.snd).or decimals[mint]? := by
  induction balances generalizing decimals with
  | nil => rfl
  | cons balance balances ih =>
      rw [List.foldl_cons, ih, LastWrite.lastOf_cons, Std.TreeMap.getElem?_insert]
      cases LastWrite.lastOf Prod.fst mint balances with
      | some last => rfl
      | none => by_cases hmint : balance.1 = mint <;> simp [hmint]

/-- Whatever order the balances come in, a header holds the last one of each mint. -/
theorem getElem?_tokenDecimals_of_read {entry : Value} {header : TransactionHeader}
    (hread : readTransaction entry = .ok (some header)) (mint : String) :
    header.tokenDecimals[mint]? = reportedDecimals entry mint := by
  rcases readTransaction_eq_ok_some_iff.mp hread with
    ⟨metadata, -, -, hmetadata, -, -, -, -, -, -, -, hdecimals⟩
  rw [← hdecimals, resolveTokenDecimals, reportedDecimals, listedBalances]
  simp only [List.foldl_cons, List.foldl_nil, List.flatMap_cons, List.flatMap_nil, List.append_nil,
    getElem?_foldl_insert, pointer_pair_of_asObject hmetadata, LastWrite.lastOf_append]
  rw [Std.TreeMap.getElem?_emptyc, Option.or_none]
  cases LastWrite.lastOf Prod.fst mint
    ((((metadata.get "postTokenBalances").bind Value.asArray).getD []).filterMap
      readTokenBalance) <;> rfl

/-! ## Decimals in a block -/

/-- Decimals of a mint that a transaction of the block settles. -/
def mintDecimals (block : Value) (transactionIndex : Nat) (mint : String) : Option UInt8 :=
  (((block.get "transactions").bind Value.asArray).bind fun entries =>
    entries[transactionIndex]?.bind fun entry => reportedDecimals entry mint).or
      (if mint = wrappedSolMint then some wrappedSolDecimals else none)

/-- Decimals that a price of the transaction is computed with. -/
theorem tokenDecimals_of_parse {crates : Crates} {registry : ParserRegistry} {block : Value}
    {events : BlockEvents} (hparse : parseBlock crates registry block = .ok events)
    {transaction : TransactionEvents} (hmem : transaction ∈ events.transactions) (mint : String) :
    tokenDecimals transaction.tokenDecimals mint =
      Rust.okOr (.missingTokenDecimals mint)
        (mintDecimals block transaction.transactionIndex mint) := by
  rcases exists_header_of_transaction hparse hmem with
    ⟨entries, entry, header, hentries, hentry, hread, hevents⟩
  rw [tokenDecimals, mintDecimals, hentries, Option.bind_some, hentry, Option.bind_some,
    (transactionEvents_eq_some_iff.mp hevents).2.2.2.1, getElem?_tokenDecimals_of_read hread]

/-! ## Prices of a block -/

/-- Both mints of a swap have decimals. -/
def SwapEntry.Known (block : Value) (entry : SwapEntry) : Prop :=
  ∀ mint ∈ [entry.swap.inputMint, entry.swap.outputMint],
    (mintDecimals block entry.transaction.transactionIndex mint).isSome

instance (block : Value) : DecidablePred (SwapEntry.Known block) := fun entry =>
  inferInstanceAs (Decidable (∀ mint ∈ [entry.swap.inputMint, entry.swap.outputMint],
    (mintDecimals block entry.transaction.transactionIndex mint).isSome))

/-- A price has the decimals of its two mints. -/
structure SettledPrice (block : Value) (entry : SwapEntry) (price : TokenPairPrice) : Prop where
  base : mintDecimals block entry.transaction.transactionIndex price.baseTokenAddress =
    some price.baseTokenDecimals
  quote : mintDecimals block entry.transaction.transactionIndex price.quoteTokenAddress =
    some price.quoteTokenDecimals

/-- A swap has a price with the decimals of its mints, or an unknown mint. -/
def SwapEntry.Decided (block : Value) (entry : SwapEntry) : Prop :=
  (entry.Known block ∧ ∃ price, entry.price = .ok price ∧ SettledPrice block entry price) ∨
    ∃ mint ∈ [entry.swap.inputMint, entry.swap.outputMint],
      mintDecimals block entry.transaction.transactionIndex mint = none ∧
      entry.price = .error (.missingTokenDecimals mint)

/-- Collecting passes over the ignored swaps. -/
theorem collectPrices_filter (entries : List SwapEntry) :
    collectPrices entries = collectPrices (entries.filter fun entry => ¬ entry.Ignored) := by
  induction entries with
  | nil => rfl
  | cons entry entries ih =>
      by_cases hignored : entry.Ignored
      · have hprice : entry.price = .error .pumpfunSwapWithoutWrappedSol := hignored
        rw [List.filter_cons_of_neg (by simpa using hignored), collectPrices, hprice]
        exact ih
      · rw [List.filter_cons_of_pos (by simpa using hignored), collectPrices, collectPrices, ih]

/-- Collecting stops at the first swap with an unknown mint. -/
theorem collectPrices_of_decided {block : Value} {entries : List SwapEntry}
    (hdecided : ∀ entry ∈ entries, entry.Decided block) :
    ((∀ entry ∈ entries, entry.Known block) ∧ ∃ prices, collectPrices entries = .ok prices ∧
      List.Forall₂ (SettledPrice block) entries prices) ∨
    ∃ before entry after, entries = before ++ entry :: after ∧
      (∀ other ∈ before, other.Known block) ∧
      ∃ mint ∈ [entry.swap.inputMint, entry.swap.outputMint],
        mintDecimals block entry.transaction.transactionIndex mint = none ∧
        collectPrices entries = .error (.missingTokenDecimals mint) := by
  induction entries with
  | nil => exact .inl ⟨by simp, [], rfl, .nil⟩
  | cons entry entries ih =>
      have hentry := hdecided entry List.mem_cons_self
      have hrest := ih fun other hother => hdecided other (List.mem_cons_of_mem entry hother)
      rw [collectPrices]
      rcases hentry with ⟨hknown, price, hprice, hsettled⟩ | ⟨mint, hmint, hnone, hprice⟩
      · rw [hprice]
        rcases hrest with
          ⟨hall, prices, hprices, hrest⟩ |
          ⟨before, found, after, rfl, hbefore, mint, hmint, hnone, herror⟩
        · refine .inl ⟨List.forall_mem_cons.mpr ⟨hknown, hall⟩, price :: prices, ?_,
            .cons hsettled hrest⟩
          rw [hprices]
          rfl
        · refine .inr ⟨entry :: before, found, after, rfl,
            List.forall_mem_cons.mpr ⟨hknown, hbefore⟩, mint, hmint, hnone, ?_⟩
          rw [herror]
          rfl
      · refine .inr ⟨[], entry, entries, rfl, by simp, mint, hmint, hnone, ?_⟩
        rw [hprice]

section Blocks

variable {crates : Crates} {config : ParserConfig} {registry : ParserRegistry} {block : Value}
  {events : BlockEvents} {entry : SwapEntry}

/-- The sides of a stored swap can be told. -/
theorem exists_sides_of_stored (hcrates : crates.Documented)
    (hregistry : ParserRegistry.fromConfig crates config = .ok registry)
    (hparse : parseBlock crates registry block = .ok events)
    (hentry : entry ∈ storedSwaps events) :
    ∃ programId kind sides, entry.instruction.programId = some programId ∧
      liquidityProviderKind programId = .ok kind ∧ sidesOf entry.swap kind = .ok sides := by
  rcases exists_source_of_stored hcrates hregistry hparse hentry with
    ⟨context, -, hprogram, hsource⟩
  cases hsource with
  | trade event hpumpfun _ _ =>
      rw [hpumpfun] at hprogram
      refine ⟨Pumpfun.programId, .bondingCurve, ?_⟩
      cases hsides : sidesOf entry.swap .bondingCurve with
      | ok sides => exact ⟨sides, hprogram, liquidityProviderKind_pumpfun, rfl⟩
      | error error =>
          have hwithout : entry.WithoutWrappedSol :=
            ⟨hprogram, (bondingCurveSides_eq_error hsides).2⟩
          exact absurd hwithout (by simpa using (List.mem_filter.mp hentry).2)
  | buy parent event hpumpswap _ _ _ hswap =>
      rw [hpumpswap] at hprogram
      exact ⟨_, .amm, _, hprogram, liquidityProviderKind_pumpswap, ammSides_of_buy hswap⟩
  | sell parent event hpumpswap _ _ _ hswap =>
      rw [hpumpswap] at hprogram
      exact ⟨_, .amm, _, hprogram, liquidityProviderKind_pumpswap, ammSides_of_sell hswap⟩

/-- Only its decimals decide about a stored swap. -/
theorem decided_of_stored (hcrates : crates.Documented)
    (hregistry : ParserRegistry.fromConfig crates config = .ok registry)
    (hparse : parseBlock crates registry block = .ok events)
    (hentry : entry ∈ storedSwaps events) : entry.Decided block := by
  rcases exists_sides_of_stored hcrates hregistry hparse hentry with
    ⟨programId, kind, sides, hprogram, hkind, hsides⟩
  have hdecimals := tokenDecimals_of_parse hparse
    (mem_swapEntries.mp (List.mem_filter.mp hentry).1).1
  have hmints : ∀ mint, mint ∈ [entry.swap.inputMint, entry.swap.outputMint] ↔
      mint = sides.baseTokenAddress ∨ mint = sides.quoteTokenAddress := by
    intro mint
    rw [List.mem_pair]
    rcases sidesOf_eq_ok hsides with rfl | rfl
    · exact Iff.rfl
    · exact or_comm
  rw [SwapEntry.Decided, SwapEntry.Known]
  simp only [hmints]
  rw [SwapEntry.price, tokenPairPrice_of_sides hprogram hkind, hsides, Rust.ok_bind, hdecimals,
    hdecimals]
  cases hbase : mintDecimals block entry.transaction.transactionIndex sides.baseTokenAddress with
  | none => exact .inr ⟨_, .inl rfl, hbase, rfl⟩
  | some baseDecimals =>
      cases hquote : mintDecimals block entry.transaction.transactionIndex
          sides.quoteTokenAddress with
      | none => exact .inr ⟨_, .inr rfl, hquote, rfl⟩
      | some quoteDecimals =>
          refine .inl ⟨?_, _, rfl, hbase, hquote⟩
          rintro mint (rfl | rfl)
          · rw [hbase]
            rfl
          · rw [hquote]
            rfl

/-- Every collected price has the decimals that its transaction reports, and collecting fails
at the first stored swap with an unknown mint. -/
theorem collect_of_parseBlock (hcrates : crates.Documented)
    (hregistry : ParserRegistry.fromConfig crates config = .ok registry)
    (hparse : parseBlock crates registry block = .ok events) :
    ((∀ entry ∈ storedSwaps events, entry.Known block) ∧
      ∃ prices, collectTokenPairPrices events = .ok prices ∧
        List.Forall₂ (SettledPrice block) (storedSwaps events) prices) ∨
    ∃ before entry after, storedSwaps events = before ++ entry :: after ∧
      (∀ other ∈ before, other.Known block) ∧
      ∃ mint ∈ [entry.swap.inputMint, entry.swap.outputMint],
        mintDecimals block entry.transaction.transactionIndex mint = none ∧
        collectTokenPairPrices events = .error (.missingTokenDecimals mint) := by
  rw [collectTokenPairPrices_eq, collectPrices_filter, ← keptEntries, keptEntries_eq]
  exact collectPrices_of_decided fun entry hentry =>
    decided_of_stored hcrates hregistry hparse hentry

/-- Every price of a block is computed with the decimals that its transaction reports; or else
one mint is unknown, and nothing of the block is saved. -/
theorem settled_or_refused (hcrates : crates.Documented)
    (hregistry : ParserRegistry.fromConfig crates config = .ok registry)
    (hparse : parseBlock crates registry block = .ok events) :
    ((∀ entry ∈ storedSwaps events, entry.Known block) ∧
      ∃ prices, collectTokenPairPrices events = .ok prices ∧
        List.Forall₂ (SettledPrice block) (storedSwaps events) prices) ∨
    ∃ before entry after, storedSwaps events = before ++ entry :: after ∧
      (∀ other ∈ before, other.Known block) ∧
      ∃ mint ∈ [entry.swap.inputMint, entry.swap.outputMint],
        mintDecimals block entry.transaction.transactionIndex mint = none ∧
        collectTokenPairPrices events = .error (.missingTokenDecimals mint) ∧
        ∀ env tables,
          saveBlockEvents env events tables = .error (.missingTokenDecimals mint) tables := by
  rcases collect_of_parseBlock hcrates hregistry hparse with
    hsettled | ⟨before, entry, after, hsplit, hbefore, mint, hmint, hnone, hcollect⟩
  · exact .inl hsettled
  · refine .inr ⟨before, entry, after, hsplit, hbefore, mint, hmint, hnone, hcollect, ?_⟩
    intro env tables
    rw [saveBlockEvents, hcollect]
    rfl

end Blocks

/-- The price of a sell, with the decimals that its balances list. -/
theorem settled_or_refused_sell :
    ∃ prices,
      collectTokenPairPrices (sellEvents TestSupport.crates [sellOf 1 10 20]) = .ok prices ∧
      List.Forall₂ (SettledPrice (TestSupport.block [(sellOf 1 10 20).entry TestSupport.crates]))
        (storedSwaps (sellEvents TestSupport.crates [sellOf 1 10 20])) prices := by
  have hcrates := TestSupport.crates_documented
  rcases settled_or_refused hcrates (fromConfig_pumpSwap TestSupport.crates)
    (parseBlock_sellEvents hcrates [sellOf 1 10 20]) with
    ⟨-, hsettled⟩ | ⟨_, _, _, -, -, _, -, -, hcollect, -⟩
  · exact hsettled
  · rw [collect_sells hcrates] at hcollect
    cases hcollect

end Saver
end PumpRealtimePrices
