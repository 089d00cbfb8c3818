import PumpRealtimePrices.Parser.Acceptance
import PumpRealtimePrices.Parser.Completeness
import PumpRealtimePrices.Parser.Config
import PumpRealtimePrices.Parser.TestSupport

/-!
# The visual inspector

A command line tool that prints what the parsers report of one transaction.  The transaction
is loaded from a directory of samples, where its file is named by its signature, and it is
parsed with a single protocol.

The environment and the file system are parameters: what loading each path gives.

Main results:

- Theorem {lit}`run_isOk_iff`: which command lines are answered.
- Theorem {lit}`showsUsage_iff`: what a failed run prints, and when it prints the usage.
- Theorem {lit}`run_congr`: the only files that matter.
- Theorem {lit}`run_eq_of_parseBlock`: what is printed is what a block parser of the same
  protocol reports of the transaction.
-/

namespace PumpRealtimePrices
namespace VisualInspector

open PumpRealtimePrices.Parser SerdeJson

/-! ## Errors -/

/-- Error of loading a transaction, with the text of its cause. -/
inductive TransactionLoaderError where
  | io (message : String)
  | json (message : String)
deriving DecidableEq, Repr

def TransactionLoaderError.display : TransactionLoaderError → String
  | .io message => s!"I/O error: {message}"
  | .json message => s!"JSON error: {message}"

/-- Error of the inspector. -/
inductive InspectorError where
  | arguments (message : String)
  | config (error : ConfigTextError)
  | loadFixture (path : String) (source : TransactionLoaderError)
  | invalidResponse (message : String)
  | signatureMismatch (expected actual : String)
  | registry (error : RegistryError)
  | parse (error : TransactionParseError)
deriving DecidableEq, Repr

namespace InspectorError

/-- Whether the usage line is printed after the error. -/
def showsUsage : InspectorError → Bool
  | arguments _ | config _ => true
  | _ => false

def display : InspectorError → String
  | arguments message => message
  | config error => "invalid protocol: " ++ error.display
  | loadFixture path source =>
      s!"failed to load transaction fixture {path}: " ++ source.display
  | invalidResponse message => s!"invalid RPC response: {message}"
  | signatureMismatch expected actual =>
      s!"transaction fixture signature mismatch: expected {expected}, found {actual}"
  | registry error => "failed to build parser registry: " ++ error.display
  | parse error => "failed to parse transaction: " ++ error.display

end InspectorError

/-! ## Arguments -/

/-- The transaction and the protocol of a command line. -/
structure TransactionCommand where
  signature : String
  protocol : String
deriving DecidableEq, Repr

/-- A signature is the Base58 text of 64 bytes. -/
def validateSignature (crates : Crates) (signature : String) : Except InspectorError Unit := do
  let bytes ← (crates.bs58Decode signature).mapError fun error =>
    .arguments s!"invalid transaction signature: {error}"
  if bytes.length ≠ 64 then
    let found := bytes.length
    throw (.arguments
      s!"invalid transaction signature: expected 64 decoded bytes, found {found}")

/-- Read a command line without the name of the program. -/
def parseArgs (crates : Crates) (args : List String) : Except InspectorError TransactionCommand :=
  let missing := .error (.arguments "transaction mode requires a signature and protocol name")
  match args with
  | [] => missing
  | mode :: rest =>
      if mode ≠ "transaction" then
        .error (.arguments
          s!"unsupported inspection mode {mode}; supported mode: transaction")
      else
        match rest with
        | [signature, protocol] => do
            validateSignature crates signature
            return { signature, protocol }
        | _ => missing

/-! ## Output -/

/-- Lines of one event or failure. -/
def renderResult : Except InstructionParseFailure ParsedEvent → String
  | .ok (.tokenDiscovery event) =>
      "  event=token_discovery\n" ++
        "  mint=" ++ event.mint ++ "\n" ++
        "  creator=" ++ event.creator ++ "\n" ++
        "  name=" ++ event.name ++ "\n" ++
        "  symbol=" ++ event.symbol ++ "\n" ++
        "  uri=" ++ event.uri ++ "\n"
  | .ok (.tokenSwap event) =>
      "  event=token_swap\n" ++
        "  user=" ++ event.user ++ "\n" ++
        "  pool=" ++ event.pool ++ "\n" ++
        "  input_mint=" ++ event.inputMint ++ "\n" ++
        "  input_amount=" ++ toString event.inputAmount ++ "\n" ++
        "  output_mint=" ++ event.outputMint ++ "\n" ++
        "  output_amount=" ++ toString event.outputAmount ++ "\n"
  | .error failure =>
      "  failure_program=" ++ failure.programId.getD "unknown" ++ "\n" ++
        "  failure=" ++ failure.error.display ++ "\n"

/-- Lines of one reported instruction. -/
def renderInstruction (instruction : InstructionEvents) : String :=
  let executionOrdinal := instruction.executionOrdinal
  let outerIndex := instruction.outerInstructionIndex
  let innerIndex := (instruction.innerInstructionIndex.map toString).getD "none"
  let stackHeight := (instruction.stackHeight.map toString).getD "none"
  let programId := instruction.programId.getD "unknown"
  s!"[{executionOrdinal}] outer={outerIndex} inner={innerIndex} stack_height={stackHeight} " ++
    s!"program={programId}\n" ++ renderResult instruction.result

/-- Output for a transaction, or for one without anything to report. -/
def renderTransaction (signature protocol : String) (transaction : Option TransactionEvents) :
    String :=
  let head := "Transaction: " ++ signature ++ "\n" ++ "Protocol: " ++ protocol ++ "\n"
  match transaction with
  | none => head ++ "Results: 0\nNo events or parse failures detected.\n"
  | some transaction =>
      head ++ "Results: " ++ toString transaction.instructions.length ++ "\n" ++
        String.join (transaction.instructions.map renderInstruction)

/-! ## The inspector -/

/-- File of a transaction. -/
def fixturePath (workspaceRoot signature : String) : String :=
  Rust.joinPath (Rust.joinPath workspaceRoot "sample_data") (signature ++ ".json.gz")

/-- Value at the pointer {lit}`/transaction/signatures/0`, where the last token is a place of
an array or a field of an object. -/
def fixtureSignature (transaction : Value) : Option Value :=
  (transaction.pointer ["transaction", "signatures"]).bind fun
    | .array elements => elements.head?
    | .object fields => Map.get fields "0"
    | _ => none

/-- The only configured protocol. -/
def selectProtocol (config : ParserConfig) : Except InspectorError ParserName :=
  match config.parsers with
  | [name] => .ok name
  | _ => .error (.arguments "transaction mode requires exactly one protocol name")

/-- Run the inspector. -/
def run (crates : Crates) (environment : ProcessEnvironment)
    (loadGzipJsonFile : String → Except TransactionLoaderError Value) (workspaceRoot : String)
    (args : List String) : Except InspectorError String := do
  let command ← parseArgs crates args
  let config ← (ParserConfig.resolve environment (some command.protocol)).mapError .config
  let name ← selectProtocol config
  let registry ← (ParserRegistry.fromConfig crates config).mapError .registry
  let path := fixturePath workspaceRoot command.signature
  let response ← (loadGzipJsonFile path).mapError (.loadFixture path)
  let transaction ← Rust.okOr (.invalidResponse "result must contain a transaction object")
    ((response.get "result").filter fun result => ¬ result.isNull)
  let signature ← Rust.okOr
    (.invalidResponse "result.transaction.signatures[0] must be a string")
    ((fixtureSignature transaction).bind Value.asStr)
  if signature ≠ command.signature then
    throw (.signatureMismatch command.signature signature)
  let events ← (parseTransaction crates registry transaction 0).mapError .parse
  return renderTransaction command.signature name.asStr events

def usage : String :=
  "Usage: visual-inspector transaction <signature> <protocol>"

/-- What the process writes to its two streams, and whether it succeeds. -/
structure Exit where
  stdout : String
  stderr : String
  success : Bool
deriving DecidableEq, Repr

def main (crates : Crates) (environment : ProcessEnvironment)
    (loadGzipJsonFile : String → Except TransactionLoaderError Value) (workspaceRoot : String)
    (args : List String) : Exit :=
  match run crates environment loadGzipJsonFile workspaceRoot args with
  | .ok output => { stdout := output, stderr := "", success := true }
  | .error error =>
      let line := "error: " ++ error.display ++ "\n"
      { stdout := ""
        stderr := if error.showsUsage then line ++ usage ++ "\n" else line
        success := false }

/-! ## What the process prints -/

section Printed

variable {crates : Crates} {environment : ProcessEnvironment}
  {load : String → Except TransactionLoaderError Value} {workspaceRoot : String}
  {args : List String}

/-- An answer is all that the process prints. -/
theorem main_of_ok {output : String}
    (hrun : run crates environment load workspaceRoot args = .ok output) :
    main crates environment load workspaceRoot args =
      { stdout := output, stderr := "", success := true } := by
  rw [main, hrun]

/-- An error is printed in a line of its own, which the usage may follow. -/
theorem main_of_error {error : InspectorError}
    (hrun : run crates environment load workspaceRoot args = .error error) :
    main crates environment load workspaceRoot args = {
      stdout := ""
      stderr := "error: " ++ error.display ++ "\n" ++
        if error.showsUsage then usage ++ "\n" else ""
      success := false } := by
  rw [main, hrun]
  by_cases husage : error.showsUsage = true
  · simp only [husage, if_true, String.append_assoc]
  · simp only [husage, Bool.false_eq_true, if_false, String.append_empty]

end Printed

/-! ## Command lines -/

/-- A signature is valid exactly when it is the Base58 text of 64 bytes. -/
theorem validateSignature_eq_ok_iff {crates : Crates} {signature : String} :
    validateSignature crates signature = .ok () ↔
      ∃ bytes, crates.bs58Decode signature = .ok bytes ∧ bytes.length = 64 := by
  rw [validateSignature, Rust.except_bind_eq_ok_iff]
  simp only [Rust.mapError_eq_ok_iff]
  constructor
  · rintro ⟨bytes, hdecode, hlength⟩
    by_cases hbytes : bytes.length = 64
    · exact ⟨bytes, hdecode, hbytes⟩
    · simp only [ne_eq, hbytes, not_false_eq_true, if_true] at hlength
      cases hlength
  · rintro ⟨bytes, hdecode, hbytes⟩
    refine ⟨bytes, hdecode, ?_⟩
    rw [hbytes]
    rfl

/-- A command line is accepted exactly when it is the transaction mode with a valid
signature and a protocol. -/
theorem parseArgs_eq_ok_iff {crates : Crates} {args : List String}
    {command : TransactionCommand} :
    parseArgs crates args = .ok command ↔
      args = ["transaction", command.signature, command.protocol] ∧
        ∃ bytes, crates.bs58Decode command.signature = .ok bytes ∧ bytes.length = 64 := by
  rcases args with _ | ⟨mode, _ | ⟨signature, _ | ⟨protocol, _ | ⟨extra, rest⟩⟩⟩⟩
  · simp [parseArgs]
  · simp only [parseArgs]
    split <;> simp
  · simp only [parseArgs]
    split <;> simp
  · rcases command with ⟨signature', protocol'⟩
    by_cases hmode : mode = "transaction"
    · simp only [parseArgs, hmode, ne_eq, not_true_eq_false, if_false,
        Rust.check_bind_eq_ok_iff, validateSignature_eq_ok_iff, pure, Except.pure,
        Except.ok.injEq, TransactionCommand.mk.injEq, List.cons.injEq, true_and, and_true]
      constructor
      · rintro ⟨hdecode, rfl, rfl⟩
        exact ⟨⟨rfl, rfl⟩, hdecode⟩
      · rintro ⟨⟨rfl, rfl⟩, hdecode⟩
        exact ⟨hdecode, rfl, rfl⟩
    · simp [parseArgs, hmode]
  · simp only [parseArgs]
    split <;> simp

section Runs

variable {crates : Crates} {environment : ProcessEnvironment}
  {load : String → Except TransactionLoaderError Value} {workspaceRoot : String}

/-- The file of a signature holds this transaction. -/
structure IsFixture (crates : Crates) (load : String → Except TransactionLoaderError Value)
    (workspaceRoot signature : String) (transaction : Value) : Prop where
  decode : ∃ bytes, crates.bs58Decode signature = .ok bytes ∧ bytes.length = 64
  result : ∃ response, load (fixturePath workspaceRoot signature) = .ok response ∧
    response.get "result" = some transaction
  signature_eq : fixtureSignature transaction = some (.string signature)

/-- A transaction that is found is parsed with the protocol of the command line. -/
theorem run_of_isFixture {signature protocol : String} {transaction : Value}
    {name : ParserName} {registry : ParserRegistry}
    (hfixture : IsFixture crates load workspaceRoot signature transaction)
    (hprotocol : Spells [name] protocol)
    (hregistry : ParserRegistry.fromConfig crates (ParserConfig.single name) = .ok registry) :
    run crates environment load workspaceRoot ["transaction", signature, protocol] =
      ((parseTransaction crates registry transaction 0).mapError .parse).map
        (renderTransaction signature name.asStr) := by
  rcases hfixture.result with ⟨response, hload, hresult⟩
  have hargs : parseArgs crates ["transaction", signature, protocol] =
      .ok { signature, protocol } :=
    parseArgs_eq_ok_iff.mpr ⟨rfl, hfixture.decode⟩
  have hconfig : ParserConfig.parse protocol = .ok (ParserConfig.single name) :=
    (ParserConfig.parse_eq_ok_iff protocol (ParserConfig.single name)).mpr hprotocol
  have hnull : transaction.isNull = false := by
    cases transaction with
    | null => cases hfixture.signature_eq
    | _ => rfl
  rw [run, hargs]
  simp only [ParserConfig.resolve, hconfig, Except.mapError, Rust.ok_bind, ParserConfig.single,
    pure, Except.pure] at hregistry ⊢
  simp only [hregistry, hload, hresult, Rust.ok_bind, Rust.okOr, Option.filter_some, hnull,
    Bool.false_eq_true, not_false_eq_true, decide_true, if_true]
  rw [hfixture.signature_eq]
  simp only [Option.bind_some, Value.asStr, Rust.ok_bind, ne_eq, not_true_eq_false, if_false]
  rcases parseTransaction crates registry transaction 0 with defect | events <;> rfl

/-- The protocol and the transaction of a command line that is answered. -/
theorem isFixture_of_run {args : List String} {output : String}
    (hrun : run crates environment load workspaceRoot args = .ok output) :
    ∃ signature protocol name transaction, args = ["transaction", signature, protocol] ∧
      Spells [name] protocol ∧ IsFixture crates load workspaceRoot signature transaction := by
  rw [run] at hrun
  simp only [Rust.except_bind_eq_ok_iff, Rust.mapError_eq_ok_iff, Rust.okOr_eq_ok_iff,
    Rust.throw_if_eq_ok_iff] at hrun
  rcases hrun with ⟨command, hargs, config, hconfig, name, hname, registry, -, response, hload,
    transaction, hresult, signature, hsignature, hmatches, -⟩
  rcases parseArgs_eq_ok_iff.mp hargs with ⟨rfl, hdecode⟩
  have hparsers : config.parsers = [name] := by
    unfold selectProtocol at hname
    split at hname
    · next only heq => rw [heq, Except.ok.inj hname]
    · cases hname
  have hspells := (ParserConfig.parse_eq_ok_iff command.protocol config).mp hconfig
  rw [hparsers] at hspells
  have hsignature : fixtureSignature transaction = some (.string command.signature) := by
    rcases Option.bind_eq_some_iff.mp hsignature with ⟨value, hvalue, hstring⟩
    rw [hvalue]
    cases value with
    | string found =>
        rcases Option.some.inj hstring with rfl
        rw [not_not.mp hmatches]
    | _ => cases hstring
  exact ⟨command.signature, command.protocol, name, transaction, rfl, hspells, hdecode,
    ⟨response, hload, (Option.filter_eq_some_iff.mp hresult).1⟩, hsignature⟩

/-- The inspector answers exactly when the command line names a signature and one protocol,
and the file of the signature holds an acceptable transaction of that signature. -/
theorem run_isOk_iff (crates : Crates) (environment : ProcessEnvironment)
    (load : String → Except TransactionLoaderError Value) (workspaceRoot : String)
    (args : List String) :
    (∃ output, run crates environment load workspaceRoot args = .ok output) ↔
      ∃ signature protocol name transaction, args = ["transaction", signature, protocol] ∧
        Spells [name] protocol ∧ IsFixture crates load workspaceRoot signature transaction ∧
        Acceptable transaction := by
  constructor
  · rintro ⟨output, hrun⟩
    rcases isFixture_of_run hrun with
      ⟨signature, protocol, name, transaction, rfl, hprotocol, hfixture⟩
    refine ⟨signature, protocol, name, transaction, rfl, hprotocol, hfixture, ?_⟩
    rcases ParserRegistry.fromConfig_eq_ok crates (ParserConfig.single name) with
      ⟨registry, hregistry, -⟩
    rw [run_of_isFixture hfixture hprotocol hregistry] at hrun
    rcases Rust.map_isOk_iff.mp ⟨output, hrun⟩ with ⟨events, hevents⟩
    rw [Rust.mapError_eq_ok_iff, parseTransaction_eq] at hevents
    exact readTransaction_isOk_iff.mp (Rust.map_isOk_iff.mp ⟨events, hevents⟩)
  · rintro ⟨signature, protocol, name, transaction, rfl, hprotocol, hfixture, hacceptable⟩
    rcases ParserRegistry.fromConfig_eq_ok crates (ParserConfig.single name) with
      ⟨registry, hregistry, -⟩
    rcases readTransaction_isOk_iff.mpr hacceptable with ⟨header, hread⟩
    rw [run_of_isFixture hfixture hprotocol hregistry, parseTransaction_eq, hread]
    exact ⟨_, rfl⟩

end Runs

/-! ## Usage -/

section Usage

variable {crates : Crates} {environment : ProcessEnvironment}
  {load : String → Except TransactionLoaderError Value} {workspaceRoot : String}
  {args : List String} {error : InspectorError}

/-- An error of the signature shows the usage. -/
theorem showsUsage_of_validateSignature {signature : String}
    (hvalidate : validateSignature crates signature = .error error) : error.showsUsage = true := by
  rw [validateSignature, Rust.except_bind_eq_error_iff] at hvalidate
  rcases hvalidate with hdecode | ⟨bytes, -, hlength⟩
  · rcases Rust.mapError_eq_error_iff.mp hdecode with ⟨message, -, rfl⟩
    rfl
  · split at hlength
    · rcases Except.error.inj hlength with rfl
      rfl
    · cases hlength

/-- An error of the command line shows the usage. -/
theorem showsUsage_of_parseArgs (hargs : parseArgs crates args = .error error) :
    error.showsUsage = true := by
  unfold parseArgs at hargs
  split at hargs
  · rcases Except.error.inj hargs with rfl
    rfl
  · split at hargs
    · rcases Except.error.inj hargs with rfl
      rfl
    · split at hargs
      · rw [Rust.except_bind_eq_error_iff] at hargs
        rcases hargs with hvalidate | ⟨done, -, hpure⟩
        · exact showsUsage_of_validateSignature hvalidate
        · cases hpure
      · rcases Except.error.inj hargs with rfl
        rfl

/-- Up to the loading of the file a run meets the command line only, and each of its errors
shows the usage. -/
theorem run_cases (crates : Crates) (environment : ProcessEnvironment) (workspaceRoot : String)
    (args : List String) :
    (∃ error, error.showsUsage = true ∧
      ∀ load, run crates environment load workspaceRoot args = .error error) ∨
    ∃ path, ∀ load,
      (∀ source, load path = .error source →
        run crates environment load workspaceRoot args = .error (.loadFixture path source)) ∧
      ∀ error, run crates environment load workspaceRoot args = .error error →
        error.showsUsage = false := by
  unfold run
  rcases hargs : parseArgs crates args with error | command
  · exact .inl ⟨error, showsUsage_of_parseArgs hargs, fun _ => rfl⟩
  simp only [Rust.ok_bind]
  rcases hconfig : ParserConfig.resolve environment (some command.protocol) with error | config
  · exact .inl ⟨.config error, rfl, fun _ => rfl⟩
  simp only [Except.mapError, Rust.ok_bind]
  rcases hname : selectProtocol config with error | name
  · refine .inl ⟨error, ?_, fun _ => rfl⟩
    unfold selectProtocol at hname
    split at hname
    · cases hname
    · rcases Except.error.inj hname with rfl
      rfl
  rcases ParserRegistry.fromConfig_eq_ok crates config with ⟨registry, hregistry, -⟩
  simp only [hregistry, Rust.ok_bind]
  refine .inr ⟨fixturePath workspaceRoot command.signature, fun load => ⟨?_, ?_⟩⟩
  · intro source hload
    rw [hload]
    rfl
  · intro error herror
    rw [Rust.except_bind_eq_error_iff] at herror
    rcases herror with hload | ⟨response, -, herror⟩
    · rcases Rust.mapError_eq_error_iff.mp hload with ⟨source, -, rfl⟩
      rfl
    rw [Rust.except_bind_eq_error_iff] at herror
    rcases herror with hresult | ⟨transaction, -, herror⟩
    · rcases Rust.okOr_eq_error_iff.mp hresult with ⟨-, rfl⟩
      rfl
    rw [Rust.except_bind_eq_error_iff] at herror
    rcases herror with hsignature | ⟨signature, -, herror⟩
    · rcases Rust.okOr_eq_error_iff.mp hsignature with ⟨-, rfl⟩
      rfl
    split at herror
    · rcases Except.error.inj herror with rfl
      rfl
    rw [Rust.except_bind_eq_error_iff] at herror
    rcases herror with hparse | ⟨events, -, hpure⟩
    · rcases Rust.mapError_eq_error_iff.mp hparse with ⟨source, -, rfl⟩
      rfl
    · cases hpure

/-- The errors that show the usage are those that no file could change. -/
theorem showsUsage_eq_true_iff
    (hrun : run crates environment load workspaceRoot args = .error error) :
    error.showsUsage = true ↔
      ∀ load', run crates environment load' workspaceRoot args = .error error := by
  rcases run_cases crates environment workspaceRoot args with
    ⟨found, husage, hfound⟩ | ⟨path, hpath⟩
  · rw [hfound] at hrun
    rcases Except.error.inj hrun with rfl
    exact ⟨fun _ => hfound, fun _ => husage⟩
  · rw [(hpath load).2 error hrun]
    constructor
    · intro husage
      cases husage
    · intro hall
      have hdenied := (hpath fun _ => .error (.io "denied")).1 _ rfl
      have hmissing := (hpath fun _ => .error (.io "missing")).1 _ rfl
      rw [hall] at hdenied hmissing
      rw [Except.error.inj hdenied] at hmissing
      exact absurd hmissing (by simp)

/-- A failed run prints its error on the second stream and nothing on the first.  The usage
follows exactly where no file could change how the run ends. -/
theorem showsUsage_iff (hrun : run crates environment load workspaceRoot args = .error error) :
    (error.showsUsage = true ↔
        ∀ load', run crates environment load' workspaceRoot args = .error error) ∧
      ∃ tail, main crates environment load workspaceRoot args = {
          stdout := ""
          stderr := "error: " ++ error.display ++ "\n" ++ tail
          success := false } ∧
        (tail = usage ++ "\n" ∧
            (∀ load', run crates environment load' workspaceRoot args = .error error) ∨
          tail = "" ∧
            ¬ ∀ load', run crates environment load' workspaceRoot args = .error error) := by
  have husage := showsUsage_eq_true_iff hrun
  refine ⟨husage, _, main_of_error hrun, ?_⟩
  rw [← husage]
  by_cases hshows : error.showsUsage = true
  · exact .inl ⟨if_pos hshows, hshows⟩
  · exact .inr ⟨if_neg hshows, hshows⟩

end Usage

/-- Without a protocol the usage is printed whatever the files hold. -/
theorem showsUsage_iff_withoutProtocol :
    (InspectorError.arguments
        "transaction mode requires a signature and protocol name").showsUsage = true ∧
      (∀ load, run TestSupport.crates ⟨.notFound, .notPresent⟩ load "/workspace" ["transaction"] =
        .error (.arguments "transaction mode requires a signature and protocol name")) ∧
      main TestSupport.crates ⟨.notFound, .notPresent⟩ (fun _ => .error (.io "denied"))
          "/workspace" ["transaction"] = {
        stdout := ""
        stderr := "error: transaction mode requires a signature and protocol name\n" ++
          "Usage: visual-inspector transaction <signature> <protocol>\n"
        success := false } := by
  have hrun : run TestSupport.crates ⟨.notFound, .notPresent⟩ (fun _ => .error (.io "denied"))
      "/workspace" ["transaction"] =
        .error (.arguments "transaction mode requires a signature and protocol name") := rfl
  rcases showsUsage_iff hrun with ⟨hshows, tail, hmain, ⟨rfl, hall⟩ | ⟨-, hnot⟩⟩
  · exact ⟨rfl, hall, hmain.trans (by decide +kernel)⟩
  · exact absurd (hshows.mp rfl) hnot

/-! ## Files -/

/-- No symbol of Base58 is a slash. -/
theorem slash_ne_symbol (digit : Nat) : Base58.symbol digit ≠ '/' := by
  have hall : Base58.alphabet.all (· != '/') = true := rfl
  rw [Base58.symbol, List.getD_eq_getElem?_getD]
  cases hget : Base58.alphabet[digit]? with
  | none => decide
  | some c => exact bne_iff_ne.mp (List.all_eq_true.mp hall c (List.mem_of_getElem? hget))

/-- A Base58 text has no slash. -/
theorem slash_not_mem_encode (bytes : Borsh.Bytes) : '/' ∉ (Base58.encode bytes).toList := by
  rw [Base58.encode, String.toList_ofList]
  intro hmem
  rcases List.mem_map.mp hmem with ⟨digit, -, hsymbol⟩
  exact slash_ne_symbol digit hsymbol

/-- Neither the environment nor a file outside of the directory of samples can change what
the inspector answers, whatever it is given as a signature. -/
theorem run_congr {crates : Crates} (hcrates : crates.Documented)
    (environment environment' : ProcessEnvironment)
    {load load' : String → Except TransactionLoaderError Value} (workspaceRoot : String)
    (hload : ∀ name : String, '/' ∉ name.toList →
      load (Rust.joinPath (Rust.joinPath workspaceRoot "sample_data") (name ++ ".json.gz")) =
        load' (Rust.joinPath (Rust.joinPath workspaceRoot "sample_data") (name ++ ".json.gz")))
    (args : List String) :
    run crates environment load workspaceRoot args =
      run crates environment' load' workspaceRoot args := by
  rw [run, run]
  rcases hargs : parseArgs crates args with error | command
  · rfl
  · rcases parseArgs_eq_ok_iff.mp hargs with ⟨-, bytes, hdecode, -⟩
    have hsignature := (hcrates.bs58Decode_eq_ok_iff command.signature bytes).mp hdecode
    have hpath : load (fixturePath workspaceRoot command.signature) =
        load' (fixturePath workspaceRoot command.signature) :=
      hload command.signature (hsignature ▸ slash_not_mem_encode bytes)
    simp only [Rust.ok_bind, hpath, ParserConfig.resolve]

/-! ## The block parser -/

/-- The output of a block at one place. -/
theorem find?_transactionsEvents (crates : Crates) (registry : ParserRegistry)
    (headers : List (Option TransactionHeader)) (index : Nat) :
    (transactionsEvents crates registry 0 headers).find? (fun events =>
        events.transactionIndex = index) =
      headers[index]?.bind fun header => header.bind fun header =>
        transactionEvents crates registry header index := by
  cases hfind : (transactionsEvents crates registry 0 headers).find? fun events =>
      events.transactionIndex = index with
  | none =>
      rw [eq_comm, Option.eq_none_iff_forall_ne_some]
      intro events hevents
      rcases Option.bind_eq_some_iff.mp hevents with ⟨header, hheader, hevents⟩
      rcases Option.bind_eq_some_iff.mp hevents with ⟨header, rfl, hevents⟩
      have hindex : events.transactionIndex = index :=
        (transactionEvents_eq_some_iff.mp hevents).2.2.1
      have hmem : events ∈ transactionsEvents crates registry 0 headers := by
        rw [mem_transactionsEvents, hindex]
        exact ⟨header, hheader, hevents⟩
      exact absurd (by simpa using hindex) (List.find?_eq_none.mp hfind events hmem)
  | some events =>
      have hindex : events.transactionIndex = index := by simpa using List.find?_some hfind
      rcases mem_transactionsEvents.mp (List.mem_of_find?_eq_some hfind) with
        ⟨header, hheader, hevents⟩
      rw [hindex] at hheader hevents
      rw [hheader, Option.bind_some, Option.bind_some, hevents]

/-- What is rendered does not depend on the index of the transaction. -/
theorem renderTransaction_shift (signature protocol : String) (offset : Nat)
    (events : Option TransactionEvents) :
    renderTransaction signature protocol (events.map (TransactionEvents.shift offset)) =
      renderTransaction signature protocol events := by
  cases events <;> rfl

/-- Wherever a block holds the transaction, a block parser of the same protocol reports of it
what the inspector prints, and the inspector prints nothing else. -/
theorem run_eq_of_parseBlock {crates : Crates} (environment : ProcessEnvironment)
    {load : String → Except TransactionLoaderError Value}
    {workspaceRoot signature protocol : String} {transaction : Value} {name : ParserName}
    {registry : ParserRegistry} {block : Value} {entries : List Value} {index : Nat}
    {events : BlockEvents}
    (hfixture : IsFixture crates load workspaceRoot signature transaction)
    (hprotocol : Spells [name] protocol)
    (hregistry : ParserRegistry.fromConfig crates (ParserConfig.single name) = .ok registry)
    (hblock : block.get "transactions" = some (.array entries))
    (hentry : entries[index]? = some transaction)
    (hparse : parseBlock crates registry block = .ok events) :
    run crates environment load workspaceRoot ["transaction", signature, protocol] =
        .ok (renderTransaction signature name.asStr
          (events.transactions.find? fun events => events.transactionIndex = index)) ∧
      main crates environment load workspaceRoot ["transaction", signature, protocol] = {
        stdout := renderTransaction signature name.asStr
          (events.transactions.find? fun events => events.transactionIndex = index)
        stderr := ""
        success := true } := by
  have hrun : run crates environment load workspaceRoot ["transaction", signature, protocol] =
      .ok (renderTransaction signature name.asStr
        (events.transactions.find? fun events => events.transactionIndex = index)) := by
    rcases parseBlock_eq_ok hparse with ⟨entries', headers, hentries, hheaders, hevents⟩
    rw [hblock] at hentries
    rcases Option.some.inj hentries with rfl
    have hread : (entries.map readTransaction)[index]? = (headers.map .ok)[index]? := by
      rw [hheaders]
    rw [List.getElem?_map, List.getElem?_map, hentry, Option.map_some, eq_comm,
      Option.map_eq_some_iff] at hread
    rcases hread with ⟨header, hheader, hread⟩
    rw [run_of_isFixture hfixture hprotocol hregistry, parseTransaction_eq, ← hread, hevents,
      find?_transactionsEvents, hheader, Option.bind_some]
    cases header with
    | none => rfl
    | some header =>
        have hshift := transactionEvents_shift crates registry header index 0
        rw [Nat.add_zero] at hshift
        rw [Option.bind_some, hshift, renderTransaction_shift]
        rfl
  exact ⟨hrun, main_of_ok hrun⟩

/-! ## A sample -/

def sampleSignature : String :=
  Base58.encode (List.replicate 64 0)

/-- A transaction with one instruction, which names no program. -/
def sampleTransaction : Value :=
  TestSupport.transaction sampleSignature [] [] [] [.object []] [] .null

def sampleEvents : TransactionEvents where
  signature := sampleSignature
  transactionIndex := 1
  tokenDecimals := ∅
  instructions := [instructionFailure none 0 none none 0
    (.invalidField "programIdIndex" "an unsigned integer")]

def sampleRegistry : ParserRegistry :=
  ParserRegistry.empty.insert (Pumpfun.parser TestSupport.crates)

/-- A directory in which every file holds the sample. -/
def loadSample (_ : String) : Except TransactionLoaderError Value :=
  .ok (.object [("result", sampleTransaction)])

/-- The sample is the fixture of its signature. -/
theorem isFixture_sample :
    IsFixture TestSupport.crates loadSample "/workspace" sampleSignature sampleTransaction where
  decode := ⟨List.replicate 64 0,
    (TestSupport.crates_documented.bs58Decode_eq_ok_iff _ _).mpr rfl, List.length_replicate⟩
  result := ⟨_, rfl, rfl⟩
  signature_eq := rfl

private theorem spells_pumpfun : Spells [.pumpFun] " pumpfun" :=
  ⟨[" pumpfun"], .cons ⟨" ", "", rfl, rfl, by decide⟩ .nil, by decide⟩

/-- The sample at place 1 of a block. -/
theorem run_eq_of_parseBlock_sample :
    run TestSupport.crates ⟨.notFound, .notPresent⟩ loadSample "/workspace"
        ["transaction", sampleSignature, " pumpfun"] =
        .ok (renderTransaction sampleSignature "pumpfun"
          ([sampleEvents].find? fun events => events.transactionIndex = 1)) ∧
      main TestSupport.crates ⟨.notFound, .notPresent⟩ loadSample "/workspace"
          ["transaction", sampleSignature, " pumpfun"] = {
        stdout := renderTransaction sampleSignature "pumpfun"
          ([sampleEvents].find? fun events => events.transactionIndex = 1)
        stderr := ""
        success := true } :=
  run_eq_of_parseBlock ⟨.notFound, .notPresent⟩ isFixture_sample spells_pumpfun
    (rfl : ParserRegistry.fromConfig TestSupport.crates (ParserConfig.single .pumpFun) =
      .ok sampleRegistry)
    (rfl : (TestSupport.block [.object [("meta", .object [("err", .bool true)])],
      sampleTransaction]).get "transactions" = _) rfl rfl

/-- The files below the directory of samples, without the others. -/
def loadBelowSamples (path : String) : Except TransactionLoaderError Value :=
  if "/workspace/sample_data/".toList <+: path.toList then loadSample path
  else .error (.io "permission denied")

/-- A signature that climbs out of the directory gains nothing from the files there. -/
theorem run_congr_sample :
    run TestSupport.crates ⟨.notFound, .notPresent⟩ loadSample "/workspace"
        ["transaction", "../../etc/secret", "pumpfun"] =
      run TestSupport.crates ⟨.failed "permission denied", .notUnicode⟩ loadBelowSamples
        "/workspace" ["transaction", "../../etc/secret", "pumpfun"] := by
  refine run_congr TestSupport.crates_documented _ _ "/workspace" ?_ _
  intro name hname
  have hdirectory : Rust.joinPath "/workspace" "sample_data" = "/workspace/sample_data" := by
    decide
  have hrelative : (name ++ ".json.gz").toList.head? ≠ some '/' := by
    rw [String.toList_append, List.head?_append]
    cases hhead : name.toList.head? with
    | none => decide
    | some c =>
        rw [Option.some_or, ne_eq, Option.some.injEq]
        rintro rfl
        exact hname (List.mem_of_head? hhead)
  rw [hdirectory, Rust.joinPath_of_relative hrelative ⟨'a', by decide, by decide⟩,
    loadBelowSamples, if_pos]
  rw [String.toList_append]
  exact ⟨(name ++ ".json.gz").toList, rfl⟩

end VisualInspector
end PumpRealtimePrices
