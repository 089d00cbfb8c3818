import PumpRealtimePrices.Saver.DatabaseConfig
import PumpRealtimePrices.StandaloneIndexer.Runs

/-!
# Startup

Before its first session the indexer installs a TLS provider, loads {lit}`.env`, reads the
endpoint, builds the block parser and connects the saver.  The first of these steps that
fails ends the process with one line on the standard error stream.

The endpoint carries an API key at its end, and the variables of the databases carry
passwords.  Whatever the process meets later, what leaves it tells of the endpoint only the
length and all but the last six characters, and nothing of those variables.

Main results:

- Theorem {lit}`start_eq_ok_iff`: when the indexer starts, and with which parsers.
- Theorem {lit}`redactEndpoint_eq_iff`: what a redacted endpoint tells of the endpoint.
- Theorem {lit}`main_eq_iff`: what the output of the process tells of its secrets.
-/

namespace PumpRealtimePrices
namespace StandaloneIndexer

open PumpRealtimePrices.Parser PumpRealtimePrices.Saver SerdeJson EventLoop

/-! ## Errors -/

/-- Why the indexer does not start. -/
inductive IndexerError where
  | dotenv (message : String)
  | missingWebSocketUrl
  | nonUnicodeWebSocketUrl
  | parser (error : ParserInitError)
  | saver (error : SaverInitError)
  | tlsProvider
deriving DecidableEq, Repr

def IndexerError.display (databaseErrorToString : DatabaseError → String) :
    IndexerError → String
  | .dotenv message => s!"failed to load .env: {message}"
  | .missingWebSocketUrl => "SOLANA_WS_URL is not configured"
  | .nonUnicodeWebSocketUrl => "SOLANA_WS_URL is not valid Unicode"
  | .parser error => s!"failed to initialize block parser: {error.display}"
  | .saver error => s!"failed to initialize saver: {error.display databaseErrorToString}"
  | .tlsProvider => "failed to configure the Rustls crypto provider"

/-! ## Startup -/

/-- Third-party functions of the indexer. -/
structure Dependencies where
  crates : Crates
  fromStr : String → Except String Value
  valueToString : Value → String
  databaseErrorToString : DatabaseError → String

/-- What the indexer meets while it starts: the outcomes of installing the TLS provider, of
loading {lit}`.env` and of connecting to PostgreSQL, and the variables of its environment.
The block parser loads {lit}`.env` once more. -/
structure Startup where
  tlsProvider : Bool
  dotenv : DotenvOutcome
  vars : Variables
  parserDotenv : DotenvOutcome
  connected : Except DatabaseError Unit

namespace Startup

def loadDotenv (startup : Startup) : Except IndexerError Unit :=
  match startup.dotenv with
  | .loaded | .notFound => .ok ()
  | .failed message => .error (.dotenv message)

def websocketUrl (startup : Startup) : Except IndexerError String :=
  match startup.vars "SOLANA_WS_URL" with
  | .value url => .ok url
  | .notPresent => .error .missingWebSocketUrl
  | .notUnicode => .error .nonUnicodeWebSocketUrl

/-- What the block parser finds. -/
def process (startup : Startup) : ProcessEnvironment where
  dotenv := startup.parserDotenv
  parsers := startup.vars "PARSERS"

/-- Connect the saver that the environment configures. -/
def saver (startup : Startup) : Except SaverInitError Unit := do
  let _ ← DatabaseConfig.fromEnv startup.vars
  startup.connected.mapError .database

end Startup

variable (dependencies : Dependencies)

/-- Everything that comes before the first session. -/
def start (startup : Startup) : Except IndexerError Indexer := do
  if ¬ startup.tlsProvider then
    throw .tlsProvider
  startup.loadDotenv
  let websocketUrl ← startup.websocketUrl
  let registry ← (BlockParser.fromEnv dependencies.crates startup.process).mapError .parser
  startup.saver.mapError .saver
  return {
    websocketUrl := websocketUrl
    crates := dependencies.crates
    registry := registry
    fromStr := dependencies.fromStr
    valueToString := dependencies.valueToString
    databaseErrorToString := dependencies.databaseErrorToString }

/-- The process: the line with which it exits, or what it has stored and written after some
sessions. -/
def main (startup : Startup) (sessions : List Session) (world : World) : Except String World :=
  match start dependencies startup with
  | .error error => .error s!"error: {error.display dependencies.databaseErrorToString}"
  | .ok indexer => .ok (indexer.run sessions world)

/-! ## When the indexer starts -/

section Start

variable {startup : Startup}

/-- The environment file is loaded unless reading it fails. -/
theorem loadDotenv_eq_ok_iff {done : Unit} :
    startup.loadDotenv = .ok done ↔ ∀ message, startup.dotenv ≠ .failed message := by
  rw [Startup.loadDotenv]
  cases startup.dotenv <;> simp

/-- The endpoint is the value of its variable. -/
theorem websocketUrl_eq_ok_iff {url : String} :
    startup.websocketUrl = .ok url ↔ startup.vars "SOLANA_WS_URL" = .value url := by
  rw [Startup.websocketUrl]
  cases startup.vars "SOLANA_WS_URL" <;> simp

/-- The saver starts exactly when its configuration is spelled out and the database is
reached. -/
theorem saver_eq_ok_iff {done : Unit} :
    startup.saver = .ok done ↔
      (∃ config : DatabaseConfig, config.SpelledBy startup.vars) ∧ startup.connected = .ok () := by
  simp only [Startup.saver, Rust.except_bind_eq_ok_iff, Rust.mapError_eq_ok_iff,
    DatabaseConfig.fromEnv_eq_ok_iff, exists_and_right]

/-- The indexer starts with the endpoint and the parsers of its environment, once everything
is in place. -/
theorem start_eq_ok_iff {indexer : Indexer} :
    start dependencies startup = .ok indexer ↔
      startup.tlsProvider = true ∧ (∀ message, startup.dotenv ≠ .failed message) ∧
        startup.vars "SOLANA_WS_URL" = .value indexer.websocketUrl ∧
        BlockParser.fromEnv dependencies.crates startup.process = .ok indexer.registry ∧
        (∃ config : DatabaseConfig, config.SpelledBy startup.vars) ∧
        startup.connected = .ok () ∧
        dependencies = ⟨indexer.crates, indexer.fromStr, indexer.valueToString,
          indexer.databaseErrorToString⟩ := by
  simp only [start, Rust.throw_if_eq_ok_iff, Rust.except_bind_eq_ok_iff, Rust.mapError_eq_ok_iff,
    loadDotenv_eq_ok_iff, websocketUrl_eq_ok_iff, saver_eq_ok_iff, pure, Except.pure,
    Except.ok.injEq, not_not]
  constructor
  · rintro ⟨htls, -, hdotenv, url, hurl, registry, hregistry, -, ⟨hconfig, hconnected⟩, rfl⟩
    exact ⟨htls, hdotenv, hurl, hregistry, hconfig, hconnected, rfl⟩
  · rintro ⟨htls, hdotenv, hurl, hregistry, hconfig, hconnected, rfl⟩
    exact ⟨htls, ⟨⟩, hdotenv, _, hurl, _, hregistry, ⟨⟩, ⟨hconfig, hconnected⟩, rfl⟩

end Start

/-! ## Redacted endpoints -/

/-- The last six characters of an endpoint are hidden. -/
theorem toList_redactEndpoint (endpoint : String) :
    (redactEndpoint endpoint).toList =
      endpoint.toList.take (endpoint.length - 6) ++
        List.replicate (endpoint.length - (endpoint.length - 6)) '*' := by
  rw [redactEndpoint, String.toList_append, String.toList_ofList, String.toList_ofList]

/-- A redacted endpoint is as long as the endpoint. -/
theorem length_toList_redactEndpoint (endpoint : String) :
    (redactEndpoint endpoint).toList.length = endpoint.length := by
  rw [toList_redactEndpoint, List.length_append, List.length_take, List.length_replicate,
    String.length_toList]
  omega

/-- A redacted endpoint tells its length and all but its last six characters. -/
theorem redactEndpoint_eq_iff {endpoint endpoint' : String} :
    redactEndpoint endpoint = redactEndpoint endpoint' ↔
      endpoint.length = endpoint'.length ∧
        endpoint.toList.take (endpoint.length - 6) =
          endpoint'.toList.take (endpoint'.length - 6) := by
  constructor
  · intro heq
    have hlists := congrArg String.toList heq
    have hlength := congrArg List.length hlists
    rw [length_toList_redactEndpoint, length_toList_redactEndpoint] at hlength
    rw [toList_redactEndpoint, toList_redactEndpoint] at hlists
    refine ⟨hlength, (List.append_inj hlists ?_).1⟩
    rw [List.length_take, List.length_take, String.length_toList, String.length_toList, hlength]
  · rintro ⟨hlength, htake⟩
    rw [← String.toList_inj, toList_redactEndpoint, toList_redactEndpoint, htake, hlength]

/-! ## Secrets -/

/-- Variables of the databases that are taken as they are. -/
def hiddenVariables : List String :=
  ["DB_HOST", "DB_USERNAME", "DB_NAME", "DB_PASSWORD", "CLICKHOUSE_URL", "CLICKHOUSE_USERNAME",
    "CLICKHOUSE_DATABASE", "CLICKHOUSE_PASSWORD"]

/-- Whether a variable has a value, but not which. -/
def eraseValue : VarOutcome → VarOutcome
  | .value _ => .value ""
  | .notPresent => .notPresent
  | .notUnicode => .notUnicode

/-- Two startups that differ only in the endpoint and in the hidden variables. -/
structure Startup.Agrees (startup startup' : Startup) : Prop where
  tlsProvider : startup'.tlsProvider = startup.tlsProvider
  dotenv : startup'.dotenv = startup.dotenv
  parserDotenv : startup'.parserDotenv = startup.parserDotenv
  connected : startup'.connected = startup.connected
  hidden : ∀ name ∈ hiddenVariables,
    eraseValue (startup'.vars name) = eraseValue (startup.vars name)
  others : ∀ name, name ≠ "SOLANA_WS_URL" → name ∉ hiddenVariables →
    startup'.vars name = startup.vars name

section Secrets

variable {startup startup' : Startup}

/-- Whether a hidden variable has a defect is seen without its value. -/
theorem defectOf_of_agrees (hagrees : startup.Agrees startup') {name : String}
    (hname : name ∈ variableNames) :
    defectOf startup'.vars name = defectOf startup.vars name := by
  by_cases hhidden : name ∈ hiddenVariables
  · have herase := hagrees.hidden name hhidden
    have hport : name ≠ "DB_PORT" := by
      rintro rfl
      revert hhidden
      decide
    have hssl : name ≠ "DB_DISABLE_SSL" := by
      rintro rfl
      revert hhidden
      decide
    rw [defectOf, defectOf]
    cases hvar : startup.vars name <;> cases hvar' : startup'.vars name <;>
      simp_all [eraseValue]
  · have hne : name ≠ "SOLANA_WS_URL" := by
      rintro rfl
      revert hname
      decide
    rw [defectOf, defectOf, hagrees.others name hne hhidden]

/-- Startups that agree start the saver in the same way. -/
theorem saver_of_agrees (hagrees : startup.Agrees startup') : startup'.saver = startup.saver := by
  have hdefects : variableNames.findSome? (defectOf startup'.vars) =
      variableNames.findSome? (defectOf startup.vars) := by
    rw [← List.head?_filterMap, ← List.head?_filterMap,
      List.filterMap_congr fun name hname => defectOf_of_agrees hagrees hname]
  have herror : ∀ error, DatabaseConfig.fromEnv startup'.vars = .error error ↔
      DatabaseConfig.fromEnv startup.vars = .error error := by
    intro error
    rw [DatabaseConfig.fromEnv_eq_error_iff_findSome?, hdefects,
      ← DatabaseConfig.fromEnv_eq_error_iff_findSome?]
  rw [Startup.saver, Startup.saver, hagrees.connected]
  cases hconfig : DatabaseConfig.fromEnv startup.vars with
  | error error => rw [(herror error).mpr hconfig]
  | ok config =>
      cases hconfig' : DatabaseConfig.fromEnv startup'.vars with
      | error error =>
          rw [(herror error).mp hconfig'] at hconfig
          cases hconfig
      | ok config' => rfl

/-- The endpoint is all that an indexer keeps of what is secret. -/
theorem start_of_agrees (hagrees : startup.Agrees startup') {url url' : String}
    (hurl : startup.vars "SOLANA_WS_URL" = .value url)
    (hurl' : startup'.vars "SOLANA_WS_URL" = .value url') :
    start dependencies startup' =
      (start dependencies startup).map fun indexer => { indexer with websocketUrl := url' } := by
  have hprocess : startup'.process = startup.process := by
    rw [Startup.process, Startup.process, hagrees.parserDotenv,
      hagrees.others "PARSERS" (by decide) (by decide)]
  have hsaver := saver_of_agrees hagrees
  have hdotenv : startup'.loadDotenv = startup.loadDotenv := by
    rw [Startup.loadDotenv, Startup.loadDotenv, hagrees.dotenv]
  have hendpoint : startup.websocketUrl = .ok url := by
    rw [Startup.websocketUrl, hurl]
  have hendpoint' : startup'.websocketUrl = .ok url' := by
    rw [Startup.websocketUrl, hurl']
  unfold start
  rw [hagrees.tlsProvider, hdotenv, hendpoint, hendpoint', hprocess, hsaver]
  by_cases htls : startup.tlsProvider = true
  · simp only [htls, not_true_eq_false, if_false]
    cases startup.loadDotenv with
    | error error => rfl
    | ok done =>
        simp only [Rust.ok_bind]
        cases (BlockParser.fromEnv dependencies.crates startup.process).mapError
            IndexerError.parser with
        | error error => rfl
        | ok registry =>
            cases startup.saver.mapError IndexerError.saver with
            | error error => rfl
            | ok done => rfl
  · simp only [htls]
    rfl

variable (indexer : Indexer)

/-- Sessions show the endpoint only after it is redacted. -/
theorem run_of_redactEndpoint_eq {url' : String}
    (hredact : redactEndpoint url' = redactEndpoint indexer.websocketUrl)
    (sessions : List Session) (world : World) :
    ({ indexer with websocketUrl := url' } : Indexer).run sessions world =
      indexer.run sessions world := by
  have hsession : ({ indexer with websocketUrl := url' } : Indexer).receiveBlocks =
      indexer.receiveBlocks := by
    funext session
    unfold Indexer.receiveBlocks
    rw [hredact]
    rfl
  rw [Indexer.run, Indexer.run, hsession]

/-- The first line that an indexer writes is the redacted endpoint. -/
theorem getElem?_output_run {sessions : List Session} (hsessions : sessions ≠ []) (world : World) :
    (indexer.run sessions world).output[world.output.length]? =
      some (.stderr (.connecting (redactEndpoint indexer.websocketUrl))) := by
  cases sessions with
  | nil => exact absurd rfl hsessions
  | cons session sessions =>
      have hstarted : ∃ rest, indexer.startedSessions (session :: sessions) = session :: rest := by
        rw [Indexer.startedSessions]
        cases hstop : indexer.sessionStop session with
        | none => exact ⟨[], started_cons_of_none hstop sessions⟩
        | some reason => exact ⟨_, started_cons_of_some hstop sessions⟩
      rcases hstarted with ⟨rest, hrest⟩
      rw [Indexer.run_history, World.after, hrest, List.flatMap_cons, Indexer.transcript,
        Indexer.opening]
      simp

/-- The outputs of two processes that agree but for their secrets are the same exactly when
the processes do not start, run no session, or have endpoints that differ in nothing but
their last six characters. -/
theorem main_eq_iff (hagrees : startup.Agrees startup') {url url' : String}
    (hurl : startup.vars "SOLANA_WS_URL" = .value url)
    (hurl' : startup'.vars "SOLANA_WS_URL" = .value url') (sessions : List Session)
    (world : World) :
    main dependencies startup' sessions world = main dependencies startup sessions world ↔
      (∃ error, start dependencies startup = .error error) ∨ sessions = [] ∨
        (url'.length = url.length ∧
          url'.toList.take (url'.length - 6) = url.toList.take (url.length - 6)) := by
  rw [main, main, start_of_agrees dependencies hagrees hurl hurl', ← redactEndpoint_eq_iff]
  cases hstart : start dependencies startup with
  | error error => simp [Except.map]
  | ok indexer =>
      have hendpoint : indexer.websocketUrl = url := by
        rcases (start_eq_ok_iff dependencies).mp hstart with ⟨-, -, hvalue, -⟩
        exact VarOutcome.value.inj (hvalue.symm.trans hurl)
      simp only [Except.map, Except.ok.injEq, reduceCtorEq, exists_false, false_or]
      constructor
      · intro hrun
        by_cases hsessions : sessions = []
        · exact .inl hsessions
        · have hfirst := getElem?_output_run indexer hsessions world
          rw [← hrun, getElem?_output_run _ hsessions world] at hfirst
          rw [← hendpoint]
          exact .inr (Line.connecting.inj (Output.stderr.inj (Option.some.inj hfirst)))
      · rintro (rfl | hredact)
        · rfl
        · rw [← hendpoint] at hredact
          exact run_of_redactEndpoint_eq indexer hredact sessions world

end Secrets

/-! ## Two API keys -/

/-- Startup with an API key and a password. -/
def startupWith (url password : String) : Startup where
  tlsProvider := true
  dotenv := .notFound
  vars name :=
    if name = "SOLANA_WS_URL" then .value url
    else if name = "DB_PASSWORD" then .value password
    else if name = "PARSERS" then .value "pumpfun"
    else if name = "DB_PORT" then .value "5432"
    else if name = "DB_DISABLE_SSL" then .value "true"
    else .value "prices"
  parserDotenv := .notFound
  connected := .ok ()

/-- Startups agree whatever the key and the password. -/
theorem agrees_startupWith (url url' password password' : String) :
    (startupWith url password).Agrees (startupWith url' password') where
  tlsProvider := rfl
  dotenv := rfl
  parserDotenv := rfl
  connected := rfl
  hidden name hname := by
    have hne : name ≠ "SOLANA_WS_URL" := by
      rintro rfl
      revert hname
      decide
    simp only [startupWith, if_neg hne]
    by_cases hpassword : name = "DB_PASSWORD"
    · simp only [if_pos hpassword, eraseValue]
    · simp only [if_neg hpassword]
  others name hne hname := by
    have hpassword : name ≠ "DB_PASSWORD" := by
      rintro rfl
      revert hname
      decide
    simp only [startupWith, if_neg hne, if_neg hpassword]

def testDependencies : Dependencies where
  crates := TestSupport.crates
  fromStr _ := .error "expected value at line 1 column 1"
  valueToString _ := "null"
  databaseErrorToString _ := "error connecting to server"

/-- A session that is refused. -/
def refusedSession : Session where
  connectFailure := some "HTTP error: 401 Unauthorized"
  subscribeFailure := none
  turns := []

/-- Another key of the endpoint and another password make no difference to a refused
session. -/
theorem main_eq_iff_startupWith :
    (∃ indexer, start testDependencies (startupWith "wss://rpc.example/?key=abcdef" "old") =
      .ok indexer) ∧
    main testDependencies (startupWith "wss://rpc.example/?key=uvwxyz" "new") [refusedSession]
        ⟨.empty, []⟩ =
      main testDependencies (startupWith "wss://rpc.example/?key=abcdef" "old") [refusedSession]
        ⟨.empty, []⟩ :=
  ⟨⟨_, rfl⟩, (main_eq_iff testDependencies (agrees_startupWith _ _ _ _) rfl rfl _ _).mpr
    (.inr (.inr ⟨by decide, by decide⟩))⟩

end StandaloneIndexer
end PumpRealtimePrices
