import PumpRealtimePrices.Library.Text
import PumpRealtimePrices.Parser.Config
import PumpRealtimePrices.Saver.Prices

/-!
# Configuration of the databases

Ten variables say where the two databases are and who asks.  Eight of them are taken as
they are; the port is a number of 16 bits, and whether PostgreSQL is asked without TLS is
{lit}`true` or {lit}`false`.

Main results:

- Theorem {lit}`DatabaseConfig.fromEnv_eq_ok_iff`: which variables give a configuration.
- Theorem {lit}`DatabaseConfig.fromEnv_eq_error_iff`: every other environment is rejected for
  the first variable with a defect.
- Theorem {lit}`DatabaseConfig.fromEnv_toVariables`: a configuration that is written to the
  environment is read back.
-/

namespace PumpRealtimePrices
namespace Saver

open PumpRealtimePrices.Parser

/-! ## Errors -/

/-- Errors of connecting a saver.  The errors of a connected one are {lean}`SaverError`. -/
inductive SaverInitError where
  | missingEnvironmentVariable (name : String)
  | nonUnicodeEnvironmentVariable (name : String)
  | invalidPort
  | invalidDisableSsl
  | database (error : DatabaseError)
deriving DecidableEq, Repr

def SaverInitError.display (databaseErrorToString : DatabaseError → String) :
    SaverInitError → String
  | .missingEnvironmentVariable name => s!"{name} is not configured"
  | .nonUnicodeEnvironmentVariable name => s!"{name} is not valid Unicode"
  | .invalidPort => "DB_PORT must be a valid u16"
  | .invalidDisableSsl => "DB_DISABLE_SSL must be true or false"
  | .database error => s!"database operation failed: {databaseErrorToString error}"

/-! ## Configuration -/

structure DatabaseConfig where
  host : String
  port : UInt16
  username : String
  database : String
  password : String
  disableSsl : Bool
  clickhouseUrl : String
  clickhouseUsername : String
  clickhouseDatabase : String
  clickhousePassword : String
deriving DecidableEq, Repr

/-- {lit}`env::var`, variable by variable. -/
abbrev Variables := String → VarOutcome

def requiredEnv (vars : Variables) (name : String) : Except SaverInitError String :=
  match vars name with
  | .value text => .ok text
  | .notPresent => .error (.missingEnvironmentVariable name)
  | .notUnicode => .error (.nonUnicodeEnvironmentVariable name)

/-- {lit}`str::parse` of a {lit}`u16`. -/
def parsePort (text : String) : Option UInt16 :=
  (Rust.parseUnsigned UInt16.size text).map UInt16.ofNat

/-- {lit}`str::parse` of a {lit}`bool`. -/
def parseBool : String → Option Bool
  | "true" => some true
  | "false" => some false
  | _ => none

namespace DatabaseConfig

/-- Read a configuration from the environment. -/
def fromEnv (vars : Variables) : Except SaverInitError DatabaseConfig := do
  let port ← requiredEnv vars "DB_PORT" >>= fun text =>
    Rust.okOr .invalidPort (parsePort text)
  let disableSsl ← requiredEnv vars "DB_DISABLE_SSL" >>= fun text =>
    Rust.okOr .invalidDisableSsl (parseBool text)
  return {
    host := ← requiredEnv vars "DB_HOST"
    port := port
    username := ← requiredEnv vars "DB_USERNAME"
    database := ← requiredEnv vars "DB_NAME"
    password := ← requiredEnv vars "DB_PASSWORD"
    disableSsl := disableSsl
    clickhouseUrl := ← requiredEnv vars "CLICKHOUSE_URL"
    clickhouseUsername := ← requiredEnv vars "CLICKHOUSE_USERNAME"
    clickhouseDatabase := ← requiredEnv vars "CLICKHOUSE_DATABASE"
    clickhousePassword := ← requiredEnv vars "CLICKHOUSE_PASSWORD" }

/-- The environment spells a configuration. -/
structure SpelledBy (config : DatabaseConfig) (vars : Variables) : Prop where
  port : ∃ text, vars "DB_PORT" = .value text ∧ Rust.SpellsNumber text config.port.toNat
  disableSsl : vars "DB_DISABLE_SSL" = .value (toString config.disableSsl)
  host : vars "DB_HOST" = .value config.host
  username : vars "DB_USERNAME" = .value config.username
  database : vars "DB_NAME" = .value config.database
  password : vars "DB_PASSWORD" = .value config.password
  clickhouseUrl : vars "CLICKHOUSE_URL" = .value config.clickhouseUrl
  clickhouseUsername : vars "CLICKHOUSE_USERNAME" = .value config.clickhouseUsername
  clickhouseDatabase : vars "CLICKHOUSE_DATABASE" = .value config.clickhouseDatabase
  clickhousePassword : vars "CLICKHOUSE_PASSWORD" = .value config.clickhousePassword

end DatabaseConfig

/-! ## Defects -/

/-- What an error says about a variable. -/
inductive VariableDefect (vars : Variables) : String → SaverInitError → Prop
  | missing (name : String) (hname : vars name = .notPresent) :
      VariableDefect vars name (.missingEnvironmentVariable name)
  | nonUnicode (name : String) (hname : vars name = .notUnicode) :
      VariableDefect vars name (.nonUnicodeEnvironmentVariable name)
  | port (text : String) (htext : vars "DB_PORT" = .value text)
      (hport : ∀ port : UInt16, ¬ Rust.SpellsNumber text port.toNat) :
      VariableDefect vars "DB_PORT" .invalidPort
  | disableSsl (text : String) (htext : vars "DB_DISABLE_SSL" = .value text)
      (hdisableSsl : ∀ value : Bool, text ≠ toString value) :
      VariableDefect vars "DB_DISABLE_SSL" .invalidDisableSsl

/-- The variables, in the order in which they are read. -/
def variableNames : List String :=
  ["DB_PORT", "DB_DISABLE_SSL", "DB_HOST", "DB_USERNAME", "DB_NAME", "DB_PASSWORD",
    "CLICKHOUSE_URL", "CLICKHOUSE_USERNAME", "CLICKHOUSE_DATABASE", "CLICKHOUSE_PASSWORD"]

/-- Error of a variable. -/
def defectOf (vars : Variables) (name : String) : Option SaverInitError :=
  match vars name with
  | .notPresent => some (.missingEnvironmentVariable name)
  | .notUnicode => some (.nonUnicodeEnvironmentVariable name)
  | .value text =>
      if name = "DB_PORT" ∧ parsePort text = none then some .invalidPort
      else if name = "DB_DISABLE_SSL" ∧ parseBool text = none then some .invalidDisableSsl
      else none

/-! ## Variables -/

variable {vars : Variables}

/-- A required variable is read exactly from its value. -/
theorem requiredEnv_eq_ok_iff {name text : String} :
    requiredEnv vars name = .ok text ↔ vars name = .value text := by
  rw [requiredEnv]
  cases vars name <;> simp

/-- A port is read exactly from a text that spells it. -/
theorem parsePort_eq_some_iff {text : String} {port : UInt16} :
    parsePort text = some port ↔ Rust.SpellsNumber text port.toNat := by
  rw [parsePort, Option.map_eq_some_iff]
  constructor
  · rintro ⟨n, hparse, rfl⟩
    rcases Rust.parseUnsigned_eq_some_iff.mp hparse with ⟨hlt, hspells⟩
    rwa [UInt16.toNat_ofNat_of_lt' hlt]
  · intro hspells
    refine ⟨port.toNat, Rust.parseUnsigned_eq_some_iff.mpr ⟨port.toNat_lt_size, hspells⟩, ?_⟩
    exact UInt16.ofNat_toNat

/-- A truth value is read exactly from its own text. -/
theorem parseBool_eq_some_iff {text : String} {value : Bool} :
    parseBool text = some value ↔ text = toString value := by
  constructor
  · intro hparse
    unfold parseBool at hparse
    split at hparse
    · rcases Option.some.inj hparse with rfl
      rfl
    · rcases Option.some.inj hparse with rfl
      rfl
    · cases hparse
  · rintro rfl
    cases value <;> rfl

/-- A text is no port exactly when it spells none. -/
theorem parsePort_eq_none_iff {text : String} :
    parsePort text = none ↔ ∀ port : UInt16, ¬ Rust.SpellsNumber text port.toNat := by
  rw [Option.eq_none_iff_forall_ne_some]
  exact forall_congr' fun _ => parsePort_eq_some_iff.not

/-- A text is no truth value exactly when it is the text of none. -/
theorem parseBool_eq_none_iff {text : String} :
    parseBool text = none ↔ ∀ value : Bool, text ≠ toString value := by
  rw [Option.eq_none_iff_forall_ne_some]
  exact forall_congr' fun _ => parseBool_eq_some_iff.not

/-- The defect of a variable is the one that is listed for it. -/
theorem defectOf_eq_some_iff {name : String} {error : SaverInitError} :
    defectOf vars name = some error ↔ VariableDefect vars name error := by
  constructor
  · intro hdefect
    unfold defectOf at hdefect
    split at hdefect
    · next hname =>
        cases hdefect
        exact .missing name hname
    · next hname =>
        cases hdefect
        exact .nonUnicode name hname
    · next text htext =>
        split at hdefect
        · next hport =>
            rcases hport with ⟨rfl, hnone⟩
            cases hdefect
            exact .port text htext (parsePort_eq_none_iff.mp hnone)
        · split at hdefect
          · next hssl =>
              rcases hssl with ⟨rfl, hnone⟩
              cases hdefect
              exact .disableSsl text htext (parseBool_eq_none_iff.mp hnone)
          · cases hdefect
  · intro hdefect
    cases hdefect with
    | missing _ hname => rw [defectOf, hname]
    | nonUnicode _ hname => rw [defectOf, hname]
    | port text htext hport =>
        rw [defectOf, htext]
        exact if_pos ⟨rfl, parsePort_eq_none_iff.mpr hport⟩
    | disableSsl text htext hdisableSsl =>
        simp [defectOf, htext, parseBool_eq_none_iff.mpr hdisableSsl]

/-! ## Whole configurations -/

namespace DatabaseConfig

/-- Exactly the environments that spell a configuration are read as it. -/
theorem fromEnv_eq_ok_iff {config : DatabaseConfig} :
    fromEnv vars = .ok config ↔ config.SpelledBy vars := by
  simp only [fromEnv, Rust.except_bind_eq_ok_iff, Rust.okOr_eq_ok_iff, requiredEnv_eq_ok_iff,
    parsePort_eq_some_iff, parseBool_eq_some_iff, pure, Except.pure, Except.ok.injEq]
  constructor
  · rintro ⟨port, ⟨portText, hportText, hport⟩, disableSsl, ⟨sslText, hsslText, hssl⟩,
      host, hhost, username, husername, database, hdatabase, password, hpassword,
      clickhouseUrl, hclickhouseUrl, clickhouseUsername, hclickhouseUsername,
      clickhouseDatabase, hclickhouseDatabase, clickhousePassword, hclickhousePassword, rfl⟩
    exact ⟨⟨portText, hportText, hport⟩, hssl ▸ hsslText, hhost, husername, hdatabase, hpassword,
      hclickhouseUrl, hclickhouseUsername, hclickhouseDatabase, hclickhousePassword⟩
  · intro hspelled
    rcases hspelled.port with ⟨portText, hportText, hport⟩
    exact ⟨config.port, ⟨portText, hportText, hport⟩,
      config.disableSsl, ⟨_, hspelled.disableSsl, rfl⟩,
      _, hspelled.host, _, hspelled.username, _, hspelled.database, _, hspelled.password,
      _, hspelled.clickhouseUrl, _, hspelled.clickhouseUsername,
      _, hspelled.clickhouseDatabase, _, hspelled.clickhousePassword, rfl⟩

/-- A variable that is taken as it is fails with its defect. -/
theorem requiredEnv_eq_error_iff_defectOf {name : String} (hport : name ≠ "DB_PORT")
    (hssl : name ≠ "DB_DISABLE_SSL") (error : SaverInitError) :
    requiredEnv vars name = .error error ↔ defectOf vars name = some error := by
  rw [requiredEnv, defectOf]
  cases vars name <;> simp [hport, hssl]

/-- The configuration fails with the first variable that has a defect. -/
theorem fromEnv_eq_error_iff_findSome? (error : SaverInitError) :
    fromEnv vars = .error error ↔ variableNames.findSome? (defectOf vars) = some error := by
  refine Rust.bind_eq_error_iff_findSome? ?_ (fun port => ?_) error
  · intro error
    rw [requiredEnv, defectOf]
    cases vars "DB_PORT" with
    | value text => cases hparse : parsePort text <;> simp [hparse, Rust.okOr, Rust.ok_bind]
    | notPresent => simp [bind, Except.bind]
    | notUnicode => simp [bind, Except.bind]
  refine Rust.bind_eq_error_iff_findSome? ?_ (fun disableSsl => ?_)
  · intro error
    rw [requiredEnv, defectOf]
    cases vars "DB_DISABLE_SSL" with
    | value text => cases hparse : parseBool text <;> simp [hparse, Rust.okOr, Rust.ok_bind]
    | notPresent => simp [bind, Except.bind]
    | notUnicode => simp [bind, Except.bind]
  iterate 8
    refine Rust.bind_eq_error_iff_findSome?
      (requiredEnv_eq_error_iff_defectOf (by decide) (by decide)) (fun _ => ?_)
  intro error
  simp [pure, Except.pure]

/-- Every environment that spells no configuration is rejected for the first variable with a
defect. -/
theorem fromEnv_eq_error_iff (error : SaverInitError) :
    fromEnv vars = .error error ↔
      ∃ before name after, variableNames = before ++ name :: after ∧
        VariableDefect vars name error ∧
        ∀ other ∈ before, ∀ found, ¬ VariableDefect vars other found := by
  rw [fromEnv_eq_error_iff_findSome?, List.findSome?_eq_some_iff]
  simp only [defectOf_eq_some_iff, Option.eq_none_iff_forall_ne_some, ne_eq]

/-- An environment that a configuration is written to. -/
def toVariables (config : DatabaseConfig) : Variables
  | "DB_PORT" => .value (toString config.port.toNat)
  | "DB_DISABLE_SSL" => .value (toString config.disableSsl)
  | "DB_HOST" => .value config.host
  | "DB_USERNAME" => .value config.username
  | "DB_NAME" => .value config.database
  | "DB_PASSWORD" => .value config.password
  | "CLICKHOUSE_URL" => .value config.clickhouseUrl
  | "CLICKHOUSE_USERNAME" => .value config.clickhouseUsername
  | "CLICKHOUSE_DATABASE" => .value config.clickhouseDatabase
  | "CLICKHOUSE_PASSWORD" => .value config.clickhousePassword
  | _ => .notPresent

/-- A configuration that is written to the environment is read back. -/
theorem fromEnv_toVariables (config : DatabaseConfig) :
    fromEnv config.toVariables = .ok config := by
  refine fromEnv_eq_ok_iff.mpr ⟨⟨_, rfl, ?_⟩, rfl, rfl, rfl, rfl, rfl, rfl, rfl, rfl, rfl⟩
  exact Rust.spellsNumber_toString config.port.toNat

end DatabaseConfig

end Saver
end PumpRealtimePrices
