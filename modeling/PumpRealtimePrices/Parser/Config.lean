import Mathlib.Data.List.Forall2
import PumpRealtimePrices.Library.Rust
import PumpRealtimePrices.Library.Text
import PumpRealtimePrices.Parser.Registry

/-!
# Configuration text

The parsers are configured by one line of text: their names, separated by commas, with any
white space around each.  The text is a command line argument or the variable
{lit}`PARSERS`, which a file {lit}`.env` may set.

Main results:

- Theorem {lit}`ParserConfig.parse_eq_ok_iff`: which texts spell a configuration.
- Theorem {lit}`ParserConfig.parse_eq_error_iff`: how every other text is rejected.
- Theorem {lit}`BlockParser.fromEnv_eq`: a block parser is missing only for its configuration.
-/

namespace PumpRealtimePrices
namespace Parser

/-! ## Configuration text -/

/-- Error of reading a configuration.  The errors of typed names are
{lean}`ConfigError`. -/
inductive ConfigTextError where
  | missingParsers
  | nonUnicodeParsers
  | names (error : ConfigError)
  | emptyParserName (index : Nat)
  | unknownParser (name : String)
  | dotenv (message : String)
deriving DecidableEq, Repr

/-- Text of an error. -/
def ConfigTextError.display : ConfigTextError → String
  | .missingParsers => "PARSERS is not set"
  | .nonUnicodeParsers => "PARSERS is not valid Unicode"
  | .names .emptyParsers => "PARSERS must contain at least one parser"
  | .emptyParserName index => s!"PARSERS contains an empty name at index {index}"
  | .unknownParser name => s!"unknown parser name {name}"
  | .names (.duplicateParser name) => s!"duplicate parser name {name}"
  | .dotenv message => s!"failed to load .env: {message}"

def RegistryError.display : RegistryError → String
  | .duplicateProgramId programId => s!"duplicate parser program ID {programId}"

/-- Parser with a canonical name. -/
def ParserName.ofStr : String → Option ParserName
  | "pumpfun" => some .pumpFun
  | "pumpswap" => some .pumpSwap
  | _ => none

/-- Loop over the raw names, from an index on. -/
def parseNames : Nat → List String → Except ConfigTextError (List ParserName)
  | _, [] => .ok []
  | index, rawName :: rawNames => do
      let name := Rust.trim rawName
      if name.isEmpty then
        throw (.emptyParserName index)
      let parser ← Rust.okOr (.unknownParser name) (ParserName.ofStr name)
      let parsers ← parseNames (index + 1) rawNames
      return parser :: parsers

/-- Read a configuration from comma-separated names. -/
def ParserConfig.parse (value : String) : Except ConfigTextError ParserConfig := do
  if (Rust.trim value).isEmpty then
    throw (.names .emptyParsers)
  let parsers ← parseNames 0 (Rust.split value ',')
  (ParserConfig.new parsers).mapError .names

/-! ## Environment -/

/-- Outcome of loading a file {lit}`.env`. -/
inductive DotenvOutcome where
  | loaded
  | notFound
  | failed (message : String)
deriving DecidableEq, Repr

/-- Outcome of {lit}`env::var`. -/
inductive VarOutcome where
  | value (text : String)
  | notPresent
  | notUnicode
deriving DecidableEq, Repr

/-- What a process finds: the outcome of loading {lit}`.env`, and then {lit}`PARSERS`. -/
structure ProcessEnvironment where
  dotenv : DotenvOutcome
  parsers : VarOutcome
deriving DecidableEq, Repr

/-- Configuration of the environment. -/
def ParserConfig.fromEnv (environment : ProcessEnvironment) : Except ConfigTextError ParserConfig :=
  match environment.dotenv with
  | .failed message => .error (.dotenv message)
  | .loaded | .notFound =>
      match environment.parsers with
      | .value text => ParserConfig.parse text
      | .notPresent => .error .missingParsers
      | .notUnicode => .error .nonUnicodeParsers

/-- Configuration of an override, or else of the environment. -/
def ParserConfig.resolve (environment : ProcessEnvironment) :
    Option String → Except ConfigTextError ParserConfig
  | some value => ParserConfig.parse value
  | none => ParserConfig.fromEnv environment

/-- Error of building a block parser. -/
inductive ParserInitError where
  | config (error : ConfigTextError)
  | registry (error : RegistryError)
deriving DecidableEq, Repr

def ParserInitError.display : ParserInitError → String
  | .config error => error.display
  | .registry error => error.display

/-- Registry of the block parser of an environment. -/
def BlockParser.fromEnv (crates : Crates) (environment : ProcessEnvironment) :
    Except ParserInitError ParserRegistry := do
  let config ← (ParserConfig.fromEnv environment).mapError .config
  (ParserRegistry.fromConfig crates config).mapError .registry

/-! ## Names -/

/-- A name is read exactly from its own text. -/
theorem ParserName.ofStr_eq_some_iff {text : String} {name : ParserName} :
    ParserName.ofStr text = some name ↔ text = name.asStr := by
  constructor
  · intro hname
    unfold ParserName.ofStr at hname
    split at hname
    · rcases Option.some.inj hname with rfl
      rfl
    · rcases Option.some.inj hname with rfl
      rfl
    · cases hname
  · rintro rfl
    cases name <;> rfl

/-- Nothing is trimmed from the text of a name. -/
theorem ParserName.tight_asStr (name : ParserName) : Rust.Tight name.asStr := by
  cases name <;> exact ⟨rfl, rfl⟩

/-- The text of a name is not empty. -/
theorem ParserName.asStr_ne_empty (name : ParserName) : name.asStr ≠ "" := by
  cases name <;> decide

/-- The text is the name of a parser, with white space around it. -/
def IsName (rawName : String) : Prop :=
  ∃ parser : ParserName, Rust.Padded parser.asStr rawName

/-- A padded name has no comma. -/
theorem comma_not_mem_of_padded {parser : ParserName} {rawName : String}
    (hname : Rust.Padded parser.asStr rawName) : ',' ∉ rawName.toList := by
  rcases hname with ⟨left, right, hleft, hright, rfl⟩
  have hcomma : Rust.isWhitespace ',' = false := by decide
  have hasStr : ',' ∉ parser.asStr.toList := by
    cases parser <;> decide
  rw [String.toList_append, String.toList_append, List.mem_append, List.mem_append]
  rintro ((hmem | hmem) | hmem)
  · rw [Rust.isWhitespace_of_mem hleft hmem] at hcomma
    cases hcomma
  · exact hasStr hmem
  · rw [Rust.isWhitespace_of_mem hright hmem] at hcomma
    cases hcomma

/-- What a raw name reads as. -/
theorem ofStr_trim_eq_some_iff {parser : ParserName} {rawName : String} :
    ParserName.ofStr (Rust.trim rawName) = some parser ↔ Rust.Padded parser.asStr rawName := by
  rw [ParserName.ofStr_eq_some_iff, Rust.trim_eq_iff parser.tight_asStr]

/-- A padded name is not blank. -/
theorem not_isBlank_of_padded {parser : ParserName} {rawName : String}
    (hname : Rust.Padded parser.asStr rawName) : ¬ Rust.IsBlank rawName := by
  rw [← Rust.trim_eq_empty_iff, (Rust.trim_eq_iff parser.tight_asStr).mpr hname]
  exact parser.asStr_ne_empty

/-- One round of the loop. -/
theorem parseNames_cons (index : Nat) (rawName : String) (rawNames : List String) :
    (∃ parser, Rust.Padded parser.asStr rawName ∧
      parseNames index (rawName :: rawNames) =
        (parseNames (index + 1) rawNames).map (parser :: ·)) ∨
    (Rust.IsBlank rawName ∧
      parseNames index (rawName :: rawNames) = .error (.emptyParserName index)) ∨
    (¬ Rust.IsBlank rawName ∧ ¬ IsName rawName ∧
      parseNames index (rawName :: rawNames) = .error (.unknownParser (Rust.trim rawName))) := by
  rw [parseNames]
  by_cases hblank : Rust.IsBlank rawName
  · rw [Rust.trim_eq_empty_iff.mpr hblank]
    exact .inr (.inl ⟨hblank, rfl⟩)
  · have hempty : ¬ (Rust.trim rawName).isEmpty = true := by
      rw [String.isEmpty_iff, Rust.trim_eq_empty_iff]
      exact hblank
    simp only [if_neg hempty]
    cases hname : ParserName.ofStr (Rust.trim rawName) with
    | some parser =>
        refine .inl ⟨parser, ofStr_trim_eq_some_iff.mp hname, ?_⟩
        cases parseNames (index + 1) rawNames <;> rfl
    | none =>
        refine .inr (.inr ⟨hblank, ?_, rfl⟩)
        rintro ⟨parser, hparser⟩
        rw [ofStr_trim_eq_some_iff.mpr hparser] at hname
        cases hname

/-- The loop succeeds when every raw name is the name of a parser. -/
theorem parseNames_eq_ok_iff {index : Nat} {rawNames : List String} {parsers : List ParserName} :
    parseNames index rawNames = .ok parsers ↔
      List.Forall₂ (fun parser rawName => Rust.Padded parser.asStr rawName) parsers rawNames := by
  induction rawNames generalizing index parsers with
  | nil =>
      rw [List.forall₂_nil_right_iff, parseNames, Except.ok.injEq, eq_comm]
  | cons rawName rawNames ih =>
      rw [List.forall₂_cons_right_iff]
      rcases parseNames_cons index rawName rawNames with
        ⟨parser, hname, heq⟩ | ⟨hblank, heq⟩ | ⟨-, hname, heq⟩
      · rw [heq]
        constructor
        · intro hmap
          rcases hrest : parseNames (index + 1) rawNames with error | rest
          · rw [hrest] at hmap
            cases hmap
          · rw [hrest] at hmap
            exact ⟨parser, rest, hname, ih.mp hrest, (Except.ok.inj hmap).symm⟩
        · rintro ⟨parser', rest, hname', hrest, rfl⟩
          have hsame : parser = parser' := by
            rw [← ofStr_trim_eq_some_iff] at hname hname'
            exact Option.some.inj (hname.symm.trans hname')
          rw [ih.mpr hrest, hsame]
          rfl
      · rw [heq]
        constructor
        · intro hok
          cases hok
        · rintro ⟨parser, rest, hname, -, -⟩
          exact absurd hblank (not_isBlank_of_padded hname)
      · rw [heq]
        constructor
        · intro hok
          cases hok
        · rintro ⟨parser, rest, hname', -, -⟩
          exact absurd ⟨parser, hname'⟩ hname

/-- Why a raw name stops the loop. -/
def RejectedName (index : Nat) (rawName : String) (error : ConfigTextError) : Prop :=
  (Rust.IsBlank rawName ∧ error = .emptyParserName index) ∨
    (¬ Rust.IsBlank rawName ∧ ¬ IsName rawName ∧ error = .unknownParser (Rust.trim rawName))

/-- A text that is rejected is no name. -/
theorem RejectedName.not_isName {index : Nat} {rawName : String} {error : ConfigTextError}
    (hrejected : RejectedName index rawName error) : ¬ IsName rawName := by
  rcases hrejected with ⟨hblank, -⟩ | ⟨-, hname, -⟩
  · rintro ⟨parser, hname⟩
    exact not_isBlank_of_padded hname hblank
  · exact hname

/-- The loop stops at the first raw name that is no name of a parser. -/
theorem parseNames_eq_error_iff {index : Nat} {rawNames : List String}
    {error : ConfigTextError} :
    parseNames index rawNames = .error error ↔
      ∃ before rawName after, rawNames = before ++ rawName :: after ∧
        (∀ other ∈ before, IsName other) ∧ RejectedName (index + before.length) rawName error := by
  constructor
  · intro hparse
    induction rawNames generalizing index with
    | nil => cases hparse
    | cons rawName rawNames ih =>
        rcases parseNames_cons index rawName rawNames with
          ⟨parser, hname, heq⟩ | ⟨hblank, heq⟩ | ⟨hblank, hname, heq⟩
        · rw [heq] at hparse
          rcases hrest : parseNames (index + 1) rawNames with error' | rest
          · rw [hrest] at hparse
            rcases Except.error.inj hparse with rfl
            rcases ih hrest with ⟨before, rejected, after, rfl, hbefore, hrejected⟩
            refine ⟨rawName :: before, rejected, after, rfl, ?_, ?_⟩
            · intro other hother
              rcases List.mem_cons.mp hother with rfl | hother
              · exact ⟨parser, hname⟩
              · exact hbefore other hother
            · rw [List.length_cons, Nat.add_comm before.length, ← Nat.add_assoc]
              exact hrejected
          · rw [hrest] at hparse
            cases hparse
        · rw [heq] at hparse
          exact ⟨[], rawName, rawNames, rfl, by simp,
            .inl ⟨hblank, (Except.error.inj hparse).symm⟩⟩
        · rw [heq] at hparse
          exact ⟨[], rawName, rawNames, rfl, by simp,
            .inr ⟨hblank, hname, (Except.error.inj hparse).symm⟩⟩
  · rintro ⟨before, rawName, after, rfl, hbefore, hrejected⟩
    induction before generalizing index with
    | nil =>
        rcases parseNames_cons index rawName after with
          ⟨parser, hname, -⟩ | ⟨hblank, heq⟩ | ⟨hblank, -, heq⟩
        · exact absurd ⟨parser, hname⟩ hrejected.not_isName
        · rcases hrejected with ⟨-, rfl⟩ | ⟨hnot, -, -⟩
          · exact heq
          · exact absurd hblank hnot
        · rcases hrejected with ⟨hblank', -⟩ | ⟨-, -, rfl⟩
          · exact absurd hblank' hblank
          · exact heq
    | cons first before ih =>
        have hshift : RejectedName (index + 1 + before.length) rawName error := by
          rw [Nat.add_assoc, Nat.add_comm 1]
          exact hrejected
        have hrest := ih (fun other hother => hbefore other (List.mem_cons_of_mem first hother))
          hshift
        rcases parseNames_cons index first (before ++ rawName :: after) with
          ⟨parser, -, heq⟩ | ⟨hblank, -⟩ | ⟨-, hname, -⟩
        · rw [List.cons_append, heq, hrest]
          rfl
        · rcases hbefore first List.mem_cons_self with ⟨parser, hname⟩
          exact absurd hblank (not_isBlank_of_padded hname)
        · exact absurd (hbefore first List.mem_cons_self) hname

/-! ## Typed names -/

/-- The first name that occurs a second time. -/
theorem firstDuplicate_eq_some_iff {unique names : List ParserName} {name : ParserName} :
    firstDuplicate unique names = some name ↔
      ∃ before after, names = before ++ name :: after ∧ before.Nodup ∧
        (∀ other ∈ before, other ∉ unique) ∧ (name ∈ unique ∨ name ∈ before) := by
  induction names generalizing unique with
  | nil => simp [firstDuplicate]
  | cons first names ih =>
      rw [firstDuplicate]
      by_cases hfirst : first ∈ unique
      · rw [if_pos hfirst]
        constructor
        · intro heq
          rcases Option.some.inj heq with rfl
          exact ⟨[], names, rfl, List.nodup_nil, by simp, .inl hfirst⟩
        · rintro ⟨before, after, heq, -, hfresh, -⟩
          cases before with
          | nil => rw [(List.cons.inj heq).1]
          | cons other before =>
              rcases List.cons.inj heq with ⟨rfl, -⟩
              exact absurd hfirst (hfresh first List.mem_cons_self)
      · rw [if_neg hfirst, ih]
        constructor
        · rintro ⟨before, after, rfl, hnodup, hfresh, hname⟩
          refine ⟨first :: before, after, rfl, ?_, ?_, ?_⟩
          · refine List.nodup_cons.mpr ⟨?_, hnodup⟩
            intro hmem
            exact hfresh first hmem List.mem_cons_self
          · intro other hother
            rcases List.mem_cons.mp hother with rfl | hother
            · exact hfirst
            · exact fun hmem => hfresh other hother (List.mem_cons_of_mem first hmem)
          · rcases hname with hname | hname
            · rcases List.mem_cons.mp hname with rfl | hname
              · exact .inr List.mem_cons_self
              · exact .inl hname
            · exact .inr (List.mem_cons_of_mem first hname)
        · rintro ⟨before, after, heq, hnodup, hfresh, hname⟩
          cases before with
          | nil =>
              rcases List.cons.inj heq with ⟨rfl, -⟩
              exact absurd (hname.resolve_right List.not_mem_nil) hfirst
          | cons other before =>
              rcases List.cons.inj heq with ⟨rfl, rfl⟩
              rcases List.nodup_cons.mp hnodup with ⟨hother, hnodup⟩
              refine ⟨before, after, rfl, hnodup, ?_, ?_⟩
              · intro name' hname' hmem
                rcases List.mem_cons.mp hmem with rfl | hmem
                · exact hother hname'
                · exact hfresh name' (List.mem_cons_of_mem first hname') hmem
              · rcases hname with hname | hname
                · exact .inl (List.mem_cons_of_mem first hname)
                · rcases List.mem_cons.mp hname with rfl | hname
                  · exact .inl List.mem_cons_self
                  · exact .inr hname

/-- What a nonempty list of typed names gives. -/
theorem ParserConfig.new_of_ne_nil {parsers : List ParserName} (hne : parsers ≠ []) :
    (∃ parser, firstDuplicate [] parsers = some parser ∧
      ParserConfig.new parsers = .error (.duplicateParser parser.asStr)) ∨
    (firstDuplicate [] parsers = none ∧
      ∃ config, ParserConfig.new parsers = .ok config ∧ config.parsers = parsers) := by
  rw [ParserConfig.new, dif_neg hne]
  split
  · next parser hduplicate => exact .inl ⟨parser, hduplicate, rfl⟩
  · next hduplicate => exact .inr ⟨hduplicate, _, rfl, rfl⟩

/-- Typed names are rejected exactly where there are none or where one is repeated. -/
theorem ParserConfig.new_eq_error_iff {parsers : List ParserName} {error : ConfigError} :
    ParserConfig.new parsers = .error error ↔
      (parsers = [] ∧ error = .emptyParsers) ∨
        ∃ before parser after, parsers = before ++ parser :: after ∧ before.Nodup ∧
          parser ∈ before ∧ error = .duplicateParser parser.asStr := by
  by_cases hempty : parsers = []
  · rw [hempty, ParserConfig.new, dif_pos rfl]
    simp [eq_comm]
  · have hduplicates : (∃ before parser after, parsers = before ++ parser :: after ∧
        before.Nodup ∧ parser ∈ before ∧ error = .duplicateParser parser.asStr) ↔
          ∃ parser, firstDuplicate [] parsers = some parser ∧
            error = .duplicateParser parser.asStr := by
      constructor
      · rintro ⟨before, parser, after, heq, hnodup, hmem, herror⟩
        exact ⟨parser, firstDuplicate_eq_some_iff.mpr
          ⟨before, after, heq, hnodup, by simp, .inr hmem⟩, herror⟩
      · rintro ⟨parser, hduplicate, herror⟩
        rcases firstDuplicate_eq_some_iff.mp hduplicate with
          ⟨before, after, heq, hnodup, -, hmem⟩
        exact ⟨before, parser, after, heq, hnodup, hmem.resolve_left List.not_mem_nil, herror⟩
    rw [hduplicates]
    rcases new_of_ne_nil hempty with ⟨parser, hduplicate, hnew⟩ | ⟨hduplicate, config, hnew, -⟩
    · simp [hnew, hduplicate, hempty, eq_comm]
    · simp [hnew, hduplicate, hempty]

/-- A configuration is its list of names. -/
theorem ParserConfig.eq_of_parsers_eq {config config' : ParserConfig}
    (hparsers : config.parsers = config'.parsers) : config = config' := by
  cases config
  cases config'
  cases hparsers
  rfl

/-- Typed names make up the configuration that lists them. -/
theorem ParserConfig.new_eq_ok_iff {parsers : List ParserName} {config : ParserConfig} :
    ParserConfig.new parsers = .ok config ↔ config.parsers = parsers := by
  constructor
  · intro hnew
    by_cases hempty : parsers = []
    · rw [hempty, ParserConfig.new, dif_pos rfl] at hnew
      cases hnew
    · rcases new_of_ne_nil hempty with ⟨parser, -, herror⟩ | ⟨-, config', hok, hparsers⟩
      · rw [herror] at hnew
        cases hnew
      · rw [hok] at hnew
        rw [← Except.ok.inj hnew, hparsers]
  · rintro rfl
    rcases new_of_ne_nil config.parsers_ne_nil with
      ⟨parser, hduplicate, -⟩ | ⟨-, config', hok, hparsers⟩
    · rcases firstDuplicate_eq_some_iff.mp hduplicate with ⟨before, after, heq, -, -, hmem⟩
      have hnodup := config.parsers_nodup
      rw [heq, List.nodup_append] at hnodup
      exact absurd rfl (hnodup.2.2 parser (hmem.resolve_left List.not_mem_nil) parser
        List.mem_cons_self)
    · rw [hok, ParserConfig.eq_of_parsers_eq hparsers]

/-! ## Whole texts -/

/-- The text spells these parsers: their names, separated by commas, with any white space
around each. -/
def Spells (parsers : List ParserName) (value : String) : Prop :=
  ∃ rawNames, List.Forall₂ (fun parser rawName => Rust.Padded parser.asStr rawName)
    parsers rawNames ∧ value = ",".intercalate rawNames

/-- Texts that spell names are names. -/
theorem isName_of_forall₂ {parsers : List ParserName} {rawNames : List String}
    (hnames : List.Forall₂ (fun parser rawName => Rust.Padded parser.asStr rawName)
      parsers rawNames) : ∀ rawName ∈ rawNames, IsName rawName := by
  induction hnames with
  | nil => simp
  | cons hname _ ih =>
      intro rawName hmem
      rcases List.mem_cons.mp hmem with rfl | hmem
      · exact ⟨_, hname⟩
      · exact ih rawName hmem

/-- The raw names of a text that spells some parsers. -/
theorem spells_iff {parsers : List ParserName} (hne : parsers ≠ []) {value : String} :
    Spells parsers value ↔
      List.Forall₂ (fun parser rawName => Rust.Padded parser.asStr rawName) parsers
        (Rust.split value ',') := by
  constructor
  · rintro ⟨rawNames, hnames, hvalue⟩
    have hsplit : Rust.split value ',' = rawNames := by
      refine Rust.split_eq_iff.mpr ⟨?_, ?_, hvalue⟩
      · rintro rfl
        exact hne (List.forall₂_nil_right_iff.mp hnames)
      · intro rawName hrawName
        rcases isName_of_forall₂ hnames rawName hrawName with ⟨parser, hname⟩
        exact comma_not_mem_of_padded hname
    rw [hsplit]
    exact hnames
  · intro hnames
    rcases Rust.split_eq_iff.mp (Eq.refl (Rust.split value ',')) with ⟨-, -, hvalue⟩
    exact ⟨Rust.split value ',', hnames, hvalue⟩

/-- A text that spells a parser is not blank. -/
theorem not_isBlank_of_spells {parsers : List ParserName} (hne : parsers ≠ []) {value : String}
    (hspells : Spells parsers value) : ¬ Rust.IsBlank value := by
  rcases hspells with ⟨rawNames, hnames, rfl⟩
  cases hnames with
  | nil => exact absurd rfl hne
  | @cons parser first parsers rest hname _ =>
      intro hblank
      apply not_isBlank_of_padded hname
      apply Rust.isBlank_iff.mpr
      intro c hc
      apply Rust.isWhitespace_of_mem hblank
      cases rest with
      | nil => rwa [String.intercalate_singleton]
      | cons second rest =>
          rw [String.intercalate_cons_cons, String.toList_append, String.toList_append]
          exact List.mem_append_left _ (List.mem_append_left _ hc)

/-- The checks of a text before its names are read. -/
theorem ParserConfig.parse_eq (value : String) :
    (Rust.IsBlank value ∧ ParserConfig.parse value = .error (.names .emptyParsers)) ∨
    (¬ Rust.IsBlank value ∧ ParserConfig.parse value = do
      let parsers ← parseNames 0 (Rust.split value ',')
      (ParserConfig.new parsers).mapError .names) := by
  rw [ParserConfig.parse]
  by_cases hblank : Rust.IsBlank value
  · rw [Rust.trim_eq_empty_iff.mpr hblank]
    exact .inl ⟨hblank, rfl⟩
  · have hempty : ¬ (Rust.trim value).isEmpty = true := by
      rw [String.isEmpty_iff, Rust.trim_eq_empty_iff]
      exact hblank
    exact .inr ⟨hblank, if_neg hempty⟩

/-- Exactly the texts that spell a configuration are read as it. -/
theorem ParserConfig.parse_eq_ok_iff (value : String) (config : ParserConfig) :
    ParserConfig.parse value = .ok config ↔ Spells config.parsers value := by
  rw [spells_iff config.parsers_ne_nil]
  rcases ParserConfig.parse_eq value with ⟨hblank, heq⟩ | ⟨-, heq⟩
  · rw [heq, ← spells_iff config.parsers_ne_nil]
    constructor
    · intro hok
      cases hok
    · intro hspells
      exact absurd hblank (not_isBlank_of_spells config.parsers_ne_nil hspells)
  · rw [heq, Rust.except_bind_eq_ok_iff]
    simp only [Rust.mapError_eq_ok_iff, ParserConfig.new_eq_ok_iff, parseNames_eq_ok_iff]
    constructor
    · rintro ⟨parsers, hnames, rfl⟩
      exact hnames
    · intro hnames
      exact ⟨config.parsers, hnames, rfl⟩

/-- Every other text is rejected: a blank one as a whole, then for its first part that is no
name of a parser, and last for the first name that occurs a second time. -/
theorem ParserConfig.parse_eq_error_iff (value : String) (error : ConfigTextError) :
    ParserConfig.parse value = .error error ↔
      (Rust.IsBlank value ∧ error = .names .emptyParsers) ∨
      (¬ Rust.IsBlank value ∧ ∃ before rawName after,
        Rust.split value ',' = before ++ rawName :: after ∧
        (∀ other ∈ before, IsName other) ∧ RejectedName before.length rawName error) ∨
      ∃ before parser after, Spells (before ++ parser :: after) value ∧ before.Nodup ∧
        parser ∈ before ∧ error = .names (.duplicateParser parser.asStr) := by
  rcases ParserConfig.parse_eq value with ⟨hblank, heq⟩ | ⟨hblank, heq⟩
  · rw [heq, Except.error.injEq, eq_comm]
    constructor
    · intro herror
      exact .inl ⟨hblank, herror⟩
    · rintro (⟨-, herror⟩ | ⟨hnot, -⟩ | ⟨before, parser, after, hspells, -⟩)
      · exact herror
      · exact absurd hblank hnot
      · exact absurd hblank (not_isBlank_of_spells (by simp) hspells)
  · rw [heq, Rust.except_bind_eq_error_iff]
    simp only [hblank, false_and, false_or, not_false_eq_true, true_and, parseNames_eq_error_iff,
      Nat.zero_add]
    apply or_congr_right
    constructor
    · rintro ⟨parsers, hnames, hnew⟩
      rcases Rust.mapError_eq_error_iff.mp hnew with ⟨source, hsource, rfl⟩
      rw [parseNames_eq_ok_iff] at hnames
      rcases ParserConfig.new_eq_error_iff.mp hsource with
        ⟨rfl, -⟩ | ⟨before, parser, after, rfl, hnodup, hmem, rfl⟩
      · exact absurd (List.forall₂_nil_left_iff.mp hnames) (Rust.split_ne_nil value ',')
      · exact ⟨before, parser, after, (spells_iff (by simp)).mpr hnames, hnodup, hmem, rfl⟩
    · rintro ⟨before, parser, after, hspells, hnodup, hmem, rfl⟩
      refine ⟨_, parseNames_eq_ok_iff.mpr ((spells_iff (by simp)).mp hspells), ?_⟩
      refine Rust.mapError_eq_error_iff.mpr ⟨.duplicateParser parser.asStr, ?_, rfl⟩
      exact ParserConfig.new_eq_error_iff.mpr
        (.inr ⟨before, parser, after, rfl, hnodup, hmem, rfl⟩)

/-! ## Block parsers -/

/-- The environment configures parsers exactly when its file is readable and its variable is
a text that parses. -/
theorem ParserConfig.fromEnv_eq_ok_iff {environment : ProcessEnvironment} {config : ParserConfig} :
    ParserConfig.fromEnv environment = .ok config ↔
      (∀ message, environment.dotenv ≠ .failed message) ∧
        ∃ text, environment.parsers = .value text ∧ ParserConfig.parse text = .ok config := by
  rw [ParserConfig.fromEnv]
  have hvariable : (match environment.parsers with
      | .value text => ParserConfig.parse text
      | .notPresent => .error .missingParsers
      | .notUnicode => .error .nonUnicodeParsers) = .ok config ↔
        ∃ text, environment.parsers = .value text ∧ ParserConfig.parse text = .ok config := by
    cases environment.parsers <;> simp
  cases environment.dotenv with
  | failed message => simp
  | loaded => simpa using hvariable
  | notFound => simpa using hvariable

/-- A block parser is missing only for its configuration, since no configuration names a
program twice; it has exactly the parsers that the environment spells. -/
theorem BlockParser.fromEnv_eq (crates : Crates) (environment : ProcessEnvironment) :
    (∃ error, ParserConfig.fromEnv environment = .error error ∧
      BlockParser.fromEnv crates environment = .error (.config error)) ∨
    ∃ text names registry, (∀ message, environment.dotenv ≠ .failed message) ∧
      environment.parsers = .value text ∧ Spells names text ∧ names.Nodup ∧
      BlockParser.fromEnv crates environment = .ok registry ∧
      ∀ programId, registry.get programId =
        (names.find? fun name => name.programId = programId).map
          (ParserRegistry.createParser crates) := by
  rw [BlockParser.fromEnv]
  rcases hconfig : ParserConfig.fromEnv environment with error | config
  · exact .inl ⟨error, rfl, rfl⟩
  · rcases ParserConfig.fromEnv_eq_ok_iff.mp hconfig with ⟨hdotenv, text, htext, hparse⟩
    rcases ParserRegistry.fromConfig_eq_ok crates config with
      ⟨registry, hregistry, hget, hother⟩
    refine .inr ⟨text, config.parsers, registry, hdotenv, htext,
      (ParserConfig.parse_eq_ok_iff text config).mp hparse, config.parsers_nodup, ?_, ?_⟩
    · simp only [Except.mapError, Rust.ok_bind, hregistry]
    · intro programId
      cases hfind : config.parsers.find? fun name => name.programId = programId with
      | none =>
          apply hother
          intro name hname heq
          exact List.find?_eq_none.mp hfind name hname (by simpa using heq)
      | some name =>
          have hname : name.programId = programId := by simpa using List.find?_some hfind
          rw [← hname, hget name (List.mem_of_find?_eq_some hfind), Option.map_some]

end Parser
end PumpRealtimePrices
