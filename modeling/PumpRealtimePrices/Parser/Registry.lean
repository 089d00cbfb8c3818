import PumpRealtimePrices.Parser.Events
import PumpRealtimePrices.Programs.Pumpfun
import PumpRealtimePrices.Programs.Pumpswap

/-!
# Configuration, registry and dispatch

A configuration is a nonempty list of distinct parser names.  A registry maps
program addresses to parsers, each under the address it announces, and is built
once from a configuration or from injected parsers.  The dispatcher looks the
program of an instruction up and classifies the parser's answer.

Main results:

- Theorem {lit}`ParserRegistry.fromConfig_eq_ok`: every configuration builds a
  registry, which holds exactly the configured protocols.
- Theorem {lit}`dispatch_of_get`: what dispatching a configured program yields.
-/

namespace PumpRealtimePrices
namespace Parser

/-! ## Configuration -/

/-- Names of the supported protocol parsers. -/
inductive ParserName where
  | pumpFun
  | pumpSwap
deriving DecidableEq, Repr

namespace ParserName

/-- Canonical configuration name. -/
def asStr : ParserName → String
  | pumpFun => "pumpfun"
  | pumpSwap => "pumpswap"

/-- Program address of the protocol. -/
def programId : ParserName → String
  | pumpFun => Pumpfun.programId
  | pumpSwap => Pumpswap.programId

/-- Distinct protocols have distinct program addresses. -/
theorem programId_injective : Function.Injective programId := by
  intro left right
  cases left <;> cases right <;> decide

end ParserName

/-- A parser configuration: at least one name, and no name twice. -/
structure ParserConfig where
  parsers : List ParserName
  parsers_ne_nil : parsers ≠ []
  parsers_nodup : parsers.Nodup

/-- The configuration with one parser. -/
def ParserConfig.single (name : ParserName) : ParserConfig where
  parsers := [name]
  parsers_ne_nil := List.cons_ne_nil name []
  parsers_nodup := List.nodup_singleton name

/-- The first name that already occurs among those seen before it. -/
def firstDuplicate : List ParserName → List ParserName → Option ParserName
  | _, [] => none
  | unique, name :: names =>
      if name ∈ unique then some name else firstDuplicate (name :: unique) names

/-- Without a first duplicate the names are different. -/
theorem firstDuplicate_eq_none {unique names : List ParserName}
    (hnone : firstDuplicate unique names = none) :
    names.Nodup ∧ ∀ name ∈ names, name ∉ unique := by
  induction names generalizing unique with
  | nil => simp
  | cons name names ih =>
      rw [firstDuplicate] at hnone
      split at hnone
      · cases hnone
      · next hfresh =>
          rcases ih hnone with ⟨hnodup, hdisjoint⟩
          refine ⟨List.nodup_cons.mpr ⟨?_, hnodup⟩, ?_⟩
          · intro hmem
            exact hdisjoint name hmem List.mem_cons_self
          · intro other hother
            rcases List.mem_cons.mp hother with rfl | hother
            · exact hfresh
            · exact fun hmem => hdisjoint other hother (List.mem_cons_of_mem name hmem)

/-- Build a configuration from typed names. -/
def ParserConfig.new (parsers : List ParserName) : Except ConfigError ParserConfig :=
  if hempty : parsers = [] then .error .emptyParsers
  else
    match hduplicate : firstDuplicate [] parsers with
    | some name => .error (.duplicateParser name.asStr)
    | none => .ok ⟨parsers, hempty, (firstDuplicate_eq_none hduplicate).1⟩

/-! ## Registry -/

/-- Protocol parsers indexed by the program address they announce. -/
structure ParserRegistry where
  parsers : Std.TreeMap String InstructionParser
  programId_of_get : ∀ (programId : String) (parser : InstructionParser),
    parsers[programId]? = some parser → parser.programId = programId

namespace ParserRegistry

/-- Parser of a program, if it is configured. -/
def get (registry : ParserRegistry) (programId : String) : Option InstructionParser :=
  registry.parsers[programId]?

/-- Whether a program is configured. -/
def contains (registry : ParserRegistry) (programId : String) : Bool :=
  registry.parsers.contains programId

/-- Registry without parsers. -/
def empty : ParserRegistry where
  parsers := ∅
  programId_of_get := by simp

/-- Registry with one more parser. -/
def insert (registry : ParserRegistry) (parser : InstructionParser) : ParserRegistry where
  parsers := registry.parsers.insert parser.programId parser
  programId_of_get programId other hget := by
    rw [Std.TreeMap.getElem?_insert] at hget
    split at hget
    · next heq =>
        cases hget
        exact Std.LawfulEqCmp.eq_of_compare heq
    · exact registry.programId_of_get programId other hget

/-- Add parsers one by one; the second parser of a program is an error. -/
def addParsers : ParserRegistry → List InstructionParser → Except RegistryError ParserRegistry
  | registry, [] => .ok registry
  | registry, parser :: parsers =>
      if registry.contains parser.programId then .error (.duplicateProgramId parser.programId)
      else addParsers (registry.insert parser) parsers

/-- Build a registry from injected parsers. -/
def fromParsers (parsers : List InstructionParser) : Except RegistryError ParserRegistry :=
  addParsers empty parsers

/-- Factory of the built-in parsers. -/
def createParser (crates : Crates) : ParserName → InstructionParser
  | .pumpFun => Pumpfun.parser crates
  | .pumpSwap => Pumpswap.parser crates

/-- Build a registry from a configuration. -/
def fromConfig (crates : Crates) (config : ParserConfig) : Except RegistryError ParserRegistry :=
  fromParsers (config.parsers.map (createParser crates))

/-- A registry contains the programs that it has a parser for. -/
theorem contains_eq_isSome_get (registry : ParserRegistry) (programId : String) :
    registry.contains programId = (registry.get programId).isSome := by
  simp [contains, get]

/-- An inserted parser answers for its own program, and the others as before. -/
theorem get_insert (registry : ParserRegistry) (parser : InstructionParser) (programId : String) :
    (registry.insert parser).get programId =
      if parser.programId = programId then some parser else registry.get programId := by
  simp only [get, insert, Std.TreeMap.getElem?_insert, Std.compare_eq_iff_eq]

/-- The parser of a name is registered under the program of that name. -/
theorem createParser_programId (crates : Crates) (name : ParserName) :
    (createParser crates name).programId = name.programId := by
  cases name <;> rfl

/-- Adding parsers of distinct, unregistered programs succeeds, and the result
answers for the new programs and for the old ones. -/
theorem addParsers_createParser (crates : Crates) {registry : ParserRegistry}
    {names : List ParserName} (hnodup : names.Nodup)
    (hfresh : ∀ name ∈ names, registry.get name.programId = none) :
    ∃ result, addParsers registry (names.map (createParser crates)) = .ok result ∧
      (∀ name ∈ names, result.get name.programId = some (createParser crates name)) ∧
      ∀ programId, (∀ name ∈ names, name.programId ≠ programId) →
        result.get programId = registry.get programId := by
  induction names generalizing registry with
  | nil => exact ⟨registry, rfl, by simp, by simp⟩
  | cons name names ih =>
      rcases List.nodup_cons.mp hnodup with ⟨hname, hnodup⟩
      have hcontains : registry.contains (createParser crates name).programId = false := by
        rw [contains_eq_isSome_get, createParser_programId,
          hfresh name List.mem_cons_self]
        rfl
      have hne : ∀ other ∈ names, name.programId ≠ other.programId := by
        intro other hother heq
        rcases ParserName.programId_injective heq with rfl
        exact hname hother
      have hfreshInsert : ∀ other ∈ names,
          (registry.insert (createParser crates name)).get other.programId = none := by
        intro other hmem
        rw [get_insert, createParser_programId, if_neg (hne other hmem)]
        exact hfresh other (List.mem_cons_of_mem name hmem)
      rcases ih hnodup hfreshInsert with ⟨result, hresult, hget, hother⟩
      refine ⟨result, ?_, ?_, ?_⟩
      · rw [List.map_cons, addParsers, hcontains]
        exact hresult
      · intro other hmem
        rcases List.mem_cons.mp hmem with rfl | hmem
        · rw [hother _ fun x hx => (hne x hx).symm, get_insert, createParser_programId, if_pos rfl]
        · exact hget other hmem
      · intro programId hprograms
        rw [hother programId fun x hx => hprograms x (List.mem_cons_of_mem name hx), get_insert,
          createParser_programId, if_neg (hprograms name List.mem_cons_self)]

/-- Every configuration builds a registry, which holds the configured protocols
under their program addresses and nothing else. -/
theorem fromConfig_eq_ok (crates : Crates) (config : ParserConfig) :
    ∃ registry, fromConfig crates config = .ok registry ∧
      (∀ name ∈ config.parsers, registry.get name.programId = some (createParser crates name)) ∧
      ∀ programId, (∀ name ∈ config.parsers, name.programId ≠ programId) →
        registry.get programId = none := by
  have hempty : ∀ programId, empty.get programId = none := by simp [get, empty]
  rcases addParsers_createParser crates config.parsers_nodup
    fun name _ => hempty name.programId with
    ⟨registry, hregistry, hget, hother⟩
  refine ⟨registry, hregistry, hget, fun programId hprograms => ?_⟩
  rw [hother programId hprograms, hempty]

/-- A parser of a registry built from a configuration is one of the configured ones. -/
theorem get_fromConfig {crates : Crates} {config : ParserConfig} {registry : ParserRegistry}
    (hregistry : fromConfig crates config = .ok registry) {programId : String}
    {parser : InstructionParser} (hget : registry.get programId = some parser) :
    ∃ name ∈ config.parsers, name.programId = programId ∧ parser = createParser crates name := by
  rcases fromConfig_eq_ok crates config with ⟨built, hbuilt, hconfigured, hother⟩
  rw [hregistry] at hbuilt
  rcases Except.ok.inj hbuilt with rfl
  by_cases hname : ∃ name ∈ config.parsers, name.programId = programId
  · rcases hname with ⟨name, hmem, rfl⟩
    rw [hconfigured name hmem] at hget
    exact ⟨name, hmem, rfl, (Option.some.inj hget).symm⟩
  · push Not at hname
    rw [hother programId hname] at hget
    cases hget

end ParserRegistry

/-! ## Dispatch -/

/-- Whether instructions of a program are parsed at all. -/
def isConfigured (registry : ParserRegistry) (programId : String) : Bool :=
  registry.contains programId

/-- Dispatch one normalized instruction by program address. -/
def dispatch (registry : ParserRegistry) (instruction : InstructionContext) : DispatchOutcome :=
  match registry.get instruction.programId with
  | none => .noEvent
  | some parser =>
      match parser.parseInstruction instruction with
      | .ok (some event) => .event event
      | .ok none => .noEvent
      | .error error =>
          .failure { programId := some instruction.programId, error := .protocol error }

/-- Classification of a parser's answer for a program. -/
def outcomeOf (programId : String) : ParseResult (Option ParsedEvent) → DispatchOutcome
  | .ok (some event) => .event event
  | .ok none => .noEvent
  | .error error => .failure { programId := some programId, error := .protocol error }

/-- Dispatching to a configured program classifies its parser's answer. -/
theorem dispatch_of_get {registry : ParserRegistry} {parser : InstructionParser}
    {instruction : InstructionContext}
    (hget : registry.get instruction.programId = some parser) :
    dispatch registry instruction =
      outcomeOf instruction.programId (parser.parseInstruction instruction) := by
  unfold dispatch outcomeOf
  rw [hget]

end Parser
end PumpRealtimePrices
