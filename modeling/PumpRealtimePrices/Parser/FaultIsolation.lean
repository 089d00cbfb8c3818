import PumpRealtimePrices.Parser.InvocationStack

/-!
# Fault isolation inside a transaction

Two runs are compared: one on a transaction, the other on the same transaction
with one instruction object replaced.  As long as the stack height stays the
same, every visit has the same caller in both, so only the replaced instruction
and its direct children can report something else.

Main results:

- Theorem {lit}`visits_replaceAt`: the visits of the two transactions.
- Theorem {lit}`ImmediateCaller.of_map_shape`: callers depend on the indexes and the
  stack heights only.
- Theorem {lit}`fault_isolation`: what the two runs report elsewhere is the same.
-/

namespace PumpRealtimePrices
namespace Parser

open SerdeJson

/-! ## Visits of a changed header -/

private theorem length_eq_of_getElem?_map {α : Type*} {xs ys : List α} {f : Nat → α → α}
    (hget : ∀ i : Nat, ys[i]? = xs[i]?.map (f i)) : ys.length = xs.length := by
  refine le_antisymm ?_ ?_
  · rw [← List.getElem?_eq_none_iff, hget, List.getElem?_eq_none (le_refl _), Option.map_none]
  · have hnone := (hget ys.length).symm.trans (List.getElem?_eq_none (le_refl _))
    rwa [Option.map_eq_none_iff, List.getElem?_eq_none_iff] at hnone

/-- Changing instructions in place changes the same visits. -/
theorem visits_of_instructionOf {header header' : TransactionHeader}
    {change : Nat × Option Nat → Value → Value}
    (hchange : ∀ indexes, instructionOf header' indexes =
      (instructionOf header indexes).map (change indexes)) :
    visits header' = (visits header).map fun visit =>
      { visit with instruction := change visit.indexes visit.instruction } := by
  have hindexes : (visits header').map Visit.indexes = (visits header).map Visit.indexes := by
    have houter : header'.outerInstructions.length = header.outerInstructions.length :=
      length_eq_of_getElem?_map fun outer => hchange (outer, none)
    have hgroup : ∀ outer, (header'.innerInstructionGroups[outer]?.getD []).length =
        (header.innerInstructionGroups[outer]?.getD []).length := fun outer =>
      length_eq_of_getElem?_map fun inner => hchange (outer, some inner)
    simp only [visits, flatten_map_indexes, houter, hgroup]
  refine List.ext_getElem? fun position => ?_
  have hposition : (visits header')[position]?.map Visit.indexes =
      (visits header)[position]?.map Visit.indexes := by
    rw [← List.getElem?_map, ← List.getElem?_map, hindexes]
  rw [List.getElem?_map]
  cases hvisit : (visits header)[position]? with
  | none =>
      rw [hvisit, Option.map_none, Option.map_eq_none_iff] at hposition
      rw [hposition, Option.map_none]
  | some visit =>
      rw [hvisit, Option.map_some] at hposition
      rcases Option.map_eq_some_iff.mp hposition with ⟨visit', hvisit', hsame⟩
      have hinstruction := instructionOf_of_visit hvisit'
      rw [hsame, hchange, instructionOf_of_visit hvisit, Option.map_some,
        Option.some.injEq] at hinstruction
      rcases Prod.mk.inj hsame with ⟨houter, hinner⟩
      rw [hvisit', Option.map_some, hinstruction, ← houter, ← hinner]

/-! ## Callers of a changed header -/

/-- What callers depend on. -/
def Visit.shape (visit : Visit) : (Nat × Option Nat) × Option Value :=
  (visit.indexes, visit.instruction.get "stackHeight")

/-- Visits of one shape have the same indexes and the same stack height. -/
theorem Visit.of_shape_eq {a b : Visit} (hshape : a.shape = b.shape) :
    a.outerInstructionIndex = b.outerInstructionIndex ∧
      a.innerInstructionIndex = b.innerInstructionIndex ∧
      observedStackHeight a.instruction = observedStackHeight b.instruction ∧
      a.height = b.height := by
  rcases Prod.mk.inj hshape with ⟨hindexes, hstackHeight⟩
  rcases Prod.mk.inj hindexes with ⟨houter, hinner⟩
  have hobserved : observedStackHeight a.instruction = observedStackHeight b.instruction := by
    rw [observedStackHeight, observedStackHeight, hstackHeight]
  refine ⟨houter, hinner, hobserved, ?_⟩
  rw [Visit.height, Visit.height, hinner, hstackHeight, hobserved]

/-- Callers depend on the indexes and the stack heights of the visits only. -/
theorem ImmediateCaller.of_map_shape {header header' : TransactionHeader}
    (hshape : (visits header').map Visit.shape = (visits header).map Visit.shape)
    {position caller : Nat} (hcaller : ImmediateCaller header position caller) :
    ImmediateCaller header' position caller := by
  have hvisit : ∀ {header header' : TransactionHeader} {p : Nat} {a : Visit},
      (visits header').map Visit.shape = (visits header).map Visit.shape →
      (visits header)[p]? = some a → ∃ b, (visits header')[p]? = some b ∧ b.shape = a.shape := by
    intro header header' p a hshape ha
    have hp : (visits header')[p]?.map Visit.shape = (visits header)[p]?.map Visit.shape := by
      rw [← List.getElem?_map, ← List.getElem?_map, hshape]
    rw [ha] at hp
    exact Option.map_eq_some_iff.mp hp
  rcases hcaller with
    ⟨callee, callerVisit, hcallee, hget, hlt, houter, hinner, stackHeight, height, hheight,
      hcallerHeight, hsucc, hbetween⟩
  rcases hvisit hshape hcallee with ⟨callee', hcallee', hcalleeShape⟩
  rcases hvisit hshape hget with ⟨caller', hget', hcallerShape⟩
  rcases Visit.of_shape_eq hcalleeShape with ⟨houter', hinner', hheight', -⟩
  rcases Visit.of_shape_eq hcallerShape with ⟨hcallerOuter, -, -, hcallerHeight'⟩
  refine ⟨callee', caller', hcallee', hget', hlt, by rw [houter', hcallerOuter, houter],
    by rw [hinner', hinner], stackHeight, height, by rw [hheight', hheight],
    by rw [hcallerHeight', hcallerHeight], hsucc, ?_⟩
  intro between visit' hcb hbp hvisit'
  rcases hvisit hshape.symm hvisit' with ⟨visit, hother, hother'⟩
  rcases Visit.of_shape_eq hother' with ⟨-, -, hnested, -⟩
  rw [← hnested]
  exact hbetween between visit hcb hbp hother

/-! ## One replaced instruction -/

/-- The instruction object with these indexes stands at this path. -/
inductive InstructionAt (entry : Value) : Nat → Option Nat → List Step → Value → Prop where
  | outer (index : Nat) (instruction : Value)
      (hinstruction : (messageInstructions entry)[index]? = some instruction) :
      InstructionAt entry index none
        [.key "transaction", .key "message", .key "instructions", .index index] instruction
  | inner (listed : Nat) (group : Value) (index : Nat) (instructions : List Value) (inner : Nat)
      (instruction : Value) (hgroup : (innerInstructionGroups entry)[listed]? = some group)
      (hindex : groupIndex group = some index)
      (hinstructions : groupInstructions group = some instructions)
      (hinstruction : instructions[inner]? = some instruction) :
      InstructionAt entry index (some inner)
        [.key "meta", .key "innerInstructions", .index listed, .key "instructions", .index inner]
        instruction

section Replaced

variable {entry new old : Value} {header header' : TransactionHeader} {outer : Nat}
  {inner : Option Nat} {path : List Step}

/-- The replaced instruction is what the header holds under its indexes. -/
theorem instructionOf_of_instructionAt (hread : readTransaction entry = .ok (some header))
    (hat : InstructionAt entry outer inner path old) :
    outer < header.outerInstructions.length ∧ instructionOf header (outer, inner) = some old := by
  cases hat with
  | outer index instruction hinstruction =>
      rw [messageInstructions_of_read hread] at hinstruction
      exact ⟨(List.getElem?_eq_some_iff.mp hinstruction).1, hinstruction⟩
  | inner listed group index instructions inner instruction hgroup hindex hinstructions
      hinstruction =>
      rcases innerGroup_of_read hread with ⟨-, hgroups, -⟩
      rcases hgroups group (List.mem_of_getElem? hgroup) with ⟨index', -, hindex', hlt, -⟩
      rcases Option.some.inj (hindex.symm.trans hindex') with rfl
      refine ⟨hlt, ?_⟩
      rw [instructionOf, getElem?_innerInstructionGroups hread hgroup hindex, hinstructions]
      exact hinstruction

/-- The group of the replaced instruction has it replaced, and every other group
is unchanged. -/
theorem getElem?_groups_replaceAt {listed index position : Nat} {group : Value}
    (hread : readTransaction entry = .ok (some header))
    (hread' : readTransaction (Value.replaceAt new [.key "meta", .key "innerInstructions",
      .index listed, .key "instructions", .index position] entry) = .ok (some header'))
    (hgroup : (innerInstructionGroups entry)[listed]? = some group)
    (hindex : groupIndex group = some index) (o : Nat) :
    header'.innerInstructionGroups[o]? =
      header.innerInstructionGroups[o]?.map fun instructions =>
        if o = index then instructions.modify position (Value.replaceAt new [])
        else instructions := by
  have hget : ∀ t : Nat, (innerInstructionGroups (Value.replaceAt new [.key "meta",
      .key "innerInstructions", .index listed, .key "instructions", .index position] entry))[t]? =
      (innerInstructionGroups entry)[t]?.map fun group =>
        if listed = t then Value.replaceAt new [.key "instructions", .index position] group
        else group := by
    intro t
    rw [innerInstructionGroups_replaceAt, List.getElem?_modify, Option.map_eq_map]
  by_cases hlisted : ∃ (t : Nat) (other : Value),
      (innerInstructionGroups entry)[t]? = some other ∧ groupIndex other = some o
  · rcases hlisted with ⟨t, other, hother, hotherIndex⟩
    rw [getElem?_innerInstructionGroups hread hother hotherIndex]
    have hother' := hget t
    rw [hother, Option.map_some] at hother'
    by_cases ht : listed = t
    · subst ht
      rcases Option.some.inj (hgroup.symm.trans hother) with rfl
      rcases Option.some.inj (hindex.symm.trans hotherIndex) with rfl
      rw [if_pos rfl] at hother'
      rw [getElem?_innerInstructionGroups hread' hother'
        ((groupIndex_replaceAt _ _ _).trans hindex), groupInstructions_replaceAt]
      simp only [if_true]
    · have hne : o ≠ index := by
        rintro rfl
        rcases innerGroup_of_read hread with ⟨hnodup, -, -⟩
        have hlt := (List.getElem?_eq_some_iff.mp hgroup).1
        refine ht ((List.getElem?_inj (by simpa using hlt) hnodup).mp ?_)
        rw [List.getElem?_map, List.getElem?_map, hgroup, hother, Option.map_some,
          Option.map_some, hindex, hotherIndex]
      rw [if_neg ht] at hother'
      rw [getElem?_innerInstructionGroups hread' hother' hotherIndex]
      simp only [hne, if_false, Option.map_id_fun', id_eq]
  · have hnone : ∀ other ∈ innerInstructionGroups entry, groupIndex other ≠ some o := by
      intro other hmem hotherIndex
      rcases List.mem_iff_getElem?.mp hmem with ⟨t, hother⟩
      exact hlisted ⟨t, other, hother, hotherIndex⟩
    rcases innerGroup_of_read hread with ⟨-, -, habsent⟩
    rcases innerGroup_of_read hread' with ⟨-, -, habsent'⟩
    rw [habsent o hnone, Option.map_none]
    refine habsent' o fun other hmem => ?_
    rcases List.mem_iff_getElem?.mp hmem with ⟨t, hother⟩
    rw [hget, Option.map_eq_some_iff] at hother
    rcases hother with ⟨found, hfound, rfl⟩
    have hfoundIndex := hnone found (List.mem_of_getElem? hfound)
    split
    · rwa [groupIndex_replaceAt]
    · exact hfoundIndex

/-- Only the instruction with the indexes of the path is replaced. -/
theorem instructionOf_replaceAt (hread : readTransaction entry = .ok (some header))
    (hread' : readTransaction (Value.replaceAt new path entry) = .ok (some header'))
    (hat : InstructionAt entry outer inner path old) (indexes : Nat × Option Nat) :
    instructionOf header' indexes = (instructionOf header indexes).map fun instruction =>
      if indexes = (outer, inner) then new else instruction := by
  cases hat with
  | outer index instruction hinstruction =>
      have houter : header'.outerInstructions =
          header.outerInstructions.modify outer (Value.replaceAt new []) := by
        rw [← messageInstructions_of_read hread', ← messageInstructions_of_read hread,
          messageInstructions_replaceAt]
      have hgroups : ∀ o : Nat, header'.innerInstructionGroups[o]?.getD [] =
          header.innerInstructionGroups[o]?.getD [] := by
        intro o
        rw [← listedGroup_of_read hread', ← listedGroup_of_read hread, listedGroup, listedGroup,
          innerInstructionGroups_replaceAt_transaction]
      rcases indexes with ⟨o, _ | m⟩
      · simp only [instructionOf, houter, List.getElem?_modify, Value.replaceAt_nil,
          Option.map_eq_map, Prod.mk.injEq, and_true, eq_comm (a := o)]
      · simp only [instructionOf, hgroups, Prod.mk.injEq, reduceCtorEq, and_false, if_false,
          Option.map_id_fun', id_eq]
  | inner listed group index instructions inner instruction hgroup hindex hinstructions
      hinstruction =>
      have houter : header'.outerInstructions = header.outerInstructions := by
        rw [← messageInstructions_of_read hread', ← messageInstructions_of_read hread,
          messageInstructions_replaceAt_meta]
      have hgroups := getElem?_groups_replaceAt hread hread' hgroup hindex
      rcases indexes with ⟨o, _ | m⟩
      · simp only [instructionOf, houter, Prod.mk.injEq, reduceCtorEq, and_false, if_false,
          Option.map_id_fun', id_eq]
      · simp only [instructionOf, hgroups, Prod.mk.injEq, Option.some.injEq]
        cases header.innerInstructionGroups[o]? with
        | none => simp
        | some found =>
            by_cases ho : o = outer
            · simp only [ho, if_true, Option.map_some, Option.getD_some, List.getElem?_modify,
                Value.replaceAt_nil, Option.map_eq_map, true_and, eq_comm (a := m)]
            · simp only [ho, if_false, Option.map_some, Option.getD_some, false_and,
                Option.map_id_fun', id_eq]

/-- The visits of the two transactions differ in the replaced instruction only. -/
theorem visits_replaceAt (hread : readTransaction entry = .ok (some header))
    (hread' : readTransaction (Value.replaceAt new path entry) = .ok (some header'))
    (hat : InstructionAt entry outer inner path old) :
    visits header' = (visits header).map fun visit =>
      { visit with
        instruction := if visit.indexes = (outer, inner) then new else visit.instruction } :=
  visits_of_instructionOf fun indexes => instructionOf_replaceAt hread hread' hat indexes

/-- The visit at any other position is unchanged. -/
theorem getElem?_visits_replaceAt (hread : readTransaction entry = .ok (some header))
    (hread' : readTransaction (Value.replaceAt new path entry) = .ok (some header'))
    (hat : InstructionAt entry outer inner path old) {changed position : Nat}
    (hchanged : (visits header)[changed]? = some ⟨outer, inner, old⟩) (hne : position ≠ changed) :
    (visits header')[position]? = (visits header)[position]? := by
  rw [visits_replaceAt hread hread' hat, List.getElem?_map]
  cases hvisit : (visits header)[position]? with
  | none => rfl
  | some visit =>
      have hindexes : visit.indexes ≠ (outer, inner) := by
        intro hsame
        rcases Prod.mk.inj hsame with ⟨houter, hinner⟩
        exact hne (position_unique hvisit hchanged houter hinner)
      rw [Option.map_some, if_neg hindexes]

/-- An instruction of the same height leaves the shape of the visits as it is. -/
theorem map_shape_replaceAt (hread : readTransaction entry = .ok (some header))
    (hread' : readTransaction (Value.replaceAt new path entry) = .ok (some header'))
    (hat : InstructionAt entry outer inner path old)
    (hheight : new.get "stackHeight" = old.get "stackHeight") :
    (visits header').map Visit.shape = (visits header).map Visit.shape := by
  rw [visits_replaceAt hread hread' hat, List.map_map]
  refine List.map_congr_left fun visit hmem => ?_
  rcases List.mem_iff_getElem?.mp hmem with ⟨position, hvisit⟩
  by_cases hindexes : visit.indexes = (outer, inner)
  · have hsame := instructionOf_of_visit hvisit
    rw [hindexes, (instructionOf_of_instructionAt hread hat).2, Option.some.injEq] at hsame
    simp only [Function.comp_apply, Visit.shape, if_pos hindexes, ← hsame, hheight]
    rfl
  · simp only [Function.comp_apply, if_neg hindexes]

/-- Replacing an instruction leaves the account keys as they are. -/
theorem accountKeys_replaceAt (hread : readTransaction entry = .ok (some header))
    (hread' : readTransaction (Value.replaceAt new path entry) = .ok (some header'))
    (hat : InstructionAt entry outer inner path old) :
    header'.accountKeys = header.accountKeys := by
  cases hat with
  | outer index instruction hinstruction =>
      exact accountKeys_congr hread hread'
        (Value.pointer_replaceAt_of_ne new entry ["transaction", "message"] (by decide) _ _)
        (Value.pointer_replaceAt_of_ne new entry [] (by decide) _ _)
  | inner listed group index instructions inner instruction =>
      exact accountKeys_congr hread hread'
        (Value.pointer_replaceAt_of_ne new entry [] (by decide) _ _)
        (Value.pointer_replaceAt_of_ne new entry ["meta"] (by decide) _ _)

end Replaced

/-! ## Two runs -/

section TwoRuns

variable {crates : Crates} {registry : ParserRegistry} {header header' : TransactionHeader}
  {position : Nat}

/-- What is reported at a position depends on its visit and on its recorded caller. -/
theorem entryAt_congr (hkeys : header'.accountKeys = header.accountKeys)
    (hvisit : (visits header')[position]? = (visits header)[position]?)
    (hparent : parentAt crates registry header' position =
      parentAt crates registry header position) :
    entryAt crates registry header' position = entryAt crates registry header position := by
  cases hget : (visits header)[position]? with
  | none =>
      rw [hget] at hvisit
      rw [entryAt, entryAt, hvisit, hget]
      rfl
  | some visit =>
      rw [hget] at hvisit
      rcases hnormalize : visit.normalize crates registry header.accountKeys with
        (_ | ⟨programId, stackHeight, error⟩) | ⟨normalized, stackHeight⟩
      · rw [entryAt_of_unconfigured hget hnormalize,
          entryAt_of_unconfigured hvisit (hkeys ▸ hnormalize)]
      · rw [entryAt_of_failed hget hnormalize, entryAt_of_failed hvisit (hkeys ▸ hnormalize)]
      · have hcontext := contextAt_of_normalize hget hnormalize
        have hcontext' := contextAt_of_normalize hvisit (hkeys ▸ hnormalize)
        rw [hparent] at hcontext'
        rw [entryAt_of_dispatched hget hnormalize hcontext,
          entryAt_of_dispatched hvisit (hkeys ▸ hnormalize) hcontext']

/-- The caller recorded for a position is the same in two transactions with the
same callers, unless the caller itself is a changed visit. -/
theorem parentAt_congr {changed : Nat} (hkeys : header'.accountKeys = header.accountKeys)
    (hshape : (visits header').map Visit.shape = (visits header).map Visit.shape)
    (hvisits : ∀ other, other ≠ changed → (visits header')[other]? = (visits header)[other]?)
    (hcaller : ¬ ImmediateCaller header position changed) :
    parentAt crates registry header' position = parentAt crates registry header position := by
  refine Option.ext fun parent => ?_
  rw [parentAt_eq_some_iff, parentAt_eq_some_iff, hkeys]
  constructor
  · rintro ⟨caller, visit, stackHeight, himmediate, hget, hnormalize⟩
    have himmediate' := himmediate.of_map_shape hshape.symm
    have hne : caller ≠ changed := fun heq => hcaller (heq ▸ himmediate')
    exact ⟨caller, visit, stackHeight, himmediate', (hvisits caller hne).symm.trans hget,
      hnormalize⟩
  · rintro ⟨caller, visit, stackHeight, himmediate, hget, hnormalize⟩
    have hne : caller ≠ changed := fun heq => hcaller (heq ▸ himmediate)
    exact ⟨caller, visit, stackHeight, himmediate.of_map_shape hshape,
      (hvisits caller hne).trans hget, hnormalize⟩

end TwoRuns

/-- Replacing the instruction object at one position, with the same stack height,
changes nothing that is reported at another position which it does not call. -/
theorem fault_isolation (crates : Crates) (registry : ParserRegistry) {entry new old : Value}
    {header header' : TransactionHeader} {outer : Nat} {inner : Option Nat} {path : List Step}
    (hread : readTransaction entry = .ok (some header))
    (hread' : readTransaction (Value.replaceAt new path entry) = .ok (some header'))
    (hat : InstructionAt entry outer inner path old)
    (hheight : new.get "stackHeight" = old.get "stackHeight") (transactionIndex : Nat) :
    ∃ result result', ∃ changed : Nat,
      parseTransaction crates registry entry transactionIndex = .ok result ∧
      parseTransaction crates registry (Value.replaceAt new path entry) transactionIndex =
        .ok result' ∧
      (visits header)[changed]? = some ⟨outer, inner, old⟩ ∧
      ∀ position, position ≠ changed → ¬ ImmediateCaller header position changed →
        (visits header')[position]? = (visits header)[position]? ∧
        ∀ event, (event ∈ entriesOf result' ∧ event.executionOrdinal = position) ↔
          (event ∈ entriesOf result ∧ event.executionOrdinal = position) := by
  rcases parseTransaction_of_read crates registry hread transactionIndex with
    ⟨result, hparse, hentries⟩
  rcases parseTransaction_of_read crates registry hread' transactionIndex with
    ⟨result', hparse', hentries'⟩
  rcases instructionOf_of_instructionAt hread hat with ⟨houter, hinstruction⟩
  rcases exists_visit_of_instructionOf houter hinstruction with ⟨changed, hchanged⟩
  have hkeys := accountKeys_replaceAt hread hread' hat
  have hother : ∀ position, position ≠ changed →
      (visits header')[position]? = (visits header)[position]? := fun position hne =>
    getElem?_visits_replaceAt hread hread' hat hchanged hne
  have hshape := map_shape_replaceAt hread hread' hat hheight
  refine ⟨result, result', changed, hparse, hparse', hchanged, fun position hne hcaller => ?_⟩
  have hentry : entryAt crates registry header' position =
      entryAt crates registry header position :=
    entryAt_congr hkeys (hother position hne) (parentAt_congr hkeys hshape hother hcaller)
  refine ⟨hother position hne, fun event => ?_⟩
  rw [hentries, hentries', mem_instructionEvents, mem_instructionEvents]
  constructor
  · rintro ⟨hevent, rfl⟩
    exact ⟨hentry ▸ hevent, rfl⟩
  · rintro ⟨hevent, rfl⟩
    exact ⟨hentry.symm ▸ hevent, rfl⟩

/-- An outer instruction with three inner siblings. -/
def siblingsTransaction : Value :=
  TestSupport.transaction "siblings" ["AggregatorProgram", TestSupport.testProgramId] [] []
    [TestSupport.instruction 0 [] [] 1]
    [TestSupport.innerInstructions 0 [TestSupport.instruction 1 [] [1] 2,
      TestSupport.instruction 1 [] [0] 2, TestSupport.instruction 1 [] [1] 2]]
    .null

/-- An instruction of the middle sibling's height without anything else. -/
def malformedInstruction : Value :=
  .object [("programIdIndex", .null), ("stackHeight", TestSupport.unsigned 2)]

/-- An instruction that is made malformed leaves the entry of the one after it as it was. -/
theorem fault_isolation_siblingsTransaction :
    ∃ result result',
      parseTransaction TestSupport.crates TestSupport.registry siblingsTransaction 0 = .ok result ∧
      parseTransaction TestSupport.crates TestSupport.registry
        (Value.replaceAt malformedInstruction [.key "meta", .key "innerInstructions", .index 0,
          .key "instructions", .index 1] siblingsTransaction) 0 = .ok result' ∧
      ∀ event, (event ∈ entriesOf result' ∧ event.executionOrdinal = 3) ↔
        (event ∈ entriesOf result ∧ event.executionOrdinal = 3) := by
  let header : TransactionHeader :=
    { signature := "siblings"
      outerInstructions := [TestSupport.instruction 0 [] [] 1]
      accountKeys := ["AggregatorProgram", TestSupport.testProgramId]
      innerInstructionGroups := Std.TreeMap.insert ∅ 0 [TestSupport.instruction 1 [] [1] 2,
        TestSupport.instruction 1 [] [0] 2, TestSupport.instruction 1 [] [1] 2]
      tokenDecimals := ∅ }
  have hread : readTransaction siblingsTransaction = .ok (some header) :=
    TestSupport.readTransaction_transaction _ _ _ _ _ _ rfl
  have hread' : readTransaction (Value.replaceAt malformedInstruction [.key "meta",
      .key "innerInstructions", .index 0, .key "instructions", .index 1] siblingsTransaction) =
      .ok (some { header with
        innerInstructionGroups := Std.TreeMap.insert ∅ 0 [TestSupport.instruction 1 [] [1] 2,
          malformedInstruction, TestSupport.instruction 1 [] [1] 2] }) :=
    TestSupport.readTransaction_transaction _ _ _ _ _ [TestSupport.innerInstructions 0
      [TestSupport.instruction 1 [] [1] 2, malformedInstruction,
        TestSupport.instruction 1 [] [1] 2]] rfl
  rcases fault_isolation TestSupport.crates TestSupport.registry hread hread' (.inner 0 _ 0 _ 1
      (TestSupport.instruction 1 [] [0] 2) rfl rfl rfl rfl) rfl 0 with
    ⟨result, result', changed, hparse, hparse', hchanged, hsame⟩
  have hposition : changed = 2 := position_unique hchanged
    (show (visits header)[2]? = some ⟨0, some 1, TestSupport.instruction 1 [] [0] 2⟩ from rfl)
    rfl rfl
  subst hposition
  refine ⟨result, result', hparse, hparse', (hsame 3 (by decide) ?_).2⟩
  rintro ⟨callee, caller, hcallee, hcaller, -, -, -, stackHeight, height, hheight, hcallerHeight,
    hsucc, -⟩
  rcases Option.some.inj (show some _ = some callee from hcallee) with rfl
  rcases Option.some.inj (show some _ = some caller from hcaller) with rfl
  rcases Option.some.inj (show some _ = some stackHeight from hheight) with rfl
  rcases Option.some.inj (show some _ = some height from hcallerHeight) with rfl
  exact absurd hsucc (by decide)

end Parser
end PumpRealtimePrices
