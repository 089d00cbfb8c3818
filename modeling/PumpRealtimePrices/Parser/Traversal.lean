import Mathlib.Data.List.Pairwise
import PumpRealtimePrices.Parser.Block
import PumpRealtimePrices.Parser.Header
import PumpRealtimePrices.Parser.Normalization

/-!
# Order and completeness of the traversal

The two nested loops of a transaction share one counter, one output list and one
invocation stack.  They are compared here with a single pass over the flattening
of the transaction: every outer instruction, followed by the instructions of its
group.  The counter is then the position in the flattening, and what is reported
is a function of that position.

Main results:

- Theorem {lit}`pairwise_before_flatten`: positions of the flattening are in the
  order of their indexes, so no element occurs twice.
- Theorem {lit}`instructionEvents_eq`: the loops report, position by position, what
  a single pass over the flattening reports.
- Theorem {lit}`mem_instructionEvents`: an entry of the output is what is reported at
  the position that its execution ordinal names.
-/

namespace PumpRealtimePrices
namespace Parser

open SerdeJson

/-! ## Flattening -/

/-- One visited instruction with its indexes. -/
structure Visit where
  outerInstructionIndex : Nat
  innerInstructionIndex : Option Nat
  instruction : Value

/-- Visits of a group, from an inner index on. -/
def innerVisits (outerInstructionIndex start : Nat) (instructions : List Value) : List Visit :=
  (instructions.zipIdx start).map fun (instruction, innerInstructionIndex) =>
    { outerInstructionIndex, innerInstructionIndex := some innerInstructionIndex, instruction }

/-- Every outer instruction from an outer index on, each followed by its group. -/
def flatten (group : Nat → List Value) (start : Nat) (outerInstructions : List Value) :
    List Visit :=
  (outerInstructions.zipIdx start).flatMap fun (instruction, outerInstructionIndex) =>
    { outerInstructionIndex, innerInstructionIndex := none, instruction } ::
      innerVisits outerInstructionIndex 0 (group outerInstructionIndex)

/-- The flattening of a transaction with this header. -/
def visits (header : TransactionHeader) : List Visit :=
  flatten (fun index => header.innerInstructionGroups[index]?.getD []) 0 header.outerInstructions

/-- Place of a visit among those of the same outer instruction. -/
def Visit.rank (visit : Visit) : Nat :=
  match visit.innerInstructionIndex with
  | none => 0
  | some innerInstructionIndex => innerInstructionIndex + 1

/-- Order of visits by their indexes. -/
def Visit.Before (a b : Visit) : Prop :=
  a.outerInstructionIndex < b.outerInstructionIndex ∨
    a.outerInstructionIndex = b.outerInstructionIndex ∧ a.rank < b.rank

/-- The rank of a visit is its inner index. -/
theorem Visit.rank_inj {a b : Visit} :
    a.rank = b.rank ↔ a.innerInstructionIndex = b.innerInstructionIndex := by
  unfold Visit.rank
  cases a.innerInstructionIndex <;> cases b.innerInstructionIndex <;> simp

/-- The inner visits are those of the instructions of the group. -/
theorem mem_innerVisits {outer : Nat} {instructions : List Value} {visit : Visit} :
    visit ∈ innerVisits outer 0 instructions ↔
      visit.outerInstructionIndex = outer ∧ ∃ inner, visit.innerInstructionIndex = some inner ∧
        instructions[inner]? = some visit.instruction := by
  rcases visit with ⟨outer', inner', instruction⟩
  simp only [innerVisits, List.mem_map, Prod.exists, List.mem_zipIdx_iff_getElem?,
    Visit.mk.injEq]
  constructor
  · rintro ⟨found, inner, hget, rfl, rfl, rfl⟩
    exact ⟨rfl, inner, rfl, hget⟩
  · rintro ⟨rfl, inner, rfl, hget⟩
    exact ⟨instruction, inner, hget, rfl, rfl, rfl⟩

/-- What the flattening holds: the outer instructions, and the instructions of
their groups. -/
theorem mem_flatten {group : Nat → List Value} {outerInstructions : List Value} {visit : Visit} :
    visit ∈ flatten group 0 outerInstructions ↔
      (visit.innerInstructionIndex = none ∧
        outerInstructions[visit.outerInstructionIndex]? = some visit.instruction) ∨
      ∃ inner, visit.innerInstructionIndex = some inner ∧
        visit.outerInstructionIndex < outerInstructions.length ∧
        (group visit.outerInstructionIndex)[inner]? = some visit.instruction := by
  simp only [flatten, List.mem_flatMap, Prod.exists, List.mem_zipIdx_iff_getElem?, List.mem_cons,
    mem_innerVisits]
  constructor
  · rintro ⟨instruction, outer, hget, rfl | ⟨rfl, inner, hinner, hfound⟩⟩
    · exact .inl ⟨rfl, hget⟩
    · exact .inr ⟨inner, hinner, (List.getElem?_eq_some_iff.mp hget).1, hfound⟩
  · rintro (⟨hnone, hget⟩ | ⟨inner, hinner, hlt, hfound⟩)
    · refine ⟨visit.instruction, visit.outerInstructionIndex, hget, .inl ?_⟩
      rw [← hnone]
    · exact ⟨_, visit.outerInstructionIndex, List.getElem?_eq_getElem hlt,
        .inr ⟨rfl, inner, hinner, hfound⟩⟩

/-- The inner visits are in order. -/
theorem pairwise_before_innerVisits (outer start : Nat) (instructions : List Value) :
    (innerVisits outer start instructions).Pairwise Visit.Before := by
  induction instructions generalizing start with
  | nil => exact .nil
  | cons instruction instructions ih =>
      refine List.pairwise_cons.mpr ⟨?_, ih (start + 1)⟩
      intro visit hmem
      rcases List.mem_map.mp hmem with ⟨⟨found, inner⟩, hfound, rfl⟩
      have hle := (List.mem_zipIdx hfound).1
      exact .inr ⟨rfl, by simp only [Visit.rank]; omega⟩

/-- Positions of the flattening are in the order of their indexes. -/
theorem pairwise_before_flatten (group : Nat → List Value) (start : Nat)
    (outerInstructions : List Value) :
    (flatten group start outerInstructions).Pairwise Visit.Before := by
  induction outerInstructions generalizing start with
  | nil => exact .nil
  | cons instruction outerInstructions ih =>
      have hinner : ∀ visit ∈ innerVisits start 0 (group start),
          visit.outerInstructionIndex = start ∧ 0 < visit.rank := by
        intro visit hmem
        rcases mem_innerVisits.mp hmem with ⟨houter, inner, hinner, -⟩
        exact ⟨houter, by simp [Visit.rank, hinner]⟩
      have hlater : ∀ visit ∈ flatten group (start + 1) outerInstructions,
          start < visit.outerInstructionIndex := by
        intro visit hmem
        simp only [flatten, List.mem_flatMap, Prod.exists, List.mem_cons, mem_innerVisits] at hmem
        rcases hmem with ⟨found, outer, hfound, hvisit⟩
        have hle := (List.mem_zipIdx hfound).1
        rcases hvisit with rfl | ⟨rfl, -⟩ <;> exact hle
      have hcons : flatten group start (instruction :: outerInstructions) =
          ({ outerInstructionIndex := start, innerInstructionIndex := none, instruction } ::
            innerVisits start 0 (group start)) ++ flatten group (start + 1) outerInstructions := by
        rw [flatten, List.zipIdx_cons, List.flatMap_cons]
        rfl
      rw [hcons, List.pairwise_append, List.pairwise_cons]
      refine ⟨⟨fun visit hmem => ?_, pairwise_before_innerVisits start 0 _⟩, ih (start + 1), ?_⟩
      · rcases hinner visit hmem with ⟨houter, hrank⟩
        exact .inr ⟨houter.symm, hrank⟩
      · intro visit hmem other hother
        refine .inl ?_
        rcases List.mem_cons.mp hmem with rfl | hmem
        · exact hlater other hother
        · rw [(hinner visit hmem).1]
          exact hlater other hother

section Positions

variable {header : TransactionHeader} {p q : Nat} {a b : Visit}

/-- Later positions have later indexes. -/
theorem before_of_lt (hlt : p < q) (hp : (visits header)[p]? = some a)
    (hq : (visits header)[q]? = some b) : a.Before b := by
  rcases List.getElem?_eq_some_iff.mp hp with ⟨hplt, rfl⟩
  rcases List.getElem?_eq_some_iff.mp hq with ⟨hqlt, rfl⟩
  exact List.pairwise_iff_getElem.mp (pairwise_before_flatten _ 0 _) p q hplt hqlt hlt

/-- An instruction is visited at one position only. -/
theorem position_unique (hp : (visits header)[p]? = some a) (hq : (visits header)[q]? = some b)
    (houter : a.outerInstructionIndex = b.outerInstructionIndex)
    (hinner : a.innerInstructionIndex = b.innerInstructionIndex) : p = q := by
  have hrank := Visit.rank_inj.mpr hinner
  rcases Nat.lt_trichotomy p q with hlt | heq | hlt
  · rcases before_of_lt hlt hp hq with h | ⟨-, h⟩ <;> omega
  · exact heq
  · rcases before_of_lt hlt hq hp with h | ⟨-, h⟩ <;> omega

/-- Visits never go back to an earlier outer instruction. -/
theorem outerInstructionIndex_le_of_le (hle : p ≤ q) (hp : (visits header)[p]? = some a)
    (hq : (visits header)[q]? = some b) : a.outerInstructionIndex ≤ b.outerInstructionIndex := by
  rcases Nat.eq_or_lt_of_le hle with rfl | hlt
  · rw [Option.some.inj (hp.symm.trans hq)]
  · rcases before_of_lt hlt hp hq with h | ⟨h, -⟩ <;> omega

/-- An inner instruction is visited after the outer instruction of its group. -/
theorem exists_outer_before (hp : (visits header)[p]? = some a)
    (hinner : a.innerInstructionIndex ≠ none) :
    ∃ q outer, q < p ∧ (visits header)[q]? = some outer ∧
      outer.outerInstructionIndex = a.outerInstructionIndex ∧
      outer.innerInstructionIndex = none := by
  rcases mem_flatten.mp (List.mem_of_getElem? hp) with ⟨hnone, -⟩ | ⟨inner, hinner', hlt, -⟩
  · exact absurd hnone hinner
  · have hmem : (⟨a.outerInstructionIndex, none,
        header.outerInstructions[a.outerInstructionIndex]⟩ : Visit) ∈ visits header :=
      mem_flatten.mpr (.inl ⟨rfl, List.getElem?_eq_getElem hlt⟩)
    rcases List.mem_iff_getElem?.mp hmem with ⟨q, hq⟩
    refine ⟨q, _, ?_, hq, rfl, rfl⟩
    rcases Nat.lt_trichotomy q p with hqp | rfl | hpq
    · exact hqp
    · rw [← Option.some.inj (hp.symm.trans hq)] at hmem
      exact absurd (congrArg Visit.innerInstructionIndex
        (Option.some.inj (hp.symm.trans hq))) hinner
    · rcases before_of_lt hpq hp hq with h | ⟨-, h⟩
      · exact absurd h (Nat.lt_irrefl _)
      · exact absurd h (Nat.not_lt_zero _)

end Positions

/-! ## The flattening by indexes -/

/-- Indexes of a visit. -/
def Visit.indexes (visit : Visit) : Nat × Option Nat :=
  (visit.outerInstructionIndex, visit.innerInstructionIndex)

/-- The instruction with these indexes. -/
def instructionOf (header : TransactionHeader) : Nat × Option Nat → Option Value
  | (outer, none) => header.outerInstructions[outer]?
  | (outer, some inner) => (header.innerInstructionGroups[outer]?.getD [])[inner]?

/-- A visit has the instruction at its indexes. -/
theorem instructionOf_of_visit {header : TransactionHeader} {position : Nat} {visit : Visit}
    (hvisit : (visits header)[position]? = some visit) :
    instructionOf header visit.indexes = some visit.instruction := by
  rcases mem_flatten.mp (List.mem_of_getElem? hvisit) with ⟨hnone, hget⟩ | ⟨inner, hinner, -, hget⟩
  · rwa [Visit.indexes, hnone]
  · rwa [Visit.indexes, hinner]

/-- Every instruction is visited. -/
theorem exists_visit_of_instructionOf {header : TransactionHeader} {outer : Nat}
    {inner : Option Nat} {instruction : Value} (houter : outer < header.outerInstructions.length)
    (hinstruction : instructionOf header (outer, inner) = some instruction) :
    ∃ position : Nat, (visits header)[position]? = some ⟨outer, inner, instruction⟩ := by
  refine List.mem_iff_getElem?.mp (mem_flatten.mpr ?_)
  cases inner with
  | none => exact .inl ⟨rfl, hinstruction⟩
  | some inner => exact .inr ⟨inner, rfl, houter, hinstruction⟩

/-- The indexes that are visited depend on the lengths of the lists only. -/
theorem flatten_map_indexes (group : Nat → List Value) (start : Nat)
    (outerInstructions : List Value) :
    (flatten group start outerInstructions).map Visit.indexes =
      (List.range' start outerInstructions.length).flatMap fun outer =>
        (outer, none) :: (List.range' 0 (group outer).length).map fun inner =>
          (outer, some inner) := by
  rw [← List.zipIdx_map_snd start, flatten, List.map_flatMap, List.flatMap_map]
  refine congrArg (fun f => List.flatMap f _) (funext fun indexed => ?_)
  rw [List.map_cons, ← List.zipIdx_map_snd 0, innerVisits, List.map_map, List.map_map]
  rfl

/-! ## One pass over the flattening -/

section OnePass

variable (crates : Crates) (registry : ParserRegistry)

/-- Parse the instruction of a visit. -/
def Visit.parse (visit : Visit) (accountKeys : List String) (executionOrdinal : Nat)
    (invocationStack : InvocationStack) : Option InstructionEvents × InvocationStack :=
  parseInstruction crates registry visit.instruction accountKeys visit.outerInstructionIndex
    visit.innerInstructionIndex executionOrdinal invocationStack

/-- Loop body of the single pass. -/
def Visit.step (accountKeys : List String) (state : LoopState) (visit : Visit) : LoopState :=
  visitInstruction crates registry accountKeys visit.outerInstructionIndex
    visit.innerInstructionIndex visit.instruction state

/-- The stack before a position of the flattening. -/
def stackBefore (header : TransactionHeader) : Nat → InvocationStack
  | 0 => []
  | position + 1 =>
      match (visits header)[position]? with
      | some visit =>
          (visit.parse crates registry header.accountKeys position
            (stackBefore header position)).2
      | none => []

/-- What is reported at a position of the flattening. -/
def entryAt (header : TransactionHeader) (position : Nat) : Option InstructionEvents :=
  (visits header)[position]?.bind fun visit =>
    (visit.parse crates registry header.accountKeys position
      (stackBefore crates registry header position)).1

/-- The loop over the inner instructions is a fold over their visits. -/
theorem visitInnerInstructions_eq_foldl (accountKeys : List String) (outer start : Nat)
    (instructions : List Value) (state : LoopState) :
    visitInnerInstructions crates registry accountKeys outer start instructions state =
      (innerVisits outer start instructions).foldl (Visit.step crates registry accountKeys)
        state := by
  induction instructions generalizing start state with
  | nil => rfl
  | cons instruction instructions ih =>
      rw [visitInnerInstructions, ih]
      rfl

/-- An outer instruction ignores the stack it finds, so the loops need not empty it. -/
theorem visitOuterInstructions_eq_foldl (accountKeys : List String)
    (groups : Std.TreeMap Nat (List Value)) (start : Nat) (outerInstructions : List Value)
    (state : LoopState) :
    visitOuterInstructions crates registry accountKeys groups start outerInstructions state =
      (flatten (fun index => groups[index]?.getD []) start outerInstructions).foldl
        (Visit.step crates registry accountKeys) state := by
  induction outerInstructions generalizing start state with
  | nil => rfl
  | cons instruction outerInstructions ih =>
      rw [visitOuterInstructions, flatten, List.zipIdx_cons, List.flatMap_cons, List.foldl_append,
        ih]
      simp only [List.foldl_cons]
      congr 1
      cases hgroup : groups[start]? with
      | none => rfl
      | some innerInstructions =>
          exact visitInnerInstructions_eq_foldl crates registry accountKeys start 0 _ _

/-- State of the single pass after a number of positions. -/
theorem foldl_take_visits (header : TransactionHeader) {position : Nat}
    (hle : position ≤ (visits header).length) :
    ((visits header).take position).foldl (Visit.step crates registry header.accountKeys)
        { executionOrdinal := 0, instructionEvents := [], invocationStack := [] } =
      { executionOrdinal := position
        instructionEvents := (List.range position).filterMap (entryAt crates registry header)
        invocationStack := stackBefore crates registry header position } := by
  induction position with
  | zero => rfl
  | succ position ih =>
      have hget := List.getElem?_eq_getElem (Nat.lt_of_succ_le hle)
      rw [List.take_add_one, List.foldl_append, ih (Nat.le_of_succ_le hle), hget]
      simp only [Option.toList_some, List.foldl_cons, List.foldl_nil, Visit.step,
        visitInstruction, List.range_succ, List.filterMap_append, stackBefore, hget]
      congr 2
      rw [List.filterMap_cons, entryAt, hget, Option.bind_some, List.filterMap_nil, Visit.parse]
      cases (parseInstruction crates registry _ header.accountKeys _ _ position _).1 <;> rfl

/-- The loops report what a single pass over the flattening reports. -/
theorem instructionEvents_eq (header : TransactionHeader) :
    instructionEvents crates registry header =
      (List.range (visits header).length).filterMap (entryAt crates registry header) := by
  rw [instructionEvents, visitOuterInstructions_eq_foldl]
  have htake := foldl_take_visits crates registry header (Nat.le_refl _)
  rw [List.take_length] at htake
  exact congrArg LoopState.instructionEvents htake

/-! ## What is reported -/

/-- Normalize the instruction of a visit. -/
def Visit.normalize (visit : Visit) (accountKeys : List String) :
    Except Rejection (NormalizedInstruction × Option UInt32) :=
  normalizeInstruction crates registry accountKeys visit.innerInstructionIndex visit.instruction

/-- The caller that is recorded for a position. -/
def parentAt (header : TransactionHeader) (position : Nat) : Option NormalizedInstruction :=
  (visits header)[position]?.bind fun visit =>
    immediateParent
      (alignInvocationStack (stackBefore crates registry header position)
        visit.innerInstructionIndex (observedStackHeight visit.instruction))
      visit.innerInstructionIndex (observedStackHeight visit.instruction)

/-- The context that is given to the parser at a position, if the instruction
there is dispatched. -/
def contextAt (header : TransactionHeader) (position : Nat) : Option InstructionContext :=
  (visits header)[position]?.bind fun visit =>
    match visit.normalize crates registry header.accountKeys with
    | .ok (normalized, stackHeight) =>
        some (dispatchContext
          (alignInvocationStack (stackBefore crates registry header position)
            visit.innerInstructionIndex (observedStackHeight visit.instruction))
          visit.innerInstructionIndex normalized stackHeight)
    | .error _ => none

end OnePass

/-- What a parser sees of a normalized instruction. -/
def NormalizedInstruction.view (normalized : NormalizedInstruction) : InstructionView :=
  normalized.context.instruction

section Entries

variable {crates : Crates} {registry : ParserRegistry} {header : TransactionHeader}
  {position : Nat} {visit : Visit}

/-- A dispatched instruction is given to its parser with the recorded caller. -/
theorem contextAt_of_normalize {normalized : NormalizedInstruction} {stackHeight : Option UInt32}
    (hvisit : (visits header)[position]? = some visit)
    (hnormalize : visit.normalize crates registry header.accountKeys =
      .ok (normalized, stackHeight)) :
    contextAt crates registry header position = some {
      instruction := normalized.view
      parent := (parentAt crates registry header position).map NormalizedInstruction.view } := by
  rcases normalizeInstruction_eq_ok hnormalize with ⟨-, -, hheight, -⟩
  rcases readStackHeight_eq_ok hheight with rfl
  simp only [contextAt, hvisit, Option.bind_some, hnormalize, parentAt, dispatchContext,
    Option.some.injEq]
  split
  · next parent hparent =>
      rw [hparent]
      rfl
  · next hparent =>
      rw [hparent]
      rfl

/-- An instruction of another program has no entry. -/
theorem entryAt_of_unconfigured (hvisit : (visits header)[position]? = some visit)
    (hnormalize : visit.normalize crates registry header.accountKeys = .error .unconfigured) :
    entryAt crates registry header position = none := by
  rw [Visit.normalize] at hnormalize
  rw [entryAt, hvisit, Option.bind_some, Visit.parse, parseInstruction, hnormalize]

/-- An instruction that is not normalized has its failure as its entry. -/
theorem entryAt_of_failed {programId : Option String} {stackHeight : Option UInt32}
    {error : InstructionParseError} (hvisit : (visits header)[position]? = some visit)
    (hnormalize : visit.normalize crates registry header.accountKeys =
      .error (.failed programId stackHeight error)) :
    entryAt crates registry header position =
      some (instructionFailure programId visit.outerInstructionIndex visit.innerInstructionIndex
        stackHeight position error) := by
  rw [Visit.normalize] at hnormalize
  rw [entryAt, hvisit, Option.bind_some, Visit.parse, parseInstruction, hnormalize]

/-- An instruction that is normalized has the outcome of its dispatch as its entry. -/
theorem entryAt_of_dispatched {normalized : NormalizedInstruction} {stackHeight : Option UInt32}
    {context : InstructionContext} (hvisit : (visits header)[position]? = some visit)
    (hnormalize : visit.normalize crates registry header.accountKeys =
      .ok (normalized, stackHeight))
    (hcontext : contextAt crates registry header position = some context) :
    entryAt crates registry header position =
      outcomeEntry normalized.programId visit.outerInstructionIndex visit.innerInstructionIndex
        stackHeight position (dispatch registry context) := by
  rw [contextAt, hvisit, Option.bind_some, hnormalize] at hcontext
  rcases Option.some.inj hcontext with rfl
  rw [Visit.normalize] at hnormalize
  rw [entryAt, hvisit, Option.bind_some, Visit.parse, parseInstruction, hnormalize]

/-- A visit leaves the aligned stack, with its own instruction on top if that is
normalized. -/
theorem Visit.parse_snd (crates : Crates) (registry : ParserRegistry) (visit : Visit)
    (accountKeys : List String) (position : Nat) (stack : InvocationStack) :
    (visit.parse crates registry accountKeys position stack).2 =
      ((visit.normalize crates registry accountKeys).toOption.map Prod.fst).toList ++
        alignInvocationStack stack visit.innerInstructionIndex
          (observedStackHeight visit.instruction) := by
  unfold Visit.parse parseInstruction Visit.normalize
  rcases normalizeInstruction crates registry accountKeys visit.innerInstructionIndex
      visit.instruction with (_ | ⟨programId, stackHeight, error⟩) | ⟨normalized, stackHeight⟩
  · rfl
  · rfl
  · rfl

/-- Every entry carries the position and the indexes of its visit. -/
theorem entryAt_eq_some {entry : InstructionEvents}
    (hentry : entryAt crates registry header position = some entry) :
    ∃ visit, (visits header)[position]? = some visit ∧ entry.executionOrdinal = position ∧
      entry.outerInstructionIndex = visit.outerInstructionIndex ∧
      entry.innerInstructionIndex = visit.innerInstructionIndex := by
  rcases Option.bind_eq_some_iff.mp hentry with ⟨visit, hvisit, -⟩
  refine ⟨visit, hvisit, ?_⟩
  rcases hnormalize : visit.normalize crates registry header.accountKeys with
    (_ | ⟨programId, stackHeight, error⟩) | ⟨normalized, stackHeight⟩
  · rw [entryAt_of_unconfigured hvisit hnormalize] at hentry
    cases hentry
  · rw [entryAt_of_failed hvisit hnormalize] at hentry
    rcases Option.some.inj hentry with rfl
    exact ⟨rfl, rfl, rfl⟩
  · rw [entryAt_of_dispatched hvisit hnormalize (contextAt_of_normalize hvisit hnormalize)]
      at hentry
    unfold outcomeEntry at hentry
    split at hentry
    · cases hentry
    · rcases Option.some.inj hentry with rfl
      exact ⟨rfl, rfl, rfl⟩
    · rcases Option.some.inj hentry with rfl
      exact ⟨rfl, rfl, rfl⟩

/-- An entry is the one at its execution ordinal. -/
theorem mem_instructionEvents {entry : InstructionEvents} :
    entry ∈ instructionEvents crates registry header ↔
      entryAt crates registry header entry.executionOrdinal = some entry := by
  rw [instructionEvents_eq, List.mem_filterMap]
  constructor
  · rintro ⟨position, -, hentry⟩
    rcases entryAt_eq_some hentry with ⟨-, -, hordinal, -⟩
    rwa [hordinal]
  · intro hentry
    rcases entryAt_eq_some hentry with ⟨visit, hvisit, -⟩
    exact ⟨_, List.mem_range.mpr (List.getElem?_eq_some_iff.mp hvisit).1, hentry⟩

/-- Entries are in the order of their execution ordinals. -/
theorem pairwise_instructionEvents (crates : Crates) (registry : ParserRegistry)
    (header : TransactionHeader) :
    (instructionEvents crates registry header).Pairwise fun a b =>
      a.executionOrdinal < b.executionOrdinal := by
  rw [instructionEvents_eq, List.pairwise_filterMap]
  refine List.pairwise_lt_range.imp fun hlt entry hentry other hother => ?_
  rcases entryAt_eq_some hentry with ⟨-, -, hordinal, -⟩
  rcases entryAt_eq_some hother with ⟨-, -, hordinal', -⟩
  rwa [hordinal, hordinal']

end Entries

end Parser
end PumpRealtimePrices
