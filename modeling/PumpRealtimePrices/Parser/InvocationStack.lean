import PumpRealtimePrices.Library.CallStack
import PumpRealtimePrices.Parser.TestSupport
import PumpRealtimePrices.Parser.Traversal

/-!
# Reconstruction of the caller

The stack of the traversal holds only instructions that were normalized, while
every visit pops it, whatever comes of the visit.  It is an instance of the
call stack that is rebuilt from heights, so the caller that is recorded for an
inner instruction can be read off the heights of the visits before it.

Main results:

- Theorem {lit}`framesOf_stackBefore`: the stack of the traversal is the stack
  rebuilt from the heights of the visits.
- Theorem {lit}`parentAt_eq_some_iff`: the recorded caller is the immediate caller,
  if that was normalized.
- Theorem {lit}`parent_reconstruction`: the same for a parsed transaction.
-/

namespace PumpRealtimePrices
namespace Parser

open SerdeJson

/-! ## Immediate callers -/

/-- Height of a visit: its observed stack height, and 1 for an outer instruction
whose stack height is absent or null. -/
def Visit.height (visit : Visit) : Option Nat :=
  match visit.innerInstructionIndex, visit.instruction.get "stackHeight" with
  | none, none => some 1
  | none, some .null => some 1
  | _, _ => (observedStackHeight visit.instruction).map UInt32.toNat

/-- The inner instruction at a position is called by the one at position
{lit}`caller`: that is an earlier visit of the same outer instruction, one level up,
and everything visited in between is nested in it. -/
def ImmediateCaller (header : TransactionHeader) (position caller : Nat) : Prop :=
  ∃ callee callerVisit : Visit, (visits header)[position]? = some callee ∧
    (visits header)[caller]? = some callerVisit ∧ caller < position ∧
    callerVisit.outerInstructionIndex = callee.outerInstructionIndex ∧
    callee.innerInstructionIndex.isSome ∧
    ∃ stackHeight height, observedStackHeight callee.instruction = some stackHeight ∧
      callerVisit.height = some height ∧ height + 1 = stackHeight.toNat ∧
      ∀ between visit, caller < between → between < position →
        (visits header)[between]? = some visit →
        ∃ nested, observedStackHeight visit.instruction = some nested ∧ height < nested.toNat

/-! ## The stack as rebuilt from heights -/

/-- The invocation stack as frames of the abstract stack. -/
def framesOf (stack : InvocationStack) : CallStack.Frames Nat NormalizedInstruction :=
  stack.map fun instruction => (instruction.invocationHeight.map UInt32.toNat, instruction)

/-- The visit at a position as a call; it pushes a frame when it is normalized. -/
def callAt (crates : Crates) (registry : ParserRegistry) (header : TransactionHeader)
    (position : Nat) : CallStack.Call Nat NormalizedInstruction :=
  match (visits header)[position]? with
  | some visit =>
      { root := visit.innerInstructionIndex.isNone
        height := visit.height
        frame := (visit.normalize crates registry header.accountKeys).toOption.map Prod.fst }
  | none => { root := true, height := none, frame := none }

/-- A visit as a call of the stack. -/
theorem callAt_of_visit (crates : Crates) (registry : ParserRegistry) {header : TransactionHeader}
    {position : Nat} {visit : Visit} (hvisit : (visits header)[position]? = some visit) :
    callAt crates registry header position =
      { root := visit.innerInstructionIndex.isNone
        height := visit.height
        frame := (visit.normalize crates registry header.accountKeys).toOption.map Prod.fst } := by
  rw [callAt, hvisit]

/-- An inner instruction has the height that it observes. -/
theorem Visit.height_of_inner {visit : Visit} {inner : Nat}
    (hinner : visit.innerInstructionIndex = some inner) :
    visit.height = (observedStackHeight visit.instruction).map UInt32.toNat := by
  simp only [Visit.height, hinner]

/-- A normalized instruction is pushed at the height of its visit. -/
theorem invocationHeight_of_normalize {crates : Crates} {registry : ParserRegistry}
    {accountKeys : List String} {visit : Visit} {normalized : NormalizedInstruction}
    {stackHeight : Option UInt32}
    (hnormalize : visit.normalize crates registry accountKeys = .ok (normalized, stackHeight)) :
    normalized.invocationHeight.map UInt32.toNat = visit.height := by
  rcases normalizeInstruction_eq_ok hnormalize with ⟨-, -, hread, hheight⟩
  have hobserved := readStackHeight_eq_ok hread
  rw [hheight]
  cases hinner : visit.innerInstructionIndex with
  | some inner =>
      rw [Visit.height_of_inner hinner, ← hobserved]
      simp
  | none =>
      unfold readStackHeight at hread
      split at hread
      · next hnone =>
          rw [Visit.height, hinner, hnone, ← Except.ok.inj hread]
          rfl
      · next hnull =>
          rw [Visit.height, hinner, hnull, ← Except.ok.inj hread]
          rfl
      · next value hnotnull hvalue =>
          split at hread
          · next height _ =>
              rcases Except.ok.inj hread with rfl
              have hvisit : visit.height =
                  (observedStackHeight visit.instruction).map UInt32.toNat := by
                rw [Visit.height, hinner, hvalue]
                cases value <;> first | rfl | exact absurd rfl hnotnull
              rw [hvisit, ← hobserved]
              rfl
          · cases hread

/-- Aligning the invocation stack is aligning its frames. -/
theorem framesOf_alignInvocationStack (stack : InvocationStack) (inner : Option Nat)
    (stackHeight : Option UInt32) :
    framesOf (alignInvocationStack stack inner stackHeight) =
      if inner.isNone then []
      else CallStack.align (stackHeight.map UInt32.toNat) (framesOf stack) := by
  cases inner with
  | none => rfl
  | some inner =>
      cases stackHeight with
      | none => rfl
      | some stackHeight =>
          simp only [alignInvocationStack, framesOf, CallStack.align, Option.map_some,
            Option.isNone_some, Bool.false_eq_true, if_false, List.dropWhile_map]
          congr 2
          funext instruction
          simp [CallStack.closes, Option.all_map, UInt32.le_iff_toNat_le]

/-- The stack of the traversal is the stack rebuilt from the heights of the visits. -/
theorem framesOf_stackBefore (crates : Crates) (registry : ParserRegistry)
    (header : TransactionHeader) (position : Nat) :
    framesOf (stackBefore crates registry header position) =
      CallStack.stackAt (callAt crates registry header) position := by
  induction position with
  | zero => rfl
  | succ position ih =>
      rw [stackBefore, CallStack.stackAt, ← ih, CallStack.Call.visit, callAt]
      cases hvisit : (visits header)[position]? with
      | none => rfl
      | some visit =>
          have halign : framesOf (alignInvocationStack
              (stackBefore crates registry header position) visit.innerInstructionIndex
              (observedStackHeight visit.instruction)) =
              if visit.innerInstructionIndex.isNone then []
              else CallStack.align visit.height
                (framesOf (stackBefore crates registry header position)) := by
            rw [framesOf_alignInvocationStack]
            cases hinner : visit.innerInstructionIndex with
            | none => rfl
            | some inner => rw [Visit.height_of_inner hinner]
          have hpushed : ((visit.normalize crates registry header.accountKeys).toOption.map
              Prod.fst).map (fun instruction =>
                (instruction.invocationHeight.map UInt32.toNat, instruction)) =
              ((visit.normalize crates registry header.accountKeys).toOption.map Prod.fst).map
                (fun instruction => (visit.height, instruction)) := by
            rcases hnormalize : visit.normalize crates registry header.accountKeys with
              rejection | ⟨normalized, stackHeight⟩
            · rfl
            · rw [← invocationHeight_of_normalize hnormalize]
              rfl
          simp only [← halign, ← hpushed, Visit.parse_snd]
          simp only [framesOf, List.map_append, Option.toList_map]

/-! ## The recorded caller -/

/-- Being called by a visit is being called by it as the abstract stack has it. -/
theorem isCaller_callAt_iff (crates : Crates) (registry : ParserRegistry)
    {header : TransactionHeader} {position caller : Nat} {visit : Visit} {stackHeight : UInt32}
    (hvisit : (visits header)[position]? = some visit)
    (hinner : visit.innerInstructionIndex.isSome)
    (hheight : observedStackHeight visit.instruction = some stackHeight) :
    CallStack.IsCaller (callAt crates registry header) stackHeight.toNat position caller ↔
      ImmediateCaller header position caller := by
  have hlength := (List.getElem?_eq_some_iff.mp hvisit).1
  constructor
  · rintro ⟨hlt, height, hcaller, hcov, hbetween⟩
    have hget := List.getElem?_eq_getElem (hlt.trans hlength)
    rw [callAt_of_visit crates registry hget] at hcaller
    refine ⟨visit, _, hvisit, hget, hlt, ?_, hinner, stackHeight, height, hheight, hcaller,
      Nat.covBy_iff_add_one_eq.mp hcov, ?_⟩
    · -- The outer instruction of the group is no nested call, so it is not in between.
      rcases exists_outer_before hvisit (Option.isSome_iff_ne_none.mp hinner) with
        ⟨outer, outerVisit, houterlt, houter, houterIndex, hnone⟩
      have hle : outer ≤ caller := by
        by_contra hgt
        rcases hbetween outer (by omega) houterlt with ⟨hroot, -⟩
        rw [callAt_of_visit crates registry houter, hnone] at hroot
        cases hroot
      have hfirst := outerInstructionIndex_le_of_le hle houter hget
      have hlast := outerInstructionIndex_le_of_le hlt.le hget hvisit
      omega
    · intro between other hcb hbp hother
      rcases hbetween between hcb hbp with ⟨hroot, nested, hnested, hgt⟩
      simp only [callAt_of_visit crates registry hother, Option.isNone_eq_false_iff]
        at hroot hnested
      rcases Option.isSome_iff_exists.mp hroot with ⟨inner, hinner'⟩
      rw [Visit.height_of_inner hinner', Option.map_eq_some_iff] at hnested
      rcases hnested with ⟨found, hfound, rfl⟩
      exact ⟨found, hfound, hgt⟩
  · rintro ⟨callee, callerVisit, hcallee, hget, hlt, houter, -, found, height, hfound, hcaller,
      hsucc, hbetween⟩
    rcases Option.some.inj (hvisit.symm.trans hcallee) with rfl
    rcases Option.some.inj (hheight.symm.trans hfound) with rfl
    refine ⟨hlt, height, ?_, Nat.covBy_iff_add_one_eq.mpr hsucc, ?_⟩
    · rw [callAt_of_visit crates registry hget]
      exact hcaller
    · intro between hcb hbp
      have hother := List.getElem?_eq_getElem (hbp.trans hlength)
      rcases hbetween between _ hcb hbp hother with ⟨nested, hnested, hgt⟩
      have hinner' : (visits header)[between].innerInstructionIndex ≠ none := by
        intro hnone
        have hlast := outerInstructionIndex_le_of_le hbp.le hother hvisit
        rcases before_of_lt hcb hget hother with h | ⟨-, h⟩
        · omega
        · simp [Visit.rank, hnone] at h
      rcases Option.ne_none_iff_exists'.mp hinner' with ⟨inner, hinner''⟩
      rw [callAt_of_visit crates registry hother]
      refine ⟨by simp [hinner''], nested.toNat, ?_, hgt⟩
      simp only [Visit.height_of_inner hinner'', hnested, Option.map_some]

/-- The top of an aligned stack is the caller when it is exactly one level up. -/
theorem immediateParent_eq_some_iff {stack : InvocationStack} {inner : Nat}
    {stackHeight : UInt32} {parent : NormalizedInstruction} :
    immediateParent stack (some inner) (some stackHeight) = some parent ↔
      ∃ height rest, framesOf stack = (some height, parent) :: rest ∧
        height ⋖ stackHeight.toNat := by
  cases stack with
  | nil => simp [immediateParent, framesOf]
  | cons top stack =>
      simp only [immediateParent, List.head?_cons, Option.filter_some, framesOf, List.map_cons,
        List.cons.injEq, Prod.mk.injEq, Nat.covBy_iff_add_one_eq]
      cases hheight : top.invocationHeight with
      | none => simp
      | some height =>
          simp only [Option.bind_some, Rust.u32CheckedSucc_eq_some_iff, Option.map_some]
          constructor
          · intro hsome
            split at hsome
            · next hsucc =>
                rcases Option.some.inj hsome with rfl
                exact ⟨_, _, ⟨⟨rfl, rfl⟩, rfl⟩, by simpa using hsucc⟩
            · cases hsome
          · rintro ⟨_, _, ⟨⟨hfound, rfl⟩, -⟩, hsucc⟩
            rcases Option.some.inj hfound with rfl
            simp [hsucc]

section Recorded

variable {crates : Crates} {registry : ParserRegistry} {header : TransactionHeader}
  {position : Nat}

/-- What a visit pushes is its normalized instruction. -/
theorem frame_callAt_eq_some_iff {parent : NormalizedInstruction} {caller : Nat} :
    (callAt crates registry header caller).frame = some parent ↔
      ∃ visit stackHeight, (visits header)[caller]? = some visit ∧
        visit.normalize crates registry header.accountKeys = .ok (parent, stackHeight) := by
  cases hvisit : (visits header)[caller]? with
  | none => simp [callAt, hvisit]
  | some visit =>
      rw [callAt_of_visit crates registry hvisit]
      rcases hnormalize : visit.normalize crates registry header.accountKeys with
        rejection | ⟨found, height⟩
      · simp [Except.toOption, hnormalize]
      · simp [Except.toOption, hnormalize]

/-- The recorded caller of an inner instruction is what its immediate caller pushed. -/
theorem parentAt_eq_some_iff_frame {parent : NormalizedInstruction} {visit : Visit} {inner : Nat}
    {stackHeight : UInt32} (hvisit : (visits header)[position]? = some visit)
    (hinner : visit.innerInstructionIndex = some inner)
    (hheight : observedStackHeight visit.instruction = some stackHeight) :
    parentAt crates registry header position = some parent ↔
      ∃ caller, ImmediateCaller header position caller ∧
        (callAt crates registry header caller).frame = some parent := by
  simp only [parentAt, hvisit, Option.bind_some, hinner, hheight, immediateParent_eq_some_iff,
    framesOf_alignInvocationStack, Option.isNone_some, Bool.false_eq_true, if_false,
    Option.map_some, framesOf_stackBefore]
  rw [CallStack.align_head_iff]
  simp only [isCaller_callAt_iff crates registry hvisit (by rw [hinner]; rfl) hheight]

/-- The recorded caller is the immediate caller, if that one was normalized. -/
theorem parentAt_eq_some_iff {parent : NormalizedInstruction} :
    parentAt crates registry header position = some parent ↔
      ∃ caller visit stackHeight, ImmediateCaller header position caller ∧
        (visits header)[caller]? = some visit ∧
        visit.normalize crates registry header.accountKeys = .ok (parent, stackHeight) := by
  constructor
  · intro hparent
    rcases Option.bind_eq_some_iff.mp hparent with ⟨visit, hvisit, himmediate⟩
    cases hinner : visit.innerInstructionIndex with
    | none => simp [immediateParent, hinner] at himmediate
    | some inner =>
        cases hheight : observedStackHeight visit.instruction with
        | none => simp [immediateParent, hinner, hheight] at himmediate
        | some stackHeight =>
            rcases (parentAt_eq_some_iff_frame hvisit hinner hheight).mp hparent with
              ⟨caller, hcalls, hpushed⟩
            rcases frame_callAt_eq_some_iff.mp hpushed with
              ⟨visit, stackHeight, hvisit, hnormalize⟩
            exact ⟨caller, visit, stackHeight, hcalls, hvisit, hnormalize⟩
  · rintro ⟨caller, visit, stackHeight, hcalls, hvisit, hnormalize⟩
    have hcallee := hcalls
    rcases hcallee with ⟨callee, -, hcallee, -, -, -, hinner, height, -, hheight, -⟩
    rcases Option.isSome_iff_exists.mp hinner with ⟨inner, hinner⟩
    exact (parentAt_eq_some_iff_frame hcallee hinner hheight).mpr
      ⟨caller, hcalls, frame_callAt_eq_some_iff.mpr ⟨visit, stackHeight, hvisit, hnormalize⟩⟩

/-- A position has at most one immediate caller. -/
theorem ImmediateCaller.unique (crates : Crates) (registry : ParserRegistry) {caller caller' : Nat}
    (hcaller : ImmediateCaller header position caller)
    (hcaller' : ImmediateCaller header position caller') : caller = caller' := by
  have hcallee := hcaller
  rcases hcallee with ⟨callee, -, hvisit, -, -, -, hinner, stackHeight, -, hheight, -⟩
  exact ((isCaller_callAt_iff crates registry hvisit hinner hheight).mpr hcaller).unique
    ((isCaller_callAt_iff crates registry hvisit hinner hheight).mpr hcaller')

end Recorded

/-- The parser of a dispatched instruction is given the view of its immediate
caller, if that one exists and was normalized, and no parent otherwise; what it
answers to that context is what the transaction reports there. -/
theorem parent_reconstruction (crates : Crates) (registry : ParserRegistry) {entry : Value}
    {header : TransactionHeader} (hread : readTransaction entry = .ok (some header))
    (transactionIndex : Nat) {position : Nat} {visit : Visit} {normalized : NormalizedInstruction}
    {stackHeight : Option UInt32} (hvisit : (visits header)[position]? = some visit)
    (hnormalize : visit.normalize crates registry header.accountKeys =
      .ok (normalized, stackHeight)) :
    ∃ result context parser,
      parseTransaction crates registry entry transactionIndex = .ok result ∧
      registry.get normalized.programId = some parser ∧
      context.instruction = normalized.view ∧
      (∀ event, (event ∈ entriesOf result ∧ event.executionOrdinal = position) ↔
        outcomeEntry normalized.programId visit.outerInstructionIndex visit.innerInstructionIndex
          stackHeight position
          (outcomeOf normalized.programId (parser.parseInstruction context)) = some event) ∧
      (∀ parent, context.parent = some parent ↔
        ∃ caller callerVisit callerInstruction callerHeight,
          ImmediateCaller header position caller ∧
          (visits header)[caller]? = some callerVisit ∧
          callerVisit.normalize crates registry header.accountKeys =
            .ok (callerInstruction, callerHeight) ∧
          callerInstruction.view = parent) ∧
      ∀ caller caller', ImmediateCaller header position caller →
        ImmediateCaller header position caller' → caller = caller' := by
  rcases parseTransaction_of_read crates registry hread transactionIndex with
    ⟨result, hparse, hentries⟩
  let context : InstructionContext :=
    { instruction := normalized.view
      parent := (parentAt crates registry header position).map NormalizedInstruction.view }
  have hcontext : contextAt crates registry header position = some context :=
    contextAt_of_normalize hvisit hnormalize
  rcases normalizeInstruction_eq_ok hnormalize with ⟨-, hconfigured, -⟩
  rw [isConfigured, ParserRegistry.contains_eq_isSome_get] at hconfigured
  rcases Option.isSome_iff_exists.mp hconfigured with ⟨parser, hparser⟩
  have hanswer : dispatch registry context =
      outcomeOf normalized.programId (parser.parseInstruction context) := dispatch_of_get hparser
  refine ⟨result, context, parser, hparse, hparser, rfl, ?_, ?_,
    fun _ _ => ImmediateCaller.unique crates registry⟩
  · intro event
    rw [hentries, ← hanswer, ← entryAt_of_dispatched hvisit hnormalize hcontext,
      mem_instructionEvents]
    constructor
    · rintro ⟨hevent, rfl⟩
      exact hevent
    · intro hevent
      rcases entryAt_eq_some hevent with ⟨-, -, rfl, -⟩
      exact ⟨hevent, rfl⟩
  · intro parent
    simp only [context, Option.map_eq_some_iff, parentAt_eq_some_iff]
    constructor
    · rintro ⟨caller, ⟨position, visit, height, hcaller, hvisit, hcallerNormalize⟩, rfl⟩
      exact ⟨position, visit, caller, height, hcaller, hvisit, hcallerNormalize, rfl⟩
    · rintro ⟨position, visit, caller, height, hcaller, hvisit, hcallerNormalize, rfl⟩
      exact ⟨caller, ⟨position, visit, height, hcaller, hvisit, hcallerNormalize⟩, rfl⟩

/-- An aggregator calls the test program, which calls itself. -/
def nestedTransaction : Value :=
  TestSupport.transaction "parent-context"
    ["AggregatorProgram", TestSupport.testProgramId, "parent-account"] [] []
    [TestSupport.instruction 0 [] [] 1]
    [TestSupport.innerInstructions 0
      [TestSupport.instruction 1 [2] [0] 2, TestSupport.instruction 1 [] [4] 3]]
    .null

/-- The inner call is given its caller: it reports an event with the caller's account. -/
theorem parent_reconstruction_nestedTransaction :
    ∃ result, ∃ context : InstructionContext, ∃ parent : InstructionView,
      parseTransaction TestSupport.crates TestSupport.registry nestedTransaction 0 = .ok result ∧
      context.instruction.data = [4] ∧ context.parent = some parent ∧
      parent.accounts = ["parent-account"] ∧
      ∀ event, (event ∈ entriesOf result ∧ event.executionOrdinal = 2) ↔
        event = {
          programId := some TestSupport.testProgramId
          outerInstructionIndex := 0
          innerInstructionIndex := some 1
          stackHeight := some 3
          executionOrdinal := 2
          result := .ok (TestSupport.testEvent "parent-account") } := by
  let header : TransactionHeader :=
    { signature := "parent-context"
      outerInstructions := [TestSupport.instruction 0 [] [] 1]
      accountKeys := ["AggregatorProgram", TestSupport.testProgramId, "parent-account"]
      innerInstructionGroups := Std.TreeMap.insert ∅ 0
        [TestSupport.instruction 1 [2] [0] 2, TestSupport.instruction 1 [] [4] 3]
      tokenDecimals := ∅ }
  have hread : readTransaction nestedTransaction = .ok (some header) :=
    TestSupport.readTransaction_transaction _ _ _ _ _ _ rfl
  have hvisit : (visits header)[2]? = some ⟨0, some 1, TestSupport.instruction 1 [] [4] 3⟩ := rfl
  have hnormalize : Visit.normalize TestSupport.crates TestSupport.registry
      ⟨0, some 1, TestSupport.instruction 1 [] [4] 3⟩ header.accountKeys =
      .ok (⟨TestSupport.testProgramId, [], [4], some 3⟩, some 3) := rfl
  rcases parent_reconstruction TestSupport.crates TestSupport.registry hread 0 hvisit hnormalize
    with ⟨result, context, parser, hparse, hparser, hinstruction, hentries, hparent, -⟩
  have hcaller : context.parent = some ⟨TestSupport.testProgramId, ["parent-account"], [0]⟩ := by
    refine (hparent _).mpr ⟨1, ⟨0, some 0, TestSupport.instruction 1 [2] [0] 2⟩,
      ⟨TestSupport.testProgramId, ["parent-account"], [0], some 2⟩, some 2, ?_, rfl, rfl, rfl⟩
    exact ⟨_, _, rfl, rfl, by decide, rfl, rfl, 3, 2, rfl, rfl, rfl, by omega⟩
  refine ⟨result, context, _, hparse, by rw [hinstruction]; rfl, hcaller, rfl, ?_⟩
  intro event
  rcases context with ⟨instruction, caller⟩
  obtain rfl : instruction = ⟨TestSupport.testProgramId, [], [4]⟩ := hinstruction
  obtain rfl : caller = some ⟨TestSupport.testProgramId, ["parent-account"], [0]⟩ := hcaller
  rcases Option.some.inj hparser with rfl
  rw [hentries, eq_comm (a := event)]
  exact Option.some_inj

end Parser
end PumpRealtimePrices
