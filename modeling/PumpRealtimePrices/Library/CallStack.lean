import Mathlib.Data.Nat.SuccPred
import Mathlib.Order.Cover

/-!
# Call stacks rebuilt from heights

A trace lists calls with the nesting height each of them reports.  A stack that
every call first pops down to the frames strictly below its own height, and onto
which some calls then push a frame, keeps exactly the frames that are still
open.  This module states that as a fact about positions of the trace, over any
linear order of heights: after aligning to {lit}`h`, the top frame lies directly
below {lit}`h` exactly when the trace holds an earlier call directly below
{lit}`h` with nothing but deeper calls after it.

No order between the frames of a stack is assumed: the height of the call that
was visited last bounds the top frame, and that is all the induction needs.

Main results:

- Theorem {lit}`align_head_iff`: the top frame after aligning, in terms of the
  trace alone.
- Theorem {lit}`IsCaller.unique`: a position has at most one caller.
-/

namespace CallStack

variable {H α : Type*} [LinearOrder H]

/-! ## Traces and stacks -/

/-- A frame is a payload with the height it was pushed at, top of the stack first. -/
abbrev Frames (H α : Type*) := List (Option H × α)

/-- One visited call: a root starts from the empty stack, a call without a
height closes every frame, and {lit}`frame` is what it pushes, if anything. -/
structure Call (H α : Type*) where
  root : Bool
  height : Option H
  frame : Option α

/-- Whether a frame is closed by a call at height {lit}`h`. -/
def closes (h : H) (frame : Option H × α) : Bool :=
  frame.1.all fun g => h ≤ g

/-- Drop the frames that a call at this height closes. -/
def align : Option H → Frames H α → Frames H α
  | none, _ => []
  | some h, stack => stack.dropWhile (closes h)

/-- Stack after a call. -/
def Call.visit (call : Call H α) (stack : Frames H α) : Frames H α :=
  (call.frame.map fun a => (call.height, a)).toList ++
    if call.root then [] else align call.height stack

/-- Stack before position {lit}`i` of a trace. -/
def stackAt (calls : Nat → Call H α) : Nat → Frames H α
  | 0 => []
  | i + 1 => (calls i).visit (stackAt calls i)

/-- Call {lit}`j` is directly below height {lit}`h`, and every call strictly between
it and position {lit}`i` is nested in it. -/
def IsCaller (calls : Nat → Call H α) (h : H) (i j : Nat) : Prop :=
  j < i ∧ ∃ g, (calls j).height = some g ∧ g ⋖ h ∧
    ∀ k, j < k → k < i → (calls k).root = false ∧ ∃ e, (calls k).height = some e ∧ g < e

/-! ## Aligning -/

/-- A frame is closed by every height that is not above its own, and one without a height by
any. -/
theorem closes_eq_true_iff {h : H} {frame : Option H × α} :
    closes h frame = true ↔ ∀ g, frame.1 = some g → h ≤ g := by
  rcases frame with ⟨height, a⟩
  cases height <;> simp [closes]

/-- An empty stack is aligned. -/
@[simp]
theorem align_nil (h : Option H) : align h ([] : Frames H α) = [] := by
  cases h <;> rfl

/-- A frame that is closed is popped. -/
theorem align_cons_of_le {h : H} {frame : Option H × α} {stack : Frames H α}
    (hclosed : ∀ g, frame.1 = some g → h ≤ g) :
    align (some h) (frame :: stack) = align (some h) stack :=
  List.dropWhile_cons_of_pos (closes_eq_true_iff.mpr hclosed)

/-- A frame below the height stays, with everything under it. -/
theorem align_cons_of_lt {h g : H} {a : α} {stack : Frames H α} (hlt : g < h) :
    align (some h) ((some g, a) :: stack) = (some g, a) :: stack := by
  refine List.dropWhile_cons_of_neg ?_
  rw [closes_eq_true_iff]
  intro hall
  exact absurd (hall g rfl) (not_le_of_gt hlt)

/-- The frame on top of an aligned stack is open: it has a height, and a smaller one. -/
theorem lt_of_align_eq_cons {h : H} {frame : Option H × α} {stack rest : Frames H α}
    (halign : align (some h) stack = frame :: rest) : ∃ g, frame.1 = some g ∧ g < h := by
  induction stack with
  | nil => simp at halign
  | cons top stack ih =>
      by_cases hclosed : ∀ g, top.1 = some g → h ≤ g
      · rw [align_cons_of_le hclosed] at halign
        exact ih halign
      · push Not at hclosed
        rcases hclosed with ⟨g, hg, hlt⟩
        rcases top with ⟨height, a⟩
        simp only at hg
        subst hg
        rw [align_cons_of_lt hlt] at halign
        rcases List.cons.inj halign with ⟨rfl, -⟩
        exact ⟨g, rfl, hlt⟩

/-- Aligning to a height and then to a smaller one is aligning to the smaller one. -/
theorem align_align_of_le {h e : H} (hle : h ≤ e) (stack : Frames H α) :
    align (some h) (align (some e) stack) = align (some h) stack := by
  induction stack with
  | nil => simp
  | cons top stack ih =>
      by_cases hclosed : ∀ g, top.1 = some g → e ≤ g
      · rw [align_cons_of_le hclosed, ih,
          align_cons_of_le fun g hg => hle.trans (hclosed g hg)]
      · have hopen : align (some e) (top :: stack) = top :: stack := by
          refine List.dropWhile_cons_of_neg ?_
          rwa [closes_eq_true_iff]
        rw [hopen]

/-! ## The top frame in terms of the trace -/

/-- A nested call changes neither who is directly below {lit}`h` nor what is in between. -/
theorem isCaller_succ_iff {calls : Nat → Call H α} {h e : H} {i j : Nat}
    (hroot : (calls i).root = false) (hheight : (calls i).height = some e) (hle : h ≤ e) :
    IsCaller calls h (i + 1) j ↔ IsCaller calls h i j := by
  constructor
  · rintro ⟨hj, g, hg, hcov, hbetween⟩
    have hne : j ≠ i := by
      rintro rfl
      rw [hheight] at hg
      rcases Option.some.inj hg with rfl
      exact absurd hcov.lt (not_lt_of_ge hle)
    exact ⟨by omega, g, hg, hcov, fun k hjk hk => hbetween k hjk (by omega)⟩
  · rintro ⟨hj, g, hg, hcov, hbetween⟩
    refine ⟨by omega, g, hg, hcov, fun k hjk hk => ?_⟩
    rcases Nat.lt_succ_iff_lt_or_eq.mp hk with hki | rfl
    · exact hbetween k hjk hki
    · exact ⟨hroot, e, hheight, hcov.lt.trans_le hle⟩

/-- A call that is not nested at {lit}`h` hides everything before it. -/
theorem isCaller_succ_iff_of_not_nested {calls : Nat → Call H α} {h : H} {i j : Nat}
    (hnested : ¬ ((calls i).root = false ∧ ∃ e, (calls i).height = some e ∧ h ≤ e)) :
    IsCaller calls h (i + 1) j ↔ j = i ∧ ∃ g, (calls i).height = some g ∧ g ⋖ h := by
  constructor
  · rintro ⟨hj, g, hg, hcov, hbetween⟩
    have hji : j = i := by
      by_contra hne
      rcases hbetween i (by omega) (Nat.lt_succ_self i) with ⟨hroot, e, he, hge⟩
      have hle : h ≤ e := le_of_not_gt (hcov.2 hge)
      exact hnested ⟨hroot, e, he, hle⟩
    subst hji
    exact ⟨rfl, g, hg, hcov⟩
  · rintro ⟨rfl, g, hg, hcov⟩
    exact ⟨Nat.lt_succ_self j, g, hg, hcov, fun k hjk hk => absurd hk (by omega)⟩

/-- The frames below a call that is not nested at {lit}`h` are all too low to lie
directly below {lit}`h`. -/
theorem not_covBy_below {call : Call H α} {h g : H} {a : α} {stack rest : Frames H α}
    (hnested : ¬ (call.root = false ∧ ∃ e, call.height = some e ∧ h ≤ e))
    (htop : align (some h) (if call.root then [] else align call.height stack) =
      (some g, a) :: rest) : ¬ g ⋖ h := by
  cases hroot : call.root with
  | true => simp [hroot] at htop
  | false =>
      cases hheight : call.height with
      | none => simp [hroot, hheight, align] at htop
      | some e =>
          simp only [hroot, hheight, Bool.false_eq_true, if_false] at htop
          have heh : e < h := by
            by_contra hge
            exact hnested ⟨hroot, e, hheight, le_of_not_gt hge⟩
          cases hbelow : align (some e) stack with
          | nil => simp [hbelow] at htop
          | cons frame below =>
              rcases lt_of_align_eq_cons hbelow with ⟨f, hf, hfe⟩
              rcases frame with ⟨height, b⟩
              simp only at hf
              subst hf
              rw [hbelow, align_cons_of_lt (hfe.trans heh)] at htop
              rcases Prod.mk.inj (List.cons.inj htop).1 with ⟨hfg, -⟩
              rcases Option.some.inj hfg with rfl
              exact fun hcov => hcov.2 hfe heh

/-- After a call that is not nested at {lit}`h`, only its own frame can lie
directly below {lit}`h`. -/
theorem visit_head_iff {call : Call H α} {h : H} {a : α} {stack : Frames H α}
    (hnested : ¬ (call.root = false ∧ ∃ e, call.height = some e ∧ h ≤ e)) :
    (∃ g rest, align (some h) (call.visit stack) = (some g, a) :: rest ∧ g ⋖ h) ↔
      call.frame = some a ∧ ∃ g, call.height = some g ∧ g ⋖ h := by
  have hbelow : ¬ ∃ g rest, align (some h)
      (if call.root then [] else align call.height stack) = (some g, a) :: rest ∧ g ⋖ h := by
    rintro ⟨g, rest, htop, hcov⟩
    exact not_covBy_below hnested htop hcov
  unfold Call.visit
  cases hframe : call.frame with
  | none => simpa using hbelow
  | some b =>
      simp only [Option.map_some, Option.toList_some, List.singleton_append]
      by_cases hopen : ∃ e, call.height = some e ∧ e < h
      · rcases hopen with ⟨e, he, hlt⟩
        simp only [he, align_cons_of_lt hlt]
        constructor
        · rintro ⟨g, rest, htop, hcov⟩
          rcases List.cons.inj htop with ⟨hhead, -⟩
          rcases Prod.mk.inj hhead with ⟨hg, rfl⟩
          exact ⟨rfl, g, hg, hcov⟩
        · rintro ⟨hb, g, hg, hcov⟩
          rcases Option.some.inj hb with rfl
          exact ⟨g, _, by rw [hg], hcov⟩
      · rw [align_cons_of_le fun g hg => le_of_not_gt fun hlt => hopen ⟨g, hg, hlt⟩]
        simp only [hbelow, false_iff]
        rintro ⟨-, g, hg, hcov⟩
        exact hopen ⟨g, hg, hcov.lt⟩

/-- A nested call changes nothing about the frames open at {lit}`h`. -/
theorem align_visit_of_nested {call : Call H α} {h e : H} {stack : Frames H α}
    (hroot : call.root = false) (hheight : call.height = some e) (hle : h ≤ e) :
    align (some h) (call.visit stack) = align (some h) stack := by
  unfold Call.visit
  rw [hroot, hheight, if_neg Bool.false_ne_true]
  cases call.frame with
  | none => exact align_align_of_le hle stack
  | some a =>
      rw [Option.map_some, Option.toList_some, List.singleton_append,
        align_cons_of_le (by simpa using hle), align_align_of_le hle]

/-- Before position {lit}`i`, the top frame open at {lit}`h` lies directly below it
exactly when it was pushed by the caller of position {lit}`i`. -/
theorem align_head_iff (calls : Nat → Call H α) (i : Nat) (h : H) (a : α) :
    (∃ g rest, align (some h) (stackAt calls i) = (some g, a) :: rest ∧ g ⋖ h) ↔
      ∃ j, IsCaller calls h i j ∧ (calls j).frame = some a := by
  induction i with
  | zero => simp [stackAt, IsCaller]
  | succ i ih =>
      rw [stackAt]
      by_cases hnested : (calls i).root = false ∧ ∃ e, (calls i).height = some e ∧ h ≤ e
      · rcases hnested with ⟨hroot, e, hheight, hle⟩
        rw [align_visit_of_nested hroot hheight hle, ih]
        simp only [isCaller_succ_iff hroot hheight hle]
      · rw [visit_head_iff hnested]
        simp only [isCaller_succ_iff_of_not_nested hnested]
        constructor
        · rintro ⟨hframe, hcov⟩
          exact ⟨i, ⟨rfl, hcov⟩, hframe⟩
        · rintro ⟨j, ⟨rfl, hcov⟩, hframe⟩
          exact ⟨hframe, hcov⟩

/-- A position has at most one caller at a height. -/
theorem IsCaller.unique {calls : Nat → Call H α} {h : H} {i j j' : Nat}
    (hj : IsCaller calls h i j) (hj' : IsCaller calls h i j') : j = j' := by
  have key : ∀ {j j' : Nat}, IsCaller calls h i j → IsCaller calls h i j' → ¬ j < j' := by
    rintro j j' ⟨-, g, -, hcov, hbetween⟩ ⟨hj'i, g', hg', hcov', -⟩ hlt
    -- The later candidate would be nested in the earlier one and as low as it.
    rcases hbetween j' hlt hj'i with ⟨-, e, he, hge⟩
    rw [hg'] at he
    rcases Option.some.inj he with rfl
    exact hcov.2 hge hcov'.lt
  exact le_antisymm (le_of_not_gt (key hj' hj)) (le_of_not_gt (key hj hj'))

end CallStack
