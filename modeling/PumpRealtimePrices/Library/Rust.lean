import Mathlib.Tactic.NormNum

/-!
# Rust primitives

The standard-library operations on fixed-width integers and results that a
shallow embedding of Rust code meets: checked arithmetic, conversion to a
narrower type, the {lit}`?` operator, and functions whose effects on the outside
world stay when they return an error.

Main results:

- Theorems {lit}`checkedAdd_eq_some_iff` and {lit}`checkedSub_eq_some_iff`: checked
  operations compute the mathematical result exactly when it fits.
- Theorem {lit}`checkedAdd_bind_eq_some_iff`: so does a chain of checked additions.
- Theorem {lit}`except_bind_eq_ok_iff`: a computation that may fail early succeeds
  when each of its steps does.
- Theorem {lit}`effect_bind_eq_error_iff`: a function with effects fails in the state
  that its failing step leaves behind.
-/

namespace Rust

/-! ## Results -/

/-- A success is passed on by {lit}`?`. -/
theorem ok_bind {ε α β : Type} (a : α) (f : α → Except ε β) :
    ((Except.ok a : Except ε α) >>= f) = f a :=
  rfl

/-- {lit}`x?` goes on exactly when {lit}`x` is {lit}`Ok`. -/
theorem except_bind_eq_ok_iff {ε α β : Type} {x : Except ε α} {f : α → Except ε β} {b : β} :
    (x >>= f) = .ok b ↔ ∃ a, x = .ok a ∧ f a = .ok b := by
  cases x <;> simp [bind, Except.bind]

/-- A check goes on exactly when it passes. -/
theorem check_bind_eq_ok_iff {ε β : Type} {x : Except ε PUnit} {f : PUnit → Except ε β} {b : β} :
    (x >>= f) = .ok b ↔ x = .ok ⟨⟩ ∧ f ⟨⟩ = .ok b := by
  cases x <;> simp [bind, Except.bind]

/-- {lit}`x?` fails with the error of {lit}`x` or with one of what follows. -/
theorem except_bind_eq_error_iff {ε α β : Type} {x : Except ε α} {f : α → Except ε β}
    {error : ε} :
    (x >>= f) = .error error ↔ x = .error error ∨ ∃ a, x = .ok a ∧ f a = .error error := by
  cases x <;> simp [bind, Except.bind]

/-- What returns after a step fails only in the step. -/
theorem exists_pure_eq_error_iff {ε α β : Type} {x : Except ε α} {f : α → β} {error : ε} :
    (∃ a, x = .ok a ∧ (pure (f a) : Except ε β) = .error error) ↔ False := by
  simp [pure, Except.pure]

/-- A loop that may fail early succeeds when each of its elements does. -/
theorem mapM_eq_ok_iff {ε α β : Type} {f : α → Except ε β} {xs : List α} {ys : List β} :
    xs.mapM f = .ok ys ↔ xs.map f = ys.map .ok := by
  induction xs generalizing ys with
  | nil => cases ys <;> simp [pure, Except.pure]
  | cons x xs ih =>
      simp only [List.mapM_cons, except_bind_eq_ok_iff, ih, pure, Except.pure, Except.ok.injEq]
      cases ys with
      | nil => simp
      | cons y ys => simp

/-- A loop that succeeds does so on each of its elements. -/
theorem exists_mem_of_mapM_eq_ok {ε α β : Type} {f : α → Except ε β} {xs : List α} {ys : List β}
    (hmap : xs.mapM f = .ok ys) {x : α} (hx : x ∈ xs) : ∃ y ∈ ys, f x = .ok y := by
  have hmem : f x ∈ xs.map f := List.mem_map_of_mem hx
  rw [mapM_eq_ok_iff.mp hmap] at hmem
  rcases List.mem_map.mp hmem with ⟨y, hy, heq⟩
  exact ⟨y, hy, heq.symm⟩

/-- A loop over elements that all succeed succeeds. -/
theorem exists_mapM_eq_ok {ε α β : Type} {f : α → Except ε β} {xs : List α}
    (hxs : ∀ x ∈ xs, ∃ y, f x = .ok y) : ∃ ys, xs.mapM f = .ok ys := by
  induction xs with
  | nil => exact ⟨[], rfl⟩
  | cons x xs ih =>
      rcases hxs x List.mem_cons_self with ⟨y, hy⟩
      rcases ih fun other hmem => hxs other (List.mem_cons_of_mem x hmem) with ⟨ys, hys⟩
      refine ⟨y :: ys, ?_⟩
      rw [List.mapM_cons, hy, ok_bind, hys]
      rfl

/-- A loop that may fail early fails with the error of one of its elements. -/
theorem exists_mem_of_mapM_eq_error {ε α β : Type} {f : α → Except ε β} {xs : List α} {error : ε}
    (hmap : xs.mapM f = .error error) : ∃ x ∈ xs, f x = .error error := by
  induction xs with
  | nil => cases hmap
  | cons x xs ih =>
      rw [List.mapM_cons, except_bind_eq_error_iff] at hmap
      rcases hmap with hx | ⟨y, -, hmap⟩
      · exact ⟨x, List.mem_cons_self, hx⟩
      · rw [except_bind_eq_error_iff] at hmap
        rcases hmap with hxs | ⟨ys, -, hpure⟩
        · rcases ih hxs with ⟨x', hmem, hx'⟩
          exact ⟨x', List.mem_cons_of_mem x hmem, hx'⟩
        · cases hpure

/-- Named steps fail with the error of the first one that has one. -/
theorem bind_eq_error_iff_findSome? {ε α β ι : Type} {x : Except ε α} {f : α → Except ε β}
    {defect : ι → Option ε} {name : ι} {names : List ι}
    (hx : ∀ error, x = .error error ↔ defect name = some error)
    (hf : ∀ a error, f a = .error error ↔ names.findSome? defect = some error) (error : ε) :
    (x >>= f) = .error error ↔ (name :: names).findSome? defect = some error := by
  rw [except_bind_eq_error_iff, hx, List.findSome?_cons]
  cases x with
  | error found =>
      rw [(hx found).mp rfl]
      simp
  | ok a =>
      have hnone : defect name = none := by
        rw [Option.eq_none_iff_forall_ne_some]
        intro found hfound
        cases (hx found).mpr hfound
      rw [hnone]
      simp [hf]

/-- {lit}`if c { return Err(e); }` goes on exactly when {lit}`c` does not hold. -/
theorem throw_if_eq_ok_iff {ε α : Type} {c : Prop} [Decidable c] {error : ε}
    {f : PUnit → Except ε α} {x : Except ε α} {a : α} :
    (if c then throw error >>= f else x) = .ok a ↔ ¬ c ∧ x = .ok a := by
  split <;> simp [throw, throwThe, MonadExceptOf.throw, bind, Except.bind, *]

/-- A check fails with its own error, or what follows it fails. -/
theorem throw_if_eq_error_iff {ε α : Type} {c : Prop} [Decidable c] {error error' : ε}
    {f : PUnit → Except ε α} {x : Except ε α} :
    (if c then throw error >>= f else x) = .error error' ↔
      c ∧ error' = error ∨ ¬ c ∧ x = .error error' := by
  split <;> simp [throw, throwThe, MonadExceptOf.throw, bind, Except.bind, eq_comm, *]

/-- Mapping the error keeps a success. -/
@[simp]
theorem mapError_eq_ok_iff {ε ε' α : Type*} {f : ε → ε'} {x : Except ε α} {a : α} :
    x.mapError f = .ok a ↔ x = .ok a := by
  cases x <;> simp [Except.mapError]

/-- Mapping the error maps the error of a failure. -/
theorem mapError_eq_error_iff {ε ε' α : Type*} {f : ε → ε'} {x : Except ε α} {error : ε'} :
    x.mapError f = .error error ↔ ∃ source, x = .error source ∧ error = f source := by
  cases x <;> simp [Except.mapError, eq_comm]

/-- Mapping the value keeps whether there is one. -/
theorem map_isOk_iff {ε α β : Type*} {f : α → β} {x : Except ε α} :
    (∃ b, x.map f = .ok b) ↔ ∃ a, x = .ok a := by
  cases x <;> simp [Except.map]

/-- Mapping the value keeps an error. -/
theorem map_eq_error_iff {ε α β : Type*} {f : α → β} {x : Except ε α} {error : ε} :
    x.map f = .error error ↔ x = .error error := by
  cases x <;> simp [Except.map]

/-- {lit}`Option::ok_or`. -/
def okOr {ε α : Type*} (error : ε) : Option α → Except ε α
  | some a => .ok a
  | none => .error error

/-- {lit}`ok_or` succeeds exactly where there is a value. -/
@[simp]
theorem okOr_eq_ok_iff {ε α : Type*} {error : ε} {x : Option α} {a : α} :
    okOr error x = .ok a ↔ x = some a := by
  cases x <;> simp [okOr]

/-- {lit}`ok_or` fails with its error exactly where there is no value. -/
@[simp]
theorem okOr_eq_error_iff {ε α : Type*} {error error' : ε} {x : Option α} :
    okOr error x = .error error' ↔ x = none ∧ error = error' := by
  cases x <;> simp [okOr]

/-! ## Effects -/

/-- A function that changes the outside world and may return an error; the
changes made before an error stay. -/
abbrev Effect (ε σ α : Type) :=
  EStateM ε σ α

/-- A computed result in a function with effects. -/
def ofResult {ε σ α : Type} : Except ε α → Effect ε σ α
  | .ok a => pure a
  | .error error => throw error

section Effects

variable {ε σ α β : Type} {s s' : σ} {error : ε}

/-- Two effects end well one after the other, the second from the state of the first. -/
theorem effect_bind_eq_ok_iff {x : Effect ε σ α} {f : α → Effect ε σ β} {b : β} :
    (x >>= f) s = .ok b s' ↔ ∃ a t, x s = .ok a t ∧ f a t = .ok b s' := by
  simp only [bind, EStateM.bind]
  cases x s <;> simp

/-- A function with effects fails in the state that its failing step leaves behind. -/
theorem effect_bind_eq_error_iff {x : Effect ε σ α} {f : α → Effect ε σ β} :
    (x >>= f) s = .error error s' ↔
      x s = .error error s' ∨ ∃ a t, x s = .ok a t ∧ f a t = .error error s' := by
  simp only [bind, EStateM.bind]
  cases x s <;> simp

/-- The step after one that succeeds. -/
theorem effect_bind_of_ok {x : Effect ε σ α} {f : α → Effect ε σ β} {a : α}
    (hstep : x s = .ok a s') : (x >>= f) s = f a s' := by
  simp only [bind, EStateM.bind, hstep]

/-- A success leaves the state as it is. -/
@[simp]
theorem ofResult_ok (a : α) : (ofResult (.ok a) : Effect ε σ α) s = .ok a s :=
  rfl

/-- An error leaves the state as it is. -/
@[simp]
theorem ofResult_error (error : ε) : (ofResult (.error error) : Effect ε σ α) s = .error error s :=
  rfl

/-- A result ends well exactly when it is a success, and keeps the state. -/
theorem ofResult_eq_ok_iff {x : Except ε α} {a : α} :
    (ofResult x : Effect ε σ α) s = .ok a s' ↔ x = .ok a ∧ s = s' := by
  cases x <;> simp

/-- A result fails exactly when it is an error, and keeps the state. -/
theorem ofResult_eq_error_iff {x : Except ε α} :
    (ofResult x : Effect ε σ α) s = .error error s' ↔ x = .error error ∧ s = s' := by
  cases x <;> simp

end Effects

/-! ## Integers -/

/-- A {lit}`u64` is zero exactly when its number is. -/
theorem ne_zero_iff_toNat {n : UInt64} : n ≠ 0 ↔ n.toNat ≠ 0 := by
  rw [Ne, ← UInt64.toNat_inj]
  rfl

/-- {lit}`u64::checked_add`. -/
def checkedAdd (a b : UInt64) : Option UInt64 :=
  if a.toNat + b.toNat < 2 ^ 64 then some (a + b) else none

/-- {lit}`u64::checked_sub`. -/
def checkedSub (a b : UInt64) : Option UInt64 :=
  if b.toNat ≤ a.toNat then some (a - b) else none

/-- A checked addition gives the exact sum. -/
theorem checkedAdd_eq_some_iff {a b c : UInt64} :
    checkedAdd a b = some c ↔ a.toNat + b.toNat = c.toNat := by
  have hc := c.toNat_lt
  unfold checkedAdd
  split
  · next hlt =>
      rw [Option.some.injEq, ← UInt64.toNat_inj, UInt64.toNat_add, Nat.mod_eq_of_lt hlt]
  · next hge =>
      simp only [reduceCtorEq, false_iff]
      omega

/-- A checked subtraction gives the exact difference. -/
theorem checkedSub_eq_some_iff {a b c : UInt64} :
    checkedSub a b = some c ↔ b.toNat + c.toNat = a.toNat := by
  unfold checkedSub
  split
  · next hle =>
      rw [Option.some.injEq, ← UInt64.toNat_inj,
        UInt64.toNat_sub_of_le _ _ (UInt64.le_iff_toNat_le.mpr hle)]
      omega
  · next hgt =>
      simp only [reduceCtorEq, false_iff]
      omega

/-- A chain of checked additions computes the total exactly when it fits: no subtotal
can overflow on its own. -/
theorem checkedAdd_bind_eq_some_iff {a b c total : UInt64} :
    ((checkedAdd a b).bind fun subtotal => checkedAdd subtotal c) = some total ↔
      a.toNat + b.toNat + c.toNat = total.toNat := by
  have htotal := total.toNat_lt
  simp only [Option.bind_eq_some_iff, checkedAdd_eq_some_iff]
  constructor
  · intro hchain
    rcases hchain with ⟨subtotal, hsubtotal, hsum⟩
    omega
  · intro hsum
    have hlt : a.toNat + b.toNat < 2 ^ 64 := by omega
    have hsubtotal := UInt64.toNat_ofNat_of_lt' hlt
    exact ⟨UInt64.ofNat (a.toNat + b.toNat), hsubtotal.symm, by rw [hsubtotal, hsum]⟩

/-- A checked addition fails exactly where the sum is not a {lit}`u64`. -/
theorem checkedAdd_eq_none_iff {a b : UInt64} :
    checkedAdd a b = none ↔ 2 ^ 64 ≤ a.toNat + b.toNat := by
  unfold checkedAdd
  split
  · next hlt =>
      simp only [reduceCtorEq, false_iff]
      omega
  · next hge =>
      simp only [true_iff]
      omega

/-- A checked subtraction fails exactly where the difference would be negative. -/
theorem checkedSub_eq_none_iff {a b : UInt64} :
    checkedSub a b = none ↔ a.toNat < b.toNat := by
  unfold checkedSub
  split
  · next hle =>
      simp only [reduceCtorEq, false_iff]
      omega
  · next hgt =>
      simp only [true_iff]
      omega

/-- A chain of checked additions fails exactly when the total does not fit. -/
theorem checkedAdd_bind_eq_none_iff {a b c : UInt64} :
    ((checkedAdd a b).bind fun subtotal => checkedAdd subtotal c) = none ↔
      2 ^ 64 ≤ a.toNat + b.toNat + c.toNat := by
  constructor
  · intro hnone
    by_contra hlt
    have htotal := UInt64.toNat_ofNat_of_lt' (Nat.lt_of_not_le hlt)
    have hsome := checkedAdd_bind_eq_some_iff.mpr htotal.symm
    rw [hnone] at hsome
    cases hsome
  · intro hoverflow
    rw [Option.eq_none_iff_forall_ne_some]
    intro total hsome
    have hlt := total.toNat_lt
    rw [← checkedAdd_bind_eq_some_iff.mp hsome] at hlt
    omega

/-- The integers that a {lit}`u64` can hold. -/
theorem exists_toNat_eq_iff {n : Int} :
    (∃ a : UInt64, (a.toNat : Int) = n) ↔ 0 ≤ n ∧ n < 2 ^ 64 := by
  constructor
  · intro hexists
    rcases hexists with ⟨a, rfl⟩
    have hlt := a.toNat_lt
    omega
  · intro hn
    have hlt : n.toNat < 2 ^ 64 := by omega
    refine ⟨UInt64.ofNat n.toNat, ?_⟩
    rw [UInt64.toNat_ofNat_of_lt' hlt]
    omega

/-- {lit}`u32::try_from` on a {lit}`u64`. -/
def u32TryFrom (n : UInt64) : Option UInt32 :=
  if n.toNat < 2 ^ 32 then some n.toUInt32 else none

/-- {lit}`u8::try_from` on a {lit}`u64`. -/
def u8TryFrom (n : UInt64) : Option UInt8 :=
  if n.toNat < 2 ^ 8 then some n.toUInt8 else none

/-- {lit}`u32::checked_add` of one. -/
def u32CheckedSucc (n : UInt32) : Option UInt32 :=
  if n.toNat + 1 < 2 ^ 32 then some (n + 1) else none

/-- A checked successor is the next number. -/
theorem u32CheckedSucc_eq_some_iff {n m : UInt32} :
    u32CheckedSucc n = some m ↔ n.toNat + 1 = m.toNat := by
  have hm := m.toNat_lt
  unfold u32CheckedSucc
  split
  · next hlt =>
      rw [Option.some.injEq, ← UInt32.toNat_inj, UInt32.toNat_add, UInt32.toNat_one,
        Nat.mod_eq_of_lt hlt]
  · next hge =>
      simp only [reduceCtorEq, false_iff]
      omega

end Rust
