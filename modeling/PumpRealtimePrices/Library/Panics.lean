import PumpRealtimePrices.Library.Rust

/-!
# Panics

Operations of a Rust program that panic outside their domain, and programs built
from them.  A program that may panic either panics or ends normally; one that may
also fail ends with a result.  Such a program is compared with the same program
over total operations: {lit}`Returns` says that it does not panic and ends as the
other one does.  The rule for {lit}`?` hands what follows a step the success of that
step, which is how a check protects the operations after it.

Main results:

- Theorems {lit}`slice_eq_ok_iff`, {lit}`sub_eq_ok_iff`, {lit}`add_eq_ok_iff`,
  {lit}`shiftLeft_eq_ok_iff` and {lit}`divide_eq_ok_iff`: the domain and the value of
  each operation.
- Theorem {lit}`Returns.bind`: the rule for a step that may fail.
- Theorem {lit}`Returns.guarded`: the rule for an operation inside its domain.
-/

namespace Panics

/-! ## Programs -/

/-- Why a program panics. -/
inductive Panic where
  | sliceOutOfRange
  | unreachableCode
  | arithmeticOverflow
  | divisionByZero
deriving DecidableEq, Repr

/-- A program that may panic. -/
abbrev Execution (α : Type) :=
  Except Panic α

/-- A program that may panic, and otherwise ends with a result. -/
abbrev Fallible (ε α : Type) :=
  ExceptT ε (Except Panic) α

/-- Program that ends with a computed result. -/
def ofResult {ε α : Type} (result : Except ε α) : Fallible ε α :=
  ExceptT.mk (.ok result)

/-! ## Operations -/

section Operations

variable {α : Type}

/-- {lit}`unreachable!()`. -/
def unreachableCode : Execution α :=
  .error .unreachableCode

/-- {lit}`xs[start..stop]`. -/
def slice (xs : List α) (start stop : Nat) : Execution (List α) :=
  if start ≤ stop ∧ stop ≤ xs.length then .ok ((xs.take stop).drop start)
  else .error .sliceOutOfRange

/-- {lit}`xs[start..]`. -/
def sliceFrom (xs : List α) (start : Nat) : Execution (List α) :=
  slice xs start xs.length

/-- {lit}`xs[..stop]`. -/
def sliceTo (xs : List α) (stop : Nat) : Execution (List α) :=
  slice xs 0 stop

/-- Subtraction of unsigned integers. -/
def sub (a b : Nat) : Execution Nat :=
  if b ≤ a then .ok (a - b) else .error .arithmeticOverflow

/-- Addition of unsigned integers of a width. -/
def add (bits a b : Nat) : Execution Nat :=
  if a + b < 2 ^ bits then .ok (a + b) else .error .arithmeticOverflow

/-- {lit}`a << amount` on a {lit}`u64`. -/
def shiftLeft (a : UInt64) (amount : Nat) : Execution UInt64 :=
  if amount < 64 then .ok (a <<< UInt64.ofNat amount) else .error .arithmeticOverflow

/-- Division of integers of any size. -/
def divide (a b : Nat) : Execution Nat :=
  if b = 0 then .error .divisionByZero else .ok (a / b)

/-- A slice panics unless its bounds are in order and within the list. -/
theorem slice_eq_ok_iff {xs ys : List α} {start stop : Nat} :
    slice xs start stop = .ok ys ↔
      start ≤ stop ∧ stop ≤ xs.length ∧ ys = (xs.take stop).drop start := by
  unfold slice
  split
  · next hrange => simp [hrange, eq_comm]
  · next hrange =>
      simp only [reduceCtorEq, false_iff]
      intro hslice
      exact hrange ⟨hslice.1, hslice.2.1⟩

/-- A slice to the end panics unless its start is within the list. -/
theorem sliceFrom_eq_ok_iff {xs ys : List α} {start : Nat} :
    sliceFrom xs start = .ok ys ↔ start ≤ xs.length ∧ ys = xs.drop start := by
  rw [sliceFrom, slice_eq_ok_iff, List.take_length]
  simp

/-- A slice from the start panics unless its end is within the list. -/
theorem sliceTo_eq_ok_iff {xs ys : List α} {stop : Nat} :
    sliceTo xs stop = .ok ys ↔ stop ≤ xs.length ∧ ys = xs.take stop := by
  rw [sliceTo, slice_eq_ok_iff, List.drop_zero]
  simp

/-- A subtraction panics where it would go below zero. -/
theorem sub_eq_ok_iff {a b difference : Nat} :
    sub a b = .ok difference ↔ b ≤ a ∧ difference = a - b := by
  unfold sub
  split
  · next hle => simp [hle, eq_comm]
  · next hlt => simp [hlt]

/-- An addition panics where its sum does not fit. -/
theorem add_eq_ok_iff {bits a b sum : Nat} :
    add bits a b = .ok sum ↔ sum < 2 ^ bits ∧ sum = a + b := by
  unfold add
  split
  · next hlt =>
      rw [Except.ok.injEq]
      constructor
      · rintro rfl
        exact ⟨hlt, rfl⟩
      · intro hsum
        exact hsum.2.symm
  · next hge =>
      simp only [reduceCtorEq, false_iff]
      rintro ⟨hlt, rfl⟩
      exact hge hlt

/-- A shift panics where its amount is not less than the width. -/
theorem shiftLeft_eq_ok_iff {a shifted : UInt64} {amount : Nat} :
    shiftLeft a amount = .ok shifted ↔ amount < 64 ∧ shifted = a <<< UInt64.ofNat amount := by
  unfold shiftLeft
  split
  · next hlt => simp [hlt, eq_comm]
  · next hge => simp [hge]

/-- A division panics where the divisor is zero. -/
theorem divide_eq_ok_iff {a b quotient : Nat} :
    divide a b = .ok quotient ↔ b ≠ 0 ∧ quotient = a / b := by
  unfold divide
  split
  · next hzero => simp [hzero]
  · next hne => simp [hne, eq_comm]

end Operations

/-! ## Programs that do not panic -/

/-- The program does not panic, and ends with this result. -/
def Returns {ε α : Type} (x : Fallible ε α) (result : Except ε α) : Prop :=
  x.run = .ok result

namespace Returns

variable {ε α β : Type}

/-- A result does not panic. -/
theorem ofResult (result : Except ε α) : Returns (Panics.ofResult result) result :=
  rfl

/-- A value does not panic. -/
theorem pure (a : α) : Returns (pure a : Fallible ε α) (pure a) :=
  rfl

/-- An error is not a panic. -/
theorem throw (error : ε) : Returns (throw error : Fallible ε α) (throw error) :=
  rfl

/-- A step that may fail: what follows it runs only when it succeeds. -/
theorem bind {x : Fallible ε α} {result : Except ε α} {f : α → Fallible ε β}
    {g : α → Except ε β} (hx : Returns x result)
    (hf : ∀ a, result = .ok a → Returns (f a) (g a)) :
    Returns (x >>= f) (result >>= g) := by
  unfold Returns at hx
  unfold Returns
  rw [ExceptT.run_bind, hx, Rust.ok_bind]
  cases result with
  | error error => rfl
  | ok a => exact hf a rfl

/-- A step whose error is turned into one of the caller. -/
theorem mapError {ε' : Type} {x : Fallible ε α} {result : Except ε α} (f : ε → ε')
    (hx : Returns x result) : Returns (x.adapt f) (result.mapError f) := by
  have hmap : (x.adapt f).run = Except.mapError f <$> x.run := rfl
  unfold Returns at hx
  rw [Returns, hmap, hx]
  rfl

/-- A step without a panic, such as a check: what follows it may rely on its success. -/
theorem step {result : Except ε α} {f : α → Fallible ε β} {g : α → Except ε β}
    (hf : ∀ a, result = .ok a → Returns (f a) (g a)) :
    Returns (Panics.ofResult result >>= f) (result >>= g) :=
  bind (ofResult result) hf

/-- An operation inside its domain. -/
theorem guarded {x : Execution α} {a : α} {f : α → Fallible ε β} {result : Except ε β}
    (hx : x = .ok a) (hf : Returns (f a) result) :
    Returns ((liftM x : Fallible ε α) >>= f) result := by
  rw [hx]
  exact hf

/-- A case distinction does not panic if the branch that it takes does not. -/
theorem ite {c : Prop} [Decidable c] {x y : Fallible ε α} {result result' : Except ε α}
    (hpos : c → Returns x result) (hneg : ¬ c → Returns y result') :
    Returns (if c then x else y) (if c then result else result') := by
  split
  · next hc => exact hpos hc
  · next hc => exact hneg hc

/-- An early return with an error. -/
theorem throwIf {c : Prop} [Decidable c] {error : ε} {f : PUnit → Fallible ε α}
    {g : PUnit → Except ε α} {y : Fallible ε α} {result : Except ε α}
    (hneg : ¬ c → Returns y result) :
    Returns (if c then MonadExcept.throw error >>= f else y)
      (if c then MonadExcept.throw error >>= g else result) :=
  ite (fun _ => rfl) hneg

/-- A match on a value that is known to be one of two never reaches its last arm. -/
theorem ofTwo {γ : Type} [DecidableEq γ] {value first second : γ} {x y : Fallible ε α}
    {result result' : Except ε α} (hknown : ¬ (value ≠ first ∧ value ≠ second))
    (hfirst : Returns x result) (hsecond : Returns y result') :
    Returns
      (if value = first then x else if value = second then y else unreachableCode)
      (if value = first then result else result') := by
  apply ite
  · intro _
    exact hfirst
  · intro hne
    have hvalue : value = second := by
      by_contra hother
      exact hknown ⟨hne, hother⟩
    rw [if_pos hvalue]
    exact hsecond

end Returns

end Panics
