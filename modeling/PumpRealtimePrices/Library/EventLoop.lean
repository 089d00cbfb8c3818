import Mathlib.Data.List.Basic
import PumpRealtimePrices.Library.Rust

/-!
# Event loops

A loop handles inputs one after the other, each with effects on a state, until one of
them ends it with an error; a supervisor starts the loop again, after every end, on the
inputs of the next session.  What such a program has done is a history: a relation between
the handled inputs and the states before and after, which composes.

The rules here lift what one step does to whole runs.  They apply to loops in which the
input alone decides whether a step ends the loop, whatever state it meets.

Main results:

- Theorem {lit}`Oblivious.bind`: how functions whose result does not depend on the state
  compose.
- Theorem {lit}`ending_loop`: a loop ends with its first input that ends it.
- Theorem {lit}`loop_history`: the history of a loop is that of its handled inputs.
- Theorem {lit}`restart_history`: the history of all sessions is that of the started ones.
-/

namespace EventLoop

open Rust

variable {ε σ ι α β : Type}

/-! ## How a function with effects ends -/

/-- Result of a call, without the state that it leaves. -/
def outcome : EStateM.Result ε σ α → Except ε α
  | .ok a _ => .ok a
  | .error error _ => .error error

/-- State that a call leaves. -/
def final : EStateM.Result ε σ α → σ
  | .ok _ s => s
  | .error _ s => s

/-- Error that a call ends with, if it fails. -/
def ending : EStateM.Result ε σ α → Option ε
  | .ok _ _ => none
  | .error error _ => some error

/-- The outcome of an effect that fails is its error. -/
@[simp]
theorem outcome_error (error : ε) (s : σ) :
    outcome (.error error s : EStateM.Result ε σ α) = .error error :=
  rfl

/-- An effect that ends well leaves its state. -/
@[simp]
theorem final_ok (a : α) (s : σ) : final (.ok a s : EStateM.Result ε σ α) = s :=
  rfl

/-- An effect that fails leaves its state too. -/
@[simp]
theorem final_error (error : ε) (s : σ) : final (.error error s : EStateM.Result ε σ α) = s :=
  rfl

/-- An effect that ends well does not end the loop. -/
@[simp]
theorem ending_ok (a : α) (s : σ) : ending (.ok a s : EStateM.Result ε σ α) = none :=
  rfl

/-- An effect that fails ends the loop with its error. -/
@[simp]
theorem ending_error (error : ε) (s : σ) :
    ending (.error error s : EStateM.Result ε σ α) = some error :=
  rfl

/-- A call is what it ends with and the state that it leaves. -/
theorem eq_ok_of_ending {result : EStateM.Result ε σ Unit} (hending : ending result = none) :
    result = .ok () (final result) := by
  cases result with
  | ok done s => rfl
  | error error s => cases hending

/-- An effect that ends the loop is its error with the state that it leaves. -/
theorem eq_error_of_ending {result : EStateM.Result ε σ α} {error : ε}
    (hending : ending result = some error) : result = .error error (final result) := by
  cases result with
  | ok a s => cases hending
  | error found s =>
      cases hending
      rfl

/-! ## Results that do not depend on the state -/

/-- The state that a function meets has no influence on its result. -/
def Oblivious (x : Effect ε σ α) : Prop :=
  ∀ s s', outcome (x s) = outcome (x s')

namespace Oblivious

/-- The outcome of a result does not depend on the state. -/
theorem ofResult (x : Except ε α) : Oblivious (ofResult x : Effect ε σ α) := by
  intro s s'
  cases x <;> rfl

/-- The outcome of a value does not depend on the state. -/
theorem pure (a : α) : Oblivious (Pure.pure a : Effect ε σ α) :=
  fun _ _ => rfl

/-- The outcome of a change of the state does not depend on the state. -/
theorem update (f : σ → σ) : Oblivious (modify f : Effect ε σ PUnit) :=
  fun _ _ => rfl

/-- A function whose steps are oblivious is. -/
theorem bind {x : Effect ε σ α} {f : α → Effect ε σ β} (hx : Oblivious x)
    (hf : ∀ a, Oblivious (f a)) : Oblivious (x >>= f) := by
  intro s s'
  have houtcome := hx s s'
  cases hs : x s with
  | ok a t =>
      cases hs' : x s' with
      | ok a' t' =>
          rw [hs, hs'] at houtcome
          cases houtcome
          rw [effect_bind_of_ok hs, effect_bind_of_ok hs']
          exact hf a t t'
      | error error' t' =>
          rw [hs, hs'] at houtcome
          cases houtcome
  | error error t =>
      cases hs' : x s' with
      | ok a' t' =>
          rw [hs, hs'] at houtcome
          cases houtcome
      | error error' t' =>
          rw [hs, hs'] at houtcome
          cases houtcome
          rw [effect_bind_eq_error_iff.mpr (.inl hs), effect_bind_eq_error_iff.mpr (.inl hs')]
          rfl

end Oblivious

/-! ## The inputs up to one that stops -/

/-- Elements up to the first one with a property, which is the last of them. -/
def upTo (p : ι → Bool) : List ι → List ι
  | [] => []
  | x :: xs => if p x then [x] else x :: upTo p xs

/-- Nothing is taken after the first item that stops. -/
theorem upTo_cons_of_pos {p : ι → Bool} {x : ι} (hx : p x = true) (xs : List ι) :
    upTo p (x :: xs) = [x] :=
  if_pos hx

/-- An item that does not stop is taken, and the rest is looked at. -/
theorem upTo_cons_of_neg {p : ι → Bool} {x : ι} (hx : ¬ p x = true) (xs : List ι) :
    upTo p (x :: xs) = x :: upTo p xs :=
  if_neg hx

/-! ## Loops -/

/-- Handle inputs one after the other, until one of them ends the loop. -/
def loop (step : ι → Effect ε σ Unit) : List ι → Effect ε σ Unit
  | [] => pure ()
  | input :: inputs => do
      step input
      loop step inputs

/-- A relation between inputs and the states before and after them, as it composes over
a run. -/
structure Composes (History : List ι → σ → σ → Prop) : Prop where
  refl : ∀ s, History [] s s
  trans : ∀ {inputs inputs' s t u}, History inputs s t → History inputs' t u →
    History (inputs ++ inputs') s u

section Loops

variable {step : ι → Effect ε σ Unit} {stop : ι → Option ε}

/-- A step that ends well goes on from the state that it leaves. -/
theorem loop_cons_of_none {input : ι} {s : σ} (hstep : ending (step input s) = none)
    (inputs : List ι) :
    loop step (input :: inputs) s = loop step inputs (final (step input s)) :=
  effect_bind_of_ok (eq_ok_of_ending hstep)

/-- A step that fails is the last one. -/
theorem loop_cons_of_some {input : ι} {s : σ} {error : ε}
    (hstep : ending (step input s) = some error) (inputs : List ι) :
    loop step (input :: inputs) s = .error error (final (step input s)) :=
  effect_bind_eq_error_iff.mpr (.inl (eq_error_of_ending hstep))

/-- A loop ends with its first input that ends it. -/
theorem ending_loop (hstop : ∀ input s, ending (step input s) = stop input) (inputs : List ι)
    (s : σ) : ending (loop step inputs s) = inputs.findSome? stop := by
  induction inputs generalizing s with
  | nil => rfl
  | cons input inputs ih =>
      have hstep := hstop input s
      rw [List.findSome?_cons]
      cases hinput : stop input with
      | none =>
          rw [hinput] at hstep
          rw [loop_cons_of_none hstep, ih]
      | some error =>
          rw [hinput] at hstep
          rw [loop_cons_of_some hstep, ending_error]

/-- The inputs that a loop handles. -/
def handled (stop : ι → Option ε) (inputs : List ι) : List ι :=
  upTo (fun input => (stop input).isSome) inputs

/-- An input that does not stop the loop is handled, and so may be the next. -/
theorem handled_cons_of_none {input : ι} (hinput : stop input = none) (inputs : List ι) :
    handled stop (input :: inputs) = input :: handled stop inputs :=
  upTo_cons_of_neg (by simp [hinput]) inputs

/-- An input that stops the loop is the last one handled. -/
theorem handled_cons_of_some {input : ι} {error : ε} (hinput : stop input = some error)
    (inputs : List ι) : handled stop (input :: inputs) = [input] :=
  upTo_cons_of_pos (by simp [hinput]) inputs

/-- A handled input that ends the loop decides how it ends. -/
theorem findSome?_of_mem_handled {inputs : List ι} {input : ι}
    (hinput : input ∈ handled stop inputs) {error : ε} (hstop : stop input = some error) :
    inputs.findSome? stop = some error := by
  induction inputs with
  | nil => cases hinput
  | cons first inputs ih =>
      rw [List.findSome?_cons]
      cases hfirst : stop first with
      | none =>
          rw [handled_cons_of_none hfirst, List.mem_cons] at hinput
          rcases hinput with rfl | hinput
          · rw [hfirst] at hstop
            cases hstop
          · exact ih hinput
      | some found =>
          rw [handled_cons_of_some hfirst, List.mem_singleton] at hinput
          rw [← hfirst, ← hinput, hstop]

/-- The history of a loop is that of the inputs that it handles. -/
theorem loop_history {History : List ι → σ → σ → Prop} (hhistory : Composes History)
    (hstop : ∀ input s, ending (step input s) = stop input)
    (hstep : ∀ input s, History [input] s (final (step input s))) (inputs : List ι) (s : σ) :
    History (handled stop inputs) s (final (loop step inputs s)) := by
  induction inputs generalizing s with
  | nil => exact hhistory.refl s
  | cons input inputs ih =>
      have hending := hstop input s
      have hfirst := hstep input s
      cases hinput : stop input with
      | none =>
          rw [hinput] at hending
          rw [handled_cons_of_none hinput, loop_cons_of_none hending]
          exact hhistory.trans hfirst (ih _)
      | some error =>
          rw [hinput] at hending
          rw [handled_cons_of_some hinput, loop_cons_of_some hending]
          exact hfirst

end Loops

/-! ## Sessions -/

/-- Start one session after the other, with a report of how each of them ended.  A session
that has not ended is the last one. -/
def restart (session : ι → Effect ε σ Unit) (report : ε → σ → σ) : List ι → σ → σ
  | [], s => s
  | input :: inputs, s =>
      match session input s with
      | .ok _ s' => s'
      | .error error s' => restart session report inputs (report error s')

/-- The sessions that are started. -/
def started (stop : ι → Option ε) (inputs : List ι) : List ι :=
  upTo (fun input => (stop input).isNone) inputs

/-- A session that has not ended is the last one that is started. -/
theorem started_cons_of_none {stop : ι → Option ε} {input : ι} (hinput : stop input = none)
    (inputs : List ι) : started stop (input :: inputs) = [input] :=
  upTo_cons_of_pos (by simp [hinput]) inputs

/-- After a session that has ended the next one is started. -/
theorem started_cons_of_some {stop : ι → Option ε} {input : ι} {error : ε}
    (hinput : stop input = some error) (inputs : List ι) :
    started stop (input :: inputs) = input :: started stop inputs :=
  upTo_cons_of_neg (by simp [hinput]) inputs

/-- State after a session and the report of its end. -/
def reported (report : ε → σ → σ) (result : EStateM.Result ε σ Unit) : σ :=
  (ending result).elim (final result) fun error => report error (final result)

/-- The history of all sessions is that of the sessions that are started. -/
theorem restart_history {session : ι → Effect ε σ Unit} {report : ε → σ → σ}
    {stop : ι → Option ε} {History : List ι → σ → σ → Prop} (hhistory : Composes History)
    (hstop : ∀ input s, ending (session input s) = stop input)
    (hsession : ∀ input s, History [input] s (reported report (session input s)))
    (inputs : List ι) (s : σ) :
    History (started stop inputs) s (restart session report inputs s) := by
  induction inputs generalizing s with
  | nil => exact hhistory.refl s
  | cons input inputs ih =>
      have hending := hstop input s
      have hfirst := hsession input s
      rw [restart]
      cases hresult : session input s with
      | ok done s' =>
          rw [hresult] at hending hfirst
          rw [started_cons_of_none hending.symm]
          exact hfirst
      | error error s' =>
          rw [hresult] at hending hfirst
          rw [started_cons_of_some hending.symm]
          exact hhistory.trans hfirst (ih _)

end EventLoop
