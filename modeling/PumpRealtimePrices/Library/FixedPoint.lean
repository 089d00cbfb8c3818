import Mathlib.Data.Rat.Floor
import Mathlib.Tactic.FieldSimp
import Mathlib.Tactic.NormNum
import Mathlib.Tactic.Positivity

/-!
# Fixed-point columns

A decimal column keeps a number of digits after the point and drops the rest.  The
value of a column is an integer, the truncation of the exact number times a power of
ten, and a quotient of natural numbers is truncated by one integer division.

Main results:

- Theorem {lit}`toFixed_div`: the fixed-point value of a quotient is one integer
  division.
- Theorem {lit}`toFixed_mono`: truncation keeps the order of the exact numbers.
- Theorems {lit}`max?_map_of_monotone` and {lit}`min?_map_of_monotone`: so the extreme
  stored values are those of the extreme exact numbers.
-/

namespace FixedPoint

/-! ## Truncation -/

/-- Value of a column with {lit}`scale` digits after the point. -/
def toFixed (scale : Nat) (x : ℚ) : Int :=
  ⌊x * 10 ^ scale⌋

/-- Truncation keeps the order. -/
theorem toFixed_mono (scale : Nat) {x y : ℚ} (hle : x ≤ y) :
    toFixed scale x ≤ toFixed scale y := by
  have hscale : (0 : ℚ) ≤ 10 ^ scale := by positivity
  have hscaled := Rat.mul_le_mul_of_nonneg_right hle hscale
  exact Int.floor_le_floor hscaled

/-- The fixed-point value of a quotient is one integer division. -/
theorem toFixed_div (scale n d : Nat) :
    toFixed scale (n / d) = ((n * 10 ^ scale / d : Nat) : Int) := by
  have hquotient : (n / d : ℚ) * 10 ^ scale = ((n * 10 ^ scale : Nat) : ℚ) / (d : ℚ) := by
    push_cast
    ring
  rw [toFixed, hquotient, Rat.floor_natCast_div_natCast]
  norm_cast

/-- A quotient stays below a bound exactly when its numerator does. -/
theorem toFixed_div_lt_iff {scale n d : Nat} (hd : 0 < d) (bound : Nat) :
    toFixed scale (n / d) < bound ↔ n * 10 ^ scale < bound * d := by
  rw [toFixed_div, Nat.cast_lt, Nat.div_lt_iff_lt_mul hd]

/-! ## Extreme values -/

section Extremes

variable {α β : Type*} [LinearOrder α] [LinearOrder β] {f : α → β}

/-- The greatest stored value is that of the greatest exact number. -/
theorem max?_map_of_monotone (hf : ∀ {x y}, x ≤ y → f x ≤ f y) (xs : List α) :
    (xs.map f).max? = xs.max?.map f := by
  cases hmax : xs.max? with
  | none =>
      rw [List.max?_eq_none_iff] at hmax
      rw [hmax]
      rfl
  | some x =>
      rw [List.max?_eq_some_iff] at hmax
      rw [Option.map_some, List.max?_eq_some_iff]
      refine ⟨List.mem_map_of_mem hmax.1, ?_⟩
      intro y hy
      rcases List.mem_map.mp hy with ⟨x', hx', rfl⟩
      exact hf (hmax.2 x' hx')

/-- The least stored value is that of the least exact number. -/
theorem min?_map_of_monotone (hf : ∀ {x y}, x ≤ y → f x ≤ f y) (xs : List α) :
    (xs.map f).min? = xs.min?.map f := by
  cases hmin : xs.min? with
  | none =>
      rw [List.min?_eq_none_iff] at hmin
      rw [hmin]
      rfl
  | some x =>
      rw [List.min?_eq_some_iff] at hmin
      rw [Option.map_some, List.min?_eq_some_iff]
      refine ⟨List.mem_map_of_mem hmin.1, ?_⟩
      intro y hy
      rcases List.mem_map.mp hy with ⟨x', hx', rfl⟩
      exact hf (hmin.2 x' hx')

end Extremes

end FixedPoint
