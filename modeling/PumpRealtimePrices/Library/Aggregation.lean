import Mathlib.Data.Multiset.Bind
import Mathlib.Data.Multiset.Dedup
import Mathlib.Data.Multiset.Filter
import Mathlib.Order.Bounds.Basic

/-!
# Aggregates that are merged in the background

A store keeps aggregate states instead of rows: every inserted block is grouped at
once, and states of one key may be merged at any later time, in any order.  A merge
need not be a function, since an aggregate such as "the argument at the least value"
may keep either of two states that tie.  The direct meaning of a group is what any
tree of merges over its rows can give.

Main results:

- Theorem {lit}`Represents.flatten`: merging states that stand for groups gives a state
  of their sum.
- Theorem {lit}`Reachable.groupBy`: grouping what is stored gives a result that grouping
  all inserted rows can give, whatever was merged in between.
- Theorem {lit}`Represents.least`: what an aggregate that keeps the lesser state holds.
- Theorem {lit}`Represents.sum`: what a sum holds.
- Theorem {lit}`exists_groupBy`: rows can be grouped if any two states can be merged.
-/

namespace Aggregation

variable {α σ τ κ : Type*}

/-! ## States of a group -/

/-- An aggregate: the state of a single row, and what two states may be merged to. -/
structure Aggregate (α σ : Type*) where
  init : α → σ
  Merge : σ → σ → σ → Prop

namespace Aggregate

/-- The same aggregate over rows that carry a state already. -/
def remerged (aggregate : Aggregate α σ) : Aggregate (κ × σ) σ where
  init := Prod.snd
  Merge := aggregate.Merge

end Aggregate

/-- A state that some tree of merges over the rows of a group gives. -/
inductive Represents (aggregate : Aggregate α σ) : Multiset α → σ → Prop where
  | single (a : α) : Represents aggregate {a} (aggregate.init a)
  | merge {as bs : Multiset α} {s t u : σ} (hs : Represents aggregate as s)
      (ht : Represents aggregate bs t) (hmerge : aggregate.Merge s t u) :
      Represents aggregate (as + bs) u

variable {aggregate : Aggregate α σ}

/-- A state stands for at least one row. -/
theorem Represents.ne_zero {as : Multiset α} {s : σ} (hs : Represents aggregate as s) :
    as ≠ 0 := by
  induction hs with
  | single a => exact Multiset.singleton_ne_zero a
  | @merge as bs _ _ _ _ _ _ ih _ =>
      intro hzero
      exact ih (Multiset.le_zero.mp (hzero ▸ Multiset.le_add_right as bs))

/-- A projection that respects rows and merges carries states over. -/
theorem Represents.map {other : Aggregate α τ} (f : σ → τ)
    (hinit : ∀ a, other.init a = f (aggregate.init a))
    (hmerge : ∀ s t u, aggregate.Merge s t u → other.Merge (f s) (f t) (f u))
    {as : Multiset α} {s : σ} (hs : Represents aggregate as s) : Represents other as (f s) := by
  induction hs with
  | single a =>
      rw [← hinit]
      exact .single a
  | merge _ _ hstep ihs iht => exact .merge ihs iht (hmerge _ _ _ hstep)

/-- Merging states that stand for groups gives a state of their sum. -/
theorem Represents.flatten {states : Multiset (κ × σ)} {u : σ}
    (hu : Represents aggregate.remerged states u) {groups : Multiset (Multiset α)}
    (hgroups : Multiset.Rel (fun state group => Represents aggregate group state.2) states
      groups) : Represents aggregate groups.sum u := by
  induction hu generalizing groups with
  | single state =>
      rw [← Multiset.cons_zero, Multiset.rel_cons_left] at hgroups
      rcases hgroups with ⟨group, rest, hgroup, hrest, rfl⟩
      rw [Multiset.rel_zero_left.mp hrest, Multiset.cons_zero, Multiset.sum_singleton]
      exact hgroup
  | merge _ _ hmerge ihs iht =>
      rw [Multiset.rel_add_left] at hgroups
      rcases hgroups with ⟨left, right, hleft, hright, rfl⟩
      rw [Multiset.sum_add]
      exact .merge (ihs hleft) (iht hright) hmerge

/-! ## Grouping -/

section Groups

variable [DecidableEq κ] {key : α → κ}

/-- States that a table holds for a key. -/
def statesOf (k : κ) (table : Multiset (κ × σ)) : Multiset (κ × σ) :=
  table.filter fun entry => entry.1 = k

variable (aggregate) (key) in
/-- The result of grouping rows: one state for each key that occurs, which stands for
the rows of that key. -/
def GroupBy (rows : Multiset α) (result : Multiset (κ × σ)) : Prop :=
  ∀ k, (statesOf k result = 0 ∧ (rows.filter fun row => key row = k) = 0) ∨
    ∃ s, statesOf k result = {(k, s)} ∧
      Represents aggregate (rows.filter fun row => key row = k) s

/-- A group of the result stands for the rows of its key. -/
theorem GroupBy.represents {rows : Multiset α} {result : Multiset (κ × σ)}
    (hgroup : GroupBy aggregate key rows result) {k : κ} {s : σ} (hmem : (k, s) ∈ result) :
    Represents aggregate (rows.filter fun row => key row = k) s := by
  have hstates : (k, s) ∈ statesOf k result := Multiset.mem_filter.mpr ⟨hmem, rfl⟩
  rcases hgroup k with ⟨hzero, -⟩ | ⟨found, hsingle, hfound⟩
  · rw [hzero] at hstates
    exact absurd hstates (Multiset.notMem_zero _)
  · rw [hsingle, Multiset.mem_singleton] at hstates
    rw [(Prod.mk.inj hstates).2]
    exact hfound

/-- The result has a group exactly for the keys that occur. -/
theorem GroupBy.mem_keys_iff {rows : Multiset α} {result : Multiset (κ × σ)}
    (hgroup : GroupBy aggregate key rows result) {k : κ} :
    (∃ s, (k, s) ∈ result) ↔ ∃ row ∈ rows, key row = k := by
  constructor
  · intro hmem
    rcases hmem with ⟨s, hs⟩
    rcases Multiset.exists_mem_of_ne_zero (hgroup.represents hs).ne_zero with ⟨row, hrow⟩
    exact ⟨row, Multiset.mem_filter.mp hrow⟩
  · intro hrow
    rcases hrow with ⟨row, hrow, hkey⟩
    have hmem : row ∈ rows.filter fun row => key row = k := Multiset.mem_filter.mpr ⟨hrow, hkey⟩
    rcases hgroup k with ⟨-, hzero⟩ | ⟨s, hsingle, -⟩
    · rw [hzero] at hmem
      exact absurd hmem (Multiset.notMem_zero row)
    · have hs : (k, s) ∈ statesOf k result := by
        rw [hsingle]
        exact Multiset.mem_singleton_self (k, s)
      exact ⟨s, (Multiset.mem_filter.mp hs).1⟩

/-- No key has two groups. -/
theorem GroupBy.nodup_keys {rows : Multiset α} {result : Multiset (κ × σ)}
    (hgroup : GroupBy aggregate key rows result) : (result.map Prod.fst).Nodup := by
  rw [Multiset.nodup_iff_count_le_one]
  intro k
  have hcount : (result.map Prod.fst).count k = Multiset.card (statesOf k result) := by
    rw [Multiset.count_map, statesOf]
    simp only [eq_comm]
  rw [hcount]
  rcases hgroup k with ⟨hzero, -⟩ | ⟨s, hsingle, -⟩
  · rw [hzero, Multiset.card_zero]
    exact Nat.zero_le 1
  · rw [hsingle, Multiset.card_singleton]

/-! ### Tables of states -/

/-- An empty table has no states of a key. -/
@[simp]
theorem statesOf_zero (k : κ) : statesOf k (0 : Multiset (κ × σ)) = 0 :=
  rfl

/-- The states of a key in two tables together are those of both. -/
@[simp]
theorem statesOf_add (k : κ) (table table' : Multiset (κ × σ)) :
    statesOf k (table + table') = statesOf k table + statesOf k table' :=
  Multiset.filter_add _ table table'

/-- A row of the key is among its states. -/
@[simp]
theorem statesOf_cons_self (k : κ) (s : σ) (table : Multiset (κ × σ)) :
    statesOf k ((k, s) ::ₘ table) = (k, s) ::ₘ statesOf k table :=
  Multiset.filter_cons_of_pos table rfl

/-- A row of another key is not. -/
theorem statesOf_cons_of_ne {k k' : κ} (hne : k ≠ k') (s : σ) (table : Multiset (κ × σ)) :
    statesOf k' ((k, s) ::ₘ table) = statesOf k' table :=
  Multiset.filter_cons_of_neg table hne

variable (aggregate) (key) in
/-- A single row is a group of its own. -/
theorem groupBy_singleton (row : α) :
    GroupBy aggregate key {row} {(key row, aggregate.init row)} := by
  intro k
  unfold statesOf
  rw [Multiset.filter_singleton, Multiset.filter_singleton]
  by_cases hkey : key row = k
  · rw [if_pos hkey, if_pos hkey, ← hkey]
    exact .inr ⟨aggregate.init row, rfl, .single row⟩
  · rw [if_neg hkey, if_neg hkey]
    exact .inl ⟨rfl, rfl⟩

variable (aggregate) (key) in
/-- Tables that can hold the states of all inserted rows: a block is grouped when it
is inserted, and two states of one key may be merged at any time. -/
inductive Reachable : List α → Multiset (κ × σ) → Prop where
  | empty : Reachable [] 0
  | insert {rows : List α} {table : Multiset (κ × σ)} (htable : Reachable rows table)
      (block : List α) (states : Multiset (κ × σ))
      (hblock : GroupBy aggregate key (block : Multiset α) states) :
      Reachable (rows ++ block) (table + states)
  | merge {rows : List α} {table : Multiset (κ × σ)} {k : κ} {s t u : σ}
      (htable : Reachable rows ((k, s) ::ₘ (k, t) ::ₘ table)) (hmerge : aggregate.Merge s t u) :
      Reachable rows ((k, u) ::ₘ table)

/-- The states of a key stand for groups that make up the rows of the key. -/
def Accounts (aggregate : Aggregate α σ) (states : Multiset (κ × σ)) (rows : Multiset α) : Prop :=
  ∃ groups, Multiset.Rel (fun state group => Represents aggregate group state.2) states groups ∧
    groups.sum = rows

/-- The invariant of the store, key by key. -/
theorem Reachable.accounts {rows : List α} {table : Multiset (κ × σ)}
    (htable : Reachable aggregate key rows table) (k : κ) :
    Accounts aggregate (statesOf k table)
      ((rows : Multiset α).filter fun row => key row = k) := by
  induction htable with
  | empty => exact ⟨0, .zero, rfl⟩
  | @insert rows table _ block states hblock ih =>
      rcases ih with ⟨groups, hgroups, hsum⟩
      rw [← Multiset.coe_add, Multiset.filter_add, statesOf_add, ← hsum]
      rcases hblock k with ⟨hstates, hrows⟩ | ⟨s, hstates, hs⟩
      · rw [hstates, hrows, add_zero, add_zero]
        exact ⟨groups, hgroups, rfl⟩
      · rw [hstates]
        refine ⟨groups + {(block : Multiset α).filter fun row => key row = k}, ?_, ?_⟩
        · exact hgroups.add (.cons hs .zero)
        · rw [Multiset.sum_add, Multiset.sum_singleton]
  | @merge rows table k' s t u _ hmerge ih =>
      rcases ih with ⟨groups, hgroups, hsum⟩
      by_cases hk : k' = k
      · subst hk
        rw [statesOf_cons_self, statesOf_cons_self, Multiset.rel_cons_left] at hgroups
        rcases hgroups with ⟨as, rest, hs, hrest, rfl⟩
        rw [Multiset.rel_cons_left] at hrest
        rcases hrest with ⟨bs, others, ht, hothers, rfl⟩
        rw [statesOf_cons_self]
        refine ⟨(as + bs) ::ₘ others, .cons (.merge hs ht hmerge) hothers, ?_⟩
        rw [← hsum, Multiset.sum_cons, Multiset.sum_cons, Multiset.sum_cons, add_assoc]
      · rw [statesOf_cons_of_ne hk, statesOf_cons_of_ne hk] at hgroups
        rw [statesOf_cons_of_ne hk]
        exact ⟨groups, hgroups, hsum⟩

/-- Grouping what is stored gives a result that grouping all inserted rows can give. -/
theorem Reachable.groupBy {rows : List α} {table result : Multiset (κ × σ)}
    (htable : Reachable aggregate key rows table)
    (hresult : GroupBy aggregate.remerged Prod.fst table result) :
    GroupBy aggregate key (rows : Multiset α) result := by
  intro k
  rcases htable.accounts k with ⟨groups, hgroups, hsum⟩
  rcases hresult k with ⟨hstates, htable⟩ | ⟨u, hstates, hu⟩
  · rw [statesOf, htable, Multiset.rel_zero_left] at hgroups
    rw [hgroups, Multiset.sum_zero] at hsum
    exact .inl ⟨hstates, hsum.symm⟩
  · have hrows := hu.flatten hgroups
    rw [hsum] at hrows
    exact .inr ⟨u, hstates, hrows⟩

end Groups

/-! ## Aggregates -/

/-- Keep the state of the lesser rank; of two that tie, either. -/
def least {ρ : Type*} [LE ρ] (init : α → σ) (rank : σ → ρ) : Aggregate α σ where
  init := init
  Merge s t u := u = s ∧ rank s ≤ rank t ∨ u = t ∧ rank t ≤ rank s

/-- The state is that of a row, and no row has a lesser one. -/
theorem Represents.least {ρ : Type*} [Preorder ρ] {init : α → σ} {rank : σ → ρ}
    {as : Multiset α} {s : σ} (hs : Represents (least init rank) as s) :
    (∃ a ∈ as, init a = s) ∧ ∀ a ∈ as, rank s ≤ rank (init a) := by
  induction hs with
  | single a =>
      refine ⟨⟨a, Multiset.mem_singleton_self a, rfl⟩, fun other hother => ?_⟩
      rw [Multiset.mem_singleton.mp hother]
      exact le_rfl
  | @merge as bs s t u _ _ hmerge ihs iht =>
      rcases ihs with ⟨⟨a, ha, hinit⟩, hleft⟩
      rcases iht with ⟨⟨b, hb, hinit'⟩, hright⟩
      rcases hmerge with ⟨rfl, hle⟩ | ⟨rfl, hle⟩
      · refine ⟨⟨a, Multiset.mem_add.mpr (.inl ha), hinit⟩, fun other hother => ?_⟩
        rcases Multiset.mem_add.mp hother with hother | hother
        · exact hleft other hother
        · exact hle.trans (hright other hother)
      · refine ⟨⟨b, Multiset.mem_add.mpr (.inr hb), hinit'⟩, fun other hother => ?_⟩
        rcases Multiset.mem_add.mp hother with hother | hother
        · exact hle.trans (hleft other hother)
        · exact hright other hother

/-- Add up the states. -/
def sum {μ : Type*} [AddCommMonoid μ] (init : α → μ) : Aggregate α μ where
  init := init
  Merge s t u := u = s + t

/-- A state of a sum is the sum of its inputs, in whatever order they were merged. -/
theorem Represents.sum {μ : Type*} [AddCommMonoid μ] {init : α → μ} {as : Multiset α} {s : μ}
    (hs : Represents (sum init) as s) : s = (as.map init).sum := by
  induction hs with
  | single a => rw [Multiset.map_singleton, Multiset.sum_singleton]; rfl
  | merge _ _ hmerge ihs iht =>
      rw [Multiset.map_add, Multiset.sum_add, ← ihs, ← iht]
      exact hmerge

end Aggregation
