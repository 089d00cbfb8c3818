import Mathlib.Data.List.Nodup
import PumpRealtimePrices.Library.LastWrite

/-!
# Rows that are replaced in the background

A store that never updates a row in place: inserts add parts, and merges of
neighbouring parts, at any time, keep one row for each key.  The row of the greatest
version survives, and of several rows with that version the one inserted last.  A
read merges what it finds, so it does not depend on the merges that were done before.

Main results:

- Theorem {lit}`mem_merge`: what is left of a list of rows.
- Theorem {lit}`Reachable.final`: a read gives what merging all inserted rows gives.
- Theorem {lit}`Split.survivor_eq`: which row of a key survives.
- Theorem {lit}`survivor_eq_lastOf_iff`: the last row of a key survives exactly when no
  earlier one has a greater version.
-/

namespace Replacing

variable {κ α ρ : Type*} [DecidableEq κ] [LinearOrder ρ] (key : α → κ) (version : α → ρ)

/-! ## The surviving row -/

/-- Of two rows of a key, the second inserted later: the one that is kept. -/
def newer (x y : α) : α :=
  if version y < version x then x else y

instance : Std.Associative (newer version) where
  assoc x y z := by
    unfold newer
    by_cases hxy : version y < version x
    · by_cases hyz : version z < version y
      · rw [if_pos hxy, if_pos hyz, if_pos (hyz.trans hxy), if_pos hxy]
      · rw [if_pos hxy, if_neg hyz]
    · by_cases hyz : version z < version y
      · rw [if_neg hxy, if_pos hyz, if_neg hxy]
      · have hxz : ¬ version z < version x := fun hlt =>
          hxy ((not_lt.mp hyz).trans_lt hlt)
        rw [if_neg hxy, if_neg hyz, if_neg hxz]

/-- Keeping the newer of two rows is associative. -/
theorem merge_assoc (x y z : Option α) :
    Option.merge (newer version) (Option.merge (newer version) x y) z =
      Option.merge (newer version) x (Option.merge (newer version) y z) :=
  Std.Associative.assoc x y z

/-- The row of a key that survives among rows in the order of their insertion. -/
def survivor (k : κ) : List α → Option α
  | [] => none
  | row :: rows =>
      Option.merge (newer version) (if key row = k then some row else none) (survivor k rows)

/-- The survivor of two lists of rows is the newer of their survivors. -/
theorem survivor_append (k : κ) (rows rows' : List α) :
    survivor key version k (rows ++ rows') =
      Option.merge (newer version) (survivor key version k rows)
        (survivor key version k rows') := by
  induction rows with
  | nil => rw [List.nil_append, survivor, Option.merge_none_left]
  | cons row rows ih =>
      rw [List.cons_append, survivor, survivor, ih, merge_assoc]

variable {key version}

/-- A key has no survivor exactly when no row has the key. -/
theorem survivor_eq_none_iff {k : κ} {rows : List α} :
    survivor key version k rows = none ↔ ∀ row ∈ rows, key row ≠ k := by
  induction rows with
  | nil => simp [survivor]
  | cons row rows ih =>
      rw [survivor, List.forall_mem_cons, ← ih]
      by_cases hkey : key row = k
      · cases survivor key version k rows <;> simp [hkey]
      · simp [hkey]

/-- The rows of a key before and after its surviving row. -/
structure Split (key : α → κ) (version : α → ρ) (k : κ) (rows : List α) (x : α)
    (before after : List α) : Prop where
  rows_eq : rows = before ++ x :: after
  key_eq : key x = k
  before : ∀ y ∈ before, key y = k → version y ≤ version x
  after : ∀ y ∈ after, key y = k → version y < version x

namespace Split

variable {k : κ} {rows before after : List α} {x : α}

omit [DecidableEq κ] in
/-- The row of a split is one of the rows. -/
theorem mem (hsplit : Split key version k rows x before after) : x ∈ rows := by
  rw [hsplit.rows_eq]
  exact List.mem_append_right before List.mem_cons_self

omit [DecidableEq κ] in
/-- No row of the key has a greater version. -/
theorem version_le (hsplit : Split key version k rows x before after) {y : α} (hy : y ∈ rows)
    (hkey : key y = k) : version y ≤ version x := by
  rw [hsplit.rows_eq] at hy
  rcases List.mem_append.mp hy with hy | hy
  · exact hsplit.before y hy hkey
  · rcases List.mem_cons.mp hy with rfl | hy
    · exact le_rfl
    · exact (hsplit.after y hy hkey).le

omit [DecidableEq κ] in
/-- A row of another key in front of the others changes nothing. -/
theorem cons_of_ne {row : α} (hsplit : Split key version k rows x before after)
    (hkey : key row ≠ k) : Split key version k (row :: rows) x (row :: before) after where
  rows_eq := by rw [hsplit.rows_eq, List.cons_append]
  key_eq := hsplit.key_eq
  before := List.forall_mem_cons.mpr ⟨fun hrow => absurd hrow hkey, hsplit.before⟩
  after := hsplit.after

end Split

/-- The rows split at the survivor. -/
theorem exists_split {k : κ} {rows : List α} {x : α}
    (hsurvivor : survivor key version k rows = some x) :
    ∃ before after, Split key version k rows x before after := by
  induction rows generalizing x with
  | nil => cases hsurvivor
  | cons row rows ih =>
      rw [survivor] at hsurvivor
      by_cases hkey : key row = k
      · rw [if_pos hkey] at hsurvivor
        cases hrest : survivor key version k rows with
        | none =>
            rw [hrest, Option.merge_none_right, Option.some.injEq] at hsurvivor
            subst hsurvivor
            refine ⟨[], rows, rfl, hkey, by simp, fun y hy hykey => ?_⟩
            exact absurd hykey (survivor_eq_none_iff.mp hrest y hy)
        | some z =>
            rcases ih hrest with ⟨before, after, hsplit⟩
            rw [hrest, Option.merge_some_some, Option.some.injEq, newer] at hsurvivor
            by_cases hlt : version z < version row
            · rw [if_pos hlt] at hsurvivor
              subst hsurvivor
              refine ⟨[], rows, rfl, hkey, by simp, fun y hy hykey => ?_⟩
              exact (hsplit.version_le hy hykey).trans_lt hlt
            · rw [if_neg hlt] at hsurvivor
              subst hsurvivor
              refine ⟨row :: before, after, by rw [hsplit.rows_eq, List.cons_append],
                hsplit.key_eq, ?_, hsplit.after⟩
              exact List.forall_mem_cons.mpr ⟨fun _ => not_lt.mp hlt, hsplit.before⟩
      · rw [if_neg hkey, Option.merge_none_left] at hsurvivor
        rcases ih hsurvivor with ⟨before, after, hsplit⟩
        exact ⟨row :: before, after, hsplit.cons_of_ne hkey⟩

/-- The survivor is one of the rows. -/
theorem mem_of_survivor {k : κ} {rows : List α} {x : α}
    (hsurvivor : survivor key version k rows = some x) : x ∈ rows := by
  rcases exists_split hsurvivor with ⟨before, after, hsplit⟩
  exact hsplit.mem

/-- The survivor has the key. -/
theorem key_of_survivor {k : κ} {rows : List α} {x : α}
    (hsurvivor : survivor key version k rows = some x) : key x = k := by
  rcases exists_split hsurvivor with ⟨before, after, hsplit⟩
  exact hsplit.key_eq

/-- Rows that are inserted later, with no lesser version, replace earlier ones. -/
theorem survivor_append_of_le {k : κ} {rows rows' : List α} {x : α}
    (hsurvivor : survivor key version k rows' = some x)
    (hle : ∀ y ∈ rows, key y = k → version y ≤ version x) :
    survivor key version k (rows ++ rows') = some x := by
  rw [survivor_append, hsurvivor]
  cases hearlier : survivor key version k rows with
  | none => rw [Option.merge_none_left]
  | some y =>
      have hlt := hle y (mem_of_survivor hearlier) (key_of_survivor hearlier)
      rw [Option.merge_some_some, newer, if_neg (not_lt.mpr hlt)]

/-- Rows of other keys that are inserted later change nothing. -/
theorem survivor_append_of_ne {k : κ} (rows : List α) {rows' : List α}
    (hne : ∀ y ∈ rows', key y ≠ k) :
    survivor key version k (rows ++ rows') = survivor key version k rows := by
  rw [survivor_append, survivor_eq_none_iff.mpr hne, Option.merge_none_right]

/-- A row of the greatest version, with no row of that version after it, survives. -/
theorem Split.survivor_eq {k : κ} {rows before after : List α} {x : α}
    (hsplit : Split key version k rows x before after) :
    survivor key version k rows = some x := by
  have hrest : survivor key version k (x :: after) = some x := by
    rw [survivor, if_pos hsplit.key_eq]
    cases hlater : survivor key version k after with
    | none => rw [Option.merge_none_right]
    | some y =>
        have hlt := hsplit.after y (mem_of_survivor hlater) (key_of_survivor hlater)
        rw [Option.merge_some_some, newer, if_pos hlt]
  rw [hsplit.rows_eq]
  exact survivor_append_of_le hrest hsplit.before

/-- The last row of a key survives exactly when no earlier one has a greater version. -/
theorem survivor_eq_lastOf_iff {k : κ} {rows : List α} {x : α}
    (hlast : LastWrite.lastOf key k rows = some x) :
    survivor key version k rows = some x ↔ ∀ y ∈ rows, key y = k → version y ≤ version x := by
  constructor
  · intro hsurvivor
    rcases exists_split hsurvivor with ⟨before, after, hsplit⟩
    exact fun y => hsplit.version_le
  · intro hgreatest
    rcases LastWrite.lastOf_eq_some_iff.mp hlast with ⟨hkey, before, after, rfl, hafter⟩
    have hsplit : Split key version k (before ++ x :: after) x before after := by
      refine ⟨rfl, hkey, fun y hy => ?_, fun y hy hykey => ?_⟩
      · exact hgreatest y (List.mem_append_left _ hy)
      · exact absurd hykey (hafter y hy)
    exact hsplit.survivor_eq

/-! ## Merging -/

section Merging

variable [Ord κ] [Std.TransOrd κ] [Std.LawfulEqOrd κ]

variable (key version)

/-- Collect rows under their keys; a later row meets the one that is kept so far. -/
def collect (rows : List α) : Std.TreeMap κ α :=
  rows.foldl (fun map row =>
    map.alter (key row) fun kept => Option.merge (newer version) kept (some row)) ∅

/-- What a merge leaves of rows: one of each key, in the order of the keys. -/
def merge (rows : List α) : List α :=
  (collect key version rows).toList.map Prod.snd

/-- The collected map holds the survivor of each key. -/
theorem getElem?_collect (rows : List α) (k : κ) :
    (collect key version rows)[k]? = survivor key version k rows := by
  have hfold : ∀ map : Std.TreeMap κ α,
      (rows.foldl (fun map row => map.alter (key row) fun kept =>
        Option.merge (newer version) kept (some row)) map)[k]? =
        Option.merge (newer version) map[k]? (survivor key version k rows) := by
    induction rows with
    | nil =>
        intro map
        rw [List.foldl_nil, survivor, Option.merge_none_right]
    | cons row rows ih =>
        intro map
        rw [List.foldl_cons, ih, survivor, ← merge_assoc, Std.TreeMap.getElem?_alter]
        congr 1
        by_cases hkey : key row = k
        · rw [if_pos (Std.compare_eq_iff_eq.mpr hkey), if_pos hkey, hkey]
        · rw [if_neg (mt Std.compare_eq_iff_eq.mp hkey), if_neg hkey, Option.merge_none_right]
  rw [collect, hfold, Std.TreeMap.getElem?_emptyc, Option.merge_none_left]

variable {key version}

/-- What is left of a list of rows: the surviving row of each key. -/
theorem mem_merge {rows : List α} {x : α} :
    x ∈ merge key version rows ↔ survivor key version (key x) rows = some x := by
  rw [merge, List.mem_map]
  constructor
  · intro hentry
    rcases hentry with ⟨⟨k, y⟩, hmem, rfl⟩
    rw [Std.TreeMap.mem_toList_iff_getElem?_eq_some, getElem?_collect] at hmem
    rw [key_of_survivor hmem]
    exact hmem
  · intro hsurvivor
    refine ⟨(key x, x), ?_, rfl⟩
    rw [Std.TreeMap.mem_toList_iff_getElem?_eq_some, getElem?_collect]
    exact hsurvivor

variable (key version) in
/-- A merge leaves no two rows of one key. -/
theorem nodup_merge (rows : List α) : ((merge key version rows).map key).Nodup := by
  have hkeys : (merge key version rows).map key =
      (collect key version rows).toList.map Prod.fst := by
    rw [merge, List.map_map]
    refine List.map_congr_left fun entry hmem => ?_
    rw [Std.TreeMap.mem_toList_iff_getElem?_eq_some, getElem?_collect] at hmem
    have hkey : key entry.2 = entry.1 := key_of_survivor hmem
    exact hkey
  rw [hkeys, List.Nodup, List.pairwise_map]
  refine Std.TreeMap.distinct_keys_toList.imp fun hdistinct heq => ?_
  exact hdistinct (Std.compare_eq_iff_eq.mpr heq)

/-- Merging does not change which rows survive. -/
theorem survivor_merge (k : κ) (rows : List α) :
    survivor key version k (merge key version rows) = survivor key version k rows := by
  cases hsurvivor : survivor key version k rows with
  | none =>
      rw [survivor_eq_none_iff]
      intro row hrow hkey
      have hmem := mem_of_survivor (mem_merge.mp hrow)
      exact survivor_eq_none_iff.mp hsurvivor row hmem hkey
  | some x =>
      have hkey : key x = k := key_of_survivor hsurvivor
      have hmem : x ∈ merge key version rows := by
        rw [mem_merge, hkey]
        exact hsurvivor
      rw [survivor_eq_lastOf_iff]
      · intro y hy hykey
        have heq := List.inj_on_of_nodup_map (nodup_merge key version rows) hy hmem
          (hykey.trans hkey.symm)
        rw [heq]
      · rw [← hkey]
        exact LastWrite.lastOf_of_nodup (nodup_merge key version rows) hmem

/-- What a merge leaves depends only on which rows survive. -/
theorem merge_congr {rows rows' : List α}
    (hsurvivor : ∀ k, survivor key version k rows = survivor key version k rows') :
    merge key version rows = merge key version rows' := by
  have hmaps : (collect key version rows).Equiv (collect key version rows') := by
    apply Std.TreeMap.Equiv.of_forall_constGet?_eq
    intro k
    rw [getElem?_collect, getElem?_collect, hsurvivor]
  rw [merge, merge, hmaps.toList_eq]

/-! ## The store -/

variable (key version) in
/-- Parts that a store can hold: an inserted block is a part of its own, merged at once
or not, and two neighbouring parts may be merged at any time. -/
inductive Reachable : List α → List (List α) → Prop where
  | empty : Reachable [] []
  | insert {rows : List α} {parts : List (List α)} (hparts : Reachable rows parts)
      (block part : List α) (hpart : part = block ∨ part = merge key version block) :
      Reachable (rows ++ block) (parts ++ [part])
  | compact {rows : List α} {before after : List (List α)} {part next : List α}
      (hparts : Reachable rows (before ++ part :: next :: after)) :
      Reachable rows (before ++ merge key version (part ++ next) :: after)

variable (key version) in
/-- What a read of the parts gives, after merging them for itself. -/
def final (parts : List (List α)) : List α :=
  merge key version parts.flatten

/-- The rows that survive among the parts are those that survive among all inserted
rows. -/
theorem Reachable.survivor_flatten {rows : List α} {parts : List (List α)}
    (hparts : Reachable key version rows parts) (k : κ) :
    survivor key version k parts.flatten = survivor key version k rows := by
  induction hparts with
  | empty => rfl
  | @insert rows parts _ block part hpart ih =>
      have hsame : survivor key version k part = survivor key version k block := by
        rcases hpart with rfl | rfl
        · rfl
        · exact survivor_merge k block
      rw [List.flatten_append, List.flatten_singleton, survivor_append, ih, hsame,
        survivor_append]
  | @compact rows before after part next _ ih =>
      rw [← ih]
      simp only [List.flatten_append, List.flatten_cons, survivor_append, survivor_merge,
        merge_assoc]

/-- A read does not depend on the merges that were done before. -/
theorem Reachable.final {rows : List α} {parts : List (List α)}
    (hparts : Reachable key version rows parts) :
    final key version parts = merge key version rows :=
  merge_congr hparts.survivor_flatten

end Merging

end Replacing
