import Mathlib.Algebra.BigOperators.Group.List.Lemmas
import Mathlib.Algebra.Ring.Nat
import Mathlib.Data.List.Dedup
import Mathlib.Data.List.Sort

/-!
# Tallies

Items are counted under a key in an ordered map, where the first item of a key leaves
its label, and the entries of the map are sorted by another measure.  The sort is
stable, so entries that it does not tell apart stay in the order of their keys.

Main results:

- Theorem {lit}`getElem?_tally`: a key holds its number of items and the label of the
  first one.
- Theorem {lit}`sum_counts_toList`: the counts add up to the number of items.
- Theorem {lit}`pairwise_mergeSort_of_pairwise`: a stable sort keeps the order of the
  entries that it does not tell apart.
-/

namespace Tally

/-! ## Counting -/

section Counting

variable {ι κ α : Type*} [Ord κ] (key : ι → κ) (label : ι → α)

/-- Count one item; the first item of a key labels it. -/
def add (map : Std.TreeMap κ (Nat × α)) (x : ι) : Std.TreeMap κ (Nat × α) :=
  let entry := map[key x]?.getD (0, label x)
  map.insert (key x) (entry.1 + 1, entry.2)

/-- Count a list of items. -/
def tally (xs : List ι) : Std.TreeMap κ (Nat × α) :=
  xs.foldl (add key label) ∅

variable [DecidableEq κ] [Std.TransOrd κ] [Std.LawfulEqOrd κ]

/-- Adding an item counts it under its key, whose label stays that of the first item. -/
theorem getElem?_add (map : Std.TreeMap κ (Nat × α)) (x : ι) (k : κ) :
    (add key label map x)[k]? =
      if key x = k then
        some ((map[k]?.getD (0, label x)).1 + 1, (map[k]?.getD (0, label x)).2)
      else map[k]? := by
  rw [add, Std.TreeMap.getElem?_insert]
  by_cases hkey : key x = k
  · rw [if_pos (Std.compare_eq_iff_eq.mpr hkey), if_pos hkey, hkey]
  · rw [if_neg (mt Std.compare_eq_iff_eq.mp hkey), if_neg hkey]

/-- What counting more items changes at a key. -/
theorem getElem?_foldl_add (map : Std.TreeMap κ (Nat × α)) (xs : List ι) (k : κ) :
    (xs.foldl (add key label) map)[k]? =
      (map[k]?.or ((xs.find? fun x => key x = k).map fun x => (0, label x))).map
        fun entry => (entry.1 + (xs.map key).count k, entry.2) := by
  induction xs generalizing map with
  | nil =>
      rw [List.foldl_nil, List.find?_nil, List.map_nil, List.count_nil]
      generalize map[k]? = entry
      cases entry <;> simp
  | cons x xs ih =>
      rw [List.foldl_cons, ih, getElem?_add, List.find?_cons, List.map_cons, List.count_cons]
      generalize map[k]? = entry
      by_cases hkey : key x = k
      · cases entry <;> simp [hkey, Nat.add_comm, Nat.add_left_comm]
      · cases entry <;> simp [hkey]

/-- A key holds its number of items and the label of the first one. -/
theorem getElem?_tally (xs : List ι) (k : κ) :
    (tally key label xs)[k]? =
      (xs.find? fun x => key x = k).map fun x => ((xs.map key).count k, label x) := by
  rw [tally, getElem?_foldl_add, Std.TreeMap.getElem?_emptyc, Option.none_or, Option.map_map]
  simp [Function.comp_def]

/-- The entries of the map. -/
theorem mem_toList_tally {xs : List ι} {k : κ} {count : Nat} {a : α} :
    (k, count, a) ∈ (tally key label xs).toList ↔
      ∃ x, (xs.find? fun x => key x = k) = some x ∧ count = (xs.map key).count k ∧ a = label x := by
  rw [Std.TreeMap.mem_toList_iff_getElem?_eq_some, getElem?_tally, Option.map_eq_some_iff]
  simp only [Prod.mk.injEq, eq_comm]

omit [DecidableEq κ] in
/-- Every key has one entry. -/
theorem nodup_keys_tally (xs : List ι) :
    ((tally key label xs).toList.map Prod.fst).Nodup := by
  rw [List.Nodup, List.pairwise_map]
  refine Std.TreeMap.distinct_keys_toList.imp fun hdistinct heq => ?_
  exact hdistinct (Std.compare_eq_iff_eq.mpr heq)

/-- The keys of the entries are those of the items. -/
theorem mem_keys_tally {xs : List ι} {k : κ} :
    k ∈ (tally key label xs).toList.map Prod.fst ↔ k ∈ xs.map key := by
  rw [List.mem_map, List.mem_map]
  constructor
  · intro hentry
    rcases hentry with ⟨⟨found, count, a⟩, hmem, rfl⟩
    rcases (mem_toList_tally key label).mp hmem with ⟨x, hfind, -, -⟩
    exact ⟨x, List.mem_of_find?_eq_some hfind, by simpa using List.find?_some hfind⟩
  · intro hitem
    rcases hitem with ⟨x, hx, rfl⟩
    have hsome : (xs.find? fun y => key y = key x).isSome := by
      rw [List.find?_isSome]
      exact ⟨x, hx, by simp⟩
    rcases Option.isSome_iff_exists.mp hsome with ⟨first, hfirst⟩
    exact ⟨(key x, _, label first), (mem_toList_tally key label).mpr ⟨first, hfirst, rfl, rfl⟩, rfl⟩

/-- The counts add up to the number of items. -/
theorem sum_counts_toList (xs : List ι) :
    ((tally key label xs).toList.map fun entry => entry.2.1).sum = xs.length := by
  have hcounts : ((tally key label xs).toList.map fun entry => entry.2.1) =
      ((tally key label xs).toList.map Prod.fst).map fun k => (xs.map key).count k := by
    rw [List.map_map]
    refine List.map_congr_left fun entry hmem => ?_
    rcases (mem_toList_tally key label).mp hmem with ⟨x, -, hcount, -⟩
    exact hcount
  have hkeys : ((tally key label xs).toList.map Prod.fst).Perm (xs.map key).dedup :=
    (List.perm_ext_iff_of_nodup (nodup_keys_tally key label xs) (List.nodup_dedup _)).mpr
      fun k => (mem_keys_tally key label).trans List.mem_dedup.symm
  rw [hcounts, (hkeys.map _).sum_nat, List.sum_map_count_dedup_eq_length, List.length_map]

end Counting

/-! ## Stable sorting -/

section Sorting

variable {α : Type*} {le : α → α → Bool} {r : α → α → Prop}

/-- Positions of a list increase along it. -/
theorem pairwise_zipIdx (xs : List α) : xs.zipIdx.Pairwise fun a b => a.2 < b.2 := by
  rw [← List.pairwise_map (f := Prod.snd), List.zipIdx_map_snd]
  exact List.pairwise_lt_range'

/-- Elements at increasing positions are related as the list relates them. -/
theorem rel_of_zipIdx {xs : List α} (hxs : xs.Pairwise r) {a b : α × Nat} (ha : a ∈ xs.zipIdx)
    (hb : b ∈ xs.zipIdx) (hlt : a.2 < b.2) : r a.1 b.1 := by
  rw [List.mem_zipIdx_iff_getElem?] at ha hb
  rcases List.getElem?_eq_some_iff.mp ha with ⟨ha', hgetA⟩
  rcases List.getElem?_eq_some_iff.mp hb with ⟨hb', hgetB⟩
  rw [← hgetA, ← hgetB]
  exact List.pairwise_iff_getElem.mp hxs a.2 b.2 ha' hb' hlt

/-- A stable sort keeps the order of the entries that it does not tell apart. -/
theorem pairwise_mergeSort_of_pairwise (htrans : ∀ a b c, le a b → le b c → le a c)
    (htotal : ∀ a b, le a b || le b a) {xs : List α} (hxs : xs.Pairwise r) :
    (xs.mergeSort le).Pairwise fun a b => le a b ∧ (le b a → r a b) := by
  -- Sorted together with their positions, no two entries are tied.
  have hperm := List.mergeSort_perm xs.zipIdx (List.zipIdxLE le)
  have hsorted := List.pairwise_mergeSort (List.zipIdxLE_trans htrans)
    (List.zipIdxLE_total htotal) xs.zipIdx
  have hdistinct : (xs.zipIdx.mergeSort (List.zipIdxLE le)).Pairwise fun a b => a.2 ≠ b.2 :=
    (hperm.pairwise_iff fun hne => hne.symm).mpr ((pairwise_zipIdx xs).imp Nat.ne_of_lt)
  rw [← List.mergeSort_zipIdx, List.pairwise_map]
  refine (hsorted.and hdistinct).imp_of_mem fun {a b} ha hb hab => ?_
  rcases hab with ⟨hle, hne⟩
  unfold List.zipIdxLE at hle
  by_cases hab : le a.1 b.1
  · refine ⟨hab, fun hba => ?_⟩
    rw [if_pos hab, if_pos hba, decide_eq_true_eq] at hle
    exact rel_of_zipIdx hxs (hperm.mem_iff.mp ha) (hperm.mem_iff.mp hb)
      (Nat.lt_of_le_of_ne hle hne)
  · rw [if_neg hab] at hle
    cases hle

end Sorting

end Tally
