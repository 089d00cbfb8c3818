import Mathlib.Data.List.Forall2
import Mathlib.Data.List.Nodup
import Mathlib.Data.List.Sort
import Mathlib.Logic.Function.Basic

/-!
# Last write wins

A batch of records is stored under a key that each record carries, and a later
record of a key replaces an earlier one.  The abstract store is a partial
function from keys; an ordered map that collects the batch first, and is written
afterwards, is compared with it.

Main results:

- Theorem {lit}`putAll_apply`: after a batch, a key holds its last record, or what
  it held before.
- Theorem {lit}`mem_deduplicate`: the ordered map keeps exactly the last record of
  each key.
- Theorem {lit}`putAll_deduplicate`: writing the deduplicated batch has the effect of
  writing the whole batch.
- Theorem {lit}`lastOf_eq_some_iff_of_pairwise`: when ranks increase along the records
  of a key, its last record is the one of greatest rank.
-/

namespace LastWrite

variable {κ α : Type*} [DecidableEq κ] (key : α → κ)

/-! ## The last record of a key -/

/-- The last record of a key in a batch. -/
def lastOf (k : κ) (xs : List α) : Option α :=
  xs.reverse.find? fun x => key x = k

/-- The first record of a key in a batch. -/
def firstOf (k : κ) (xs : List α) : Option α :=
  xs.find? fun x => key x = k

/-- The first item of a key is the last one of the reversed list. -/
theorem firstOf_eq_lastOf_reverse (k : κ) (xs : List α) :
    firstOf key k xs = lastOf key k xs.reverse := by
  rw [firstOf, lastOf, List.reverse_reverse]

/-- An empty list has no item of any key. -/
@[simp]
theorem lastOf_nil (k : κ) : lastOf key k [] = none :=
  rfl

/-- The last item of a key is looked for in the later list first. -/
theorem lastOf_append (k : κ) (xs ys : List α) :
    lastOf key k (xs ++ ys) = (lastOf key k ys).or (lastOf key k xs) := by
  simp only [lastOf, List.reverse_append, List.find?_append]

/-- The first item of a list is the last of its key only if no other follows. -/
theorem lastOf_cons (k : κ) (x : α) (xs : List α) :
    lastOf key k (x :: xs) = (lastOf key k xs).or (if key x = k then some x else none) := by
  rw [← List.singleton_append, lastOf_append]
  congr 1
  simp [lastOf, List.find?_singleton]

/-- Records with a transformed content, under the same keys. -/
theorem lastOf_map {β : Type*} (f : β → α) (k : κ) (ys : List β) :
    lastOf key k (ys.map f) = (lastOf (fun y => key (f y)) k ys).map f := by
  rw [lastOf, ← List.map_reverse, List.find?_map]
  rfl

variable {key}

/-- Batches that are related record by record have related last records. -/
theorem rel_lastOf {β : Type*} {key' : β → κ} {r : α → β → Prop}
    (hkey : ∀ a b, r a b → key a = key' b) (k : κ) {xs : List α} {ys : List β}
    (hrel : List.Forall₂ r xs ys) : Option.Rel r (lastOf key k xs) (lastOf key' k ys) := by
  induction hrel with
  | nil => exact .none
  | @cons x y xs ys hxy hrest ih =>
      rw [lastOf_cons, lastOf_cons, hkey x y hxy]
      generalize lastOf key k xs = last, lastOf key' k ys = last' at ih ⊢
      cases ih with
      | some hlast => exact .some hlast
      | none =>
          rw [Option.none_or, Option.none_or]
          split
          · exact .some hxy
          · exact .none

/-- Every record of the second batch is related to one of the first. -/
theorem exists_mem_of_mem_right {β : Type*} {r : α → β → Prop} {xs : List α} {ys : List β}
    (hrel : List.Forall₂ r xs ys) {y : β} (hy : y ∈ ys) : ∃ x ∈ xs, r x y := by
  induction hrel with
  | nil => cases hy
  | @cons x z xs ys hxz hrest ih =>
      rcases List.mem_cons.mp hy with rfl | hy
      · exact ⟨x, List.mem_cons_self, hxz⟩
      · rcases ih hy with ⟨found, hfound, hrelated⟩
        exact ⟨found, List.mem_cons_of_mem x hfound, hrelated⟩

/-- Every record of the first batch is related to one of the second. -/
theorem exists_mem_of_mem_left {β : Type*} {r : α → β → Prop} {xs : List α} {ys : List β}
    (hrel : List.Forall₂ r xs ys) {x : α} (hx : x ∈ xs) : ∃ y ∈ ys, r x y := by
  have hflip : List.Forall₂ (flip r) ys xs := hrel.flip
  exact exists_mem_of_mem_right hflip hx

/-- A key has no last item exactly when no item has the key. -/
theorem lastOf_eq_none_iff {k : κ} {xs : List α} :
    lastOf key k xs = none ↔ ∀ x ∈ xs, key x ≠ k := by
  simp [lastOf]

/-- The last record of a key has no record of that key after it. -/
theorem lastOf_eq_some_iff {k : κ} {xs : List α} {x : α} :
    lastOf key k xs = some x ↔
      key x = k ∧ ∃ before after, xs = before ++ x :: after ∧ ∀ y ∈ after, key y ≠ k := by
  rw [lastOf, List.find?_eq_some_iff_append]
  simp only [decide_eq_true_eq, Bool.not_eq_eq_eq_not, Bool.not_true, decide_eq_false_iff_not]
  refine and_congr_right fun _ => ?_
  constructor
  · intro hsplit
    rcases hsplit with ⟨front, back, hreverse, hfront⟩
    refine ⟨back.reverse, front.reverse, ?_, fun y hy => hfront y (List.mem_reverse.mp hy)⟩
    rw [← List.reverse_reverse xs, hreverse]
    simp
  · intro hsplit
    rcases hsplit with ⟨before, after, rfl, hafter⟩
    exact ⟨after.reverse, before.reverse, by simp,
      fun y hy => hafter y (List.mem_reverse.mp hy)⟩

variable (key) in
/-- A record at the end of a batch is the last one of its key. -/
theorem lastOf_concat (xs : List α) (x : α) : lastOf key (key x) (xs ++ [x]) = some x :=
  lastOf_eq_some_iff.mpr ⟨rfl, xs, [], rfl, fun _ hmem => absurd hmem List.not_mem_nil⟩

/-- The last item of a key has the key. -/
theorem key_of_lastOf {k : κ} {xs : List α} {x : α} (hlast : lastOf key k xs = some x) :
    key x = k :=
  (lastOf_eq_some_iff.mp hlast).1

/-- The last item of a key is in the list. -/
theorem mem_of_lastOf {k : κ} {xs : List α} {x : α} (hlast : lastOf key k xs = some x) :
    x ∈ xs := by
  rcases lastOf_eq_some_iff.mp hlast with ⟨-, before, after, rfl, -⟩
  exact List.mem_append_right before List.mem_cons_self

variable (key) in
/-- Every record of a batch has a last record of its key. -/
theorem exists_lastOf_of_mem {xs : List α} {x : α} (hmem : x ∈ xs) :
    ∃ y, lastOf key (key x) xs = some y := by
  cases hlast : lastOf key (key x) xs with
  | none => exact absurd rfl (lastOf_eq_none_iff.mp hlast x hmem)
  | some y => exact ⟨y, rfl⟩

/-- In a batch that names no key twice, every record is the last of its key. -/
theorem lastOf_of_nodup {xs : List α} (hnodup : (xs.map key).Nodup) {x : α} (hmem : x ∈ xs) :
    lastOf key (key x) xs = some x := by
  rcases exists_lastOf_of_mem key hmem with ⟨y, hlast⟩
  rw [hlast, List.inj_on_of_nodup_map hnodup (mem_of_lastOf hlast) hmem (key_of_lastOf hlast)]

section Ranks

variable {ρ : Type*} [LinearOrder ρ] {rank : α → ρ} {k : κ} {xs : List α} {x : α}

/-- When ranks increase along the records of a key, its last record is the one of
greatest rank. -/
theorem lastOf_eq_some_iff_of_pairwise
    (hsorted : xs.Pairwise fun a b => key a = k → key b = k → rank a < rank b) :
    lastOf key k xs = some x ↔
      x ∈ xs ∧ key x = k ∧ ∀ y ∈ xs, key y = k → rank y ≤ rank x := by
  constructor
  · intro hlast
    have hkey : key x = k := key_of_lastOf hlast
    refine ⟨mem_of_lastOf hlast, hkey, ?_⟩
    rcases lastOf_eq_some_iff.mp hlast with ⟨-, before, after, rfl, hafter⟩
    have hbefore := (List.pairwise_append.mp hsorted).2.2
    intro y hy hykey
    rcases List.mem_append.mp hy with hy | hy
    · exact (hbefore y hy x List.mem_cons_self hykey hkey).le
    · rcases List.mem_cons.mp hy with rfl | hy
      · exact le_rfl
      · exact absurd hykey (hafter y hy)
  · intro hgreatest
    rcases hgreatest with ⟨hmem, rfl, hgreatest⟩
    rcases exists_lastOf_of_mem key hmem with ⟨y, hlast⟩
    rw [hlast]
    rcases lastOf_eq_some_iff.mp hlast with ⟨hkey, before, after, rfl, hafter⟩
    have hle := hgreatest y (mem_of_lastOf hlast) hkey
    rcases List.mem_append.mp hmem with hx | hx
    · have hlt := (List.pairwise_append.mp hsorted).2.2 x hx y List.mem_cons_self rfl hkey
      exact absurd hle (not_le.mpr hlt)
    · rcases List.mem_cons.mp hx with rfl | hx
      · rfl
      · exact absurd rfl (hafter x hx)

/-- When ranks increase along the records of a key, its first record is the one of
least rank. -/
theorem firstOf_eq_some_iff_of_pairwise
    (hsorted : xs.Pairwise fun a b => key a = k → key b = k → rank a < rank b) :
    firstOf key k xs = some x ↔
      x ∈ xs ∧ key x = k ∧ ∀ y ∈ xs, key y = k → rank x ≤ rank y := by
  have hreverse : xs.reverse.Pairwise fun a b =>
      key a = k → key b = k → OrderDual.toDual (rank a) < OrderDual.toDual (rank b) := by
    rw [List.pairwise_reverse]
    refine hsorted.imp fun hlt hb ha => ?_
    exact OrderDual.toDual_lt_toDual.mpr (hlt ha hb)
  rw [firstOf_eq_lastOf_reverse, lastOf_eq_some_iff_of_pairwise hreverse]
  simp only [List.mem_reverse, OrderDual.toDual_le_toDual]

end Ranks

variable (key)

/-! ## The abstract store -/

/-- Store one record under its key. -/
def put (store : κ → Option α) (x : α) : κ → Option α :=
  Function.update store (key x) (some x)

/-- Store a batch in order. -/
def putAll (store : κ → Option α) (xs : List α) : κ → Option α :=
  xs.foldl (put key) store

/-- Writing two lists is writing one after the other. -/
theorem putAll_append (store : κ → Option α) (xs ys : List α) :
    putAll key store (xs ++ ys) = putAll key (putAll key store xs) ys :=
  List.foldl_append

/-- A key holds its last record, or what it held before. -/
theorem putAll_apply (store : κ → Option α) (xs : List α) (k : κ) :
    putAll key store xs k = (lastOf key k xs).or (store k) := by
  induction xs generalizing store with
  | nil => rfl
  | cons x xs ih =>
      have hstep : putAll key store (x :: xs) k = putAll key (put key store x) xs k := rfl
      rw [hstep, ih, lastOf_cons, Option.or_assoc]
      congr 1
      by_cases hkey : key x = k
      · simp [put, hkey]
      · simp [put, hkey, Function.update_of_ne (Ne.symm hkey)]

/-! ## Collecting into an ordered map -/

variable [Ord κ] [Std.TransOrd κ] [Std.LawfulEqOrd κ]

/-- Collect a batch into an ordered map. -/
def collect (xs : List α) : Std.TreeMap κ α :=
  xs.foldl (fun map x => map.insert (key x) x) ∅

/-- Records of the ordered map, in the order of their keys. -/
def deduplicate (xs : List α) : List α :=
  (collect key xs).toList.map Prod.snd

/-- The ordered map holds the last record of each key. -/
theorem getElem?_collect (xs : List α) (k : κ) : (collect key xs)[k]? = lastOf key k xs := by
  have hfold : ∀ map : Std.TreeMap κ α,
      (xs.foldl (fun map x => map.insert (key x) x) map)[k]? = (lastOf key k xs).or map[k]? := by
    induction xs with
    | nil => intro map; rfl
    | cons x xs ih =>
        intro map
        rw [List.foldl_cons, ih, lastOf_cons, Option.or_assoc, Std.TreeMap.getElem?_insert]
        congr 1
        by_cases hkey : key x = k
        · simp [hkey]
        · simp [hkey]
  rw [collect, hfold, Std.TreeMap.getElem?_emptyc, Option.or_none]

/-- A collected map holds the last item of each key. -/
theorem mem_toList_collect {xs : List α} {k : κ} {x : α} :
    (k, x) ∈ (collect key xs).toList ↔ lastOf key k xs = some x := by
  rw [Std.TreeMap.mem_toList_iff_getElem?_eq_some, getElem?_collect]

variable {key}

/-- The deduplicated batch holds exactly the last record of each key. -/
theorem mem_deduplicate {xs : List α} {x : α} :
    x ∈ deduplicate key xs ↔ lastOf key (key x) xs = some x := by
  rw [deduplicate, List.mem_map]
  constructor
  · intro hentry
    rcases hentry with ⟨⟨k, y⟩, hmem, rfl⟩
    have hlast := (mem_toList_collect key).mp hmem
    rw [key_of_lastOf hlast]
    exact hlast
  · intro hlast
    exact ⟨(key x, x), (mem_toList_collect key).mpr hlast, rfl⟩

/-- A deduplicated list holds items of the list only. -/
theorem mem_of_mem_deduplicate {xs : List α} {x : α} (hmem : x ∈ deduplicate key xs) : x ∈ xs :=
  mem_of_lastOf (mem_deduplicate.mp hmem)

variable (key)

/-- The keys of the deduplicated batch are those of the ordered map. -/
theorem map_key_deduplicate (xs : List α) :
    (deduplicate key xs).map key = (collect key xs).toList.map Prod.fst := by
  rw [deduplicate, List.map_map]
  refine List.map_congr_left fun entry hmem => ?_
  have hkey : key entry.2 = entry.1 := key_of_lastOf ((mem_toList_collect key).mp hmem)
  exact hkey

/-- The deduplicated batch names no key twice. -/
theorem nodup_deduplicate (xs : List α) : ((deduplicate key xs).map key).Nodup := by
  rw [map_key_deduplicate, List.Nodup, List.pairwise_map]
  refine Std.TreeMap.distinct_keys_toList.imp fun hdistinct heq => ?_
  exact hdistinct (Std.LawfulEqCmp.compare_eq_iff_eq.mpr heq)

/-- Deduplication keeps the last item of every key. -/
theorem lastOf_deduplicate (xs : List α) (k : κ) :
    lastOf key k (deduplicate key xs) = lastOf key k xs := by
  cases hlast : lastOf key k xs with
  | none =>
      rw [lastOf_eq_none_iff] at hlast ⊢
      exact fun x hmem => hlast x (mem_of_mem_deduplicate hmem)
  | some x =>
      have hkey : key x = k := key_of_lastOf hlast
      rw [← hkey] at hlast ⊢
      exact lastOf_of_nodup (nodup_deduplicate key xs) (mem_deduplicate.mpr hlast)

/-- Writing the deduplicated batch, as records that keep their keys, has the effect of
writing the whole batch. -/
theorem putAll_deduplicate {β : Type*} (key' : β → κ) {f : α → β}
    (hkey : ∀ x, key' (f x) = key x) (store : κ → Option β) (xs : List α) :
    putAll key' store ((deduplicate key xs).map f) = putAll key' store (xs.map f) := by
  have hrecords : ∀ k ys, lastOf key' k (ys.map f) = (lastOf key k ys).map f := by
    intro k ys
    rw [lastOf_map, funext hkey]
  funext k
  rw [putAll_apply, putAll_apply, hrecords, hrecords, lastOf_deduplicate]

end LastWrite
