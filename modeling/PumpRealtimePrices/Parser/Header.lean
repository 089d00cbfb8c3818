import PumpRealtimePrices.Library.Rust
import PumpRealtimePrices.Parser.Transaction

/-!
# Transaction headers in terms of JSON

What the structural stage reads, stated about the JSON value itself: which
values it accepts, and where each part of a header comes from.  The group map is
built from untrusted indexes, so its lookups are related to the listed groups in
whatever order they come.

Main results:

- Theorem {lit}`readTransaction_eq_ok_some_iff`: what an accepted transaction
  looks like.
- Theorem {lit}`getElem?_insertInnerInstructionGroups`: the group found under an
  outer index is the listed one that carries it.
- Theorem {lit}`innerGroup_of_read`: the same in a whole transaction.
-/

namespace PumpRealtimePrices
namespace Parser

open SerdeJson

/-! ## Inner instruction groups -/

/-- Outer index that a listed group carries. -/
def groupIndex (group : Value) : Option Nat :=
  ((group.get "index").bind Value.asU64).map UInt64.toNat

/-- Instructions of a listed group. -/
def groupInstructions (group : Value) : Option (List Value) :=
  (group.get "instructions").bind Value.asArray

/-- A group is read exactly when it has an index of an outer instruction and a list of
instructions. -/
theorem readInnerInstructionGroup_eq_ok_iff {count index : Nat} {group : Value}
    {instructions : List Value} :
    readInnerInstructionGroup count group = .ok (index, instructions) ↔
      groupIndex group = some index ∧ index < count ∧
        groupInstructions group = some instructions := by
  unfold readInnerInstructionGroup groupIndex groupInstructions Value.get
  simp only [Rust.except_bind_eq_ok_iff, Rust.okOr_eq_ok_iff, Rust.throw_if_eq_ok_iff, pure,
    Except.pure]
  constructor
  · rintro ⟨fields, hfields, index', hindex, hbound, instructions', hinstructions, heq⟩
    rcases Prod.mk.inj (Except.ok.inj heq) with ⟨rfl, rfl⟩
    simp only [hfields, Option.bind_some, hindex, Option.map_some, hinstructions, true_and,
      and_true]
    omega
  · rintro ⟨hindex, hbound, hinstructions⟩
    rcases Option.map_eq_some_iff.mp hindex with ⟨index', hindex', rfl⟩
    rcases Option.bind_eq_some_iff.mp hindex' with ⟨value, hvalue, hvalue'⟩
    rcases Option.bind_eq_some_iff.mp hvalue with ⟨fields, hfields, hget⟩
    rw [hfields] at hinstructions
    refine ⟨fields, hfields, index', ?_, by omega, instructions, hinstructions, rfl⟩
    rw [hget, Option.bind_some, hvalue']

/-- The group map after inserting the listed groups: every listed group is found
under its own index, and other indexes keep what they had. -/
theorem getElem?_insertInnerInstructionGroups {count : Nat}
    {resolved result : Std.TreeMap Nat (List Value)} {groups : List Value}
    (hinsert : insertInnerInstructionGroups count resolved groups = .ok result) :
    (groups.map groupIndex).Nodup ∧
      (∀ group ∈ groups, ∃ index instructions, groupIndex group = some index ∧ index < count ∧
        groupInstructions group = some instructions ∧ resolved[index]? = none ∧
        result[index]? = some instructions) ∧
      ∀ index, (∀ group ∈ groups, groupIndex group ≠ some index) →
        result[index]? = resolved[index]? := by
  induction groups generalizing resolved with
  | nil =>
      rcases Except.ok.inj hinsert with rfl
      simp
  | cons group groups ih =>
      rw [insertInnerInstructionGroups, Rust.except_bind_eq_ok_iff] at hinsert
      rcases hinsert with ⟨⟨index, instructions⟩, hgroup, hrest⟩
      rcases readInnerInstructionGroup_eq_ok_iff.mp hgroup with ⟨hindex, hbound, hinstructions⟩
      simp only [Rust.throw_if_eq_ok_iff] at hrest
      rcases hrest with ⟨hfresh, hrest⟩
      rcases ih hrest with ⟨hnodup, hlisted, hother⟩
      have hnone : resolved[index]? = none := Std.TreeMap.getElem?_eq_none (by simpa using hfresh)
      have hhead : ∀ other ∈ groups, groupIndex other ≠ some index := by
        intro other hmem heq
        rcases hlisted other hmem with ⟨index', _, hindex', -, -, hnone', -⟩
        rcases Option.some.inj (heq.symm.trans hindex') with rfl
        simp at hnone'
      refine ⟨?_, ?_, ?_⟩
      · refine List.nodup_cons.mpr ⟨?_, hnodup⟩
        intro hmem
        rcases List.mem_map.mp hmem with ⟨other, hother, heq⟩
        exact hhead other hother (heq.trans hindex)
      · intro other hmem
        rcases List.mem_cons.mp hmem with rfl | hmem
        · refine ⟨index, instructions, hindex, hbound, hinstructions, hnone, ?_⟩
          rw [hother index hhead, Std.TreeMap.getElem?_insert_self]
        · rcases hlisted other hmem with
            ⟨index', instructions', hindex', hbound', hinstructions', hnone', hfound⟩
          refine ⟨index', instructions', hindex', hbound', hinstructions', ?_, hfound⟩
          rw [Std.TreeMap.getElem?_insert] at hnone'
          split at hnone'
          · cases hnone'
          · exact hnone'
      · intro other hall
        have hne : index ≠ other := by
          rintro rfl
          exact hall group List.mem_cons_self hindex
        rw [hother other fun g hmem => hall g (List.mem_cons_of_mem group hmem),
          Std.TreeMap.getElem?_insert, if_neg (by simpa using hne)]

/-! ## Whole transactions -/

/-- Elements of {lit}`message.instructions`. -/
def messageInstructions (entry : Value) : List Value :=
  ((entry.pointer ["transaction", "message", "instructions"]).bind Value.asArray).getD []

/-- Elements of {lit}`meta.innerInstructions`, in listed order. -/
def innerInstructionGroups (entry : Value) : List Value :=
  ((entry.pointer ["meta", "innerInstructions"]).bind Value.asArray).getD []

/-- Instructions of the listed group with this outer index, if there is one. -/
def listedGroup (entry : Value) (outerInstructionIndex : Nat) : List Value :=
  (((innerInstructionGroups entry).find? fun group =>
    groupIndex group = some outerInstructionIndex).bind groupInstructions).getD []

/-- Only {lit}`null` is null. -/
theorem isNull_iff {value : Value} : value.isNull = true ↔ value = .null := by
  cases value <;> simp [Value.isNull]

/-- A transaction is accepted, and not skipped as failed, exactly when all parts
of its header can be read and its error is null. -/
theorem readTransaction_eq_ok_some_iff {entry : Value} {header : TransactionHeader} :
    readTransaction entry = .ok (some header) ↔
      ∃ metadata transaction message,
        (entry.get "meta").bind Value.asObject = some metadata ∧
        metadata.get "err" = some .null ∧
        (entry.get "transaction").bind Value.asObject = some transaction ∧
        ((((transaction.get "signatures").bind Value.asArray).bind List.head?).bind Value.asStr) =
          some header.signature ∧
        (transaction.get "message").bind Value.asObject = some message ∧
        (message.get "instructions").bind Value.asArray = some header.outerInstructions ∧
        resolveAccountKeys message metadata = .ok header.accountKeys ∧
        resolveInnerInstructionGroups metadata header.outerInstructions.length =
          .ok header.innerInstructionGroups ∧
        resolveTokenDecimals metadata = header.tokenDecimals := by
  unfold readTransaction
  simp only [Rust.except_bind_eq_ok_iff, Rust.okOr_eq_ok_iff, pure, Except.pure]
  constructor
  · rintro ⟨metadata, hmetadata, error, herror, hrest⟩
    split at hrest
    · cases hrest
    · next hnull =>
        rcases isNull_iff.mp (not_not.mp hnull) with rfl
        simp only [Rust.except_bind_eq_ok_iff, Rust.okOr_eq_ok_iff, Except.ok.injEq,
          Option.some.injEq] at hrest
        rcases hrest with
          ⟨transaction, htransaction, signature, hsignature, message, hmessage, outer, houter,
            keys, hkeys, groups, hgroups, rfl⟩
        exact ⟨metadata, transaction, message, hmetadata, herror, htransaction, hsignature,
          hmessage, houter, hkeys, hgroups, rfl⟩
  · rintro ⟨metadata, transaction, message, hmetadata, herror, htransaction, hsignature, hmessage,
      houter, hkeys, hgroups, hdecimals⟩
    refine ⟨metadata, hmetadata, .null, herror, ?_⟩
    simp only [Value.isNull, not_true_eq_false, if_false, Rust.except_bind_eq_ok_iff,
      Rust.okOr_eq_ok_iff]
    exact ⟨transaction, htransaction, header.signature, hsignature, message, hmessage,
      header.outerInstructions, houter, header.accountKeys, hkeys, header.innerInstructionGroups,
      hgroups, by rw [hdecimals]⟩

/-- The error of a transaction is a field of its metadata. -/
theorem pointer_err {entry : Value} {metadata : Map}
    (hmetadata : (entry.get "meta").bind Value.asObject = some metadata) :
    entry.pointer ["meta", "err"] = metadata.get "err" := by
  rcases Option.bind_eq_some_iff.mp hmetadata with ⟨value, hvalue, hfields⟩
  simp only [Value.pointer, hvalue, Option.bind_some, Value.get_of_asObject hfields,
    Option.bind_fun_some]

/-- A readable transaction is skipped exactly when its error is not null. -/
theorem isSome_of_readTransaction {entry : Value} {header : Option TransactionHeader}
    (hread : readTransaction entry = .ok header) :
    header.isSome ↔ entry.pointer ["meta", "err"] = some .null := by
  cases header with
  | some header =>
      rcases readTransaction_eq_ok_some_iff.mp hread with ⟨metadata, -, -, hmetadata, herror, -⟩
      rw [pointer_err hmetadata, herror]
      simp
  | none =>
      unfold readTransaction at hread
      simp only [Rust.except_bind_eq_ok_iff, Rust.okOr_eq_ok_iff, pure, Except.pure] at hread
      rcases hread with ⟨metadata, hmetadata, error, herror, hrest⟩
      rw [pointer_err hmetadata, herror]
      split at hrest
      · next hnull =>
          rw [isNull_iff] at hnull
          simpa using hnull
      · simp only [Rust.except_bind_eq_ok_iff, Except.ok.injEq, reduceCtorEq, and_false,
          exists_false] at hrest

section Accepted

variable {entry : Value} {header : TransactionHeader}

/-- The outer instructions of a header are those of the message. -/
theorem messageInstructions_of_read (hread : readTransaction entry = .ok (some header)) :
    messageInstructions entry = header.outerInstructions := by
  rcases readTransaction_eq_ok_some_iff.mp hread with
    ⟨metadata, transaction, message, -, -, htransaction, -, hmessage, houter, -⟩
  rcases Option.bind_eq_some_iff.mp htransaction with ⟨value, hvalue, hfields⟩
  rcases Option.bind_eq_some_iff.mp hmessage with ⟨value', hvalue', hfields'⟩
  simp only [messageInstructions, Value.pointer, hvalue, Option.bind_some,
    Value.get_of_asObject hfields, hvalue', Value.get_of_asObject hfields', Option.bind_fun_some,
    houter, Option.getD_some]

/-- Every listed group of an accepted transaction belongs to an outer instruction
of its own, and is the group found for it; other outer instructions have none. -/
theorem innerGroup_of_read (hread : readTransaction entry = .ok (some header)) :
    ((innerInstructionGroups entry).map groupIndex).Nodup ∧
      (∀ group ∈ innerInstructionGroups entry, ∃ index instructions,
        groupIndex group = some index ∧ index < header.outerInstructions.length ∧
        groupInstructions group = some instructions ∧
        header.innerInstructionGroups[index]? = some instructions) ∧
      ∀ index, (∀ group ∈ innerInstructionGroups entry, groupIndex group ≠ some index) →
        header.innerInstructionGroups[index]? = none := by
  rcases readTransaction_eq_ok_some_iff.mp hread with
    ⟨metadata, -, -, hmetadata, -, -, -, -, -, -, hgroups, -⟩
  rcases Option.bind_eq_some_iff.mp hmetadata with ⟨value, hvalue, hfields⟩
  have hlisted : innerInstructionGroups entry =
      ((metadata.get "innerInstructions").bind Value.asArray).getD [] := by
    simp only [innerInstructionGroups, Value.pointer, hvalue, Option.bind_some,
      Value.get_of_asObject hfields, Option.bind_fun_some]
  rw [hlisted]
  unfold resolveInnerInstructionGroups at hgroups
  split at hgroups
  · next hnone =>
      simp [hnone, ← Except.ok.inj hgroups]
  · next hnull =>
      simp [hnull, Value.asArray, ← Except.ok.inj hgroups]
  · next found _ hfound =>
      rw [Rust.except_bind_eq_ok_iff] at hgroups
      rcases hgroups with ⟨groups, harray, hinsert⟩
      rw [Rust.okOr_eq_ok_iff] at harray
      rcases getElem?_insertInnerInstructionGroups hinsert with ⟨hnodup, hmem, hother⟩
      simp only [hfound, Option.bind_some, harray, Option.getD_some]
      refine ⟨hnodup, ?_, ?_⟩
      · intro group hgroup
        rcases hmem group hgroup with ⟨index, instructions, hindex, hbound, hinstructions, -, hget⟩
        exact ⟨index, instructions, hindex, hbound, hinstructions, hget⟩
      · intro index hall
        rw [hother index hall]
        simp

/-- The inner instructions of a header are those listed for the outer instruction. -/
theorem listedGroup_of_read (hread : readTransaction entry = .ok (some header)) (index : Nat) :
    listedGroup entry index = header.innerInstructionGroups[index]?.getD [] := by
  rcases innerGroup_of_read hread with ⟨-, hlisted, hother⟩
  unfold listedGroup
  cases hfind : (innerInstructionGroups entry).find? fun group =>
      groupIndex group = some index with
  | none =>
      rw [hother index fun group hmem => by simpa using List.find?_eq_none.mp hfind group hmem]
      rfl
  | some group =>
      rcases hlisted group (List.mem_of_find?_eq_some hfind) with
        ⟨index', instructions, hindex, -, hinstructions, hget⟩
      have hfound : groupIndex group = some index := by simpa using List.find?_some hfind
      rcases Option.some.inj (hfound.symm.trans hindex) with rfl
      rw [Option.bind_some, hinstructions, hget]

/-- A listed group is the group of the outer instruction that it names. -/
theorem getElem?_innerInstructionGroups (hread : readTransaction entry = .ok (some header))
    {listed index : Nat} {group : Value}
    (hlisted : (innerInstructionGroups entry)[listed]? = some group)
    (hindex : groupIndex group = some index) :
    header.innerInstructionGroups[index]? = groupInstructions group := by
  rcases innerGroup_of_read hread with ⟨-, hgroups, -⟩
  rcases hgroups group (List.mem_of_getElem? hlisted) with
    ⟨index', instructions, hindex', -, hinstructions, hget⟩
  rcases Option.some.inj (hindex.symm.trans hindex') with rfl
  rw [hget, hinstructions]

/-- The account keys come from two places of the JSON value. -/
theorem accountKeys_congr {entry' : Value} {header' : TransactionHeader}
    (hread : readTransaction entry = .ok (some header))
    (hread' : readTransaction entry' = .ok (some header'))
    (hstatic : entry'.pointer ["transaction", "message", "accountKeys"] =
      entry.pointer ["transaction", "message", "accountKeys"])
    (hloaded : entry'.pointer ["meta", "loadedAddresses"] =
      entry.pointer ["meta", "loadedAddresses"]) :
    header'.accountKeys = header.accountKeys := by
  have hkeys : ∀ {entry : Value} {header : TransactionHeader},
      readTransaction entry = .ok (some header) → ∃ message metadata : Map,
        message.get "accountKeys" = entry.pointer ["transaction", "message", "accountKeys"] ∧
        metadata.get "loadedAddresses" = entry.pointer ["meta", "loadedAddresses"] ∧
        resolveAccountKeys message metadata = .ok header.accountKeys := by
    intro entry header hread
    rcases readTransaction_eq_ok_some_iff.mp hread with
      ⟨metadata, transaction, message, hmetadata, -, htransaction, -, hmessage, -, hkeys, -⟩
    rcases Option.bind_eq_some_iff.mp htransaction with ⟨value, hvalue, hfields⟩
    rcases Option.bind_eq_some_iff.mp hmessage with ⟨value', hvalue', hfields'⟩
    rcases Option.bind_eq_some_iff.mp hmetadata with ⟨value'', hvalue'', hfields''⟩
    refine ⟨message, metadata, ?_, ?_, hkeys⟩
    · simp only [Value.pointer, hvalue, Option.bind_some, Value.get_of_asObject hfields, hvalue',
        Value.get_of_asObject hfields', Option.bind_fun_some]
    · simp only [Value.pointer, hvalue'', Option.bind_some, Value.get_of_asObject hfields'',
        Option.bind_fun_some]
  rcases hkeys hread with ⟨message, metadata, hmessage, hmetadata, hresolve⟩
  rcases hkeys hread' with ⟨message', metadata', hmessage', hmetadata', hresolve'⟩
  have hsame : resolveAccountKeys message' metadata' = resolveAccountKeys message metadata := by
    rw [resolveAccountKeys, resolveAccountKeys, hmessage', hmetadata', hmessage, hmetadata,
      hstatic, hloaded]
  exact Except.ok.inj (hresolve'.symm.trans (hsame.trans hresolve))

end Accepted

/-! ## Changes at one path -/

/-- Replacing an outer instruction changes the message at its place only. -/
theorem messageInstructions_replaceAt (new entry : Value) (index : Nat) :
    messageInstructions (Value.replaceAt new
      [.key "transaction", .key "message", .key "instructions", .index index] entry) =
      (messageInstructions entry).modify index (Value.replaceAt new []) := by
  have hpointer := Value.pointer_replaceAt new entry ["transaction", "message", "instructions"]
    [.index index]
  rw [List.map_cons, List.map_cons, List.map_cons, List.map_nil, List.cons_append,
    List.cons_append, List.cons_append, List.nil_append] at hpointer
  rw [messageInstructions, messageInstructions, hpointer, Value.elements_replaceAt]

/-- Replacing something in a group changes this group only. -/
theorem innerInstructionGroups_replaceAt (new entry : Value) (listed : Nat) (path : List Step) :
    innerInstructionGroups (Value.replaceAt new
      (.key "meta" :: .key "innerInstructions" :: .index listed :: path) entry) =
      (innerInstructionGroups entry).modify listed (Value.replaceAt new path) := by
  have hpointer := Value.pointer_replaceAt new entry ["meta", "innerInstructions"]
    (.index listed :: path)
  rw [List.map_cons, List.map_cons, List.map_nil, List.cons_append, List.cons_append,
    List.nil_append] at hpointer
  rw [innerInstructionGroups, innerInstructionGroups, hpointer, Value.elements_replaceAt]

/-- Replacing something in the metadata keeps the outer instructions. -/
theorem messageInstructions_replaceAt_meta (new entry : Value) (path : List Step) :
    messageInstructions (Value.replaceAt new (.key "meta" :: path) entry) =
      messageInstructions entry :=
  congrArg (fun found : Option Value => (found.bind Value.asArray).getD [])
    (Value.pointer_replaceAt_of_ne new entry [] (by decide) ["message", "instructions"] path)

/-- Replacing something in the transaction keeps the groups. -/
theorem innerInstructionGroups_replaceAt_transaction (new entry : Value) (path : List Step) :
    innerInstructionGroups (Value.replaceAt new (.key "transaction" :: path) entry) =
      innerInstructionGroups entry :=
  congrArg (fun found : Option Value => (found.bind Value.asArray).getD [])
    (Value.pointer_replaceAt_of_ne new entry [] (by decide) ["innerInstructions"] path)

/-- Replacing something in the instructions of a group keeps its index. -/
theorem groupIndex_replaceAt (new group : Value) (path : List Step) :
    groupIndex (Value.replaceAt new (.key "instructions" :: path) group) = groupIndex group := by
  rw [groupIndex, groupIndex, Value.get_replaceAt, if_neg (by decide)]

/-- Replacing an inner instruction changes its group at its place only. -/
theorem groupInstructions_replaceAt (new group : Value) (inner : Nat) :
    groupInstructions (Value.replaceAt new [.key "instructions", .index inner] group) =
      (groupInstructions group).map fun instructions =>
        instructions.modify inner (Value.replaceAt new []) := by
  rw [groupInstructions, groupInstructions, Value.get_replaceAt, if_pos rfl, Option.bind_map,
    Option.map_bind]
  exact congrArg (group.get "instructions").bind
    (funext fun value => Value.asArray_replaceAt new value inner [])

end Parser
end PumpRealtimePrices
