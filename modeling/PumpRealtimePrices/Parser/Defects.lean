import PumpRealtimePrices.Parser.Acceptance

/-!
# What a rejected transaction suffers from

The error of a rejected block names one transaction, and a part of it that is not of the
shape the parser expects.  Such an error is never wrong about the transaction: whichever
checks come before, the named part has the defect that the error describes.

Main results:

- Theorem {lit}`defect_of_readTransaction`: a rejected transaction has the defect that its
  error describes.
- Theorem {lit}`defect_of_parseBlock`: so has the transaction that a rejected block names.
-/

namespace PumpRealtimePrices
namespace Parser

open SerdeJson

/-! ## Defects -/

/-- What an error says about one listed group. -/
inductive GroupDefect (outerInstructionCount : Nat) (group : Value) :
    TransactionParseError → Prop
  | group (hgroup : group.asObject = none) :
      GroupDefect outerInstructionCount group
        (.invalidField "meta.innerInstructions[]" "an object")
  | index (hindex : groupIndex group = none) :
      GroupDefect outerInstructionCount group
        (.invalidField "meta.innerInstructions[].index" "an unsigned integer")
  | outOfBounds (index : Nat) (hindex : groupIndex group = some index)
      (hbound : outerInstructionCount ≤ index) :
      GroupDefect outerInstructionCount group
        (.innerInstructionGroupOutOfBounds index outerInstructionCount)
  | instructions (hinstructions : groupInstructions group = none) :
      GroupDefect outerInstructionCount group
        (.invalidField "meta.innerInstructions[].instructions" "an array")

/-- What an error says about a list of keys, which the error names as a whole and which it
may name otherwise for one of its keys. -/
inductive KeysDefect (value : Option Value) (field keyField : String) :
    TransactionParseError → Prop
  | keys (hkeys : value.bind Value.asArray = none) :
      KeysDefect value field keyField (.invalidField field "an array of strings")
  | key (keys : List Value) (hkeys : value = some (.array keys)) (key : Value)
      (hmem : key ∈ keys) (hkey : key.asStr = none) :
      KeysDefect value field keyField (.invalidField keyField "a string")

/-- What an error says about a transaction. -/
inductive Defect (entry : Value) : TransactionParseError → Prop
  | metadata (hmetadata : (entry.get "meta").bind Value.asObject = none) :
      Defect entry (.invalidField "meta" "an object")
  | error (herror : entry.pointer ["meta", "err"] = none) :
      Defect entry (.invalidField "meta.err" "a value")
  | transaction (htransaction : (entry.get "transaction").bind Value.asObject = none) :
      Defect entry (.invalidField "transaction" "an object")
  | signature (hsignature : ∀ signature signatures,
        entry.pointer ["transaction", "signatures"] ≠
          some (.array (.string signature :: signatures))) :
      Defect entry (.invalidField "transaction.signatures[0]" "a string")
  | message (hmessage : (entry.pointer ["transaction", "message"]).bind Value.asObject = none) :
      Defect entry (.invalidField "transaction.message" "an object")
  | instructions (hinstructions :
        (entry.pointer ["transaction", "message", "instructions"]).bind Value.asArray = none) :
      Defect entry (.invalidField "transaction.message.instructions" "an array")
  | accountKeys (error : TransactionParseError)
      (hkeys : KeysDefect (entry.pointer ["transaction", "message", "accountKeys"])
        "transaction.message.accountKeys" "transaction.message.accountKeys[]" error) :
      Defect entry error
  | loadedAddresses
      (hnothing : ¬ IsNothing (entry.pointer ["meta", "loadedAddresses"]))
      (hloaded : (entry.pointer ["meta", "loadedAddresses"]).bind Value.asObject = none) :
      Defect entry (.invalidField "meta.loadedAddresses" "an object or null")
  | writable (error : TransactionParseError)
      (hkeys : KeysDefect (entry.pointer ["meta", "loadedAddresses", "writable"])
        "meta.loadedAddresses.writable" "meta.loadedAddresses.writable" error) :
      Defect entry error
  | readonly (error : TransactionParseError)
      (hkeys : KeysDefect (entry.pointer ["meta", "loadedAddresses", "readonly"])
        "meta.loadedAddresses.readonly" "meta.loadedAddresses.readonly" error) :
      Defect entry error
  | innerInstructions
      (hnothing : ¬ IsNothing (entry.pointer ["meta", "innerInstructions"]))
      (hgroups : (entry.pointer ["meta", "innerInstructions"]).bind Value.asArray = none) :
      Defect entry (.invalidField "meta.innerInstructions" "an array or null")
  | group (error : TransactionParseError) (group : Value)
      (hmem : group ∈ innerInstructionGroups entry)
      (hgroup : GroupDefect (messageInstructions entry).length group error) :
      Defect entry error
  | duplicateGroup (index : Nat)
      (hcount : 2 ≤ ((innerInstructionGroups entry).map groupIndex).count (some index)) :
      Defect entry (.duplicateInnerInstructionGroup index)

/-! ## Lists of keys -/

/-- The only error of a list of strings is an item that is not a string. -/
theorem appendStringValues_eq_error {output : List String} {values : List Value} {field : String}
    {error : TransactionParseError}
    (happend : appendStringValues output values field = .error error) :
    error = .invalidField field "a string" ∧ ∃ value ∈ values, value.asStr = none := by
  rw [appendStringValues, Rust.except_bind_eq_error_iff] at happend
  rcases happend with hmap | ⟨strings, -, hpure⟩
  · rcases Rust.exists_mem_of_mapM_eq_error hmap with ⟨value, hvalue, hstring⟩
    rcases Rust.okOr_eq_error_iff.mp hstring with ⟨hnone, herror⟩
    exact ⟨herror.symm, value, hvalue, hnone⟩
  · cases hpure

/-- An error of an array of keys is a defect of it. -/
theorem appendRequiredStringArray_eq_error {output : List String} {value : Option Value}
    {field : String} {error : TransactionParseError}
    (happend : appendRequiredStringArray output value field = .error error) :
    KeysDefect value field field error := by
  unfold appendRequiredStringArray at happend
  split at happend
  · rcases Except.error.inj happend with rfl
    exact .keys rfl
  · rcases Except.error.inj happend with rfl
    exact .keys rfl
  · next value _ =>
      rw [Rust.except_bind_eq_error_iff] at happend
      rcases happend with hkeys | ⟨keys, hkeys, happend⟩
      · rcases Rust.okOr_eq_error_iff.mp hkeys with ⟨hnone, rfl⟩
        exact .keys hnone
      · rcases asArray_eq_some_iff.mp (Rust.okOr_eq_ok_iff.mp hkeys) with rfl
        rcases appendStringValues_eq_error happend with ⟨rfl, key, hmem, hkey⟩
        exact .key keys rfl key hmem hkey

/-! ## Listed groups -/

/-- An error of a group is a defect of it. -/
theorem readInnerInstructionGroup_eq_error {count : Nat} {group : Value}
    {error : TransactionParseError} (hread : readInnerInstructionGroup count group = .error error) :
    GroupDefect count group error := by
  unfold readInnerInstructionGroup at hread
  rw [Rust.except_bind_eq_error_iff] at hread
  rcases hread with hobject | ⟨fields, hobject, hread⟩
  · rcases Rust.okOr_eq_error_iff.mp hobject with ⟨hnone, rfl⟩
    exact .group hnone
  have hget : ∀ key, group.get key = fields.get key :=
    Value.get_of_asObject (Rust.okOr_eq_ok_iff.mp hobject)
  rw [Rust.except_bind_eq_error_iff] at hread
  rcases hread with hindex | ⟨index, hindex, hread⟩
  · rcases Rust.okOr_eq_error_iff.mp hindex with ⟨hnone, rfl⟩
    refine .index ?_
    rw [groupIndex, hget, hnone, Option.map_none]
  have hindex : groupIndex group = some index.toNat := by
    rw [groupIndex, hget, Rust.okOr_eq_ok_iff.mp hindex, Option.map_some]
  by_cases hbound : count ≤ index.toNat
  · simp only [if_pos hbound] at hread
    rcases Except.error.inj hread with rfl
    exact .outOfBounds index.toNat hindex hbound
  · simp only [if_neg hbound] at hread
    rw [Rust.except_bind_eq_error_iff] at hread
    rcases hread with hinstructions | ⟨instructions, -, hpure⟩
    · rcases Rust.okOr_eq_error_iff.mp hinstructions with ⟨hnone, rfl⟩
      refine .instructions ?_
      rw [groupInstructions, hget, hnone]
    · cases hpure

/-- Insertion stops at a group with a defect, or at the second group of an index. -/
theorem insertInnerInstructionGroups_eq_error {count : Nat}
    {resolved : Std.TreeMap Nat (List Value)} {groups : List Value}
    {error : TransactionParseError}
    (hinsert : insertInnerInstructionGroups count resolved groups = .error error) :
    (∃ group ∈ groups, GroupDefect count group error) ∨
      ∃ index, error = .duplicateInnerInstructionGroup index ∧
        (if resolved.contains index then 1 else 2) ≤
          (groups.map groupIndex).count (some index) := by
  induction groups generalizing resolved with
  | nil => cases hinsert
  | cons group groups ih =>
      rw [insertInnerInstructionGroups, Rust.except_bind_eq_error_iff] at hinsert
      rcases hinsert with hread | ⟨⟨index, instructions⟩, hread, hinsert⟩
      · exact .inl ⟨group, List.mem_cons_self, readInnerInstructionGroup_eq_error hread⟩
      rcases readInnerInstructionGroup_eq_ok_iff.mp hread with ⟨hindex, -, -⟩
      by_cases hcontains : resolved.contains index
      · simp only [if_pos hcontains] at hinsert
        rcases Except.error.inj hinsert with rfl
        refine .inr ⟨index, rfl, ?_⟩
        rw [if_pos hcontains, List.map_cons, hindex, List.count_cons_self]
        omega
      · simp only [if_neg hcontains] at hinsert
        rcases ih hinsert with ⟨other, hother, hdefect⟩ | ⟨index', rfl, hcount⟩
        · exact .inl ⟨other, List.mem_cons_of_mem group hother, hdefect⟩
        · refine .inr ⟨index', rfl, ?_⟩
          rw [List.map_cons, hindex, List.count_cons]
          rw [Std.TreeMap.contains_insert] at hcount
          by_cases heq : index = index'
          · rcases heq with rfl
            simp [hcontains] at hcount ⊢
            omega
          · simpa [heq] using hcount

/-! ## Whole transactions -/

private theorem messageInstructions_of_objects {entry : Value} {metadata transaction message : Map}
    (hobjects : Objects entry metadata transaction message) {instructions : List Value}
    (hinstructions : (message.get "instructions").bind Value.asArray = some instructions) :
    messageInstructions entry = instructions := by
  rw [messageInstructions,
    pointer_triple_of_asObject hobjects.transaction_eq hobjects.message_eq, hinstructions]
  rfl

/-- An error of the account keys is a defect of the transaction. -/
theorem defect_of_resolveAccountKeys {entry : Value} {metadata transaction message : Map}
    (hobjects : Objects entry metadata transaction message) {error : TransactionParseError}
    (hresolve : resolveAccountKeys message metadata = .error error) : Defect entry error := by
  unfold resolveAccountKeys at hresolve
  have hstatic := pointer_triple_of_asObject hobjects.transaction_eq hobjects.message_eq
    "accountKeys"
  have hloaded := pointer_pair_of_asObject hobjects.metadata_eq "loadedAddresses"
  rw [Rust.except_bind_eq_error_iff] at hresolve
  rcases hresolve with hkeys | ⟨staticKeys, hkeys, hresolve⟩
  · rcases Rust.okOr_eq_error_iff.mp hkeys with ⟨hnone, rfl⟩
    exact .accountKeys _ (.keys (by rw [hstatic, hnone]))
  have hkeys := bind_asArray_eq_some_iff.mp (Rust.okOr_eq_ok_iff.mp hkeys)
  rw [Rust.except_bind_eq_error_iff] at hresolve
  rcases hresolve with happend | ⟨accountKeys, -, hresolve⟩
  · rcases appendStringValues_eq_error happend with ⟨rfl, key, hmem, hkey⟩
    exact .accountKeys _ (.key staticKeys (by rw [hstatic, hkeys]) key hmem hkey)
  split at hresolve
  · cases hresolve
  · cases hresolve
  · next value hnull hvalue =>
      have hnothing : ¬ IsNothing (entry.pointer ["meta", "loadedAddresses"]) := by
        rw [hloaded, hvalue]
        rintro (hnone | hnull')
        · cases hnone
        · exact hnull (Option.some.inj hnull')
      rw [Rust.except_bind_eq_error_iff] at hresolve
      rcases hresolve with hobject | ⟨loaded, hobject, hresolve⟩
      · rcases Rust.okOr_eq_error_iff.mp hobject with ⟨hnone, rfl⟩
        exact .loadedAddresses hnothing (by rw [hloaded, hvalue, Option.bind_some, hnone])
      have hfields : (metadata.get "loadedAddresses").bind Value.asObject = some loaded := by
        rw [hvalue, Option.bind_some, Rust.okOr_eq_ok_iff.mp hobject]
      have hlast := pointer_triple_of_asObject hobjects.metadata_eq hfields
      rw [Rust.except_bind_eq_error_iff] at hresolve
      rcases hresolve with hwritable | ⟨accountKeys, -, hreadonly⟩
      · have hkeys := appendRequiredStringArray_eq_error hwritable
        rw [← hlast] at hkeys
        exact .writable error hkeys
      · have hkeys := appendRequiredStringArray_eq_error hreadonly
        rw [← hlast] at hkeys
        exact .readonly error hkeys

/-- An error of the groups is a defect of the transaction. -/
theorem defect_of_resolveInnerInstructionGroups {entry : Value}
    {metadata transaction message : Map}
    (hobjects : Objects entry metadata transaction message) {instructions : List Value}
    (hinstructions : (message.get "instructions").bind Value.asArray = some instructions)
    {error : TransactionParseError}
    (hresolve : resolveInnerInstructionGroups metadata instructions.length = .error error) :
    Defect entry error := by
  have hpointer := pointer_pair_of_asObject hobjects.metadata_eq "innerInstructions"
  unfold resolveInnerInstructionGroups at hresolve
  split at hresolve
  · cases hresolve
  · cases hresolve
  · next value hnull hvalue =>
      rw [Rust.except_bind_eq_error_iff] at hresolve
      rcases hresolve with harray | ⟨groups, harray, hinsert⟩
      · rcases Rust.okOr_eq_error_iff.mp harray with ⟨hnone, rfl⟩
        refine .innerInstructions ?_ (by rw [hpointer, hvalue, Option.bind_some, hnone])
        rw [hpointer, hvalue]
        rintro (hnone | hnull')
        · cases hnone
        · exact hnull (Option.some.inj hnull')
      · have hlisted : innerInstructionGroups entry = groups := by
          rw [innerInstructionGroups, hpointer, hvalue, Option.bind_some,
            Rust.okOr_eq_ok_iff.mp harray]
          rfl
        rw [← messageInstructions_of_objects hobjects hinstructions, ← hlisted] at hinsert
        rcases insertInnerInstructionGroups_eq_error hinsert with
          ⟨group, hmem, hgroup⟩ | ⟨index, rfl, hcount⟩
        · exact .group error group hmem hgroup
        · exact .duplicateGroup index (by simpa using hcount)

/-- A rejected transaction has the defect that its error describes. -/
theorem defect_of_readTransaction {entry : Value} {error : TransactionParseError}
    (hread : readTransaction entry = .error error) : Defect entry error := by
  unfold readTransaction at hread
  rw [Rust.except_bind_eq_error_iff] at hread
  rcases hread with hmetadata | ⟨metadata, hmetadata, hread⟩
  · rcases Rust.okOr_eq_error_iff.mp hmetadata with ⟨hnone, rfl⟩
    exact .metadata hnone
  have hmetadata := Rust.okOr_eq_ok_iff.mp hmetadata
  rw [Rust.except_bind_eq_error_iff] at hread
  rcases hread with herror | ⟨transactionError, -, hread⟩
  · rcases Rust.okOr_eq_error_iff.mp herror with ⟨hnone, rfl⟩
    exact .error (by rw [pointer_pair_of_asObject hmetadata, hnone])
  split at hread
  · cases hread
  rw [Rust.except_bind_eq_error_iff] at hread
  rcases hread with htransaction | ⟨transaction, htransaction, hread⟩
  · rcases Rust.okOr_eq_error_iff.mp htransaction with ⟨hnone, rfl⟩
    exact .transaction hnone
  have htransaction := Rust.okOr_eq_ok_iff.mp htransaction
  rw [Rust.except_bind_eq_error_iff] at hread
  rcases hread with hsignature | ⟨signature, -, hread⟩
  · rcases Rust.okOr_eq_error_iff.mp hsignature with ⟨hnone, rfl⟩
    refine .signature ?_
    intro first rest hsignatures
    rw [pointer_pair_of_asObject htransaction] at hsignatures
    rw [headString_eq_some_iff.mpr ⟨rest, hsignatures⟩] at hnone
    cases hnone
  rw [Rust.except_bind_eq_error_iff] at hread
  rcases hread with hmessage | ⟨message, hmessage, hread⟩
  · rcases Rust.okOr_eq_error_iff.mp hmessage with ⟨hnone, rfl⟩
    exact .message (by rw [pointer_pair_of_asObject htransaction, hnone])
  have hobjects : Objects entry metadata transaction message :=
    ⟨hmetadata, htransaction, Rust.okOr_eq_ok_iff.mp hmessage⟩
  rw [Rust.except_bind_eq_error_iff] at hread
  rcases hread with hinstructions | ⟨instructions, hinstructions, hread⟩
  · rcases Rust.okOr_eq_error_iff.mp hinstructions with ⟨hnone, rfl⟩
    refine .instructions ?_
    rw [pointer_triple_of_asObject hobjects.transaction_eq hobjects.message_eq, hnone]
  have hinstructions := Rust.okOr_eq_ok_iff.mp hinstructions
  rw [Rust.except_bind_eq_error_iff] at hread
  rcases hread with hkeys | ⟨accountKeys, -, hread⟩
  · exact defect_of_resolveAccountKeys hobjects hkeys
  rw [Rust.except_bind_eq_error_iff] at hread
  rcases hread with hgroups | ⟨groups, -, hpure⟩
  · exact defect_of_resolveInnerInstructionGroups hobjects hinstructions hgroups
  · cases hpure

/-! ## Whole blocks -/

/-- The transaction that a rejected block names has the defect that the error describes, and
all transactions before it are acceptable. -/
theorem defect_of_parseBlock (crates : Crates) (registry : ParserRegistry) {block : Value}
    {transactionIndex : Nat} {source : TransactionParseError}
    (hparse : parseBlock crates registry block = .error (.transaction transactionIndex source)) :
    ∃ transactions entry, block.get "transactions" = some (.array transactions) ∧
      transactions[transactionIndex]? = some entry ∧ Defect entry source ∧
      ∀ other ∈ transactions.take transactionIndex, Acceptable other := by
  rw [parseBlock_eq, Rust.map_eq_error_iff, readBlock_eq_error_iff] at hparse
  rcases hparse with ⟨-, heq⟩ | ⟨before, entry, after, defect, hblock, hbefore, hdefect, heq⟩
  · cases heq
  · rcases BlockParseError.transaction.inj heq with ⟨rfl, rfl⟩
    refine ⟨before ++ entry :: after, entry, hblock, ?_, defect_of_readTransaction hdefect, ?_⟩
    · rw [List.getElem?_append_right le_rfl, Nat.sub_self, List.getElem?_cons_zero]
    · rw [List.take_left]
      exact hbefore

/-- A failed transaction, of which nothing but the error is read, and one whose only group
belongs to no outer instruction. -/
def straySecondTransaction : Value :=
  TestSupport.block [
    .object [("meta", .object [("err", .string "AccountInUse")])],
    TestSupport.transaction "second" [] [] [] [] [TestSupport.innerInstructions 3 []] .null]

/-- A stray group of the second transaction is reported, and the first transaction is
acceptable. -/
theorem defect_of_parseBlock_straySecondTransaction :
    ∃ transactions entry,
      straySecondTransaction.get "transactions" = some (.array transactions) ∧
      transactions[1]? = some entry ∧ Defect entry (.innerInstructionGroupOutOfBounds 3 0) ∧
      ∀ other ∈ transactions.take 1, Acceptable other :=
  defect_of_parseBlock TestSupport.crates TestSupport.registry rfl

end Parser
end PumpRealtimePrices
