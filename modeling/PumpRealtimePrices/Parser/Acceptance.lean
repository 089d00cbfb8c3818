import PumpRealtimePrices.Parser.Block
import PumpRealtimePrices.Parser.Header
import PumpRealtimePrices.Parser.TestSupport

/-!
# Which blocks are accepted

A block is parsed or rejected as a whole.  What decides is the shape of its transactions,
stated here about the JSON value, and never the configured protocols or the content of an
instruction.  A rejected block names its first transaction of a wrong shape, and parsing is
compatible with cutting a block in two.

Main results:

- Theorem {lit}`readTransaction_isSome_iff`: which transactions have a header.
- Theorem {lit}`parseBlock_accepts_iff`: which blocks are accepted.
- Theorem {lit}`parseBlock_eq_error_iff`: how a block is rejected.
- Theorem {lit}`parseBlock_append`: a block and its two halves.
-/

namespace PumpRealtimePrices
namespace Parser

open SerdeJson

/-! ## Shapes -/

/-- An array of strings. -/
def IsStrings (value : Option Value) : Prop :=
  ∃ strings : List String, value = some (.array (strings.map .string))

/-- Listed groups, each of an outer instruction of its own. -/
structure GroupsOf (outerInstructionCount : Nat) (groups : List Value) : Prop where
  each : ∀ group ∈ groups, ∃ index instructions, groupIndex group = some index ∧
    index < outerInstructionCount ∧ groupInstructions group = some instructions
  nodup : (groups.map groupIndex).Nodup

/-- The value is absent or null. -/
def IsNothing (value : Option Value) : Prop :=
  value = none ∨ value = some .null

/-- The shape of a successful transaction. -/
structure WellFormed (entry : Value) : Prop where
  signature : ∃ signature signatures,
    entry.pointer ["transaction", "signatures"] = some (.array (.string signature :: signatures))
  accountKeys : IsStrings (entry.pointer ["transaction", "message", "accountKeys"])
  loadedAddresses : IsNothing (entry.pointer ["meta", "loadedAddresses"]) ∨
    IsStrings (entry.pointer ["meta", "loadedAddresses", "writable"]) ∧
      IsStrings (entry.pointer ["meta", "loadedAddresses", "readonly"])
  instructions : ∃ instructions,
    entry.pointer ["transaction", "message", "instructions"] = some (.array instructions) ∧
      (IsNothing (entry.pointer ["meta", "innerInstructions"]) ∨
        ∃ groups, entry.pointer ["meta", "innerInstructions"] = some (.array groups) ∧
          GroupsOf instructions.length groups)

/-! ## Views of a value -/

/-- Only arrays are read as arrays. -/
theorem asArray_eq_some_iff {value : Value} {elements : List Value} :
    value.asArray = some elements ↔ value = .array elements := by
  cases value <;> simp [Value.asArray]

/-- A field is read as an array exactly when it is there and is one. -/
theorem bind_asArray_eq_some_iff {value : Option Value} {elements : List Value} :
    value.bind Value.asArray = some elements ↔ value = some (.array elements) := by
  rw [Option.bind_eq_some_iff]
  constructor
  · intro hvalue
    rcases hvalue with ⟨found, rfl, hfound⟩
    rw [asArray_eq_some_iff.mp hfound]
  · rintro rfl
    exact ⟨_, rfl, rfl⟩

/-- The fields of a value under another field. -/
theorem pointer_cons_of_asObject {value : Value} {token : String} {fields : Map}
    (hfields : (value.get token).bind Value.asObject = some fields) (next : String)
    (tokens : List String) :
    value.pointer (token :: next :: tokens) =
      (fields.get next).bind fun child => child.pointer tokens := by
  rcases Option.bind_eq_some_iff.mp hfields with ⟨child, hchild, hasObject⟩
  rw [Value.pointer, hchild, Option.bind_some, Value.pointer, Value.get_of_asObject hasObject]

private theorem asObject_of_pointer {value found : Value} {token next : String}
    {tokens : List String} (hpointer : value.pointer (token :: next :: tokens) = some found) :
    ∃ fields, (value.get token).bind Value.asObject = some fields := by
  rw [Value.pointer, Option.bind_eq_some_iff] at hpointer
  rcases hpointer with ⟨child, hchild, hpointer⟩
  rw [Value.pointer, Value.get, Option.bind_eq_some_iff] at hpointer
  rcases hpointer with ⟨_, hget, -⟩
  rcases Option.bind_eq_some_iff.mp hget with ⟨fields, hfields, -⟩
  exact ⟨fields, by rw [hchild, Option.bind_some, hfields]⟩

/-- Strings are collected exactly from a list of strings. -/
theorem mapM_asStr_eq_ok_iff {values : List Value} {strings : List String}
    (error : TransactionParseError) :
    values.mapM (fun value => Rust.okOr error value.asStr) = .ok strings ↔
      values = strings.map .string := by
  rw [Rust.mapM_eq_ok_iff]
  constructor
  · intro hmap
    induction values generalizing strings with
    | nil =>
        rw [List.map_nil, eq_comm, List.map_eq_nil_iff] at hmap
        rw [hmap, List.map_nil]
    | cons value values ih =>
        rw [List.map_cons, eq_comm, List.map_eq_cons_iff] at hmap
        rcases hmap with ⟨string, rest, rfl, hvalue, hrest⟩
        have hstring : value = .string string := by
          have hasStr := Rust.okOr_eq_ok_iff.mp hvalue.symm
          cases value <;> simp_all [Value.asStr]
        rw [List.map_cons, hstring, ih hrest.symm]
  · rintro rfl
    rw [List.map_map]
    rfl

/-! ## Parts of a transaction -/

/-- Listed groups can be inserted when each has an outer instruction of its own. -/
theorem insertInnerInstructionGroups_isOk_iff {count : Nat}
    {resolved : Std.TreeMap Nat (List Value)} {groups : List Value} :
    (∃ result, insertInnerInstructionGroups count resolved groups = .ok result) ↔
      GroupsOf count groups ∧ ∀ group ∈ groups, ∀ index, groupIndex group = some index →
        resolved[index]? = none := by
  constructor
  · rintro ⟨result, hinsert⟩
    rcases getElem?_insertInnerInstructionGroups hinsert with ⟨hnodup, hlisted, -⟩
    refine ⟨⟨?_, hnodup⟩, ?_⟩
    · intro group hgroup
      rcases hlisted group hgroup with ⟨index, instructions, hindex, hbound, hinstructions, -, -⟩
      exact ⟨index, instructions, hindex, hbound, hinstructions⟩
    · intro group hgroup index hindex
      rcases hlisted group hgroup with ⟨index', -, hindex', -, -, hnone, -⟩
      rcases Option.some.inj (hindex.symm.trans hindex') with rfl
      exact hnone
  · rintro ⟨hgroups, hfresh⟩
    induction groups generalizing resolved with
    | nil => exact ⟨resolved, rfl⟩
    | cons group groups ih =>
        rcases hgroups.each group List.mem_cons_self with
          ⟨index, instructions, hindex, hbound, hinstructions⟩
        have hread := readInnerInstructionGroup_eq_ok_iff.mpr ⟨hindex, hbound, hinstructions⟩
        have hnone := hfresh group List.mem_cons_self index hindex
        rcases List.nodup_cons.mp hgroups.nodup with ⟨hhead, hnodup⟩
        have hrest : ∃ result, insertInnerInstructionGroups count
            (resolved.insert index instructions) groups = .ok result := by
          refine ih ⟨fun other hother => hgroups.each other (List.mem_cons_of_mem group hother),
            hnodup⟩ ?_
          intro other hother index' hindex'
          have hne : index ≠ index' := by
            rintro rfl
            exact hhead (List.mem_map.mpr ⟨other, hother, hindex'.trans hindex.symm⟩)
          rw [Std.TreeMap.getElem?_insert, if_neg (by simpa using hne)]
          exact hfresh other (List.mem_cons_of_mem group hother) index' hindex'
        rcases hrest with ⟨result, hresult⟩
        refine ⟨result, ?_⟩
        have hcontains : ¬ resolved.contains index := by
          intro hcontains
          rw [Std.TreeMap.contains_iff_mem] at hcontains
          rw [Std.TreeMap.getElem?_eq_some_getElem hcontains] at hnone
          cases hnone
        rw [insertInnerInstructionGroups, hread, Rust.ok_bind]
        exact Rust.throw_if_eq_ok_iff.mpr ⟨hcontains, hresult⟩

/-- Groups are resolved where there are none, or where all of them are acceptable. -/
theorem resolveInnerInstructionGroups_isOk_iff {metadata : Map} {count : Nat} :
    (∃ groups, resolveInnerInstructionGroups metadata count = .ok groups) ↔
      IsNothing (metadata.get "innerInstructions") ∨
        ∃ groups, metadata.get "innerInstructions" = some (.array groups) ∧
          GroupsOf count groups := by
  rw [resolveInnerInstructionGroups]
  cases hvalue : metadata.get "innerInstructions" with
  | none => simp [IsNothing]
  | some value =>
      cases value with
      | array listed =>
          have hinsert : (∃ result, insertInnerInstructionGroups count ∅ listed = .ok result) ↔ _ :=
            insertInnerInstructionGroups_isOk_iff
          simpa [IsNothing, Value.asArray, Rust.okOr, Rust.ok_bind] using hinsert
      | _ => simp [IsNothing, Value.asArray, Rust.okOr, bind, Except.bind]

/-- Strings are appended in their order. -/
theorem appendStringValues_eq_ok_iff {output keys : List String} {values : List Value}
    {field : String} :
    appendStringValues output values field = .ok keys ↔
      ∃ strings : List String, values = strings.map .string ∧ keys = output ++ strings := by
  rw [appendStringValues, Rust.except_bind_eq_ok_iff]
  constructor
  · rintro ⟨strings, hstrings, hkeys⟩
    exact ⟨strings, (mapM_asStr_eq_ok_iff _).mp hstrings, (Except.ok.inj hkeys).symm⟩
  · rintro ⟨strings, hstrings, rfl⟩
    exact ⟨strings, (mapM_asStr_eq_ok_iff _).mpr hstrings, rfl⟩

/-- A required array of strings is read exactly where there is one. -/
theorem appendRequiredStringArray_isOk_iff {output : List String} {value : Option Value}
    {field : String} :
    (∃ keys, appendRequiredStringArray output value field = .ok keys) ↔ IsStrings value := by
  rcases value with _ | value
  · simp [appendRequiredStringArray, IsStrings]
  · cases value with
    | array elements =>
        simp [appendRequiredStringArray, IsStrings, Value.asArray, Rust.okOr, Rust.ok_bind,
          appendStringValues_eq_ok_iff]
    | _ => simp [appendRequiredStringArray, IsStrings, Value.asArray, Rust.okOr, bind, Except.bind]

/-- Account keys are resolved from the static keys and from the loaded addresses, if there
are any. -/
theorem resolveAccountKeys_isOk_iff {message metadata : Map} :
    (∃ keys, resolveAccountKeys message metadata = .ok keys) ↔
      IsStrings (message.get "accountKeys") ∧
        (IsNothing (metadata.get "loadedAddresses") ∨
          ∃ loaded, (metadata.get "loadedAddresses").bind Value.asObject = some loaded ∧
            IsStrings (loaded.get "writable") ∧ IsStrings (loaded.get "readonly")) := by
  rw [resolveAccountKeys]
  simp only [Rust.except_bind_eq_ok_iff, Rust.okOr_eq_ok_iff, appendStringValues_eq_ok_iff,
    bind_asArray_eq_some_iff]
  constructor
  · rintro ⟨keys, values, hvalues, accountKeys, ⟨strings, hstrings, -⟩, hloaded⟩
    rw [hstrings] at hvalues
    refine ⟨⟨strings, hvalues⟩, ?_⟩
    split at hloaded
    · next hnone => exact .inl (.inl hnone)
    · next hnull => exact .inl (.inr hnull)
    · next value _ hvalue =>
        simp only [Rust.except_bind_eq_ok_iff, Rust.okOr_eq_ok_iff] at hloaded
        rcases hloaded with ⟨loaded, hfields, writable, hwritable, hreadonly⟩
        refine .inr ⟨loaded, ?_, appendRequiredStringArray_isOk_iff.mp ⟨writable, hwritable⟩,
          appendRequiredStringArray_isOk_iff.mp ⟨keys, hreadonly⟩⟩
        rw [hvalue, Option.bind_some, hfields]
  · rintro ⟨⟨strings, hstatic⟩, hnothing | ⟨loaded, hfields, hwritable, hreadonly⟩⟩
    · refine ⟨strings, strings.map .string, hstatic, strings, ⟨strings, rfl, rfl⟩, ?_⟩
      rcases hnothing with hnone | hnull
      · rw [hnone]
        rfl
      · rw [hnull]
        rfl
    · rcases Option.bind_eq_some_iff.mp hfields with ⟨value, hvalue, hobject⟩
      have hfirst : ∃ keys, appendRequiredStringArray strings (loaded.get "writable")
          "meta.loadedAddresses.writable" = .ok keys :=
        appendRequiredStringArray_isOk_iff.mpr hwritable
      rcases hfirst with ⟨withWritable, hfirst⟩
      have hsecond : ∃ keys, appendRequiredStringArray withWritable (loaded.get "readonly")
          "meta.loadedAddresses.readonly" = .ok keys :=
        appendRequiredStringArray_isOk_iff.mpr hreadonly
      rcases hsecond with ⟨keys, hsecond⟩
      refine ⟨keys, strings.map .string, hstatic, strings, ⟨strings, rfl, rfl⟩, ?_⟩
      cases value with
      | object fields =>
          rcases Option.some.inj hobject with rfl
          rw [hvalue]
          simp only [Value.asObject, Rust.okOr, Rust.ok_bind, hfirst]
          exact hsecond
      | _ => cases hobject

/-! ## Whole transactions -/

/-- A pointer of two tokens looks a field up in the object under the first. -/
theorem pointer_pair_of_asObject {value : Value} {token : String} {fields : Map}
    (hfields : (value.get token).bind Value.asObject = some fields) (next : String) :
    value.pointer [token, next] = fields.get next := by
  rw [pointer_cons_of_asObject hfields]
  exact Option.bind_fun_some _

/-- A pointer of three tokens looks a field up in the object under the first two. -/
theorem pointer_triple_of_asObject {value : Value} {token next : String} {fields inner : Map}
    (hfields : (value.get token).bind Value.asObject = some fields)
    (hinner : (fields.get next).bind Value.asObject = some inner) (last : String) :
    value.pointer [token, next, last] = inner.get last := by
  rcases Option.bind_eq_some_iff.mp hinner with ⟨child, hchild, hobject⟩
  rw [pointer_cons_of_asObject hfields, hchild, Option.bind_some, Value.pointer,
    Value.get_of_asObject hobject]
  exact Option.bind_fun_some _

/-- The first string of an array is read only from its first place. -/
theorem headString_eq_some_iff {value : Option Value} {string : String} :
    ((value.bind Value.asArray).bind List.head?).bind Value.asStr = some string ↔
      ∃ rest, value = some (.array (.string string :: rest)) := by
  constructor
  · intro hvalue
    rcases Option.bind_eq_some_iff.mp hvalue with ⟨first, hfirst, hstring⟩
    rcases Option.bind_eq_some_iff.mp hfirst with ⟨elements, helements, hhead⟩
    rcases List.head?_eq_some_iff.mp hhead with ⟨rest, rfl⟩
    have hfirst : first = .string string := by
      cases first <;> simp_all [Value.asStr]
    rw [hfirst] at helements
    exact ⟨rest, bind_asArray_eq_some_iff.mp helements⟩
  · rintro ⟨rest, rfl⟩
    rfl

/-- The objects that hold the parts of a transaction. -/
structure Objects (entry : Value) (metadata transaction message : Map) : Prop where
  metadata_eq : (entry.get "meta").bind Value.asObject = some metadata
  transaction_eq : (entry.get "transaction").bind Value.asObject = some transaction
  message_eq : (transaction.get "message").bind Value.asObject = some message

/-- The account keys can be resolved exactly when both lists of them are well formed. -/
theorem Objects.resolveAccountKeys_isOk_iff {entry : Value}
    {metadata transaction message : Map}
    (hobjects : Objects entry metadata transaction message) :
    (∃ keys, resolveAccountKeys message metadata = .ok keys) ↔
      IsStrings (entry.pointer ["transaction", "message", "accountKeys"]) ∧
        (IsNothing (entry.pointer ["meta", "loadedAddresses"]) ∨
          IsStrings (entry.pointer ["meta", "loadedAddresses", "writable"]) ∧
            IsStrings (entry.pointer ["meta", "loadedAddresses", "readonly"])) := by
  rw [Parser.resolveAccountKeys_isOk_iff, pointer_pair_of_asObject hobjects.metadata_eq,
    pointer_triple_of_asObject hobjects.transaction_eq hobjects.message_eq]
  apply and_congr_right'
  apply or_congr_right
  constructor
  · rintro ⟨loaded, hloaded, hwritable, hreadonly⟩
    rw [pointer_triple_of_asObject hobjects.metadata_eq hloaded,
      pointer_triple_of_asObject hobjects.metadata_eq hloaded]
    exact ⟨hwritable, hreadonly⟩
  · rintro ⟨hwritable, hreadonly⟩
    rcases hwritable with ⟨strings, hpointer⟩
    have hpointer' := hpointer
    rw [pointer_cons_of_asObject hobjects.metadata_eq, Option.bind_eq_some_iff] at hpointer
    rcases hpointer with ⟨child, hchild, hpointer⟩
    rw [Value.pointer, Value.get, Option.bind_eq_some_iff] at hpointer
    rcases hpointer with ⟨_, hget, -⟩
    rcases Option.bind_eq_some_iff.mp hget with ⟨loaded, hobject, -⟩
    have hloaded : (metadata.get "loadedAddresses").bind Value.asObject = some loaded := by
      rw [hchild, Option.bind_some, hobject]
    rw [pointer_triple_of_asObject hobjects.metadata_eq hloaded] at hpointer' hreadonly
    exact ⟨loaded, hloaded, ⟨strings, hpointer'⟩, hreadonly⟩

/-- The shape of a transaction, and what the structural stage reads of it. -/
theorem Objects.wellFormed_iff {entry : Value} {metadata transaction message : Map}
    (hobjects : Objects entry metadata transaction message) :
    WellFormed entry ↔
      (∃ signature, (((transaction.get "signatures").bind Value.asArray).bind List.head?).bind
        Value.asStr = some signature) ∧
      (∃ keys, resolveAccountKeys message metadata = .ok keys) ∧
      ∃ instructions, (message.get "instructions").bind Value.asArray = some instructions ∧
        ∃ groups, resolveInnerInstructionGroups metadata instructions.length = .ok groups := by
  simp only [hobjects.resolveAccountKeys_isOk_iff, resolveInnerInstructionGroups_isOk_iff,
    headString_eq_some_iff, bind_asArray_eq_some_iff,
    ← pointer_pair_of_asObject hobjects.metadata_eq,
    ← pointer_pair_of_asObject hobjects.transaction_eq,
    ← pointer_triple_of_asObject hobjects.transaction_eq hobjects.message_eq]
  constructor
  · intro hformed
    exact ⟨hformed.signature, ⟨hformed.accountKeys, hformed.loadedAddresses⟩,
      hformed.instructions⟩
  · rintro ⟨hsignature, ⟨haccountKeys, hloadedAddresses⟩, hinstructions⟩
    exact ⟨hsignature, haccountKeys, hloadedAddresses, hinstructions⟩

/-- A transaction has a header exactly when it succeeded and is well formed. -/
theorem readTransaction_isSome_iff {entry : Value} :
    (∃ header, readTransaction entry = .ok (some header)) ↔
      entry.pointer ["meta", "err"] = some .null ∧ WellFormed entry := by
  constructor
  · rintro ⟨header, hread⟩
    rcases readTransaction_eq_ok_some_iff.mp hread with
      ⟨metadata, transaction, message, hmetadata, herror, htransaction, hsignature, hmessage,
        hinstructions, hkeys, hgroups, -⟩
    have hobjects : Objects entry metadata transaction message :=
      ⟨hmetadata, htransaction, hmessage⟩
    rw [pointer_pair_of_asObject hmetadata, hobjects.wellFormed_iff]
    exact ⟨herror, ⟨_, hsignature⟩, ⟨_, hkeys⟩, _, hinstructions, _, hgroups⟩
  · rintro ⟨herror, hformed⟩
    rcases asObject_of_pointer herror with ⟨metadata, hmetadata⟩
    rcases hformed.accountKeys with ⟨strings, hstrings⟩
    rcases asObject_of_pointer hstrings with ⟨transaction, htransaction⟩
    rw [pointer_cons_of_asObject htransaction, ← Value.get_object transaction] at hstrings
    rcases asObject_of_pointer hstrings with ⟨message, hmessage⟩
    have hobjects : Objects entry metadata transaction message :=
      ⟨hmetadata, htransaction, hmessage⟩
    rw [pointer_pair_of_asObject hmetadata] at herror
    rcases hobjects.wellFormed_iff.mp hformed with
      ⟨⟨signature, hsignature⟩, ⟨keys, hkeys⟩, instructions, hinstructions, groups, hgroups⟩
    refine ⟨⟨signature, instructions, keys, groups, resolveTokenDecimals metadata⟩, ?_⟩
    exact readTransaction_eq_ok_some_iff.mpr ⟨metadata, transaction, message, hmetadata, herror,
      htransaction, hsignature, hmessage, hinstructions, hkeys, hgroups, rfl⟩

/-- A transaction is skipped exactly when its error is not null, whatever else it holds. -/
theorem readTransaction_isNone_iff {entry : Value} :
    readTransaction entry = .ok none ↔
      ∃ error, entry.pointer ["meta", "err"] = some error ∧ error ≠ .null := by
  constructor
  · intro hread
    have hsome := isSome_of_readTransaction hread
    unfold readTransaction at hread
    simp only [Rust.except_bind_eq_ok_iff, Rust.okOr_eq_ok_iff] at hread
    rcases hread with ⟨metadata, hmetadata, error, herror, -⟩
    rw [← pointer_pair_of_asObject hmetadata] at herror
    refine ⟨error, herror, ?_⟩
    rintro rfl
    exact absurd (hsome.mpr herror) (by decide)
  · rintro ⟨error, herror, hnull⟩
    rcases asObject_of_pointer herror with ⟨metadata, hmetadata⟩
    rw [pointer_pair_of_asObject hmetadata] at herror
    rw [readTransaction, hmetadata]
    simp only [Rust.okOr, Rust.ok_bind, herror]
    exact if_pos fun hnull' => hnull (isNull_iff.mp hnull')

/-- A transaction that failed, or one that is well formed. -/
def Acceptable (entry : Value) : Prop :=
  ∃ error, entry.pointer ["meta", "err"] = some error ∧ (error = .null → WellFormed entry)

/-- The structural stage reads exactly the acceptable transactions. -/
theorem readTransaction_isOk_iff {entry : Value} :
    (∃ header, readTransaction entry = .ok header) ↔ Acceptable entry := by
  constructor
  · rintro ⟨header, hread⟩
    cases header with
    | none =>
        rcases readTransaction_isNone_iff.mp hread with ⟨error, herror, hnull⟩
        exact ⟨error, herror, fun heq => absurd heq hnull⟩
    | some header =>
        rcases readTransaction_isSome_iff.mp ⟨header, hread⟩ with ⟨herror, hformed⟩
        exact ⟨.null, herror, fun _ => hformed⟩
  · rintro ⟨error, herror, hformed⟩
    by_cases hnull : error = .null
    · rw [hnull] at herror
      rcases readTransaction_isSome_iff.mpr ⟨herror, hformed hnull⟩ with ⟨header, hread⟩
      exact ⟨some header, hread⟩
    · exact ⟨none, readTransaction_isNone_iff.mpr ⟨error, herror, hnull⟩⟩

/-! ## Whole blocks -/

/-- A block is read exactly when all of its transactions are acceptable. -/
theorem readTransactions_isOk_iff {start : Nat} {transactions : List Value} :
    (∃ headers, readTransactions start transactions = .ok headers) ↔
      ∀ entry ∈ transactions, Acceptable entry := by
  simp only [readTransactions_eq_ok_iff, ← readTransaction_isOk_iff]
  constructor
  · rintro ⟨headers, hread⟩ entry hentry
    have hmem : readTransaction entry ∈ headers.map .ok := by
      rw [← hread]
      exact List.mem_map_of_mem hentry
    rcases List.mem_map.mp hmem with ⟨header, -, heq⟩
    exact ⟨header, heq.symm⟩
  · intro hall
    rcases Rust.exists_mapM_eq_ok hall with ⟨headers, hread⟩
    exact ⟨headers, Rust.mapM_eq_ok_iff.mp hread⟩

/-- Cutting the transactions in two; the second half goes on counting. -/
theorem readTransactions_append (start : Nat) (first second : List Value) :
    readTransactions start (first ++ second) = do
      let headers ← readTransactions start first
      let headers' ← readTransactions (start + first.length) second
      return headers ++ headers' := by
  induction first generalizing start with
  | nil =>
      rw [List.nil_append, readTransactions, Rust.ok_bind, List.length_nil, Nat.add_zero]
      rcases readTransactions start second with error | headers <;> rfl
  | cons transaction transactions ih =>
      rw [List.cons_append, readTransactions, readTransactions, ih, List.length_cons,
        Nat.add_assoc, Nat.add_comm 1]
      rcases readTransaction transaction with error | header
      · rfl
      · rcases readTransactions (start + 1) transactions with error | headers
        · rfl
        · rcases readTransactions (start + (transactions.length + 1)) second with _ | _ <;> rfl

/-- The first transaction that is not acceptable stops the scan. -/
theorem readTransactions_eq_error_iff {start : Nat} {transactions : List Value}
    {error : BlockParseError} :
    readTransactions start transactions = .error error ↔
      ∃ before entry after defect, transactions = before ++ entry :: after ∧
        (∀ other ∈ before, Acceptable other) ∧ readTransaction entry = .error defect ∧
        error = .transaction (start + before.length) defect := by
  constructor
  · intro hread
    induction transactions generalizing start with
    | nil => cases hread
    | cons transaction transactions ih =>
        rw [readTransactions, Rust.except_bind_eq_error_iff] at hread
        rcases hread with hfirst | ⟨header, hheader, hrest⟩
        · rcases hdefect : readTransaction transaction with defect | header
          · rw [hdefect] at hfirst
            refine ⟨[], transaction, transactions, defect, rfl, by simp, hdefect, ?_⟩
            exact (Except.error.inj hfirst).symm
          · rw [hdefect] at hfirst
            cases hfirst
        · rw [Rust.except_bind_eq_error_iff] at hrest
          rcases hrest with hrest | ⟨headers, -, hpure⟩
          · rcases ih hrest with ⟨before, entry, after, defect, rfl, hbefore, hdefect, rfl⟩
            refine ⟨transaction :: before, entry, after, defect, rfl, ?_, hdefect, ?_⟩
            · intro other hother
              rcases List.mem_cons.mp hother with rfl | hother
              · exact readTransaction_isOk_iff.mp ⟨header, Rust.mapError_eq_ok_iff.mp hheader⟩
              · exact hbefore other hother
            · rw [List.length_cons, Nat.add_assoc, Nat.add_comm 1]
          · cases hpure
  · rintro ⟨before, entry, after, defect, rfl, hbefore, hdefect, rfl⟩
    rcases readTransactions_isOk_iff.mpr hbefore with ⟨headers, hheaders⟩
    rw [readTransactions_append, hheaders, Rust.ok_bind, readTransactions, hdefect]
    rfl

/-- A block is read from its array of transactions. -/
theorem readBlock_of_get {block : Value} {transactions : List Value}
    (hblock : block.get "transactions" = some (.array transactions)) :
    readBlock block = readTransactions 0 transactions := by
  rw [readBlock, hblock]
  rfl

/-- A block is accepted exactly when it lists transactions that are all acceptable,
whatever the configured protocols. -/
theorem parseBlock_accepts_iff (crates : Crates) (registry : ParserRegistry) (block : Value) :
    (∃ events, parseBlock crates registry block = .ok events) ↔
      ∃ transactions, block.get "transactions" = some (.array transactions) ∧
        ∀ entry ∈ transactions, Acceptable entry := by
  rw [parseBlock_eq, Rust.map_isOk_iff]
  constructor
  · rintro ⟨headers, hread⟩
    rw [readBlock, Rust.except_bind_eq_ok_iff] at hread
    rcases hread with ⟨transactions, htransactions, hread⟩
    exact ⟨transactions, bind_asArray_eq_some_iff.mp (Rust.okOr_eq_ok_iff.mp htransactions),
      readTransactions_isOk_iff.mp ⟨headers, hread⟩⟩
  · rintro ⟨transactions, htransactions, hall⟩
    rw [readBlock_of_get htransactions]
    exact readTransactions_isOk_iff.mpr hall

/-- The first transaction that is not acceptable stops the structural stage of a block. -/
theorem readBlock_eq_error_iff {block : Value} {error : BlockParseError} :
    readBlock block = .error error ↔
      ((∀ transactions, block.get "transactions" ≠ some (.array transactions)) ∧
        error = .invalidField "transactions" "an array") ∨
      ∃ before entry after defect,
        block.get "transactions" = some (.array (before ++ entry :: after)) ∧
        (∀ other ∈ before, Acceptable other) ∧ readTransaction entry = .error defect ∧
        error = .transaction before.length defect := by
  rw [readBlock, Rust.except_bind_eq_error_iff]
  apply or_congr
  · rw [Rust.okOr_eq_error_iff, Option.eq_none_iff_forall_ne_some, @eq_comm _ error]
    simp only [ne_eq, bind_asArray_eq_some_iff]
  · simp only [Rust.okOr_eq_ok_iff, bind_asArray_eq_some_iff, readTransactions_eq_error_iff,
      Nat.zero_add]
    constructor
    · rintro ⟨transactions, hblock, before, entry, after, defect, rfl, hdefect⟩
      exact ⟨before, entry, after, defect, hblock, hdefect⟩
    · rintro ⟨before, entry, after, defect, hblock, hdefect⟩
      exact ⟨_, hblock, before, entry, after, defect, rfl, hdefect⟩

/-- A block is rejected for its list of transactions, or for the first transaction that is
not acceptable; the other transactions and the configured protocols do not matter. -/
theorem parseBlock_eq_error_iff (crates : Crates) (registry : ParserRegistry) (block : Value)
    (error : BlockParseError) :
    parseBlock crates registry block = .error error ↔
      ((∀ transactions, block.get "transactions" ≠ some (.array transactions)) ∧
        error = .invalidField "transactions" "an array") ∨
      ∃ before entry after defect,
        block.get "transactions" = some (.array (before ++ entry :: after)) ∧
        (∀ other ∈ before, Acceptable other) ∧ readTransaction entry = .error defect ∧
        error = .transaction before.length defect := by
  rw [parseBlock_eq, Rust.map_eq_error_iff, readBlock_eq_error_iff]

/-! ## Two halves of a block -/

/-- The same output at a later place. -/
def TransactionEvents.shift (offset : Nat) (events : TransactionEvents) : TransactionEvents :=
  { events with transactionIndex := offset + events.transactionIndex }

/-- The same error at a later place. -/
def BlockParseError.shift (offset : Nat) : BlockParseError → BlockParseError
  | .invalidField field expected => .invalidField field expected
  | .transaction transactionIndex source => .transaction (offset + transactionIndex) source

/-- At a later place of a block a transaction has the same output, with its own index. -/
theorem transactionEvents_shift (crates : Crates) (registry : ParserRegistry)
    (header : TransactionHeader) (offset transactionIndex : Nat) :
    transactionEvents crates registry header (offset + transactionIndex) =
      (transactionEvents crates registry header transactionIndex).map
        (TransactionEvents.shift offset) := by
  simp only [transactionEvents]
  split <;> rfl

/-- Later in a block transactions have the same outputs, with their own indexes. -/
theorem transactionsEvents_shift (crates : Crates) (registry : ParserRegistry)
    (offset start : Nat) (headers : List (Option TransactionHeader)) :
    transactionsEvents crates registry (offset + start) headers =
      (transactionsEvents crates registry start headers).map (TransactionEvents.shift offset) := by
  induction headers generalizing start with
  | nil => rfl
  | cons header headers ih =>
      rw [transactionsEvents_cons, transactionsEvents_cons, Nat.add_assoc, ih, List.map_append]
      cases header with
      | none => rfl
      | some header =>
          rw [Option.bind_some, Option.bind_some, transactionEvents_shift]
          cases transactionEvents crates registry header start <;> rfl

/-- The outputs of two parts of a block follow each other. -/
theorem transactionsEvents_append (crates : Crates) (registry : ParserRegistry) (start : Nat)
    (first second : List (Option TransactionHeader)) :
    transactionsEvents crates registry start (first ++ second) =
      transactionsEvents crates registry start first ++
        transactionsEvents crates registry (start + first.length) second := by
  rw [transactionsEvents, List.zipIdx_append, List.filterMap_append]
  rfl

/-- Later in a block transactions have the same errors, with their own indexes. -/
theorem readTransactions_shift (offset start : Nat) (transactions : List Value) :
    readTransactions (offset + start) transactions =
      (readTransactions start transactions).mapError (BlockParseError.shift offset) := by
  induction transactions generalizing start with
  | nil => rfl
  | cons transaction transactions ih =>
      rw [readTransactions, readTransactions, Nat.add_assoc, ih]
      rcases readTransaction transaction with defect | header
      · rfl
      · rcases readTransactions (start + 1) transactions with error | headers <;> rfl

/-- Parsing a block agrees with parsing its two halves one after the other: the second half
is reported with its indices moved behind the first half. -/
theorem parseBlock_append (crates : Crates) (registry : ParserRegistry)
    {block first second : Value} {transactions transactions' : List Value}
    (hblock : block.get "transactions" = some (.array (transactions ++ transactions')))
    (hfirst : first.get "transactions" = some (.array transactions))
    (hsecond : second.get "transactions" = some (.array transactions')) :
    parseBlock crates registry block = do
      let events ← parseBlock crates registry first
      let events' ← (parseBlock crates registry second).mapError
        (BlockParseError.shift transactions.length)
      return { transactions := events.transactions ++
        events'.transactions.map (TransactionEvents.shift transactions.length) } := by
  rw [parseBlock_eq, parseBlock_eq, parseBlock_eq, readBlock_of_get hblock,
    readBlock_of_get hfirst, readBlock_of_get hsecond, readTransactions_append, Nat.zero_add]
  have hshift := readTransactions_shift transactions.length 0 transactions'
  rw [Nat.add_zero] at hshift
  rw [hshift]
  rcases hread : readTransactions 0 transactions with error | headers
  · rfl
  · have hlength : headers.length = transactions.length := by
      have hmap := congrArg List.length (readTransactions_eq_ok_iff.mp hread)
      rwa [List.length_map, List.length_map, eq_comm] at hmap
    rcases readTransactions 0 transactions' with error | headers'
    · rfl
    · have hevents := transactionsEvents_shift crates registry transactions.length 0 headers'
      rw [Nat.add_zero] at hevents
      simp only [Except.map, Except.mapError, bind, Except.bind, pure, Except.pure,
        transactionsEvents_append, Nat.zero_add, hlength, hevents]

/-- A transaction that the test parser reports. -/
def discoveryTransaction : Value :=
  TestSupport.transaction "first" [TestSupport.testProgramId] [] []
    [TestSupport.instruction 0 [] [1] 1] [] .null

/-- A reported transaction and an entry that is no transaction: the error of the whole block
names place 1, that of its second half place 0. -/
theorem parseBlock_append_discoveryTransaction :
    parseBlock TestSupport.crates TestSupport.registry
        (TestSupport.block ([discoveryTransaction] ++ [.null])) = do
      let events ← parseBlock TestSupport.crates TestSupport.registry
        (TestSupport.block [discoveryTransaction])
      let events' ← (parseBlock TestSupport.crates TestSupport.registry
        (TestSupport.block [.null])).mapError (BlockParseError.shift [discoveryTransaction].length)
      return { transactions := events.transactions ++
        events'.transactions.map (TransactionEvents.shift [discoveryTransaction].length) } :=
  parseBlock_append TestSupport.crates TestSupport.registry rfl rfl rfl

end Parser
end PumpRealtimePrices
