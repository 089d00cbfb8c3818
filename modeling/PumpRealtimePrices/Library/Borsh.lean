import Mathlib.Data.Nat.Digits.Defs
import Mathlib.Tactic.Linarith

/-!
# Borsh readers and writers

Borsh lays a value out as the concatenation of its fields.  This module gives
the standard primitive readers as a state monad over the remaining bytes, the
matching writers as partial functions (a string or a vector whose length does
not fit `u32` has no encoding), and the law that joins the two: a reader
succeeds with `a` and leaves `rest` exactly when the input is an encoding of
`a` followed by `rest`.

Main results:

- Theorem {lit}`leBytes_leNat` and {lit}`leNat_leBytes`: fixed-width
  little-endian integers round-trip in both directions.
- Class {lit}`LawfulBorsh`: the reader inverts the writer, with instances for
  integers, booleans, strings and vectors.
- Theorems {lit}`Reads.bind` and {lit}`Reads.pure`: the rules that carry the
  law over a structure read field by field.
- Structure {lit}`PrefixCodec`: what the law says about a payload that may
  carry appended bytes.
-/

namespace Borsh

/-- A byte string, in wire order. -/
abbrev Bytes := List UInt8

/-! ## Errors -/

/-- Ways in which a primitive reader can fail. -/
inductive ReadError where
  | unexpectedLength
  | invalidBool (byte : UInt8)
  | invalidUtf8 (bytes : Bytes)
deriving DecidableEq, Repr

/-- Ranges of the continuation bytes that may follow a UTF-8 leading byte, or
{lean}`none` when the byte cannot start a sequence. -/
def utf8Tail (lead : UInt8) : Option (List (UInt8 × UInt8)) :=
  if lead < 0x80 then some []
  else if 0xC2 ≤ lead ∧ lead ≤ 0xDF then some [(0x80, 0xBF)]
  else if lead = 0xE0 then some [(0xA0, 0xBF), (0x80, 0xBF)]
  else if lead = 0xED then some [(0x80, 0x9F), (0x80, 0xBF)]
  else if 0xE1 ≤ lead ∧ lead ≤ 0xEF then some [(0x80, 0xBF), (0x80, 0xBF)]
  else if lead = 0xF0 then some [(0x90, 0xBF), (0x80, 0xBF), (0x80, 0xBF)]
  else if 0xF1 ≤ lead ∧ lead ≤ 0xF3 then some [(0x80, 0xBF), (0x80, 0xBF), (0x80, 0xBF)]
  else if lead = 0xF4 then some [(0x80, 0x8F), (0x80, 0xBF), (0x80, 0xBF)]
  else none

/-- Match continuation bytes against their ranges.  A mismatch reports how many
bytes the broken sequence holds, and {lit}`error none` an input that ends too early. -/
def matchTail : List (UInt8 × UInt8) → Bytes → Nat → Except (Option Nat) Bytes
  | [], rest, _ => .ok rest
  | _ :: _, [], _ => .error none
  | (low, high) :: ranges, byte :: rest, read =>
      if low ≤ byte ∧ byte ≤ high then matchTail ranges rest (read + 1)
      else .error (some read)

/-- Position and length of the first invalid UTF-8 sequence; the fuel is the
number of bytes. -/
def utf8ErrorAt : Nat → Nat → Bytes → Nat × Option Nat
  | 0, index, _ => (index, none)
  | _ + 1, index, [] => (index, none)
  | fuel + 1, index, lead :: rest =>
      match utf8Tail lead with
      | none => (index, some 1)
      | some ranges =>
          match matchTail ranges rest 1 with
          | .ok rest => utf8ErrorAt fuel (index + 1 + ranges.length) rest
          | .error length => (index, length)

/-- Text of an error, as the reader's crate prints it. -/
def ReadError.display : ReadError → String
  | .unexpectedLength => "Unexpected length of input"
  | .invalidBool byte => s!"Invalid bool representation: {byte.toNat}"
  | .invalidUtf8 bytes =>
      match utf8ErrorAt bytes.length 0 bytes with
      | (index, some length) => s!"invalid utf-8 sequence of {length} bytes from index {index}"
      | (index, none) => s!"incomplete utf-8 byte sequence from index {index}"

/-! ## Little-endian integers -/

/-- Value of a little-endian byte string. -/
def leNat (bytes : Bytes) : Nat :=
  Nat.ofDigits 256 (bytes.map UInt8.toNat)

/-- The low {lit}`width` bytes of a number, least significant first. -/
def leBytes : Nat → Nat → Bytes
  | 0, _ => []
  | width + 1, value => UInt8.ofNat value :: leBytes width (value / 256)

/-- No bytes are zero. -/
@[simp]
theorem leNat_nil : leNat [] = 0 :=
  rfl

/-- The first byte is the lowest. -/
@[simp]
theorem leNat_cons (byte : UInt8) (bytes : Bytes) :
    leNat (byte :: bytes) = byte.toNat + 256 * leNat bytes := by
  simp [leNat, Nat.ofDigits_cons]

/-- A number is written in as many bytes as its width says. -/
@[simp]
theorem leBytes_length (width value : Nat) : (leBytes width value).length = width := by
  induction width generalizing value with
  | zero => rfl
  | succ width ih => simp [leBytes, ih]

/-- A number is bounded by its width. -/
theorem leNat_lt (bytes : Bytes) : leNat bytes < 256 ^ bytes.length := by
  have hdigits : ∀ digit ∈ bytes.map UInt8.toNat, digit < 256 := by
    intro digit hdigit
    rcases List.mem_map.mp hdigit with ⟨byte, -, rfl⟩
    exact byte.toNat_lt
  simpa [leNat] using Nat.ofDigits_lt_base_pow_length (by omega) hdigits

/-- Writing the value of a byte string gives the byte string back. -/
theorem leBytes_leNat (bytes : Bytes) : leBytes bytes.length (leNat bytes) = bytes := by
  induction bytes with
  | nil => rfl
  | cons byte bytes ih =>
      have hbyte := byte.toNat_lt
      have hdiv : (byte.toNat + 256 * leNat bytes) / 256 = leNat bytes := by omega
      have hhead : UInt8.ofNat (byte.toNat + 256 * leNat bytes) = byte := by
        apply UInt8.toNat_inj.mp
        rw [UInt8.toNat_ofNat']
        omega
      rw [List.length_cons, leNat_cons, leBytes, hdiv, ih, hhead]

/-- Reading back the bytes of a number in range gives the number. -/
theorem leNat_leBytes {width value : Nat} (hvalue : value < 256 ^ width) :
    leNat (leBytes width value) = value := by
  induction width generalizing value with
  | zero =>
      have hzero : value = 0 := by simpa using hvalue
      simp [leBytes, hzero]
  | succ width ih =>
      have hdiv : value / 256 < 256 ^ width := by
        rw [Nat.pow_succ] at hvalue
        exact Nat.div_lt_of_lt_mul (by omega)
      rw [leBytes, leNat_cons, ih hdiv, UInt8.toNat_ofNat']
      omega

/-! ## Readers and writers -/

/-- A reader consumes bytes from the front of its input. -/
abbrev Reader (α : Type) := StateT Bytes (Except ReadError) α

/-- Take exactly {lit}`count` bytes. -/
def readExact (count : Nat) : Reader Bytes := fun input =>
  if count ≤ input.length then .ok (input.take count, input.drop count)
  else .error .unexpectedLength

/-- A sequence succeeds when its first reader does and its second one goes on
from the bytes that are left. -/
theorem bind_eq_ok_iff {α β : Type} {reader : Reader α} {next : α → Reader β}
    {input rest : Bytes} {b : β} :
    (reader >>= next) input = .ok (b, rest) ↔
      ∃ a tail, reader input = .ok (a, tail) ∧ next a tail = .ok (b, rest) := by
  change (Except.bind (reader input) fun p => next p.1 p.2) = _ ↔ _
  rcases reader input with error | ⟨a, tail⟩ <;> simp [Except.bind]

/-- A reader of a constant consumes nothing. -/
theorem pure_eq_ok_iff {α : Type} {value a : α} {input rest : Bytes} :
    (pure value : Reader α) input = .ok (a, rest) ↔ value = a ∧ input = rest := by
  change Except.ok (value, input) = _ ↔ _
  simp

/-- Values that can be read from the front of a byte string. -/
class BorshDeserialize (α : Type) where
  deserialize : Reader α

/-- Values that have an encoding; {lean}`none` when a length does not fit `u32`. -/
class BorshSerialize (α : Type) where
  serialize : α → Option Bytes

export BorshDeserialize (deserialize)
export BorshSerialize (serialize)

/-- Concatenation of the encodings of consecutive fields. -/
def concat : List (Option Bytes) → Option Bytes
  | [] => some []
  | field :: fields => do
      let bytes ← field
      let rest ← concat fields
      return bytes ++ rest

/-- A record without fields has the empty encoding. -/
@[simp]
theorem concat_nil : concat [] = some [] :=
  rfl

/-- The encoding of a record starts with that of its first field. -/
theorem concat_cons_eq_some_iff {field : Option Bytes} {fields : List (Option Bytes)}
    {bytes : Bytes} :
    concat (field :: fields) = some bytes ↔
      ∃ front rest, field = some front ∧ concat fields = some rest ∧ bytes = front ++ rest := by
  cases field <;> cases hrest : concat fields <;> simp [concat, hrest, eq_comm]

/-- The reader of {lit}`α` inverts the writer, whatever bytes follow. -/
class LawfulBorsh (α : Type) [BorshDeserialize α] [BorshSerialize α] : Prop where
  deserialize_eq_ok_iff : ∀ (input : Bytes) (a : α) (rest : Bytes),
    (deserialize : Reader α) input = .ok (a, rest) ↔
      ∃ bytes, serialize a = some bytes ∧ input = bytes ++ rest

/-! ## Fields in sequence -/

/-- The reader yields {lit}`result` exactly when {lit}`condition` holds and the input
starts with the given fields.  The condition collects what the fields read so
far have to be. -/
def Reads {β : Type} (reader : Reader β) (result : β) (condition : Prop)
    (fields : List (Option Bytes)) : Prop :=
  ∀ input rest, reader input = .ok (result, rest) ↔
    condition ∧ ∃ bytes, concat fields = some bytes ∧ input = bytes ++ rest

/-- Nothing is left to read: the result is the one that was asked for. -/
theorem Reads.pure {β : Type} {value result : β} {condition : Prop}
    (hcondition : condition ↔ value = result) :
    Reads (Pure.pure value) result condition [] := by
  intro input rest
  rw [pure_eq_ok_iff, hcondition]
  simp

/-- One lawful field in front of a reader adds one field to the encoding. -/
theorem Reads.bind {α β : Type} [BorshDeserialize α] [BorshSerialize α] [LawfulBorsh α]
    {next : α → Reader β} {result : β} {condition : Prop} {field : α}
    {fields : List (Option Bytes)}
    (hnext : ∀ a, Reads (next a) result (condition ∧ a = field) fields) :
    Reads (deserialize >>= next) result condition (serialize field :: fields) := by
  intro input rest
  rw [bind_eq_ok_iff]
  constructor
  · rintro ⟨a, tail, hread, hrest⟩
    rcases (LawfulBorsh.deserialize_eq_ok_iff input a tail).mp hread with ⟨front, hfront, rfl⟩
    rcases (hnext a tail rest).mp hrest with ⟨⟨hcondition, rfl⟩, bytes, hbytes, rfl⟩
    refine ⟨hcondition, front ++ bytes, ?_, (List.append_assoc ..).symm⟩
    exact concat_cons_eq_some_iff.mpr ⟨front, bytes, hfront, hbytes, rfl⟩
  · rintro ⟨hcondition, bytes, hbytes, rfl⟩
    rcases concat_cons_eq_some_iff.mp hbytes with ⟨front, tail, hfront, htail, rfl⟩
    refine ⟨field, tail ++ rest, ?_, ?_⟩
    · exact (LawfulBorsh.deserialize_eq_ok_iff ..).mpr
        ⟨front, hfront, List.append_assoc ..⟩
    · exact (hnext field _ rest).mpr ⟨⟨hcondition, rfl⟩, tail, htail, rfl⟩

/-- A reader whose fields are characterized for every result is lawful. -/
theorem LawfulBorsh.of_reads {α : Type} [BorshDeserialize α] [BorshSerialize α]
    {fields : α → List (Option Bytes)}
    (hserialize : ∀ a : α, serialize a = concat (fields a))
    (hreads : ∀ a : α, Reads deserialize a True (fields a)) : LawfulBorsh α where
  deserialize_eq_ok_iff input a rest := by
    rw [hreads a input rest, hserialize]
    simp

/-! ## Primitive instances -/

/-- Taking {lit}`count` bytes succeeds exactly on inputs with that long a prefix. -/
theorem readExact_eq_ok_iff {count : Nat} {input front rest : Bytes} :
    readExact count input = .ok (front, rest) ↔
      front.length = count ∧ input = front ++ rest := by
  unfold readExact
  split
  · next hcount =>
      simp only [Except.ok.injEq, Prod.mk.injEq]
      constructor
      · rintro ⟨rfl, rfl⟩
        exact ⟨List.length_take_of_le hcount, (List.take_append_drop count input).symm⟩
      · rintro ⟨hlength, rfl⟩
        subst hlength
        exact ⟨List.take_left .., List.drop_left ..⟩
  · next hcount =>
      simp only [reduceCtorEq, false_iff]
      rintro ⟨hlength, rfl⟩
      rw [List.length_append] at hcount
      omega

/-- Read a fixed number of bytes and interpret them. -/
def readWith {α : Type} (count : Nat) (interpret : Bytes → α) : Reader α := do
  let bytes ← readExact count
  return interpret bytes

/-- A fixed number of bytes is consumed from the front of the input. -/
theorem readWith_eq_ok_iff {α : Type} {count : Nat} {interpret : Bytes → α}
    {input rest : Bytes} {a : α} :
    readWith count interpret input = .ok (a, rest) ↔
      ∃ front, front.length = count ∧ interpret front = a ∧ input = front ++ rest := by
  rw [readWith, bind_eq_ok_iff]
  simp only [readExact_eq_ok_iff, pure_eq_ok_iff]
  constructor
  · rintro ⟨front, tail, ⟨hlength, hinput⟩, hinterpret, rfl⟩
    exact ⟨front, hlength, hinterpret, hinput⟩
  · rintro ⟨front, hlength, hinterpret, hinput⟩
    exact ⟨front, rest, ⟨hlength, hinput⟩, hinterpret, rfl⟩

/-- Fixed-width integers: the reader inverts the little-endian writer whenever
the type is a bijective view of the numbers below {lit}`256 ^ width`. -/
theorem readLe_eq_ok_iff {α : Type} {width : Nat} {ofNat : Nat → α} {toNat : α → Nat}
    (hlt : ∀ a, toNat a < 256 ^ width) (hleft : ∀ a, ofNat (toNat a) = a)
    (hright : ∀ n, n < 256 ^ width → toNat (ofNat n) = n)
    (input : Bytes) (a : α) (rest : Bytes) :
    readWith width (fun bytes => ofNat (leNat bytes)) input = .ok (a, rest) ↔
      ∃ bytes, some (leBytes width (toNat a)) = some bytes ∧ input = bytes ++ rest := by
  rw [readWith_eq_ok_iff]
  simp only [Option.some.injEq, exists_eq_left']
  constructor
  · rintro ⟨front, hlength, rfl, rfl⟩
    have hvalue : leNat front < 256 ^ width := hlength ▸ leNat_lt front
    rw [hright _ hvalue, ← hlength, leBytes_leNat]
  · rintro rfl
    exact ⟨_, leBytes_length .., by rw [leNat_leBytes (hlt a), hleft], rfl⟩

instance : BorshDeserialize UInt16 where
  deserialize := readWith 2 fun bytes => UInt16.ofNat (leNat bytes)

instance : BorshSerialize UInt16 where
  serialize value := some (leBytes 2 value.toNat)

instance : LawfulBorsh UInt16 where
  deserialize_eq_ok_iff :=
    readLe_eq_ok_iff (fun value => value.toNat_lt) (fun _ => UInt16.ofNat_toNat)
      fun _ => UInt16.toNat_ofNat_of_lt'

instance : BorshDeserialize UInt32 where
  deserialize := readWith 4 fun bytes => UInt32.ofNat (leNat bytes)

instance : BorshSerialize UInt32 where
  serialize value := some (leBytes 4 value.toNat)

instance : LawfulBorsh UInt32 where
  deserialize_eq_ok_iff :=
    readLe_eq_ok_iff (fun value => value.toNat_lt) (fun _ => UInt32.ofNat_toNat)
      fun _ => UInt32.toNat_ofNat_of_lt'

instance : BorshDeserialize UInt64 where
  deserialize := readWith 8 fun bytes => UInt64.ofNat (leNat bytes)

instance : BorshSerialize UInt64 where
  serialize value := some (leBytes 8 value.toNat)

instance : LawfulBorsh UInt64 where
  deserialize_eq_ok_iff :=
    readLe_eq_ok_iff (fun value => value.toNat_lt) (fun _ => UInt64.ofNat_toNat)
      fun _ => UInt64.toNat_ofNat_of_lt'

instance : BorshDeserialize Int64 where
  deserialize := readWith 8 fun bytes => (UInt64.ofNat (leNat bytes)).toInt64

instance : BorshSerialize Int64 where
  serialize value := some (leBytes 8 value.toUInt64.toNat)

instance : LawfulBorsh Int64 where
  deserialize_eq_ok_iff :=
    have hlt : ∀ value : Int64, value.toUInt64.toNat < 256 ^ 8 :=
      fun value => value.toUInt64.toNat_lt
    have hleft : ∀ value : Int64, (UInt64.ofNat value.toUInt64.toNat).toInt64 = value := by simp
    readLe_eq_ok_iff hlt hleft fun _ hn => UInt64.toNat_ofNat_of_lt' hn

instance : BorshDeserialize UInt8 where
  deserialize := readWith 1 fun bytes => UInt8.ofNat (leNat bytes)

instance : BorshSerialize UInt8 where
  serialize value := some (leBytes 1 value.toNat)

instance : LawfulBorsh UInt8 where
  deserialize_eq_ok_iff :=
    readLe_eq_ok_iff (fun value => value.toNat_lt) (fun _ => UInt8.ofNat_toNat)
      fun _ => UInt8.toNat_ofNat_of_lt'

/-- A boolean is one byte, and only 0 and 1 are accepted. -/
instance : BorshDeserialize Bool where
  deserialize := do
    let byte ← (deserialize : Reader UInt8)
    if byte = 0 then return false
    else if byte = 1 then return true
    else throw (.invalidBool byte)

instance : BorshSerialize Bool where
  serialize value := serialize (if value then 1 else 0 : UInt8)

instance : LawfulBorsh Bool where
  deserialize_eq_ok_iff input a rest := by
    have hfail : ∀ byte tail, (throw (.invalidBool byte) : Reader Bool) tail ≠ .ok (a, rest) := by
      intro byte tail hthrow
      cases hthrow
    change (_ >>= _ : Reader Bool) input = _ ↔ _
    rw [bind_eq_ok_iff]
    constructor
    · rintro ⟨byte, tail, hread, hnext⟩
      rw [LawfulBorsh.deserialize_eq_ok_iff] at hread
      split_ifs at hnext with hzero hone
      · rcases pure_eq_ok_iff.mp hnext with ⟨rfl, rfl⟩
        subst hzero
        exact hread
      · rcases pure_eq_ok_iff.mp hnext with ⟨rfl, rfl⟩
        subst hone
        exact hread
      · exact absurd hnext (hfail byte tail)
    · intro hbytes
      refine ⟨if a then 1 else 0, rest, ?_, ?_⟩
      · exact (LawfulBorsh.deserialize_eq_ok_iff ..).mpr hbytes
      · cases a <;> exact pure_eq_ok_iff.mpr ⟨rfl, rfl⟩

/-! ## Strings and vectors -/

/-- Length prefix of a string or a vector. -/
def lengthPrefix (length : Nat) : Option Bytes :=
  if length < 2 ^ 32 then serialize (UInt32.ofNat length) else none

/-- Reading a length prefix yields exactly the lengths that fit {lit}`u32`. -/
theorem deserialize_length_eq_ok_iff {input rest : Bytes} {length : UInt32} :
    (deserialize : Reader UInt32) input = .ok (length, rest) ↔
      ∃ bytes, lengthPrefix length.toNat = some bytes ∧ input = bytes ++ rest := by
  rw [LawfulBorsh.deserialize_eq_ok_iff, lengthPrefix, if_pos length.toNat_lt,
    UInt32.ofNat_toNat]

/-- Bytes of a string in UTF-8. -/
def utf8Bytes (s : String) : Bytes :=
  s.toByteArray.data.toList

/-- A string is a length in bytes followed by valid UTF-8. -/
instance : BorshDeserialize String where
  deserialize := do
    let length ← (deserialize : Reader UInt32)
    let bytes ← readExact length.toNat
    match String.fromUTF8? ⟨bytes.toArray⟩ with
    | some s => return s
    | none => throw (.invalidUtf8 bytes)

instance : BorshSerialize String where
  serialize s := concat [lengthPrefix (utf8Bytes s).length, some (utf8Bytes s)]

/-- Read {lit}`count` consecutive elements. -/
def readMany {α : Type} [BorshDeserialize α] : Nat → Reader (List α)
  | 0 => return []
  | count + 1 => do
      let a ← deserialize
      let as ← readMany count
      return a :: as

/-- A vector is a length followed by that many elements. -/
instance {α : Type} [BorshDeserialize α] : BorshDeserialize (List α) where
  deserialize := do
    let length ← (deserialize : Reader UInt32)
    readMany length.toNat

instance {α : Type} [BorshSerialize α] : BorshSerialize (List α) where
  serialize as := concat (lengthPrefix as.length :: as.map serialize)

/-- Bytes are a string exactly when they are its UTF-8 encoding. -/
theorem fromUTF8?_eq_some_iff {bytes : Bytes} {s : String} :
    String.fromUTF8? ⟨bytes.toArray⟩ = some s ↔ utf8Bytes s = bytes := by
  unfold String.fromUTF8? utf8Bytes
  split
  · next hvalid =>
      rw [Option.some.injEq]
      constructor
      · rintro rfl
        rfl
      · rintro rfl
        rfl
  · next hinvalid =>
      simp only [reduceCtorEq, false_iff]
      rintro rfl
      exact hinvalid s.isValidUTF8

/-- What a list is read from starts with the encodings of its items. -/
theorem readMany_eq_ok_iff {α : Type} [BorshDeserialize α] [BorshSerialize α] [LawfulBorsh α]
    {count : Nat} {input rest : Bytes} {as : List α} :
    readMany count input = .ok (as, rest) ↔
      as.length = count ∧
        ∃ bytes, concat (as.map serialize) = some bytes ∧ input = bytes ++ rest := by
  induction count generalizing input rest as with
  | zero =>
      rw [readMany, pure_eq_ok_iff]
      cases as <;> simp
  | succ count ih =>
      rw [readMany, bind_eq_ok_iff]
      simp only [bind_eq_ok_iff, pure_eq_ok_iff, LawfulBorsh.deserialize_eq_ok_iff, ih]
      constructor
      · rintro ⟨a, tail, ⟨front, hfront, rfl⟩, as, tail, ⟨hlength, bytes, hbytes, rfl⟩, rfl, rfl⟩
        refine ⟨by simp [hlength], front ++ bytes, ?_, (List.append_assoc ..).symm⟩
        exact concat_cons_eq_some_iff.mpr ⟨front, bytes, hfront, hbytes, rfl⟩
      · rintro ⟨hlength, bytes, hbytes, rfl⟩
        cases as with
        | nil => simp at hlength
        | cons a as =>
            rcases concat_cons_eq_some_iff.mp hbytes with ⟨front, tail, hfront, htail, rfl⟩
            exact ⟨a, tail ++ rest, ⟨front, hfront, List.append_assoc ..⟩, as, rest,
              ⟨by simpa using hlength, tail, htail, rfl⟩, rfl, rfl⟩

/-- A length prefix exists exactly when the length fits, and then it is the one
encoding of that {lit}`u32`. -/
theorem lengthPrefix_eq_some_iff {length : Nat} {bytes : Bytes} :
    lengthPrefix length = some bytes ↔
      ∃ n : UInt32, n.toNat = length ∧ lengthPrefix n.toNat = some bytes := by
  constructor
  · intro hprefix
    have hlt : length < 2 ^ 32 := by
      by_contra hge
      rw [lengthPrefix, if_neg hge] at hprefix
      cases hprefix
    have hn : (UInt32.ofNat length).toNat = length := UInt32.toNat_ofNat_of_lt' hlt
    exact ⟨UInt32.ofNat length, hn, hn.symm ▸ hprefix⟩
  · rintro ⟨n, rfl, hprefix⟩
    exact hprefix

instance {α : Type} [BorshDeserialize α] [BorshSerialize α] [LawfulBorsh α] :
    LawfulBorsh (List α) where
  deserialize_eq_ok_iff input as rest := by
    change (_ >>= _ : Reader (List α)) input = _ ↔
      ∃ bytes, concat (lengthPrefix as.length :: as.map serialize) = some bytes ∧ _
    simp only [bind_eq_ok_iff, deserialize_length_eq_ok_iff, readMany_eq_ok_iff,
      concat_cons_eq_some_iff]
    constructor
    · rintro ⟨n, tail, ⟨front, hfront, rfl⟩, hlength, bytes, hbytes, rfl⟩
      refine ⟨front ++ bytes, ⟨front, bytes, ?_, hbytes, rfl⟩, (List.append_assoc ..).symm⟩
      rw [hlength, hfront]
    · rintro ⟨bytes, ⟨front, tail, hfront, htail, rfl⟩, rfl⟩
      rcases lengthPrefix_eq_some_iff.mp hfront with ⟨n, hn, hprefix⟩
      exact ⟨n, tail ++ rest, ⟨front, hprefix, List.append_assoc ..⟩, hn.symm, tail, htail, rfl⟩

instance : LawfulBorsh String where
  deserialize_eq_ok_iff input s rest := by
    have hdecode : ∀ (bytes tail : Bytes),
        (match String.fromUTF8? ⟨bytes.toArray⟩ with
          | some s => return s
          | none => throw (.invalidUtf8 bytes) : Reader String) tail = .ok (s, rest) ↔
          utf8Bytes s = bytes ∧ tail = rest := by
      intro bytes tail
      rw [← fromUTF8?_eq_some_iff]
      cases String.fromUTF8? ⟨bytes.toArray⟩ with
      | none =>
          constructor
          · intro hthrow
            cases hthrow
          · rintro ⟨hnone, _⟩
            cases hnone
      | some decoded => simp only [pure_eq_ok_iff, Option.some.injEq]
    change (_ >>= _ : Reader String) input = _ ↔
      ∃ bytes, concat [lengthPrefix (utf8Bytes s).length, some (utf8Bytes s)] = some bytes ∧ _
    simp only [bind_eq_ok_iff, deserialize_length_eq_ok_iff, readExact_eq_ok_iff, hdecode,
      concat_cons_eq_some_iff]
    constructor
    · rintro ⟨n, tail, ⟨front, hfront, rfl⟩, bytes, tail, ⟨hlength, rfl⟩, rfl, rfl⟩
      refine ⟨front ++ utf8Bytes s, ⟨front, utf8Bytes s, ?_, ?_, rfl⟩,
        (List.append_assoc ..).symm⟩
      · rw [hlength, hfront]
      · exact ⟨utf8Bytes s, [], rfl, rfl, (List.append_nil _).symm⟩
    · rintro ⟨bytes, ⟨front, tail, hfront, ⟨text, empty, htext, hempty, rfl⟩, rfl⟩, rfl⟩
      rcases lengthPrefix_eq_some_iff.mp hfront with ⟨n, hn, hprefix⟩
      cases htext
      cases hempty
      refine ⟨n, utf8Bytes s ++ rest, ⟨front, hprefix, by simp⟩, utf8Bytes s, rest,
        ⟨hn.symm, rfl⟩, rfl, rfl⟩

/-! ## Which values have an encoding -/

/-- A record has an encoding exactly when all of its fields have one. -/
theorem concat_isSome_iff {fields : List (Option Bytes)} :
    (concat fields).isSome ↔ ∀ field ∈ fields, field.isSome := by
  induction fields with
  | nil => simp
  | cons field fields ih =>
      rw [List.forall_mem_cons, ← ih]
      cases field <;> cases hrest : concat fields <;> simp [concat, hrest]

/-- A {lit}`u16` takes two bytes. -/
@[simp]
theorem serialize_u16 (n : UInt16) : serialize n = some (leBytes 2 n.toNat) :=
  rfl

/-- A {lit}`u64` takes eight bytes. -/
@[simp]
theorem serialize_u64 (n : UInt64) : serialize n = some (leBytes 8 n.toNat) :=
  rfl

/-- An {lit}`i64` takes the eight bytes of its two's complement. -/
@[simp]
theorem serialize_i64 (n : Int64) : serialize n = some (leBytes 8 n.toUInt64.toNat) :=
  rfl

/-- A truth value takes one byte, which is 0 or 1. -/
@[simp]
theorem serialize_bool (b : Bool) : serialize b = some [if b then 1 else 0] := by
  cases b <;> rfl

/-- A length has a prefix exactly when it is a {lit}`u32`. -/
theorem lengthPrefix_isSome_iff {length : Nat} :
    (lengthPrefix length).isSome ↔ length < 2 ^ 32 := by
  unfold lengthPrefix
  split
  · next hlt => exact iff_of_true rfl hlt
  · next hge => exact iff_of_false Bool.false_ne_true hge

/-- A string has an encoding when its length in bytes fits {lit}`u32`. -/
theorem serialize_string_isSome_iff {s : String} :
    (serialize s).isSome ↔ (utf8Bytes s).length < 2 ^ 32 := by
  change (concat [lengthPrefix (utf8Bytes s).length, some (utf8Bytes s)]).isSome ↔ _
  simp [concat_isSome_iff, lengthPrefix_isSome_iff]

/-- A vector has an encoding when its length fits {lit}`u32` and its elements have one. -/
theorem serialize_list_isSome_iff {α : Type} [BorshSerialize α] {as : List α} :
    (serialize as).isSome ↔ as.length < 2 ^ 32 ∧ ∀ a ∈ as, (serialize a).isSome := by
  change (concat (lengthPrefix as.length :: as.map serialize)).isSome ↔ _
  simp [concat_isSome_iff, lengthPrefix_isSome_iff]

/-! ## Payload prefixes -/

/-- What a lawful encoding promises about payloads that may carry appended
bytes: acceptance is exactly "an encoding, then anything". -/
structure PrefixCodec {α ε : Type} (decode : Bytes → Except ε α)
    (encode : α → Option Bytes) : Prop where
  decode_eq_ok_iff : ∀ payload a,
    decode payload = .ok a ↔ ∃ bytes rest, encode a = some bytes ∧ payload = bytes ++ rest
  round_trip : ∀ a bytes, encode a = some bytes → decode bytes = .ok a
  unique : ∀ a a' bytes bytes' rest rest', encode a = some bytes → encode a' = some bytes' →
    bytes ++ rest = bytes' ++ rest' → a = a' ∧ bytes = bytes' ∧ rest = rest'
  append : ∀ payload a rest, decode payload = .ok a → decode (payload ++ rest) = .ok a
  truncate : ∀ a bytes cut, encode a = some bytes → cut < bytes.length →
    ∃ error, decode (bytes.take cut) = .error error

/-- The law of a reader gives the whole contract of the decoder that drops the
bytes left over. -/
theorem LawfulBorsh.prefixCodec {α ε : Type} [BorshDeserialize α] [BorshSerialize α]
    [LawfulBorsh α] {decode : Bytes → Except ε α}
    (hdecode : ∀ payload a, decode payload = .ok a ↔
      ∃ rest, (deserialize : Reader α) payload = .ok (a, rest)) :
    PrefixCodec decode serialize := by
  have hiff : ∀ payload a, decode payload = .ok a ↔
      ∃ bytes rest, serialize a = some bytes ∧ payload = bytes ++ rest := by
    intro payload a
    rw [hdecode]
    constructor
    · rintro ⟨rest, hread⟩
      rcases (LawfulBorsh.deserialize_eq_ok_iff ..).mp hread with ⟨bytes, hbytes, hpayload⟩
      exact ⟨bytes, rest, hbytes, hpayload⟩
    · rintro ⟨bytes, rest, hbytes, hpayload⟩
      exact ⟨rest, (LawfulBorsh.deserialize_eq_ok_iff ..).mpr ⟨bytes, hbytes, hpayload⟩⟩
  have hunique : ∀ (a a' : α) (bytes bytes' rest rest' : Bytes), serialize a = some bytes →
      serialize a' = some bytes' → bytes ++ rest = bytes' ++ rest' →
        a = a' ∧ bytes = bytes' ∧ rest = rest' := by
    intro a a' bytes bytes' rest rest' ha ha' happend
    -- Both readings start from the same input, and the reader is a function.
    have hread := (LawfulBorsh.deserialize_eq_ok_iff (bytes ++ rest) a rest).mpr ⟨bytes, ha, rfl⟩
    have hread' := (LawfulBorsh.deserialize_eq_ok_iff (bytes ++ rest) a' rest').mpr
      ⟨bytes', ha', happend⟩
    rw [hread] at hread'
    simp only [Except.ok.injEq, Prod.mk.injEq] at hread'
    rcases hread' with ⟨rfl, rfl⟩
    rw [ha] at ha'
    cases ha'
    exact ⟨rfl, rfl, rfl⟩
  refine ⟨hiff, ?_, hunique, ?_, ?_⟩
  · intro a bytes hbytes
    exact (hiff bytes a).mpr ⟨bytes, [], hbytes, (List.append_nil _).symm⟩
  · intro payload a rest hpayload
    rcases (hiff payload a).mp hpayload with ⟨bytes, tail, hbytes, rfl⟩
    exact (hiff _ a).mpr ⟨bytes, tail ++ rest, hbytes, List.append_assoc ..⟩
  · intro a bytes cut hbytes hcut
    cases hresult : decode (bytes.take cut) with
    | error error => exact ⟨error, rfl⟩
    | ok a' =>
        -- An accepted truncation would be a second, shorter encoding inside the first.
        rcases (hiff _ a').mp hresult with ⟨bytes', rest', hbytes', htake⟩
        have happend : bytes ++ [] = bytes' ++ (rest' ++ bytes.drop cut) := by
          rw [← List.append_assoc, ← htake, List.take_append_drop, List.append_nil]
        rcases hunique a a' _ _ _ _ hbytes hbytes' happend with ⟨-, -, hrest⟩
        have hdrop : bytes.drop cut = [] := (List.append_eq_nil_iff.mp hrest.symm).2
        have hlength := congrArg List.length hdrop
        rw [List.length_drop, List.length_nil] at hlength
        omega

end Borsh
