import PumpRealtimePrices.Library.Base58
import PumpRealtimePrices.Library.Borsh

/-!
# Third-party crates

The program decodes instruction data and addresses with {lit}`bs58` and
{lit}`solana_pubkey`.  Their code is not part of the repository, so what the
program calls is a parameter, as is the debug text of strings in error messages.
{lit}`Crates.Documented` states the documented behaviour that results about addresses
rely on: both crates use standard Base58.

Main results:

- Theorem {lit}`Crates.Documented.length_le`: an address takes at most 44
  characters.
- Definition {lit}`Crates.reference` with {lit}`Crates.reference_documented`: the
  assumptions hold for the textbook implementation.
-/

namespace PumpRealtimePrices

open Borsh

/-! ## Addresses -/

/-- A 32-byte account address. -/
structure Pubkey where
  bytes : Bytes
  length_bytes : bytes.length = 32
deriving DecidableEq

namespace Pubkey

/-- The default address, all of whose bytes are zero. -/
def default : Pubkey where
  bytes := List.replicate 32 0
  length_bytes := rfl

/-- An address is read as its 32 bytes. -/
instance : BorshDeserialize Pubkey where
  deserialize := fun input =>
    if h : 32 ≤ input.length then
      .ok (⟨input.take 32, List.length_take_of_le h⟩, input.drop 32)
    else .error .unexpectedLength

instance : BorshSerialize Pubkey where
  serialize address := some address.bytes

/-- An address is encoded as its 32 bytes. -/
@[simp]
theorem serialize_eq (address : Pubkey) : serialize address = some address.bytes :=
  rfl

instance : LawfulBorsh Pubkey where
  deserialize_eq_ok_iff input address rest := by
    have hread : (deserialize : Reader Pubkey) input = .ok (address, rest) ↔
        readExact 32 input = .ok (address.bytes, rest) := by
      change (if h : 32 ≤ input.length then _ else _) = _ ↔ _
      unfold readExact
      split
      · rcases address with ⟨bytes, hbytes⟩
        simp
      · simp
    rw [hread, readExact_eq_ok_iff]
    simp only [BorshSerialize.serialize, Option.some.injEq, exists_eq_left', address.length_bytes,
      true_and]

end Pubkey

/-! ## Crate functions -/

/-- The functions that the program calls in third-party crates. -/
structure Crates where
  /-- {lit}`bs58::decode(text).into_vec()`, with the text of the error. -/
  bs58Decode : String → Except String Bytes
  /-- {lit}`Pubkey::to_string`. -/
  pubkeyToString : Pubkey → String
  /-- {lit}`Pubkey::try_from` on a string, with the text of the error. -/
  pubkeyTryFrom : String → Except String Pubkey
  /-- {lit}`Pubkey::find_program_address`, the address without its bump seed. -/
  findProgramAddress : List Bytes → Pubkey → Pubkey
  /-- Debug text of a string; it depends on a table of printable characters. -/
  debugString : String → String

namespace Crates

/-- Documented behaviour of the crates: standard Base58 in both directions. -/
structure Documented (crates : Crates) : Prop where
  bs58Decode_eq_ok_iff : ∀ text bytes,
    crates.bs58Decode text = .ok bytes ↔ text = Base58.encode bytes
  pubkeyToString_eq : ∀ address, crates.pubkeyToString address = Base58.encode address.bytes
  pubkeyTryFrom_eq_ok_iff : ∀ text address,
    crates.pubkeyTryFrom text = .ok address ↔ text = Base58.encode address.bytes

/-- An address is printed with at most 44 characters. -/
theorem Documented.length_le {crates : Crates} (hcrates : crates.Documented)
    (address : Pubkey) : (crates.pubkeyToString address).length ≤ 44 := by
  rw [hcrates.pubkeyToString_eq]
  apply Base58.encode_length_le
  rw [address.length_bytes]
  norm_num

/-- Printing an address that was read gives the text it was read from. -/
theorem Documented.toString_of_tryFrom {crates : Crates} (hcrates : crates.Documented)
    {text : String} {address : Pubkey} (htext : crates.pubkeyTryFrom text = .ok address) :
    crates.pubkeyToString address = text := by
  rw [hcrates.pubkeyToString_eq]
  exact ((hcrates.pubkeyTryFrom_eq_ok_iff text address).mp htext).symm

/-- Different addresses have different texts. -/
theorem Documented.toString_injective {crates : Crates} (hcrates : crates.Documented)
    {address address' : Pubkey}
    (htext : crates.pubkeyToString address = crates.pubkeyToString address') :
    address = address' := by
  rw [hcrates.pubkeyToString_eq, hcrates.pubkeyToString_eq] at htext
  have hbytes := Base58.encode_injective htext
  cases address
  cases address'
  simp_all

/-- The textbook implementation, with the program-derived addresses as a table. -/
def reference (findProgramAddress : List Bytes → Pubkey → Pubkey) : Crates where
  bs58Decode text :=
    match Base58.decode text with
    | some bytes => .ok bytes
    | none => .error "provided string contained invalid character"
  pubkeyToString address := Base58.encode address.bytes
  pubkeyTryFrom text :=
    match Base58.decode text with
    | some bytes =>
        if h : bytes.length = 32 then .ok ⟨bytes, h⟩ else .error "String is the wrong size"
    | none => .error "Invalid Base58 string"
  findProgramAddress := findProgramAddress
  debugString text := "\"" ++ text ++ "\""

/-- The textbook crates behave as documented. -/
theorem reference_documented (findProgramAddress : List Bytes → Pubkey → Pubkey) :
    (reference findProgramAddress).Documented where
  bs58Decode_eq_ok_iff text bytes := by
    rw [← Base58.decode_eq_some_iff]
    simp only [reference]
    cases Base58.decode text <;> simp
  pubkeyToString_eq _ := rfl
  pubkeyTryFrom_eq_ok_iff text address := by
    rw [← Base58.decode_eq_some_iff]
    simp only [reference]
    cases Base58.decode text with
    | none => simp
    | some bytes =>
        rcases address with ⟨addressBytes, hlength⟩
        by_cases hbytes : bytes.length = 32
        · simp [hbytes]
        · simp only [hbytes, dif_neg, not_false_eq_true, reduceCtorEq, Option.some.injEq,
            false_iff]
          rintro rfl
          exact hbytes hlength

end Crates

end PumpRealtimePrices
