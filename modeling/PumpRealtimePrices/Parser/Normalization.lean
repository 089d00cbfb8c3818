import PumpRealtimePrices.Library.Rust
import PumpRealtimePrices.Parser.Transaction

/-!
# Normalization of one instruction

What is known of an instruction after its normalization, successful or not.  The
program address comes first: an instruction whose address does not resolve is
reported without a program, an unconfigured one is not reported at all, and every
later failure is reported under its program.

Main results:

- Theorem {lit}`normalizeInstruction_eq_ok`: a normalized instruction belongs to a
  configured program, and its height is the observed one.
- Theorem {lit}`normalizeInstruction_eq_error`: failures of a configured program.
- Theorem {lit}`normalizeInstruction_congr`: the registry matters only for whether
  the program is configured.
-/

namespace PumpRealtimePrices
namespace Parser

open SerdeJson

variable {crates : Crates} {registry : ParserRegistry} {accountKeys : List String}
  {inner : Option Nat} {instruction : Value}

/-- A null or absent height reads as no height, and any other height of a
configured instruction reads as itself. -/
theorem readStackHeight_eq_ok {programId : String} {stackHeight : Option UInt32}
    (hread : readStackHeight programId instruction = .ok stackHeight) :
    stackHeight = observedStackHeight instruction := by
  unfold readStackHeight at hread
  unfold observedStackHeight
  split at hread
  · next hnone =>
      rw [hnone, ← Except.ok.inj hread]
      rfl
  · next hnull =>
      rw [hnull, ← Except.ok.inj hread]
      rfl
  · next value _ hvalue =>
      rw [hvalue, Option.bind_some]
      split at hread
      · next height hheight => rw [hheight, ← Except.ok.inj hread]
      · cases hread

/-- What is known of an instruction that could be normalized. -/
theorem normalizeInstruction_eq_ok {normalized : NormalizedInstruction}
    {stackHeight : Option UInt32}
    (hnormalize : normalizeInstruction crates registry accountKeys inner instruction =
      .ok (normalized, stackHeight)) :
    resolveProgramId instruction accountKeys = .ok normalized.programId ∧
      isConfigured registry normalized.programId = true ∧
      readStackHeight normalized.programId instruction = .ok stackHeight ∧
      normalized.invocationHeight = stackHeight.or (if inner.isNone then some 1 else none) := by
  unfold normalizeInstruction at hnormalize
  simp only [Rust.except_bind_eq_ok_iff, Rust.throw_if_eq_ok_iff, pure, Except.pure] at hnormalize
  rcases hnormalize with
    ⟨programId, hprogram, hconfigured, height, hheight, indexes, -, accounts, -, data, -, heq⟩
  rcases Prod.mk.inj (Except.ok.inj heq) with ⟨rfl, rfl⟩
  exact ⟨hprogram, not_not.mp hconfigured, hheight, rfl⟩

/-- An instruction of a configured program whose fields can all be read is normalized. -/
theorem normalizeInstruction_of_fields {programId : String} {stackHeight : Option UInt32}
    {accountIndexes : List Value} {accounts : List String} {data : Borsh.Bytes}
    (hprogram : resolveProgramId instruction accountKeys = .ok programId)
    (hconfigured : isConfigured registry programId = true)
    (hheight : readStackHeight programId instruction = .ok stackHeight)
    (hindexes : (instruction.get "accounts").bind Value.asArray = some accountIndexes)
    (haccounts : resolveAccounts programId stackHeight accountKeys accountIndexes = .ok accounts)
    (hdata : decodeData crates programId stackHeight instruction = .ok data) :
    normalizeInstruction crates registry accountKeys inner instruction =
      .ok (⟨programId, accounts, data,
        stackHeight.or (if inner.isNone then some 1 else none)⟩, stackHeight) := by
  unfold normalizeInstruction
  simp only [hprogram, hheight, hindexes, haccounts, hdata, hconfigured, Rust.okOr, Rust.ok_bind,
    not_true_eq_false, if_false, pure, Except.pure]

/-- A program address that does not resolve is reported without one. -/
theorem resolveProgramId_eq_error {rejection : Rejection}
    (herror : resolveProgramId instruction accountKeys = .error rejection) :
    ∃ error, rejection = .failed none none error := by
  unfold resolveProgramId at herror
  simp only [Rust.except_bind_eq_error_iff, Rust.okOr_eq_error_iff, Rust.okOr_eq_ok_iff] at herror
  rcases herror with ⟨-, rfl⟩ | ⟨index, -, -, rfl⟩ <;> exact ⟨_, rfl⟩

/-- An error of the accounts is reported under the program and the stack height. -/
theorem resolveAccounts_eq_error {programId : String} {stackHeight : Option UInt32}
    {accountIndexes : List Value} {rejection : Rejection}
    (herror : resolveAccounts programId stackHeight accountKeys accountIndexes =
      .error rejection) :
    ∃ error, rejection = .failed (some programId) stackHeight error := by
  rcases Rust.exists_mem_of_mapM_eq_error herror with ⟨value, -, hvalue⟩
  simp only [Rust.except_bind_eq_error_iff, Rust.okOr_eq_error_iff, Rust.okOr_eq_ok_iff] at hvalue
  rcases hvalue with ⟨-, rfl⟩ | ⟨index, -, -, rfl⟩ <;> exact ⟨_, rfl⟩

/-- An error of the data is reported under the program and the stack height. -/
theorem decodeData_eq_error {programId : String} {stackHeight : Option UInt32}
    {rejection : Rejection}
    (herror : decodeData crates programId stackHeight instruction = .error rejection) :
    ∃ error, rejection = .failed (some programId) stackHeight error := by
  unfold decodeData at herror
  simp only [Rust.except_bind_eq_error_iff, Rust.okOr_eq_error_iff, Rust.okOr_eq_ok_iff] at herror
  rcases herror with ⟨-, rfl⟩ | ⟨encodedData, -, herror⟩
  · exact ⟨_, rfl⟩
  · split at herror
    · rcases Except.error.inj herror with rfl
      exact ⟨_, rfl⟩
    · rcases hdecode : crates.bs58Decode encodedData with error | data
      · rw [hdecode] at herror
        exact ⟨_, (Except.error.inj herror).symm⟩
      · rw [hdecode] at herror
        cases herror

/-- An instruction of a configured program that cannot be normalized is reported
under that program. -/
theorem normalizeInstruction_eq_error {programId : String} {rejection : Rejection}
    (hprogram : resolveProgramId instruction accountKeys = .ok programId)
    (hconfigured : isConfigured registry programId = true)
    (herror : normalizeInstruction crates registry accountKeys inner instruction =
      .error rejection) :
    ∃ stackHeight error, rejection = .failed (some programId) stackHeight error := by
  unfold normalizeInstruction at herror
  simp only [hprogram, Rust.ok_bind, hconfigured, not_true_eq_false, if_false,
    Rust.except_bind_eq_error_iff, Rust.okOr_eq_error_iff] at herror
  rcases herror with hheight | ⟨stackHeight, -, herror⟩
  · unfold readStackHeight at hheight
    split at hheight
    · cases hheight
    · cases hheight
    · split at hheight
      · cases hheight
      · exact ⟨none, _, (Except.error.inj hheight).symm⟩
  · refine ⟨stackHeight, ?_⟩
    rcases herror with ⟨-, rfl⟩ | ⟨indexes, -, haccounts | ⟨accounts, -, hdata | ⟨data, -, hpure⟩⟩⟩
    · exact ⟨_, rfl⟩
    · exact resolveAccounts_eq_error haccounts
    · exact decodeData_eq_error hdata
    · cases hpure

/-- The registry matters only for whether the program is configured. -/
theorem normalizeInstruction_congr {registry' : ParserRegistry} {programId : String}
    (hprogram : resolveProgramId instruction accountKeys = .ok programId)
    (hconfigured : isConfigured registry programId = isConfigured registry' programId) :
    normalizeInstruction crates registry accountKeys inner instruction =
      normalizeInstruction crates registry' accountKeys inner instruction := by
  unfold normalizeInstruction
  rw [hprogram, Rust.ok_bind, Rust.ok_bind, hconfigured]

/-- Without a program address the rest of an instruction is not looked at. -/
theorem normalizeInstruction_of_unresolved {rejection : Rejection}
    (hprogram : resolveProgramId instruction accountKeys = .error rejection) :
    normalizeInstruction crates registry accountKeys inner instruction = .error rejection := by
  unfold normalizeInstruction
  rw [hprogram]
  rfl

/-- The rest of an instruction of another program is not looked at. -/
theorem normalizeInstruction_of_unconfigured {programId : String}
    (hprogram : resolveProgramId instruction accountKeys = .ok programId)
    (hconfigured : isConfigured registry programId = false) :
    normalizeInstruction crates registry accountKeys inner instruction = .error .unconfigured := by
  unfold normalizeInstruction
  rw [hprogram, Rust.ok_bind, hconfigured]
  rfl

end Parser
end PumpRealtimePrices
