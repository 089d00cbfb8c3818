import PumpRealtimePrices.Crates

/-!
# Shared parsing primitives

Instruction views, storage-facing events and protocol errors, and the decoder
of event payloads that all protocol parsers share.

Main results:

- Theorem {lit}`eventData_eq_iff`: the data of an event are its tag, its discriminator
  and its payload.
- Theorem {lit}`decodeEventPrefix_eq_ok_iff`: the decoder succeeds with whatever
  the reader finds at the front of the payload.
- Theorem {lit}`decodeEventPrefix_prefixCodec`: for a lawful event type it is the
  prefix decoder of its encoding.
-/

namespace PumpRealtimePrices

open Borsh

/-! ## Errors -/

/-- Errors raised while interpreting normalized instruction data. -/
inductive ParseError where
  | programMismatch (expected actual : String)
  | missingAccounts (expectedAtLeast actual : Nat)
  | dataTooShort (expectedAtLeast actual : Nat)
  | invalidInstructionData (reason : String)
deriving DecidableEq, Repr

/-- Text of an error. -/
def ParseError.display : ParseError → String
  | .programMismatch expected actual => s!"expected program {expected}, found {actual}"
  | .missingAccounts expectedAtLeast actual =>
      s!"expected at least {expectedAtLeast} accounts, found {actual}"
  | .dataTooShort expectedAtLeast actual =>
      s!"expected at least {expectedAtLeast} instruction data bytes, found {actual}"
  | .invalidInstructionData reason => s!"invalid instruction data: {reason}"

/-- Result type shared by all instruction parsers. -/
abbrev ParseResult (α : Type) := Except ParseError α

/-! ## Instruction views -/

/-- A normalized instruction: resolved addresses and decoded data. -/
structure InstructionView where
  programId : String
  accounts : List String
  data : Bytes
deriving DecidableEq, Repr

/-- The instruction given to a protocol parser, with the one that called it when known. -/
structure InstructionContext where
  instruction : InstructionView
  parent : Option InstructionView
deriving DecidableEq, Repr

namespace InstructionContext

/-- Context of an instruction without a known caller. -/
def new (programId : String) (accounts : List String) (data : Bytes) : InstructionContext where
  instruction := { programId, accounts, data }
  parent := none

/-- Associate an instruction with the invocation that called it. -/
def withParentInstruction (ctx parent : InstructionContext) : InstructionContext :=
  { ctx with parent := some parent.instruction }

/-- The immediate calling instruction, itself without a parent. -/
def parentInstruction (ctx : InstructionContext) : Option InstructionContext :=
  ctx.parent.map fun instruction => { instruction, parent := none }

/-- Program address that owns the instruction. -/
def programId (ctx : InstructionContext) : String :=
  ctx.instruction.programId

/-- Account addresses in their original order. -/
def accounts (ctx : InstructionContext) : List String :=
  ctx.instruction.accounts

/-- Decoded instruction data. -/
def data (ctx : InstructionContext) : Bytes :=
  ctx.instruction.data

/-- Account at an index. -/
def account (ctx : InstructionContext) (index : Nat) : ParseResult String :=
  match ctx.accounts[index]? with
  | some address => .ok address
  | none => .error (.missingAccounts (index + 1) ctx.accounts.length)

/-- Verify that the instruction belongs to {lit}`expected`. -/
def ensureProgramId (ctx : InstructionContext) (expected : String) : ParseResult Unit :=
  if ctx.programId = expected then .ok ()
  else .error (.programMismatch expected ctx.programId)

/-- Verify that the instruction has at least {lit}`expectedAtLeast` data bytes. -/
def ensureDataLen (ctx : InstructionContext) (expectedAtLeast : Nat) : ParseResult Unit :=
  if expectedAtLeast ≤ ctx.data.length then .ok ()
  else .error (.dataTooShort expectedAtLeast ctx.data.length)

/-- An account is found at its index. -/
@[simp]
theorem account_eq_ok_iff (ctx : InstructionContext) (index : Nat) (address : String) :
    ctx.account index = .ok address ↔ ctx.accounts[index]? = some address := by
  unfold account
  cases ctx.accounts[index]? <;> simp

/-- The check of the program passes exactly for the expected one. -/
@[simp]
theorem ensureProgramId_eq_ok_iff (ctx : InstructionContext) (expected : String) :
    ctx.ensureProgramId expected = .ok () ↔ ctx.programId = expected := by
  unfold ensureProgramId
  split <;> simp [*]

/-- The check of the length passes exactly where there are enough bytes. -/
@[simp]
theorem ensureDataLen_eq_ok_iff (ctx : InstructionContext) (expectedAtLeast : Nat) :
    ctx.ensureDataLen expectedAtLeast = .ok () ↔ expectedAtLeast ≤ ctx.data.length := by
  unfold ensureDataLen
  split <;> simp [*]

/-- An account is missing exactly where the list ends before its index. -/
theorem account_eq_error_iff {ctx : InstructionContext} {index : Nat} {error : ParseError} :
    ctx.account index = .error error ↔
      ctx.accounts.length ≤ index ∧
        error = .missingAccounts (index + 1) ctx.accounts.length := by
  rw [← List.getElem?_eq_none_iff]
  unfold account
  cases ctx.accounts[index]? <;> simp [eq_comm]

/-- The check of the length fails exactly where bytes are missing, and names both lengths.
-/
theorem ensureDataLen_eq_error_iff {ctx : InstructionContext} {expectedAtLeast : Nat}
    {error : ParseError} :
    ctx.ensureDataLen expectedAtLeast = .error error ↔
      ctx.data.length < expectedAtLeast ∧
        error = .dataTooShort expectedAtLeast ctx.data.length := by
  rw [← Nat.not_le]
  unfold ensureDataLen
  split <;> simp [*, eq_comm]

end InstructionContext

/-! ## Events -/

/-- A token discovered by a protocol parser. -/
structure TokenDiscovery where
  mint : String
  creator : String
  name : String
  symbol : String
  uri : String
deriving DecidableEq, Repr

/-- A swap between two tokens, with raw amounts in each mint's base units. -/
structure TokenSwap where
  user : String
  pool : String
  baseMint : Option String
  quoteMint : Option String
  inputMint : String
  inputAmount : UInt64
  outputMint : String
  outputAmount : UInt64
deriving DecidableEq, Repr

/-- Storage-facing event produced by parsing one protocol instruction. -/
inductive ParsedEvent where
  | tokenDiscovery (discovery : TokenDiscovery)
  | tokenSwap (swap : TokenSwap)
deriving DecidableEq, Repr

/-- Common interface of the protocol instruction parsers. -/
structure InstructionParser where
  programId : String
  parseInstruction : InstructionContext → ParseResult (Option ParsedEvent)

/-! ## Event headers -/

/-- An event is its tag, its discriminator and its payload. -/
theorem eventData_eq_iff {tag discriminator payload data : Bytes} {headerLen : Nat}
    (hheaderLen : headerLen = tag.length + discriminator.length) :
    data = tag ++ discriminator ++ payload ↔
      tag <+: data ∧ headerLen ≤ data.length ∧
        (data.take headerLen).drop tag.length = discriminator ∧ payload = data.drop headerLen := by
  rw [hheaderLen]
  constructor
  · intro hdata
    rw [hdata, List.append_assoc, List.take_length_add_append, List.drop_left, List.take_left,
      List.drop_length_add_append, List.drop_left]
    refine ⟨List.prefix_append _ _, ?_, rfl, rfl⟩
    rw [List.length_append, List.length_append]
    omega
  · intro hheader
    rcases hheader with ⟨⟨rest, rfl⟩, -, hdiscriminator, rfl⟩
    rw [List.take_length_add_append, List.drop_left] at hdiscriminator
    have hrest := List.take_append_drop discriminator.length rest
    rw [hdiscriminator] at hrest
    rw [List.drop_length_add_append, List.append_assoc, hrest]

/-! ## Event payloads -/

/-- Deserialize the leading fields of an Anchor event payload and ignore the
bytes left after them. -/
def decodeEventPrefix {α : Type} [BorshDeserialize α] (payload : Bytes) (event : String) :
    ParseResult α :=
  match (deserialize : Reader α) payload with
  | .ok (value, _) => .ok value
  | .error error =>
      .error (.invalidInstructionData s!"{event} is not a valid payload: {error.display}")

/-- An event is decoded from a prefix of the payload; any bytes may follow. -/
theorem decodeEventPrefix_eq_ok_iff {α : Type} [BorshDeserialize α] {payload : Bytes}
    {event : String} {value : α} :
    decodeEventPrefix payload event = .ok value ↔
      ∃ rest, (deserialize : Reader α) payload = .ok (value, rest) := by
  unfold decodeEventPrefix
  rcases (deserialize : Reader α) payload with error | ⟨decoded, rest⟩ <;> simp

/-- The only error is that of the decoder, with the name of the event. -/
theorem decodeEventPrefix_eq_error_iff {α : Type} [BorshDeserialize α] {payload : Bytes}
    {event : String} {error : ParseError} :
    (decodeEventPrefix payload event : ParseResult α) = .error error ↔
      ∃ source, (deserialize : Reader α) payload = .error source ∧
        error = .invalidInstructionData s!"{event} is not a valid payload: {source.display}" := by
  unfold decodeEventPrefix
  rcases (deserialize : Reader α) payload with source | ⟨decoded, rest⟩ <;> simp [eq_comm]

/-- For a lawful event type the decoder accepts exactly an encoding followed by
appended bytes. -/
theorem decodeEventPrefix_prefixCodec (α : Type) [BorshDeserialize α] [BorshSerialize α]
    [LawfulBorsh α] (event : String) :
    PrefixCodec (fun payload => (decodeEventPrefix payload event : ParseResult α)) serialize :=
  LawfulBorsh.prefixCodec fun _ _ => decodeEventPrefix_eq_ok_iff

end PumpRealtimePrices
