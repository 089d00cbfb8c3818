import PumpRealtimePrices.Programs.Correlation
import PumpRealtimePrices.Programs.TradeFees

/-!
# The instructions that the parsers refuse

An instruction that carries one of the modelled events may still be refused.  The error then
describes a defect of the instruction, or of the one that called it, and an instruction with
a defect is never accepted, although the error may describe another of its defects.

Main results:

- Theorem {lit}`afterHeader_eq_error_iff`: what both parsers check before they read an event.
- Theorems {lit}`Pumpfun.eventDefect_of_parseInstruction` and
  {lit}`Pumpswap.eventDefect_of_parseInstruction`: every error describes a defect.
- Theorems {lit}`Pumpfun.exists_error_of_eventDefect` and
  {lit}`Pumpswap.exists_error_of_eventDefect`: every defect is refused.
-/

namespace PumpRealtimePrices

open Borsh

/-! ## Headers -/

/-- The data of an instruction is an event with one of the discriminators. -/
def Carries (tag : Bytes) (discriminators : List Bytes) (data : Bytes) : Prop :=
  ∃ discriminator ∈ discriminators, ∃ payload, data = tag ++ discriminator ++ payload

/-- What an error says about the header of an event self-CPI: its length, or its authority. -/
inductive HeaderDefect (tag : Bytes) (discriminators : List Bytes) (authority message : String)
    (instruction : InstructionView) : ParseError → Prop
  | data (htag : tag <+: instruction.data) (hshort : instruction.data.length < 16) :
      HeaderDefect tag discriminators authority message instruction
        (.dataTooShort 16 instruction.data.length)
  | account (hcarries : Carries tag discriminators instruction.data)
      (hnone : instruction.accounts = []) :
      HeaderDefect tag discriminators authority message instruction (.missingAccounts 1 0)
  | authority (hcarries : Carries tag discriminators instruction.data) (account : String)
      (haccount : instruction.accounts[0]? = some account) (hother : account ≠ authority) :
      HeaderDefect tag discriminators authority message instruction
        (.invalidInstructionData message)

section Headers

variable {ctx : InstructionContext} {tag first second : Bytes} {headerLen : Nat}
  {authority message : String} {rest : ParseResult (Option ParsedEvent)} {error : ParseError}

/-- Data carries one of two events exactly when it has the tag, a header and one of their
discriminators. -/
theorem carries_iff (hfirst : headerLen = tag.length + first.length)
    (hsecond : headerLen = tag.length + second.length) {data : Bytes} :
    Carries tag [first, second] data ↔
      tag <+: data ∧ headerLen ≤ data.length ∧
        ((data.take headerLen).drop tag.length = first ∨
          (data.take headerLen).drop tag.length = second) := by
  constructor
  · intro hcarries
    rcases hcarries with ⟨discriminator, hmem, payload, hdata⟩
    rcases List.mem_pair.mp hmem with rfl | rfl
    · rcases (eventData_eq_iff hfirst).mp hdata with ⟨htag, hlength, hdiscriminator, -⟩
      exact ⟨htag, hlength, .inl hdiscriminator⟩
    · rcases (eventData_eq_iff hsecond).mp hdata with ⟨htag, hlength, hdiscriminator, -⟩
      exact ⟨htag, hlength, .inr hdiscriminator⟩
  · intro hheader
    rcases hheader with ⟨htag, hlength, hdiscriminator | hdiscriminator⟩
    · exact ⟨first, List.mem_cons_self, _,
        (eventData_eq_iff hfirst).mpr ⟨htag, hlength, hdiscriminator, rfl⟩⟩
    · exact ⟨second, List.mem_cons_of_mem _ List.mem_cons_self, _,
        (eventData_eq_iff hsecond).mpr ⟨htag, hlength, hdiscriminator, rfl⟩⟩

/-- What both parsers check before they read an event. -/
def afterHeader (tag first second : Bytes) (headerLen : Nat) (authority message : String)
    (ctx : InstructionContext) (rest : ParseResult (Option ParsedEvent)) :
    ParseResult (Option ParsedEvent) := do
  if ¬ tag <+: ctx.data then
    return none
  ctx.ensureDataLen headerLen
  if (ctx.data.take headerLen).drop tag.length ≠ first ∧
      (ctx.data.take headerLen).drop tag.length ≠ second then
    return none
  if (← ctx.account 0) ≠ authority then
    throw (.invalidInstructionData message)
  rest

/-- An instruction without an event fails only for a header that is cut off. -/
theorem afterHeader_of_not_carries (hfirst : headerLen = tag.length + first.length)
    (hsecond : headerLen = tag.length + second.length)
    (hcarries : ¬ Carries tag [first, second] ctx.data) :
    afterHeader tag first second headerLen authority message ctx rest = .error error ↔
      tag <+: ctx.data ∧ ctx.data.length < headerLen ∧
        error = .dataTooShort headerLen ctx.data.length := by
  rw [carries_iff hfirst hsecond] at hcarries
  unfold afterHeader
  by_cases htag : tag <+: ctx.data
  · rw [if_neg (not_not.mpr htag), Rust.except_bind_eq_error_iff,
      InstructionContext.ensureDataLen_eq_error_iff]
    by_cases hlength : headerLen ≤ ctx.data.length
    · have hother : (ctx.data.take headerLen).drop tag.length ≠ first ∧
          (ctx.data.take headerLen).drop tag.length ≠ second :=
        not_or.mp fun hone => hcarries ⟨htag, hlength, hone⟩
      rw [if_pos hother]
      simp [htag, pure, Except.pure]
    · have hcheck : ctx.ensureDataLen headerLen ≠ .ok () :=
        fun hok => hlength ((ctx.ensureDataLen_eq_ok_iff headerLen).mp hok)
      simp [htag, hcheck]
  · rw [if_pos htag]
    simp [htag, pure, Except.pure]

/-- An instruction with an event fails for its authority or for what comes later. -/
theorem afterHeader_of_carries (hfirst : headerLen = tag.length + first.length)
    (hsecond : headerLen = tag.length + second.length)
    (hcarries : Carries tag [first, second] ctx.data) :
    afterHeader tag first second headerLen authority message ctx rest = .error error ↔
      ctx.accounts = [] ∧ error = .missingAccounts 1 0 ∨
        ∃ account, ctx.accounts[0]? = some account ∧
          (account ≠ authority ∧ error = .invalidInstructionData message ∨
            account = authority ∧ rest = .error error) := by
  rcases (carries_iff hfirst hsecond).mp hcarries with ⟨htag, hlength, hdiscriminator⟩
  have hone : ¬ ((ctx.data.take headerLen).drop tag.length ≠ first ∧
      (ctx.data.take headerLen).drop tag.length ≠ second) := by
    intro hnone
    exact (not_or.mpr hnone) hdiscriminator
  unfold afterHeader
  rw [if_neg (not_not.mpr htag), (ctx.ensureDataLen_eq_ok_iff headerLen).mpr hlength, Rust.ok_bind,
    if_neg hone, Rust.except_bind_eq_error_iff, InstructionContext.account_eq_error_iff]
  simp only [InstructionContext.account_eq_ok_iff, Rust.throw_if_eq_error_iff, not_not,
    Nat.le_zero, List.length_eq_zero_iff]
  refine or_congr_left (and_congr_right fun hnil => ?_)
  rw [hnil]
  rfl

/-- The errors before an event is read are the defects of the header. -/
theorem afterHeader_eq_error_iff (hheaderLen : headerLen = 16)
    (hfirst : headerLen = tag.length + first.length)
    (hsecond : headerLen = tag.length + second.length) :
    afterHeader tag first second headerLen authority message ctx rest = .error error ↔
      HeaderDefect tag [first, second] authority message ctx.instruction error ∨
        Carries tag [first, second] ctx.data ∧ ctx.accounts[0]? = some authority ∧
          rest = .error error := by
  subst hheaderLen
  by_cases hcarries : Carries tag [first, second] ctx.data
  · rw [afterHeader_of_carries hfirst hsecond hcarries]
    constructor
    · intro hfailed
      rcases hfailed with ⟨hnone, rfl⟩ | ⟨account, haccount, ⟨hother, rfl⟩ | ⟨rfl, hrest⟩⟩
      · exact .inl (.account hcarries hnone)
      · exact .inl (.authority hcarries account haccount hother)
      · exact .inr ⟨hcarries, haccount, hrest⟩
    · intro hdefect
      rcases hdefect with hheader | ⟨-, haccount, hrest⟩
      · cases hheader with
        | data _ hshort =>
            have hlength := ((carries_iff hfirst hsecond).mp hcarries).2.1
            exact absurd hlength (Nat.not_le.mpr hshort)
        | account _ hnone => exact .inl ⟨hnone, rfl⟩
        | authority _ account haccount hother =>
            exact .inr ⟨account, haccount, .inl ⟨hother, rfl⟩⟩
      · exact .inr ⟨authority, haccount, .inr ⟨rfl, hrest⟩⟩
  · rw [afterHeader_of_not_carries hfirst hsecond hcarries]
    constructor
    · intro hfailed
      rcases hfailed with ⟨htag, hshort, rfl⟩
      exact .inl (.data htag hshort)
    · intro hdefect
      rcases hdefect with hheader | ⟨hevent, -⟩
      · cases hheader with
        | data htag hshort => exact ⟨htag, hshort, rfl⟩
        | account hevent _ => exact absurd hevent hcarries
        | authority hevent _ _ _ => exact absurd hevent hcarries
      · exact absurd hevent hcarries

/-- An event is read by the reader of its discriminator. -/
theorem afterHeader_read_eq_error_iff (hheaderLen : headerLen = 16)
    (hfirst : headerLen = tag.length + first.length)
    (hsecond : headerLen = tag.length + second.length) (hdistinct : second ≠ first)
    (readFirst readSecond : Bytes → ParseResult (Option ParsedEvent)) :
    afterHeader tag first second headerLen authority message ctx
        (if (ctx.data.take headerLen).drop tag.length = first then
          readFirst (ctx.data.drop headerLen)
        else readSecond (ctx.data.drop headerLen)) = .error error ↔
      HeaderDefect tag [first, second] authority message ctx.instruction error ∨
        ctx.accounts[0]? = some authority ∧
          ((∃ payload, ctx.data = tag ++ first ++ payload ∧ readFirst payload = .error error) ∨
            ∃ payload, ctx.data = tag ++ second ++ payload ∧
              readSecond payload = .error error) := by
  rw [afterHeader_eq_error_iff hheaderLen hfirst hsecond]
  refine or_congr_right ?_
  constructor
  · intro hread
    rcases hread with ⟨⟨discriminator, hmem, payload, hdata⟩, haccount, herror⟩
    refine ⟨haccount, ?_⟩
    rcases List.mem_pair.mp hmem with rfl | rfl
    · rcases (eventData_eq_iff hfirst).mp hdata with ⟨-, -, hdiscriminator, hpayload⟩
      rw [if_pos hdiscriminator, ← hpayload] at herror
      exact .inl ⟨payload, hdata, herror⟩
    · rcases (eventData_eq_iff hsecond).mp hdata with ⟨-, -, hdiscriminator, hpayload⟩
      rw [if_neg (hdiscriminator.symm ▸ hdistinct), ← hpayload] at herror
      exact .inr ⟨payload, hdata, herror⟩
  · intro hread
    rcases hread with ⟨haccount, ⟨payload, hdata, herror⟩ | ⟨payload, hdata, herror⟩⟩
    · rcases (eventData_eq_iff hfirst).mp hdata with ⟨-, -, hdiscriminator, hpayload⟩
      rw [if_pos hdiscriminator, ← hpayload]
      exact ⟨⟨first, List.mem_cons_self, payload, hdata⟩, haccount, herror⟩
    · rcases (eventData_eq_iff hsecond).mp hdata with ⟨-, -, hdiscriminator, hpayload⟩
      rw [if_neg (hdiscriminator.symm ▸ hdistinct), ← hpayload]
      exact ⟨⟨second, List.mem_cons_of_mem _ List.mem_cons_self, payload, hdata⟩, haccount,
        herror⟩

end Headers

/-! ## Pump.fun -/

namespace Pumpfun

/-- What an error says about the amounts of a trade. -/
inductive FeeDefect (event : TradeEventPrefix) : String → Prop
  | total (htotal : 2 ^ 64 ≤ event.totalFees) :
      FeeDefect event "TradeEvent fee total overflows u64"
  | gross (hbuy : event.isBuy = true)
      (hgross : 2 ^ 64 ≤ event.quoteAmount.toNat + event.totalFees) :
      FeeDefect event "TradeEvent gross input amount overflows u64"
  | exceed (hsell : event.isBuy = false) (hexceed : event.quoteAmount.toNat < event.totalFees) :
      FeeDefect event "TradeEvent fees exceed the quote output amount"

/-- What an error says about an instruction of the program. -/
inductive EventDefect (instruction : InstructionView) : ParseError → Prop
  | header (error : ParseError)
      (hheader : HeaderDefect eventIxTag [createEventDiscriminator, tradeEventDiscriminator]
        eventAuthority "Pump.fun event CPI has an invalid event authority" instruction error) :
      EventDefect instruction error
  | create (payload : Bytes) (hauthority : instruction.accounts[0]? = some eventAuthority)
      (hdata : instruction.data = eventIxTag ++ createEventDiscriminator ++ payload)
      (source : ReadError)
      (hread : (deserialize : Reader CreateEventPrefix) payload = .error source) :
      EventDefect instruction
        (.invalidInstructionData s!"CreateEvent is not a valid payload: {source.display}")
  | trade (payload : Bytes) (hauthority : instruction.accounts[0]? = some eventAuthority)
      (hdata : instruction.data = eventIxTag ++ tradeEventDiscriminator ++ payload)
      (source : ReadError)
      (hread : (deserialize : Reader TradeEventPrefix) payload = .error source) :
      EventDefect instruction
        (.invalidInstructionData s!"TradeEvent is not a valid payload: {source.display}")
  | fees (payload : Bytes) (hauthority : instruction.accounts[0]? = some eventAuthority)
      (hdata : instruction.data = eventIxTag ++ tradeEventDiscriminator ++ payload)
      (event : TradeEventPrefix) (hevent : decodeEventPrefix payload "TradeEvent" = .ok event)
      (message : String) (hfees : FeeDefect event message) :
      EventDefect instruction (.invalidInstructionData message)

section Refusals

variable {crates : Crates} {ctx : InstructionContext} {error : ParseError}

/-- Amounts that settle have no defect. -/
theorem not_feeDefect_of_settled {event : TradeEventPrefix} {quoteAmount : UInt64}
    (hsettled : (quoteAmount.toNat : Int) = event.settledQuote) {message : String} :
    ¬ FeeDefect event message := by
  have hquote := quoteAmount.toNat_lt
  have hamount := event.quoteAmount.toNat_lt
  intro hdefect
  rw [TradeEventPrefix.settledQuote] at hsettled
  cases hdefect with
  | total htotal => split at hsettled <;> omega
  | gross hbuy hgross =>
      rw [if_pos hbuy] at hsettled
      omega
  | exceed hsell hexceed =>
      rw [if_neg (by simp [hsell])] at hsettled
      omega

/-- A decoded trade fails only for its amounts. -/
theorem feeDefect_of_parseTradeEvent (hcrates : crates.Documented) {payload : Bytes}
    {event : TradeEventPrefix} (hevent : decodeEventPrefix payload "TradeEvent" = .ok event)
    (hparse : parseTradeEvent crates payload = .error error) :
    ∃ message, error = .invalidInstructionData message ∧ FeeDefect event message := by
  unfold parseTradeEvent at hparse
  rw [hevent, Rust.ok_bind, Rust.except_bind_eq_error_iff, Rust.okOr_eq_error_iff,
    Rust.checkedAdd_bind_eq_none_iff] at hparse
  rcases hparse with ⟨htotal, rfl⟩ | ⟨totalFees, htotal, hparse⟩
  · exact ⟨_, rfl, .total htotal⟩
  have hfees : event.totalFees = totalFees.toNat :=
    Rust.checkedAdd_bind_eq_some_iff.mp (Rust.okOr_eq_ok_iff.mp htotal)
  rw [pubkeyTryFrom_programId hcrates] at hparse
  cases hdirection : event.isBuy with
  | true =>
      simp only [Except.mapError, Rust.ok_bind, hdirection, if_true, Rust.except_bind_eq_error_iff,
        Rust.okOr_eq_error_iff, Rust.checkedAdd_eq_none_iff, Rust.exists_pure_eq_error_iff,
        or_false] at hparse
      rcases hparse with ⟨hgross, rfl⟩
      rw [← hfees] at hgross
      exact ⟨_, rfl, .gross hdirection hgross⟩
  | false =>
      simp only [Except.mapError, Rust.ok_bind, hdirection, Bool.false_eq_true, if_false,
        Rust.except_bind_eq_error_iff, Rust.okOr_eq_error_iff, Rust.checkedSub_eq_none_iff,
        Rust.exists_pure_eq_error_iff, or_false] at hparse
      rcases hparse with ⟨hexceed, rfl⟩
      rw [← hfees] at hexceed
      exact ⟨_, rfl, .exceed hdirection hexceed⟩

/-- The errors of the parser are those of the header and of the two events. -/
theorem parseInstruction_eq_error_iff (hprogram : ctx.programId = programId) :
    parseInstruction crates ctx = .error error ↔
      HeaderDefect eventIxTag [createEventDiscriminator, tradeEventDiscriminator] eventAuthority
          "Pump.fun event CPI has an invalid event authority" ctx.instruction error ∨
        ctx.accounts[0]? = some eventAuthority ∧
          ((∃ payload, ctx.data = eventIxTag ++ createEventDiscriminator ++ payload ∧
              parseCreateEvent crates payload = .error error) ∨
            ∃ payload, ctx.data = eventIxTag ++ tradeEventDiscriminator ++ payload ∧
              parseTradeEvent crates payload = .error error) := by
  have hheaderLen : eventHeaderLen = 16 := rfl
  have hcreate : eventHeaderLen = eventIxTag.length + createEventDiscriminator.length := rfl
  have htrade : eventHeaderLen = eventIxTag.length + tradeEventDiscriminator.length := rfl
  have hdistinct : tradeEventDiscriminator ≠ createEventDiscriminator := by decide
  unfold parseInstruction
  rw [(ctx.ensureProgramId_eq_ok_iff programId).mpr hprogram]
  apply (afterHeader_read_eq_error_iff hheaderLen hcreate htrade hdistinct
    (fun payload => do return some (.tokenDiscovery (← parseCreateEvent crates payload)))
    (fun payload => do return some (.tokenSwap (← parseTradeEvent crates payload)))).trans
  simp only [Rust.except_bind_eq_error_iff, Rust.exists_pure_eq_error_iff, or_false]

/-- Every error describes a defect of the instruction. -/
theorem eventDefect_of_parseInstruction (hcrates : crates.Documented)
    (hprogram : ctx.programId = programId) (hparse : parseInstruction crates ctx = .error error) :
    EventDefect ctx.instruction error := by
  rcases (parseInstruction_eq_error_iff hprogram).mp hparse with hheader |
    ⟨hauthority, ⟨payload, hdata, hcreate⟩ | ⟨payload, hdata, htrade⟩⟩
  · exact .header error hheader
  · simp only [parseCreateEvent, Rust.except_bind_eq_error_iff, Rust.exists_pure_eq_error_iff,
      or_false, decodeEventPrefix_eq_error_iff] at hcreate
    rcases hcreate with ⟨source, hread, rfl⟩
    exact .create payload hauthority hdata source hread
  · rcases hdecode : (decodeEventPrefix payload "TradeEvent" : ParseResult TradeEventPrefix) with
      failure | event
    · rw [parseTradeEvent, hdecode] at htrade
      rcases Except.error.inj htrade with rfl
      rcases decodeEventPrefix_eq_error_iff.mp hdecode with ⟨source, hread, rfl⟩
      exact .trade payload hauthority hdata source hread
    · rcases feeDefect_of_parseTradeEvent hcrates hdecode htrade with ⟨message, rfl, hfees⟩
      exact .fees payload hauthority hdata event hdecode message hfees

/-- Every instruction with a defect is refused. -/
theorem exists_error_of_eventDefect (hcrates : crates.Documented)
    (hprogram : ctx.programId = programId) (hdefect : EventDefect ctx.instruction error) :
    ∃ found, parseInstruction crates ctx = .error found := by
  simp only [parseInstruction_eq_error_iff hprogram]
  cases hdefect with
  | header _ hheader => exact ⟨error, .inl hheader⟩
  | create payload hauthority hdata source hread =>
      have hparse : parseCreateEvent crates payload = .error
          (.invalidInstructionData s!"CreateEvent is not a valid payload: {source.display}") := by
        rw [parseCreateEvent, decodeEventPrefix_eq_error_iff.mpr ⟨source, hread, rfl⟩]
        rfl
      exact ⟨_, .inr ⟨hauthority, .inl ⟨payload, hdata, hparse⟩⟩⟩
  | trade payload hauthority hdata source hread =>
      have hparse : parseTradeEvent crates payload = .error
          (.invalidInstructionData s!"TradeEvent is not a valid payload: {source.display}") := by
        rw [parseTradeEvent, decodeEventPrefix_eq_error_iff.mpr ⟨source, hread, rfl⟩]
        rfl
      exact ⟨_, .inr ⟨hauthority, .inr ⟨payload, hdata, hparse⟩⟩⟩
  | fees payload hauthority hdata event hevent message hfees =>
      rcases hparse : parseTradeEvent crates payload with found | swap
      · exact ⟨found, .inr ⟨hauthority, .inr ⟨payload, hdata, hparse⟩⟩⟩
      · rcases (parseTradeEvent_eq_ok_iff hcrates hevent).mp hparse with ⟨quoteAmount, hsettled, -⟩
        exact absurd hfees (not_feeDefect_of_settled hsettled)

end Refusals

end Pumpfun

/-! ## PumpSwap -/

namespace Pumpswap

/-- What an error says about the caller of an event, which has to be a call of this variant
with the amount, the pool and the user of the event. -/
inductive CallDefect (crates : Crates) (variant : ParentVariant) (eventName amountField : String)
    (amount : UInt64) (pool user : Pubkey) (parent : InstructionView) : ParseError → Prop
  | data (hshort : parent.data.length < variant.dataLen) :
      CallDefect crates variant eventName amountField amount pool user parent
        (.dataTooShort variant.dataLen parent.data.length)
  | accounts (hfew : parent.accounts.length < variant.accountCount) :
      CallDefect crates variant eventName amountField amount pool user parent
        (.missingAccounts variant.accountCount parent.accounts.length)
  | amount (hother : leNat ((parent.data.take 16).drop 8) ≠ amount.toNat) :
      CallDefect crates variant eventName amountField amount pool user parent
        (.invalidInstructionData s!"{amountField} does not match its parent instruction")
  | pool (account : String) (haccount : parent.accounts[0]? = some account)
      (hother : account ≠ Base58.encode pool.bytes) :
      CallDefect crates variant eventName amountField amount pool user parent
        (.invalidInstructionData s!"{eventName}.pool does not match its parent instruction")
  | user (account : String) (haccount : parent.accounts[1]? = some account)
      (hother : account ≠ Base58.encode user.bytes) :
      CallDefect crates variant eventName amountField amount pool user parent
        (.invalidInstructionData s!"{eventName}.user does not match its parent instruction")
  | mint (position : Nat) (name : String)
      (hmint : (position, name) ∈ [(3, "base_mint"), (4, "quote_mint")]) (account : String)
      (haccount : parent.accounts[position]? = some account) (message : String)
      (hread : crates.pubkeyTryFrom account = .error message) :
      CallDefect crates variant eventName amountField amount pool user parent
        (.invalidInstructionData s!"PumpSwap parent {name} is not a valid address: {message}")

/-- What an error says about a buy and its caller. -/
inductive BuyDefect (crates : Crates) (payload : Bytes) (parent : InstructionView) :
    ParseError → Prop
  | payload (source : ReadError)
      (hread : (deserialize : Reader BuyEventPrefix) payload = .error source) :
      BuyDefect crates payload parent
        (.invalidInstructionData s!"BuyEvent is not a valid payload: {source.display}")
  | data (hshort : parent.data.length < 8) :
      BuyDefect crates payload parent (.dataTooShort 8 parent.data.length)
  | caller (hbuy : parent.data.take 8 ≠ buyDiscriminator)
      (hexact : parent.data.take 8 ≠ buyExactQuoteInDiscriminator) :
      BuyDefect crates payload parent
        (.invalidInstructionData "BuyEvent parent is not a supported PumpSwap buy instruction")
  | name (event : BuyEventPrefix) (hevent : decodeEventPrefix payload "BuyEvent" = .ok event)
      (name : String)
      (hcaller : (parent.data.take 8, name) ∈
        [(buyDiscriminator, "buy"), (buyExactQuoteInDiscriminator, "buy_exact_quote_in")])
      (hother : event.ixName ≠ name) (actual expected : String)
      (hactual : actual = crates.debugString event.ixName)
      (hexpected : expected = crates.debugString name) :
      BuyDefect crates payload parent (.invalidInstructionData
        s!"BuyEvent.ix_name is {actual}, expected {expected} for its parent instruction")
  | buy (event : BuyEventPrefix) (hevent : decodeEventPrefix payload "BuyEvent" = .ok event)
      (hcaller : parent.data.take 8 = buyDiscriminator) (error : ParseError)
      (hcall : CallDefect crates .buy "BuyEvent" "BuyEvent.base_amount_out" event.baseAmountOut
        event.pool event.user parent error) :
      BuyDefect crates payload parent error
  | buyExactQuoteIn (event : BuyEventPrefix)
      (hevent : decodeEventPrefix payload "BuyEvent" = .ok event)
      (hcaller : parent.data.take 8 = buyExactQuoteInDiscriminator) (error : ParseError)
      (hcall : CallDefect crates .buyExactQuoteIn "BuyEvent" "BuyEvent.quote_amount_in"
        event.quoteAmountIn event.pool event.user parent error) :
      BuyDefect crates payload parent error

/-- What an error says about a sell and its caller. -/
inductive SellDefect (crates : Crates) (payload : Bytes) (parent : InstructionView) :
    ParseError → Prop
  | payload (source : ReadError)
      (hread : (deserialize : Reader SellEventPrefix) payload = .error source) :
      SellDefect crates payload parent
        (.invalidInstructionData s!"SellEvent is not a valid payload: {source.display}")
  | data (hshort : parent.data.length < 8) :
      SellDefect crates payload parent (.dataTooShort 8 parent.data.length)
  | caller (hsell : parent.data.take 8 ≠ sellDiscriminator) :
      SellDefect crates payload parent
        (.invalidInstructionData "SellEvent parent is not a PumpSwap sell instruction")
  | sell (event : SellEventPrefix) (hevent : decodeEventPrefix payload "SellEvent" = .ok event)
      (hcaller : parent.data.take 8 = sellDiscriminator) (error : ParseError)
      (hcall : CallDefect crates .sell "SellEvent" "SellEvent.base_amount_in" event.baseAmountIn
        event.pool event.user parent error) :
      SellDefect crates payload parent error

/-- What an error says about an instruction of the program. -/
inductive EventDefect (crates : Crates) (ctx : InstructionContext) : ParseError → Prop
  | header (error : ParseError)
      (hheader : HeaderDefect eventIxTag [buyEventDiscriminator, sellEventDiscriminator]
        eventAuthority "PumpSwap event CPI has an invalid event authority" ctx.instruction error) :
      EventDefect crates ctx error
  | caller (hcarries : Carries eventIxTag [buyEventDiscriminator, sellEventDiscriminator] ctx.data)
      (hnone : ctx.parent = none) :
      EventDefect crates ctx
        (.invalidInstructionData "PumpSwap event CPI has no immediate parent instruction")
  | program (hcarries : Carries eventIxTag [buyEventDiscriminator, sellEventDiscriminator] ctx.data)
      (parent : InstructionView) (hparent : ctx.parent = some parent)
      (hother : parent.programId ≠ programId) :
      EventDefect crates ctx (.invalidInstructionData
        s!"PumpSwap event CPI parent targets program {parent.programId}")
  | buy (payload : Bytes) (parent : InstructionView)
      (hcpi : EventCpi ctx buyEventDiscriminator payload parent) (error : ParseError)
      (hdefect : BuyDefect crates payload parent error) :
      EventDefect crates ctx error
  | sell (payload : Bytes) (parent : InstructionView)
      (hcpi : EventCpi ctx sellEventDiscriminator payload parent) (error : ParseError)
      (hdefect : SellDefect crates payload parent error) :
      EventDefect crates ctx error

/-! ### Callers -/

section Callers

variable {crates : Crates} {variant : ParentVariant} {eventName amountField : String}
  {amount : UInt64} {pool user : Pubkey} {parent : InstructionView} {error : ParseError}

/-- An error of the layout is a defect of the call. -/
theorem callDefect_of_layout
    (hlayout : validateParentLayout ⟨parent, none⟩ variant.dataLen variant.accountCount =
      .error error) :
    CallDefect crates variant eventName amountField amount pool user parent error := by
  have hcount : variant.accountCount - 1 + 1 = variant.accountCount := by
    cases variant <;> rfl
  simp only [validateParentLayout, Rust.except_bind_eq_error_iff,
    InstructionContext.ensureDataLen_eq_error_iff, InstructionContext.account_eq_error_iff,
    Rust.exists_pure_eq_error_iff, or_false, hcount] at hlayout
  rcases hlayout with ⟨hshort, rfl⟩ | ⟨-, -, hfew, rfl⟩
  · exact .data hshort
  · refine .accounts ?_
    change parent.accounts.length ≤ _ at hfew
    omega

/-- An error of the amount is a defect of the call. -/
theorem callDefect_of_amount
    (hamount : validateParentAmount ⟨parent, none⟩ amount amountField = .error error) :
    CallDefect crates variant eventName amountField amount pool user parent error := by
  have hother : leNat ((parent.data.take 16).drop 8) ≠ amount.toNat := by
    intro hsame
    have hok : validateParentAmount ⟨parent, none⟩ amount amountField = .ok ⟨⟩ :=
      validateParentAmount_eq_ok_iff.mpr hsame
    rw [hok] at hamount
    cases hamount
  simp only [validateParentAmount] at hamount
  split at hamount
  · cases hamount
  · rcases Except.error.inj hamount with rfl
    exact .amount hother

/-- An error of the accounts is a defect of the call. -/
theorem callDefect_of_accounts (hcrates : crates.Documented) (hcount : 2 ≤ parent.accounts.length)
    (haccounts : validateParentAccounts crates pool user ⟨parent, none⟩ eventName =
      .error error) :
    CallDefect crates variant eventName amountField amount pool user parent error := by
  simp only [validateParentAccounts, Rust.except_bind_eq_error_iff, Rust.throw_if_eq_error_iff,
    InstructionContext.account_eq_error_iff, InstructionContext.account_eq_ok_iff,
    hcrates.pubkeyToString_eq, poolAccountIndex, userAccountIndex] at haccounts
  rcases haccounts with ⟨hnone, -⟩ | ⟨account, haccount, ⟨hother, rfl⟩ | ⟨-, huser⟩⟩
  · change parent.accounts.length ≤ 0 at hnone
    omega
  · exact .pool account haccount fun hsame => hother hsame.symm
  · rcases huser with ⟨hnone, -⟩ | ⟨account, haccount, huser⟩
    · change parent.accounts.length ≤ 1 at hnone
      omega
    · split at huser
      · next hother =>
          rcases Except.error.inj huser with rfl
          exact .user account haccount fun hsame => hother hsame.symm
      · cases huser

/-- An error of a mint is a defect of the call. -/
theorem callDefect_of_mint {position : Nat} {name : String}
    (hposition : (position, name) ∈ [(3, "base_mint"), (4, "quote_mint")])
    (hcount : 5 ≤ parent.accounts.length)
    (hmint : parentMint crates ⟨parent, none⟩ position name = .error error) :
    CallDefect crates variant eventName amountField amount pool user parent error := by
  simp only [parentMint, Rust.except_bind_eq_error_iff, InstructionContext.account_eq_error_iff,
    InstructionContext.account_eq_ok_iff, Rust.mapError_eq_error_iff,
    Rust.exists_pure_eq_error_iff, or_false] at hmint
  rcases hmint with ⟨hnone, -⟩ | ⟨account, haccount, message, hread, rfl⟩
  · change parent.accounts.length ≤ position at hnone
    rcases List.mem_pair.mp hposition with heq | heq
    · rcases Prod.mk.inj heq with ⟨rfl, -⟩
      omega
    · rcases Prod.mk.inj heq with ⟨rfl, -⟩
      omega
  · exact .mint position name hposition account haccount message hread

/-- What a buy and a sell check last: the accounts of the caller. -/
theorem callDefect_of_lastChecks (hcrates : crates.Documented)
    (hcount : 5 ≤ parent.accounts.length) {swap : String → String → TokenSwap}
    (hchecks : (do
      validateParentAccounts crates pool user ⟨parent, none⟩ eventName
      let baseMint ← parentMint crates ⟨parent, none⟩ baseMintAccountIndex "base_mint"
      let quoteMint ← parentMint crates ⟨parent, none⟩ quoteMintAccountIndex "quote_mint"
      return swap baseMint quoteMint : ParseResult TokenSwap) = .error error) :
    CallDefect crates variant eventName amountField amount pool user parent error := by
  simp only [Rust.except_bind_eq_error_iff, Rust.exists_pure_eq_error_iff, or_false] at hchecks
  rcases hchecks with haccounts | ⟨-, -, hbase | ⟨-, -, hquote⟩⟩
  · exact callDefect_of_accounts hcrates (by omega) haccounts
  · exact callDefect_of_mint List.mem_cons_self hcount hbase
  · exact callDefect_of_mint (List.mem_cons_of_mem _ List.mem_cons_self) hcount hquote

/-- A caller that matches its event has no defect. -/
theorem not_callDefect_of_calls (hcrates : crates.Documented) {baseMint quoteMint : Pubkey}
    (hcalls : Calls variant parent amount pool user baseMint quoteMint) :
    ¬ CallDefect crates variant eventName amountField amount pool user parent error := by
  have hmints : ∀ (position : Nat) (name : String),
      (position, name) ∈ [(3, "base_mint"), (4, "quote_mint")] →
        ∃ address : Pubkey, parent.accounts[position]? = some (Base58.encode address.bytes) := by
    intro position name hmem
    rcases List.mem_pair.mp hmem with heq | heq
    · rcases Prod.mk.inj heq with ⟨rfl, -⟩
      exact ⟨baseMint, hcalls.baseMint⟩
    · rcases Prod.mk.inj heq with ⟨rfl, -⟩
      exact ⟨quoteMint, hcalls.quoteMint⟩
  intro hdefect
  cases hdefect with
  | data hshort => exact absurd hcalls.dataLen (Nat.not_le.mpr hshort)
  | accounts hfew => exact absurd hcalls.accountCount (Nat.not_le.mpr hfew)
  | amount hother => exact hother hcalls.amount
  | pool account haccount hother =>
      exact hother (Option.some.inj (haccount.symm.trans hcalls.pool))
  | user account haccount hother =>
      exact hother (Option.some.inj (haccount.symm.trans hcalls.user))
  | mint position name hposition account haccount message hread =>
      rcases hmints position name hposition with ⟨address, haddress⟩
      rcases Option.some.inj (haccount.symm.trans haddress) with rfl
      rw [(hcrates.pubkeyTryFrom_eq_ok_iff _ address).mpr rfl] at hread
      cases hread

end Callers

/-! ### Events -/

section Events

variable {crates : Crates} {payload : Bytes} {parent : InstructionView} {ctx : InstructionContext}
  {error : ParseError}

/-- An error of the instruction name is a defect of the buy. -/
theorem buyDefect_of_ixName {event : BuyEventPrefix} {name : String}
    (hevent : decodeEventPrefix payload "BuyEvent" = .ok event)
    (hcaller : (parent.data.take 8, name) ∈
      [(buyDiscriminator, "buy"), (buyExactQuoteInDiscriminator, "buy_exact_quote_in")])
    (hname : validateIxName crates event.ixName name = .error error) :
    BuyDefect crates payload parent error := by
  simp only [validateIxName] at hname
  split at hname
  · cases hname
  · next hother =>
      rcases Except.error.inj hname with rfl
      exact .name event hevent name hcaller hother _ _ rfl rfl

/-- What is checked of one variant of a buy. -/
theorem buyDefect_of_buyChecks (variant : ParentVariant) {event : BuyEventPrefix}
    {name field : String} {argument paid : UInt64}
    (hevent : decodeEventPrefix payload "BuyEvent" = .ok event)
    (hcaller : (parent.data.take 8, name) ∈
      [(buyDiscriminator, "buy"), (buyExactQuoteInDiscriminator, "buy_exact_quote_in")])
    (hcall : CallDefect crates variant "BuyEvent" field argument event.pool event.user parent
      error → BuyDefect crates payload parent error)
    (hchecks : (do
      validateParentLayout ⟨parent, none⟩ variant.dataLen variant.accountCount
      validateIxName crates event.ixName name
      validateParentAmount ⟨parent, none⟩ argument field
      return paid : ParseResult UInt64) = .error error) :
    BuyDefect crates payload parent error := by
  simp only [Rust.except_bind_eq_error_iff, Rust.exists_pure_eq_error_iff, or_false] at hchecks
  rcases hchecks with hlayout | ⟨-, -, hname | ⟨-, -, hamount⟩⟩
  · exact hcall (callDefect_of_layout hlayout)
  · exact buyDefect_of_ixName hevent hcaller hname
  · exact hcall (callDefect_of_amount hamount)

private theorem not_read_error_of_decode {α : Type} [BorshDeserialize α] {event : String}
    {value : α} (hdecode : decodeEventPrefix payload event = .ok value) {source : ReadError} :
    (deserialize : Reader α) payload ≠ .error source := by
  intro hread
  rcases decodeEventPrefix_eq_ok_iff.mp hdecode with ⟨rest, hok⟩
  rw [hread] at hok
  cases hok

/-- A caller without a discriminator has too little data. -/
theorem data_of_parentDiscriminator (hdiscriminator : parentDiscriminator ⟨parent, none⟩ =
    .error error) : parent.data.length < 8 ∧ error = .dataTooShort 8 parent.data.length := by
  simp only [parentDiscriminator, Rust.except_bind_eq_error_iff,
    InstructionContext.ensureDataLen_eq_error_iff, Rust.exists_pure_eq_error_iff,
    or_false] at hdiscriminator
  exact hdiscriminator

/-- The caller of a buy fails for its variant or for what is checked of that variant. -/
theorem buyDefect_of_buyInputAmount {event : BuyEventPrefix}
    (hevent : decodeEventPrefix payload "BuyEvent" = .ok event)
    (hamount : buyInputAmount crates event ⟨parent, none⟩ = .error error) :
    BuyDefect crates payload parent error := by
  unfold buyInputAmount at hamount
  rw [Rust.except_bind_eq_error_iff] at hamount
  rcases hamount with hdiscriminator | ⟨discriminator, hdiscriminator, hamount⟩
  · rcases data_of_parentDiscriminator hdiscriminator with ⟨hshort, rfl⟩
    exact .data hshort
  have hcaller : parent.data.take 8 = discriminator :=
    (parentDiscriminator_eq_ok_iff.mp hdiscriminator).2
  split at hamount
  · next hbuy =>
      rw [hbuy] at hcaller
      exact buyDefect_of_buyChecks .buy hevent (hcaller.symm ▸ List.mem_cons_self)
        (.buy event hevent hcaller error) hamount
  · next hbuy =>
      split at hamount
      · next hexact =>
          rw [hexact] at hcaller
          exact buyDefect_of_buyChecks .buyExactQuoteIn hevent
            (hcaller.symm ▸ List.mem_cons_of_mem _ List.mem_cons_self)
            (.buyExactQuoteIn event hevent hcaller error) hamount
      · next hexact =>
          rcases Except.error.inj hamount with rfl
          exact .caller (hcaller.symm ▸ hbuy) (hcaller.symm ▸ hexact)

/-- Every error of a buy describes a defect of it or of its caller. -/
theorem buyDefect_of_parseBuyEvent (hcrates : crates.Documented)
    (hparse : parseBuyEvent crates payload ⟨parent, none⟩ = .error error) :
    BuyDefect crates payload parent error := by
  unfold parseBuyEvent at hparse
  rw [Rust.except_bind_eq_error_iff] at hparse
  rcases hparse with hdecode | ⟨event, hevent, hparse⟩
  · rcases decodeEventPrefix_eq_error_iff.mp hdecode with ⟨source, hread, rfl⟩
    exact .payload source hread
  rw [Rust.except_bind_eq_error_iff] at hparse
  rcases hparse with hamount | ⟨inputAmount, hamount, hchecks⟩
  · exact buyDefect_of_buyInputAmount hevent hamount
  rcases buyInputAmount_eq_ok_iff.mp hamount with ⟨hcaller, -, hcount, -⟩ | ⟨hcaller, -, hcount, -⟩
  · have hmints : 5 ≤ parent.accounts.length := le_trans (by norm_num) hcount
    exact .buy event hevent hcaller error (callDefect_of_lastChecks hcrates hmints hchecks)
  · have hmints : 5 ≤ parent.accounts.length := le_trans (by norm_num) hcount
    exact .buyExactQuoteIn event hevent hcaller error
      (callDefect_of_lastChecks hcrates hmints hchecks)

/-- The caller and the name of an accepted buy fit each other. -/
theorem exists_calls_of_parseBuyEvent (hcrates : crates.Documented) {swap : TokenSwap}
    (hparse : parseBuyEvent crates payload ⟨parent, none⟩ = .ok swap) :
    ∃ event : BuyEventPrefix, decodeEventPrefix payload "BuyEvent" = .ok event ∧
      ∃ baseMint quoteMint,
        (event.ixName = "buy" ∧
          Calls .buy parent event.baseAmountOut event.pool event.user baseMint quoteMint) ∨
        event.ixName = "buy_exact_quote_in" ∧
          Calls .buyExactQuoteIn parent event.quoteAmountIn event.pool event.user baseMint
            quoteMint := by
  rcases (parseBuyEvent_eq_ok_iff hcrates).mp hparse with
    ⟨event, baseMint, quoteMint, hevent, ⟨hname, hcalls, -⟩ | ⟨hname, hcalls, -⟩⟩
  · exact ⟨event, hevent, baseMint, quoteMint, .inl ⟨hname, hcalls⟩⟩
  · exact ⟨event, hevent, baseMint, quoteMint, .inr ⟨hname, hcalls⟩⟩

/-- A buy with a defect is refused. -/
theorem parseBuyEvent_ne_ok (hcrates : crates.Documented)
    (hdefect : BuyDefect crates payload parent error) (swap : TokenSwap) :
    parseBuyEvent crates payload ⟨parent, none⟩ ≠ .ok swap := by
  have hvariants : buyDiscriminator ≠ buyExactQuoteInDiscriminator := by decide
  intro hparse
  rcases exists_calls_of_parseBuyEvent hcrates hparse with
    ⟨event, hevent, baseMint, quoteMint, hcalls⟩
  have hlength : 24 ≤ parent.data.length := by
    rcases hcalls with ⟨-, hcalls⟩ | ⟨-, hcalls⟩
    · exact le_trans (by decide) hcalls.dataLen
    · exact hcalls.dataLen
  cases hdefect with
  | payload source hread => exact not_read_error_of_decode hevent hread
  | data hshort => omega
  | caller hbuy hexact =>
      rcases hcalls with ⟨-, hcalls⟩ | ⟨-, hcalls⟩
      · exact hbuy hcalls.discriminator
      · exact hexact hcalls.discriminator
  | name other hother name hcaller hname actual expected hactual hexpected =>
      rcases Except.ok.inj (hevent.symm.trans hother) with rfl
      rcases List.mem_pair.mp hcaller with heq | heq
      · rcases Prod.mk.inj heq with ⟨hbuy, rfl⟩
        rcases hcalls with ⟨hsame, -⟩ | ⟨-, hcalls⟩
        · exact hname hsame
        · exact hvariants (hbuy.symm.trans hcalls.discriminator)
      · rcases Prod.mk.inj heq with ⟨hexact, rfl⟩
        rcases hcalls with ⟨-, hcalls⟩ | ⟨hsame, -⟩
        · exact hvariants (hcalls.discriminator.symm.trans hexact)
        · exact hname hsame
  | buy other hother hcaller _ hcall =>
      rcases Except.ok.inj (hevent.symm.trans hother) with rfl
      rcases hcalls with ⟨-, hcalls⟩ | ⟨-, hcalls⟩
      · exact not_callDefect_of_calls hcrates hcalls hcall
      · exact hvariants (hcaller.symm.trans hcalls.discriminator)
  | buyExactQuoteIn other hother hcaller _ hcall =>
      rcases Except.ok.inj (hevent.symm.trans hother) with rfl
      rcases hcalls with ⟨-, hcalls⟩ | ⟨-, hcalls⟩
      · exact hvariants (hcalls.discriminator.symm.trans hcaller)
      · exact not_callDefect_of_calls hcrates hcalls hcall

/-- Every error of a sell describes a defect of it or of its caller. -/
theorem sellDefect_of_parseSellEvent (hcrates : crates.Documented)
    (hparse : parseSellEvent crates payload ⟨parent, none⟩ = .error error) :
    SellDefect crates payload parent error := by
  unfold parseSellEvent at hparse
  rw [Rust.except_bind_eq_error_iff] at hparse
  rcases hparse with hdecode | ⟨event, hevent, hparse⟩
  · rcases decodeEventPrefix_eq_error_iff.mp hdecode with ⟨source, hread, rfl⟩
    exact .payload source hread
  rw [Rust.except_bind_eq_error_iff] at hparse
  rcases hparse with hdiscriminator | ⟨discriminator, hdiscriminator, hparse⟩
  · rcases data_of_parentDiscriminator hdiscriminator with ⟨hshort, rfl⟩
    exact .data hshort
  rcases (parentDiscriminator_eq_ok_iff.mp hdiscriminator).2 with rfl
  rw [Rust.throw_if_eq_error_iff] at hparse
  rcases hparse with ⟨hother, rfl⟩ | ⟨hsell, hparse⟩
  · exact .caller hother
  have hcaller : parent.data.take 8 = sellDiscriminator := not_not.mp hsell
  apply SellDefect.sell event hevent hcaller error
  rw [Rust.except_bind_eq_error_iff] at hparse
  rcases hparse with hlayout | ⟨⟨⟩, hlayout, hparse⟩
  · exact callDefect_of_layout hlayout
  have hcount : 21 ≤ parent.accounts.length := (validateParentLayout_eq_ok_iff.mp hlayout).2
  rw [Rust.except_bind_eq_error_iff] at hparse
  rcases hparse with hamount | ⟨-, -, hchecks⟩
  · exact callDefect_of_amount hamount
  · exact callDefect_of_lastChecks hcrates (by omega) hchecks

/-- A sell with a defect is refused. -/
theorem parseSellEvent_ne_ok (hcrates : crates.Documented)
    (hdefect : SellDefect crates payload parent error) (swap : TokenSwap) :
    parseSellEvent crates payload ⟨parent, none⟩ ≠ .ok swap := by
  intro hparse
  rcases (parseSellEvent_eq_ok_iff hcrates).mp hparse with
    ⟨event, baseMint, quoteMint, hevent, hcalls, -⟩
  have hlength : 24 ≤ parent.data.length := hcalls.dataLen
  cases hdefect with
  | payload source hread => exact not_read_error_of_decode hevent hread
  | data hshort => omega
  | caller hsell => exact hsell hcalls.discriminator
  | sell other hother hcaller _ hcall =>
      rcases Except.ok.inj (hevent.symm.trans hother) with rfl
      exact not_callDefect_of_calls hcrates hcalls hcall

/-- Reading an event against its caller fails for the caller or with an error of the
reader. -/
def CallerFails (ctx : InstructionContext) (read : InstructionContext → ParseResult TokenSwap)
    (error : ParseError) : Prop :=
  (ctx.parent = none ∧ error =
      .invalidInstructionData "PumpSwap event CPI has no immediate parent instruction") ∨
    ∃ parent, ctx.parent = some parent ∧
      (parent.programId ≠ programId ∧ error = .invalidInstructionData
          s!"PumpSwap event CPI parent targets program {parent.programId}" ∨
        parent.programId = programId ∧ read ⟨parent, none⟩ = .error error)

/-- Both events are read against a caller of the program. -/
def readCaller (ctx : InstructionContext) (read : InstructionContext → ParseResult TokenSwap) :
    ParseResult (Option ParsedEvent) := do
  let parent ← Rust.okOr
    (.invalidInstructionData "PumpSwap event CPI has no immediate parent instruction")
    ctx.parentInstruction
  validateParentProgram parent
  return some (.tokenSwap (← read parent))

/-- Reading a caller fails exactly where there is none, where it is of another program, or
where what is read from it fails. -/
theorem readCaller_eq_error_iff {read : InstructionContext → ParseResult TokenSwap} :
    readCaller ctx read = .error error ↔ CallerFails ctx read error := by
  unfold readCaller CallerFails
  have hprogram : ∀ parent : InstructionContext, validateParentProgram parent = .error error ↔
      parent.programId ≠ programId ∧ error = .invalidInstructionData
        s!"PumpSwap event CPI parent targets program {parent.programId}" := by
    intro parent
    unfold validateParentProgram
    split <;> simp [*, eq_comm (a := error)]
  simp only [Rust.except_bind_eq_error_iff, Rust.okOr_eq_error_iff, Rust.okOr_eq_ok_iff,
    InstructionContext.parentInstruction, Option.map_eq_none_iff, Option.map_eq_some_iff, hprogram,
    validateParentProgram_eq_ok_iff, Rust.exists_pure_eq_error_iff, or_false, eq_comm (a := error)]
  constructor
  · intro hread
    rcases hread with hnone | ⟨_, ⟨parent, hparent, rfl⟩, hother | ⟨-, hprogram, hread⟩⟩
    · exact .inl hnone
    · exact .inr ⟨parent, hparent, .inl hother⟩
    · exact .inr ⟨parent, hparent, .inr ⟨hprogram, hread⟩⟩
  · intro hcaller
    rcases hcaller with hnone | ⟨parent, hparent, hother | ⟨hprogram, hread⟩⟩
    · exact .inl hnone
    · exact .inr ⟨_, ⟨parent, hparent, rfl⟩, .inl hother⟩
    · exact .inr ⟨_, ⟨parent, hparent, rfl⟩, .inr ⟨⟨⟩, hprogram, hread⟩⟩

/-- The errors of the parser are those of the header, of the caller and of the two events. -/
theorem parseInstruction_eq_error_iff (hprogram : ctx.programId = programId) :
    parseInstruction crates ctx = .error error ↔
      HeaderDefect eventIxTag [buyEventDiscriminator, sellEventDiscriminator] eventAuthority
          "PumpSwap event CPI has an invalid event authority" ctx.instruction error ∨
        ctx.accounts[0]? = some eventAuthority ∧
          ((∃ payload, ctx.data = eventIxTag ++ buyEventDiscriminator ++ payload ∧
              CallerFails ctx (parseBuyEvent crates payload) error) ∨
            ∃ payload, ctx.data = eventIxTag ++ sellEventDiscriminator ++ payload ∧
              CallerFails ctx (parseSellEvent crates payload) error) := by
  have hheaderLen : eventHeaderLen = 16 := rfl
  have hbuy : eventHeaderLen = eventIxTag.length + buyEventDiscriminator.length := rfl
  have hsell : eventHeaderLen = eventIxTag.length + sellEventDiscriminator.length := rfl
  have hdistinct : sellEventDiscriminator ≠ buyEventDiscriminator := by decide
  have hrest : (do
      let parent ← Rust.okOr
        (.invalidInstructionData "PumpSwap event CPI has no immediate parent instruction")
        ctx.parentInstruction
      validateParentProgram parent
      if eventDiscriminator ctx = buyEventDiscriminator then
        return some (.tokenSwap (← parseBuyEvent crates (ctx.data.drop eventHeaderLen) parent))
      else
        return some (.tokenSwap (← parseSellEvent crates (ctx.data.drop eventHeaderLen) parent)) :
      ParseResult (Option ParsedEvent)) =
        if eventDiscriminator ctx = buyEventDiscriminator then
          readCaller ctx (parseBuyEvent crates (ctx.data.drop eventHeaderLen))
        else readCaller ctx (parseSellEvent crates (ctx.data.drop eventHeaderLen)) := by
    unfold readCaller
    split <;> rfl
  have hparse : parseInstruction crates ctx = afterHeader eventIxTag buyEventDiscriminator
      sellEventDiscriminator eventHeaderLen eventAuthority
      "PumpSwap event CPI has an invalid event authority" ctx
      (if eventDiscriminator ctx = buyEventDiscriminator then
        readCaller ctx (parseBuyEvent crates (ctx.data.drop eventHeaderLen))
      else readCaller ctx (parseSellEvent crates (ctx.data.drop eventHeaderLen))) := by
    unfold parseInstruction parseInstructionWithParent
    rw [(ctx.ensureProgramId_eq_ok_iff programId).mpr hprogram, ← hrest]
    rfl
  rw [hparse]
  apply (afterHeader_read_eq_error_iff hheaderLen hbuy hsell hdistinct
    (fun payload => readCaller ctx (parseBuyEvent crates payload))
    (fun payload => readCaller ctx (parseSellEvent crates payload))).trans
  simp only [readCaller_eq_error_iff]

/-- A caller that fails an event is missing, of another program, or fails its reader. -/
theorem eventDefect_of_callerFails {discriminator : Bytes}
    (hmem : discriminator ∈ [buyEventDiscriminator, sellEventDiscriminator])
    (hdata : ctx.data = eventIxTag ++ discriminator ++ payload)
    {read : InstructionContext → ParseResult TokenSwap} (hfails : CallerFails ctx read error)
    (hread : ∀ parent, ctx.parent = some parent → parent.programId = programId →
      read ⟨parent, none⟩ = .error error → EventDefect crates ctx error) :
    EventDefect crates ctx error := by
  have hcarries : Carries eventIxTag [buyEventDiscriminator, sellEventDiscriminator] ctx.data :=
    ⟨discriminator, hmem, payload, hdata⟩
  rcases hfails with ⟨hnone, rfl⟩ | ⟨parent, hparent, ⟨hother, rfl⟩ | ⟨hprogram, herror⟩⟩
  · exact .caller hcarries hnone
  · exact .program hcarries parent hparent hother
  · exact hread parent hparent hprogram herror

/-- Every error describes a defect of the instruction or of its caller. -/
theorem eventDefect_of_parseInstruction (hcrates : crates.Documented)
    (hprogram : ctx.programId = programId) (hparse : parseInstruction crates ctx = .error error) :
    EventDefect crates ctx error := by
  rcases (parseInstruction_eq_error_iff hprogram).mp hparse with hheader |
    ⟨hauthority, ⟨payload, hdata, hfails⟩ | ⟨payload, hdata, hfails⟩⟩
  · exact .header error hheader
  · apply eventDefect_of_callerFails List.mem_cons_self hdata hfails
    intro parent hparent hcaller herror
    exact .buy payload parent ⟨hdata, hauthority, hparent, hcaller⟩ error
      (buyDefect_of_parseBuyEvent hcrates herror)
  · apply eventDefect_of_callerFails (List.mem_cons_of_mem _ List.mem_cons_self) hdata hfails
    intro parent hparent hcaller herror
    exact .sell payload parent ⟨hdata, hauthority, hparent, hcaller⟩ error
      (sellDefect_of_parseSellEvent hcrates herror)

/-- An instruction that carries an event is accepted only with a caller of the program that
its reader accepts. -/
theorem exists_caller_of_carries
    (hcarries : Carries eventIxTag [buyEventDiscriminator, sellEventDiscriminator] ctx.data)
    {result : Option ParsedEvent} (hparse : parseInstruction crates ctx = .ok result) :
    ∃ parent swap, ctx.parent = some parent ∧ parent.programId = programId ∧
      parseEvent crates ctx ⟨parent, none⟩ = .ok swap := by
  have hbuy : eventHeaderLen = eventIxTag.length + buyEventDiscriminator.length := rfl
  have hsell : eventHeaderLen = eventIxTag.length + sellEventDiscriminator.length := rfl
  rcases (carries_iff hbuy hsell).mp hcarries with ⟨htag, -, hdiscriminator⟩
  rcases (parseInstruction_eq_ok_iff crates).mp hparse with
    ⟨-, ⟨hnot, -⟩ | ⟨-, -, ⟨hnotBuy, hnotSell, -⟩ | ⟨-, -, parent, swap, hparent, hcaller, hread,
      -⟩⟩⟩
  · exact absurd htag hnot
  · rcases hdiscriminator with hbuys | hsells
    · exact absurd hbuys hnotBuy
    · exact absurd hsells hnotSell
  · exact ⟨parent, swap, hparent, hcaller, hread⟩

/-- Every instruction with a defect is refused. -/
theorem exists_error_of_eventDefect (hcrates : crates.Documented)
    (hprogram : ctx.programId = programId) (hdefect : EventDefect crates ctx error) :
    ∃ found, parseInstruction crates ctx = .error found := by
  rcases hparse : parseInstruction crates ctx with found | result
  · exact ⟨found, rfl⟩
  exfalso
  cases hdefect with
  | header _ hheader =>
      rw [(parseInstruction_eq_error_iff hprogram).mpr (.inl hheader)] at hparse
      cases hparse
  | caller hcarries hnone =>
      rcases exists_caller_of_carries hcarries hparse with ⟨parent, -, hparent, -⟩
      rw [hnone] at hparent
      cases hparent
  | program hcarries parent hparent hother =>
      rcases exists_caller_of_carries hcarries hparse with
        ⟨found, -, hfound, hcaller, -⟩
      rcases Option.some.inj (hparent.symm.trans hfound) with rfl
      exact hother hcaller
  | buy payload parent hcpi _ hbuy =>
      rcases exists_caller_of_carries ⟨_, List.mem_cons_self, payload, hcpi.data⟩ hparse with
        ⟨found, swap, hfound, -, hread⟩
      rcases Option.some.inj (hcpi.caller.symm.trans hfound) with rfl
      rcases (eventCpi_iff rfl).mp hcpi with ⟨⟨-, -, hdiscriminator, rfl⟩, -⟩
      rw [parseEvent, if_pos hdiscriminator] at hread
      exact parseBuyEvent_ne_ok hcrates hbuy swap hread
  | sell payload parent hcpi _ hsell =>
      rcases exists_caller_of_carries
        ⟨_, List.mem_cons_of_mem _ List.mem_cons_self, payload, hcpi.data⟩ hparse with
        ⟨found, swap, hfound, -, hread⟩
      rcases Option.some.inj (hcpi.caller.symm.trans hfound) with rfl
      rcases (eventCpi_iff rfl).mp hcpi with ⟨⟨-, -, hdiscriminator, rfl⟩, -⟩
      have hdistinct : sellEventDiscriminator ≠ buyEventDiscriminator := by decide
      rw [parseEvent, if_neg (hdiscriminator.symm ▸ hdistinct)] at hread
      exact parseSellEvent_ne_ok hcrates hsell swap hread

end Events

end Pumpswap

end PumpRealtimePrices
