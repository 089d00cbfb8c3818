import PumpRealtimePrices.Parser.SellTransaction

/-!
# Correlated PumpSwap events

An event counts when the instruction that called it can have emitted it.  The parser
finds this out by a sequence of checks over three kinds of parents; here the same is
said without an order, for each kind of parent in one place.

Main results:

- Theorem {lit}`parseInstruction_eq_none_iff`: which instructions are no events.
- Theorem {lit}`parseInstruction_eq_some_iff`: the parser accepts exactly the correlated
  events.
-/

namespace PumpRealtimePrices
namespace Pumpswap

open Borsh

/-! ## Correlation -/

/-- The instructions of the program that emit an event. -/
inductive ParentVariant where
  | buy
  | buyExactQuoteIn
  | sell
deriving DecidableEq, Repr

namespace ParentVariant

def discriminator : ParentVariant → Bytes
  | .buy => buyDiscriminator
  | .buyExactQuoteIn => buyExactQuoteInDiscriminator
  | .sell => sellDiscriminator

/-- Least number of data bytes. -/
def dataLen : ParentVariant → Nat
  | .buy => 25
  | .buyExactQuoteIn => 24
  | .sell => 24

/-- Least number of accounts. -/
def accountCount : ParentVariant → Nat
  | .buy => 23
  | .buyExactQuoteIn => 23
  | .sell => 21

end ParentVariant

/-- An instruction of a variant, with the amount of its first argument, its pool and user,
and the two mints. -/
structure Calls (variant : ParentVariant) (parent : InstructionView) (amount : UInt64)
    (pool user baseMint quoteMint : Pubkey) : Prop where
  discriminator : parent.data.take 8 = variant.discriminator
  dataLen : variant.dataLen ≤ parent.data.length
  accountCount : variant.accountCount ≤ parent.accounts.length
  amount : leNat ((parent.data.take 16).drop 8) = amount.toNat
  pool : parent.accounts[0]? = some (Base58.encode pool.bytes)
  user : parent.accounts[1]? = some (Base58.encode user.bytes)
  baseMint : parent.accounts[3]? = some (Base58.encode baseMint.bytes)
  quoteMint : parent.accounts[4]? = some (Base58.encode quoteMint.bytes)

/-- An instruction that the program sends to itself to emit an event. -/
structure EventCpi (ctx : InstructionContext) (discriminator payload : Bytes)
    (parent : InstructionView) : Prop where
  data : ctx.data = eventIxTag ++ discriminator ++ payload
  authority : ctx.accounts[0]? = some eventAuthority
  caller : ctx.parent = some parent
  program : parent.programId = programId

/-- Swap of quote for base tokens. -/
def boughtSwap (user pool baseMint quoteMint : Pubkey) (paid bought : UInt64) : TokenSwap where
  user := Base58.encode user.bytes
  pool := Base58.encode pool.bytes
  baseMint := some (Base58.encode baseMint.bytes)
  quoteMint := some (Base58.encode quoteMint.bytes)
  inputMint := Base58.encode quoteMint.bytes
  inputAmount := paid
  outputMint := Base58.encode baseMint.bytes
  outputAmount := bought

/-- Swap of base for quote tokens. -/
def soldSwap (user pool baseMint quoteMint : Pubkey) (sold received : UInt64) : TokenSwap where
  user := Base58.encode user.bytes
  pool := Base58.encode pool.bytes
  baseMint := some (Base58.encode baseMint.bytes)
  quoteMint := some (Base58.encode quoteMint.bytes)
  inputMint := Base58.encode baseMint.bytes
  inputAmount := sold
  outputMint := Base58.encode quoteMint.bytes
  outputAmount := received

/-- An event that its parent can have emitted, and its swap. -/
inductive Correlated (ctx : InstructionContext) : TokenSwap → Prop where
  | buy {payload : Bytes} {parent : InstructionView} {event : BuyEventPrefix}
      {baseMint quoteMint : Pubkey} (hcpi : EventCpi ctx buyEventDiscriminator payload parent)
      (hevent : decodeEventPrefix payload "BuyEvent" = .ok event) (hname : event.ixName = "buy")
      (hcalls : Calls .buy parent event.baseAmountOut event.pool event.user baseMint quoteMint) :
      Correlated ctx (boughtSwap event.user event.pool baseMint quoteMint event.userQuoteAmountIn
        event.baseAmountOut)
  | buyExactQuoteIn {payload : Bytes} {parent : InstructionView} {event : BuyEventPrefix}
      {baseMint quoteMint : Pubkey} (hcpi : EventCpi ctx buyEventDiscriminator payload parent)
      (hevent : decodeEventPrefix payload "BuyEvent" = .ok event)
      (hname : event.ixName = "buy_exact_quote_in")
      (hcalls : Calls .buyExactQuoteIn parent event.quoteAmountIn event.pool event.user baseMint
        quoteMint) :
      Correlated ctx (boughtSwap event.user event.pool baseMint quoteMint event.quoteAmountIn
        event.baseAmountOut)
  | sell {payload : Bytes} {parent : InstructionView} {event : SellEventPrefix}
      {baseMint quoteMint : Pubkey} (hcpi : EventCpi ctx sellEventDiscriminator payload parent)
      (hevent : decodeEventPrefix payload "SellEvent" = .ok event)
      (hcalls : Calls .sell parent event.baseAmountIn event.pool event.user baseMint quoteMint) :
      Correlated ctx (soldSwap event.user event.pool baseMint quoteMint event.baseAmountIn
        event.userQuoteAmountOut)

/-! ## The single checks -/

section Checks

variable {parent : InstructionContext}

/-- The discriminator of a caller is its first eight bytes, where it has as many. -/
theorem parentDiscriminator_eq_ok_iff {discriminator : Bytes} :
    parentDiscriminator parent = .ok discriminator ↔
      8 ≤ parent.data.length ∧ parent.data.take 8 = discriminator := by
  rw [parentDiscriminator, Rust.check_bind_eq_ok_iff, InstructionContext.ensureDataLen_eq_ok_iff]
  simp only [pure, Except.pure, Except.ok.injEq]

/-- The layout of a caller passes where it has enough data and enough accounts. -/
theorem validateParentLayout_eq_ok_iff {dataLen lastAccount : Nat} {checked : PUnit} :
    validateParentLayout parent dataLen (lastAccount + 1) = .ok checked ↔
      dataLen ≤ parent.data.length ∧ lastAccount + 1 ≤ parent.accounts.length := by
  have haccount : (∃ address, parent.accounts[lastAccount]? = some address) ↔
      lastAccount + 1 ≤ parent.accounts.length := by
    constructor
    · intro hget
      rcases hget with ⟨address, hget⟩
      exact (List.getElem?_eq_some_iff.mp hget).1
    · intro hlt
      exact ⟨_, List.getElem?_eq_getElem hlt⟩
  rw [validateParentLayout, Rust.check_bind_eq_ok_iff, InstructionContext.ensureDataLen_eq_ok_iff,
    Rust.except_bind_eq_ok_iff, Nat.add_sub_cancel, ← haccount]
  simp only [InstructionContext.account_eq_ok_iff, pure, Except.pure, and_true]

/-- The amount of a parent is read from eight bytes, which always fit. -/
theorem validateParentAmount_eq_ok_iff {amount : UInt64} {field : String} {checked : PUnit} :
    validateParentAmount parent amount field = .ok checked ↔
      leNat ((parent.data.take 16).drop 8) = amount.toNat := by
  have hlength : ((parent.data.take 16).drop 8).length ≤ 8 := by
    simp only [List.length_drop, List.length_take]
    omega
  have hlt : leNat ((parent.data.take 16).drop 8) < 2 ^ 64 :=
    (leNat_lt _).trans_le (Nat.pow_le_pow_right (by norm_num) hlength)
  have hamount : UInt64.ofNat (leNat ((parent.data.take 16).drop 8)) = amount ↔
      leNat ((parent.data.take 16).drop 8) = amount.toNat := by
    rw [← UInt64.toNat_inj, UInt64.toNat_ofNat_of_lt' hlt]
  rw [validateParentAmount, ← hamount]
  split
  · next heq => exact iff_of_true rfl heq
  · next hne => exact iff_of_false (fun herror => by cases herror) hne

variable {crates : Crates}

/-- The accounts of a caller pass where its pool and user are those of the event. -/
theorem validateParentAccounts_eq_ok_iff (hcrates : crates.Documented) {pool user : Pubkey}
    {eventName : String} {checked : PUnit} :
    validateParentAccounts crates pool user parent eventName = .ok checked ↔
      parent.accounts[0]? = some (Base58.encode pool.bytes) ∧
        parent.accounts[1]? = some (Base58.encode user.bytes) := by
  simp only [validateParentAccounts, Rust.except_bind_eq_ok_iff, Rust.throw_if_eq_ok_iff,
    InstructionContext.account_eq_ok_iff, not_not, poolAccountIndex, userAccountIndex,
    hcrates.pubkeyToString_eq]
  constructor
  · intro hchecked
    rcases hchecked with ⟨pool', hpool, rfl, user', huser, hrest⟩
    split at hrest
    · cases hrest
    · next heq => exact ⟨hpool, (not_not.mp heq) ▸ huser⟩
  · intro haccounts
    exact ⟨_, haccounts.1, rfl, _, haccounts.2, if_neg (not_not.mpr rfl)⟩

/-- A mint of a caller is an account that is an address. -/
theorem parentMint_eq_ok_iff (hcrates : crates.Documented) {accountIndex : Nat}
    {accountName mint : String} :
    parentMint crates parent accountIndex accountName = .ok mint ↔
      ∃ address : Pubkey, mint = Base58.encode address.bytes ∧
        parent.accounts[accountIndex]? = some (Base58.encode address.bytes) := by
  constructor
  · intro hmint
    rcases account_of_parentMint hcrates hmint with ⟨haccount, address, haddress⟩
    rw [hcrates.pubkeyToString_eq] at haddress
    exact ⟨address, haddress, haddress ▸ haccount⟩
  · intro hmint
    rcases hmint with ⟨address, rfl, haccount⟩
    have hread := (hcrates.pubkeyTryFrom_eq_ok_iff _ address).mpr rfl
    rw [parentMint, (InstructionContext.account_eq_ok_iff _ _ _).mpr haccount, Rust.ok_bind, hread,
      ← hcrates.pubkeyToString_eq]
    rfl

/-- An instruction name passes where it is the expected one. -/
theorem validateIxName_eq_ok_iff {actual expected : String} {checked : PUnit} :
    validateIxName crates actual expected = .ok checked ↔ actual = expected := by
  unfold validateIxName
  split <;> simp [*]

end Checks

/-! ## Buys and sells -/

section Parents

variable {crates : Crates}

/-- The checks of one variant of a buy. -/
theorem buyChecks_eq_ok_iff {event : BuyEventPrefix} {parent : InstructionContext}
    {dataLen lastAccount : Nat} {name field : String} {argument paid amount : UInt64} :
    (do
      validateParentLayout parent dataLen (lastAccount + 1)
      validateIxName crates event.ixName name
      validateParentAmount parent argument field
      return paid : ParseResult UInt64) = .ok amount ↔
        dataLen ≤ parent.data.length ∧ lastAccount + 1 ≤ parent.accounts.length ∧
          event.ixName = name ∧ leNat ((parent.data.take 16).drop 8) = argument.toNat ∧
          amount = paid := by
  simp only [Rust.check_bind_eq_ok_iff, validateParentLayout_eq_ok_iff, validateIxName_eq_ok_iff,
    validateParentAmount_eq_ok_iff, pure, Except.pure, Except.ok.injEq, and_assoc,
    eq_comm (a := amount)]

/-- A buy is accepted with the checks of one of its two variants. -/
theorem buyInputAmount_eq_ok_iff {event : BuyEventPrefix} {parent : InstructionContext}
    {amount : UInt64} :
    buyInputAmount crates event parent = .ok amount ↔
      parent.data.take 8 = buyDiscriminator ∧ 25 ≤ parent.data.length ∧
          23 ≤ parent.accounts.length ∧ event.ixName = "buy" ∧
          leNat ((parent.data.take 16).drop 8) = event.baseAmountOut.toNat ∧
          amount = event.userQuoteAmountIn ∨
        parent.data.take 8 = buyExactQuoteInDiscriminator ∧ 24 ≤ parent.data.length ∧
          23 ≤ parent.accounts.length ∧ event.ixName = "buy_exact_quote_in" ∧
          leNat ((parent.data.take 16).drop 8) = event.quoteAmountIn.toNat ∧
          amount = event.quoteAmountIn := by
  have hvariants : buyExactQuoteInDiscriminator ≠ buyDiscriminator := by decide
  simp only [buyInputAmount, Rust.except_bind_eq_ok_iff, parentDiscriminator_eq_ok_iff]
  constructor
  · intro hamount
    rcases hamount with ⟨discriminator, ⟨-, rfl⟩, hamount⟩
    split at hamount
    · next hbuy => exact .inl ⟨hbuy, buyChecks_eq_ok_iff.mp hamount⟩
    · split at hamount
      · next hexact => exact .inr ⟨hexact, buyChecks_eq_ok_iff.mp hamount⟩
      · cases hamount
  · intro hparent
    rcases hparent with ⟨hbuy, hchecks⟩ | ⟨hexact, hchecks⟩
    · refine ⟨_, ⟨by omega, rfl⟩, ?_⟩
      rw [if_pos hbuy]
      exact buyChecks_eq_ok_iff.mpr hchecks
    · refine ⟨_, ⟨by omega, rfl⟩, ?_⟩
      rw [hexact, if_neg hvariants, if_pos rfl]
      exact buyChecks_eq_ok_iff.mpr hchecks

/-- Which buys are accepted against a parent, and as which swaps. -/
theorem parseBuyEvent_eq_ok_iff (hcrates : crates.Documented) {payload : Bytes}
    {parent : InstructionView} {swap : TokenSwap} :
    parseBuyEvent crates payload { instruction := parent, parent := none } = .ok swap ↔
      ∃ (event : BuyEventPrefix) (baseMint quoteMint : Pubkey),
        decodeEventPrefix payload "BuyEvent" = .ok event ∧
        (event.ixName = "buy" ∧
            Calls .buy parent event.baseAmountOut event.pool event.user baseMint quoteMint ∧
            swap = boughtSwap event.user event.pool baseMint quoteMint event.userQuoteAmountIn
              event.baseAmountOut ∨
          event.ixName = "buy_exact_quote_in" ∧
            Calls .buyExactQuoteIn parent event.quoteAmountIn event.pool event.user baseMint
              quoteMint ∧
            swap = boughtSwap event.user event.pool baseMint quoteMint event.quoteAmountIn
              event.baseAmountOut) := by
  simp only [parseBuyEvent, Rust.except_bind_eq_ok_iff, buyInputAmount_eq_ok_iff,
    validateParentAccounts_eq_ok_iff hcrates, parentMint_eq_ok_iff hcrates,
    hcrates.pubkeyToString_eq, pure, Except.pure, Except.ok.injEq]
  constructor
  · intro hparse
    rcases hparse with ⟨event, hevent, paid, hpaid, -, ⟨hpool, huser⟩, _,
      ⟨baseMint, rfl, hbase⟩, _, ⟨quoteMint, rfl, hquote⟩, rfl⟩
    refine ⟨event, baseMint, quoteMint, hevent, ?_⟩
    rcases hpaid with ⟨hbuy, hdata, haccounts, hname, hargument, rfl⟩ |
      ⟨hexact, hdata, haccounts, hname, hargument, rfl⟩
    · exact .inl ⟨hname, ⟨hbuy, hdata, haccounts, hargument, hpool, huser, hbase, hquote⟩, rfl⟩
    · exact .inr ⟨hname, ⟨hexact, hdata, haccounts, hargument, hpool, huser, hbase, hquote⟩, rfl⟩
  · intro haccepted
    rcases haccepted with ⟨event, baseMint, quoteMint, hevent, ⟨hname, hcalls, rfl⟩ |
      ⟨hname, hcalls, rfl⟩⟩
    · exact ⟨event, hevent, event.userQuoteAmountIn,
        .inl ⟨hcalls.discriminator, hcalls.dataLen, hcalls.accountCount, hname, hcalls.amount, rfl⟩,
        ⟨⟩, ⟨hcalls.pool, hcalls.user⟩, _, ⟨baseMint, rfl, hcalls.baseMint⟩, _,
        ⟨quoteMint, rfl, hcalls.quoteMint⟩, rfl⟩
    · exact ⟨event, hevent, event.quoteAmountIn,
        .inr ⟨hcalls.discriminator, hcalls.dataLen, hcalls.accountCount, hname, hcalls.amount, rfl⟩,
        ⟨⟩, ⟨hcalls.pool, hcalls.user⟩, _, ⟨baseMint, rfl, hcalls.baseMint⟩, _,
        ⟨quoteMint, rfl, hcalls.quoteMint⟩, rfl⟩

/-- Which sells are accepted against a parent, and as which swaps. -/
theorem parseSellEvent_eq_ok_iff (hcrates : crates.Documented) {payload : Bytes}
    {parent : InstructionView} {swap : TokenSwap} :
    parseSellEvent crates payload { instruction := parent, parent := none } = .ok swap ↔
      ∃ (event : SellEventPrefix) (baseMint quoteMint : Pubkey),
        decodeEventPrefix payload "SellEvent" = .ok event ∧
        Calls .sell parent event.baseAmountIn event.pool event.user baseMint quoteMint ∧
        swap = soldSwap event.user event.pool baseMint quoteMint event.baseAmountIn
          event.userQuoteAmountOut := by
  simp only [parseSellEvent, Rust.except_bind_eq_ok_iff, Rust.throw_if_eq_ok_iff,
    parentDiscriminator_eq_ok_iff, sellParentDataLen, sellParentAccountCount,
    validateParentLayout_eq_ok_iff, validateParentAmount_eq_ok_iff,
    validateParentAccounts_eq_ok_iff hcrates, parentMint_eq_ok_iff hcrates,
    hcrates.pubkeyToString_eq, not_not, pure, Except.pure, Except.ok.injEq]
  constructor
  · intro hparse
    rcases hparse with ⟨event, hevent, _, ⟨-, rfl⟩, hsell, -, ⟨hdata, haccounts⟩, -, hargument, -,
      ⟨hpool, huser⟩, _, ⟨baseMint, rfl, hbase⟩, _, ⟨quoteMint, rfl, hquote⟩, rfl⟩
    exact ⟨event, baseMint, quoteMint, hevent,
      ⟨hsell, hdata, haccounts, hargument, hpool, huser, hbase, hquote⟩, rfl⟩
  · intro haccepted
    rcases haccepted with ⟨event, baseMint, quoteMint, hevent, hcalls, rfl⟩
    have hdata : 24 ≤ parent.data.length := hcalls.dataLen
    exact ⟨event, hevent, _, ⟨by change 8 ≤ parent.data.length; omega, rfl⟩, hcalls.discriminator,
      ⟨⟩, ⟨hdata, hcalls.accountCount⟩, ⟨⟩, hcalls.amount, ⟨⟩, ⟨hcalls.pool, hcalls.user⟩, _,
      ⟨baseMint, rfl, hcalls.baseMint⟩, _, ⟨quoteMint, rfl, hcalls.quoteMint⟩, rfl⟩

end Parents

/-! ## The parser -/

section Acceptance

variable {crates : Crates} {ctx : InstructionContext}

/-- Which instructions of the program are no events. -/
theorem parseInstruction_eq_none_iff (hprogram : ctx.programId = programId) :
    parseInstruction crates ctx = .ok none ↔
      ¬ eventIxTag <+: ctx.data ∨
        16 ≤ ctx.data.length ∧ (ctx.data.take 16).drop 8 ≠ buyEventDiscriminator ∧
          (ctx.data.take 16).drop 8 ≠ sellEventDiscriminator := by
  rw [parseInstruction_eq_ok_iff]
  constructor
  · intro hnone
    rcases hnone with ⟨-, ⟨htag, -⟩ | ⟨-, hlength, ⟨hbuy, hsell, -⟩ | ⟨-, -, _, _, -, -, -, hsome⟩⟩⟩
    · exact .inl htag
    · exact .inr ⟨hlength, hbuy, hsell⟩
    · cases hsome
  · intro hother
    by_cases htag : eventIxTag <+: ctx.data
    · rcases hother with hno | ⟨hlength, hbuy, hsell⟩
      · exact absurd htag hno
      · exact ⟨hprogram, .inr ⟨htag, hlength, .inl ⟨hbuy, hsell, rfl⟩⟩⟩
    · exact ⟨hprogram, .inl ⟨htag, rfl⟩⟩

/-- The checks of an event that do not depend on its fields. -/
theorem eventCpi_iff {discriminator payload : Bytes} {parent : InstructionView}
    (hlength : discriminator.length = 8) :
    EventCpi ctx discriminator payload parent ↔
      (eventIxTag <+: ctx.data ∧ eventHeaderLen ≤ ctx.data.length ∧
        eventDiscriminator ctx = discriminator ∧ payload = ctx.data.drop eventHeaderLen) ∧
        ctx.accounts[0]? = some eventAuthority ∧ ctx.parent = some parent ∧
        parent.programId = programId := by
  have hheaderLen : eventHeaderLen = eventIxTag.length + discriminator.length := by
    rw [hlength]
    rfl
  rw [eventDiscriminator, ← eventData_eq_iff hheaderLen]
  constructor
  · intro hcpi
    exact ⟨hcpi.data, hcpi.authority, hcpi.caller, hcpi.program⟩
  · intro hchecks
    rcases hchecks with ⟨hdata, hauthority, hcaller, hprogram⟩
    exact ⟨hdata, hauthority, hcaller, hprogram⟩

/-- A buy event that decodes against its parent is accepted. -/
theorem parseInstruction_of_buyEvent (hprogram : ctx.programId = programId) {payload : Bytes}
    {parent : InstructionView} {swap : TokenSwap}
    (hcpi : EventCpi ctx buyEventDiscriminator payload parent)
    (hswap : parseBuyEvent crates payload ⟨parent, none⟩ = .ok swap) :
    parseInstruction crates ctx = .ok (some (.tokenSwap swap)) := by
  rcases (eventCpi_iff rfl).mp hcpi with
    ⟨⟨htag, hlength, hbuy, rfl⟩, hauthority, hcaller, hcallee⟩
  have hevent : parseEvent crates ctx ⟨parent, none⟩ = .ok swap := by
    rw [parseEvent, if_pos hbuy]
    exact hswap
  exact (parseInstruction_eq_ok_iff crates).mpr ⟨hprogram, .inr ⟨htag, hlength,
    .inr ⟨.inl hbuy, hauthority, parent, swap, hcaller, hcallee, hevent, rfl⟩⟩⟩

/-- A sell event that decodes against its parent is accepted. -/
theorem parseInstruction_of_sellEvent (hprogram : ctx.programId = programId) {payload : Bytes}
    {parent : InstructionView} {swap : TokenSwap}
    (hcpi : EventCpi ctx sellEventDiscriminator payload parent)
    (hswap : parseSellEvent crates payload ⟨parent, none⟩ = .ok swap) :
    parseInstruction crates ctx = .ok (some (.tokenSwap swap)) := by
  rcases (eventCpi_iff rfl).mp hcpi with
    ⟨⟨htag, hlength, hsell, rfl⟩, hauthority, hcaller, hcallee⟩
  have hbuy : eventDiscriminator ctx ≠ buyEventDiscriminator := by
    rw [hsell]
    decide
  have hevent : parseEvent crates ctx ⟨parent, none⟩ = .ok swap := by
    rw [parseEvent, if_neg hbuy]
    exact hswap
  exact (parseInstruction_eq_ok_iff crates).mpr ⟨hprogram, .inr ⟨htag, hlength,
    .inr ⟨.inr hsell, hauthority, parent, swap, hcaller, hcallee, hevent, rfl⟩⟩⟩

/-- The parser accepts exactly the correlated events. -/
theorem parseInstruction_eq_some_iff (hcrates : crates.Documented)
    (hprogram : ctx.programId = programId) {event : ParsedEvent} :
    parseInstruction crates ctx = .ok (some event) ↔
      ∃ swap, event = .tokenSwap swap ∧ Correlated ctx swap := by
  constructor
  · intro hparse
    rcases (parseInstruction_eq_ok_iff crates).mp hparse with
      ⟨-, ⟨-, hnone⟩ | ⟨htag, hlength, ⟨-, -, hnone⟩ |
        ⟨hdiscriminator, hauthority, parent, swap, hcaller, hcallee, hswap, hsome⟩⟩⟩
    · cases hnone
    · cases hnone
    · refine ⟨swap, Option.some.inj hsome, ?_⟩
      rw [parseEvent] at hswap
      split at hswap
      · next hbuy =>
          have hcpi := (eventCpi_iff rfl).mpr
            ⟨⟨htag, hlength, hbuy, rfl⟩, hauthority, hcaller, hcallee⟩
          rcases (parseBuyEvent_eq_ok_iff hcrates).mp hswap with
            ⟨event, baseMint, quoteMint, hevent, ⟨hname, hcalls, rfl⟩ | ⟨hname, hcalls, rfl⟩⟩
          · exact .buy hcpi hevent hname hcalls
          · exact .buyExactQuoteIn hcpi hevent hname hcalls
      · next hother =>
          have hcpi := (eventCpi_iff rfl).mpr
            ⟨⟨htag, hlength, hdiscriminator.resolve_left hother, rfl⟩, hauthority, hcaller,
              hcallee⟩
          rcases (parseSellEvent_eq_ok_iff hcrates).mp hswap with
            ⟨event, baseMint, quoteMint, hevent, hcalls, rfl⟩
          exact .sell hcpi hevent hcalls
  · intro haccepted
    rcases haccepted with ⟨swap, rfl, hcorrelated⟩
    cases hcorrelated with
    | buy hcpi hevent hname hcalls =>
        apply parseInstruction_of_buyEvent hprogram hcpi
        rw [parseBuyEvent_eq_ok_iff hcrates]
        exact ⟨_, _, _, hevent, .inl ⟨hname, hcalls, rfl⟩⟩
    | buyExactQuoteIn hcpi hevent hname hcalls =>
        apply parseInstruction_of_buyEvent hprogram hcpi
        rw [parseBuyEvent_eq_ok_iff hcrates]
        exact ⟨_, _, _, hevent, .inr ⟨hname, hcalls, rfl⟩⟩
    | sell hcpi hevent hcalls =>
        apply parseInstruction_of_sellEvent hprogram hcpi
        rw [parseSellEvent_eq_ok_iff hcrates]
        exact ⟨_, _, _, hevent, hcalls, rfl⟩

/-- The results of the parser on an instruction of the program. -/
theorem parseInstruction_correlated (hcrates : crates.Documented)
    (hprogram : ctx.programId = programId) :
    (parseInstruction crates ctx = .ok none ↔
      ¬ eventIxTag <+: ctx.data ∨
        16 ≤ ctx.data.length ∧ (ctx.data.take 16).drop 8 ≠ buyEventDiscriminator ∧
          (ctx.data.take 16).drop 8 ≠ sellEventDiscriminator) ∧
      ∀ event, parseInstruction crates ctx = .ok (some event) ↔
        ∃ swap, event = .tokenSwap swap ∧ Correlated ctx swap :=
  ⟨parseInstruction_eq_none_iff hprogram, fun _ => parseInstruction_eq_some_iff hcrates hprogram⟩

end Acceptance

/-- The event of a sell with the sell that emitted it. -/
def sellContext (crates : Crates) (sell : Parser.Sell) : InstructionContext where
  instruction := ⟨programId, [eventAuthority], sell.eventData⟩
  parent := some (sell.parent crates).instruction

/-- A sell event agrees with the sell that emitted it. -/
theorem parseInstruction_correlated_sellContext :
    ∃ swap, Correlated (sellContext Parser.TestSupport.crates (Parser.sellOf 1 100 200)) swap ∧
      swap.inputAmount = 100 ∧ swap.outputAmount = 200 := by
  have hparse : parseInstruction Parser.TestSupport.crates
      (sellContext Parser.TestSupport.crates (Parser.sellOf 1 100 200)) =
        .ok (some (.tokenSwap ((Parser.sellOf 1 100 200).swap Parser.TestSupport.crates))) :=
    (Parser.sellOf 1 100 200).parse_event Parser.TestSupport.crates_documented rfl rfl rfl rfl
  rcases ((parseInstruction_correlated Parser.TestSupport.crates_documented rfl).2 _).mp hparse
    with ⟨swap, hswap, hcorrelated⟩
  rcases ParsedEvent.tokenSwap.inj hswap with rfl
  exact ⟨_, hcorrelated, rfl, rfl⟩

end Pumpswap
end PumpRealtimePrices
