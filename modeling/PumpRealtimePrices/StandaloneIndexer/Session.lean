import PumpRealtimePrices.Library.EventLoop
import PumpRealtimePrices.Saver.Attempts
import PumpRealtimePrices.StandaloneIndexer.Notifications

/-!
# WebSocket sessions

The indexer connects, subscribes, and then handles one message after the other until the
session ends; it reports the end and connects again.  A finite list of sessions, the last
of which may still go on, is what the indexer has met up to some moment.

A message is first classified: whether it ends the session, is answered, or carries a
block.  What a turn of the loop writes is then known before it is taken, and its effect on
the tables is that of the calls for its block.

Main results:

- Theorem {lit}`receive_eq`: a turn of the loop performs the action of its message.
- Theorem {lit}`perform_eq`: what a turn stores and writes, and how it ends.
- Theorem {lit}`stop_eq_some_iff`: which turns end a session, and with which reason.
-/

namespace PumpRealtimePrices
namespace StandaloneIndexer

open PumpRealtimePrices.Parser PumpRealtimePrices.Saver SerdeJson EventLoop

/-! ## What the indexer meets -/

/-- A WebSocket message; the frame that closes a connection is its debug text. -/
inductive Message where
  | text (text : String)
  | binary (payload : List UInt8)
  | ping (payload : List UInt8)
  | pong (payload : List UInt8)
  | close (frame : String)
  | frame
deriving DecidableEq, Repr

/-- One turn of the receiving loop: what the connection yields, how the turn ends if it
answers a ping, and what it meets and how long it takes if it saves a block. -/
structure Turn where
  received : Option (Except String Message)
  pongFailure : Option String
  env : Environment
  parseDuration : Nat
  databaseWriteDuration : Nat

/-- One session: whether connecting and subscribing fail, and the turns of its loop up to
some moment. -/
structure Session where
  connectFailure : Option String
  subscribeFailure : Option String
  turns : List Turn

/-- Endpoint, parser and third-party functions of an indexer. -/
structure Indexer where
  websocketUrl : String
  crates : Crates
  registry : ParserRegistry
  /-- {lit}`serde_json::from_str`, with the text of the error. -/
  fromStr : String → Except String Value
  /-- {lit}`Value::to_string`. -/
  valueToString : Value → String
  /-- Text of an error of the PostgreSQL client. -/
  databaseErrorToString : DatabaseError → String

/-! ## What the indexer writes -/

/-- A line on the standard error stream. -/
inductive Line where
  | connecting (endpoint : String)
  | subscribed
  | parseFailure (report : ParseFailureReport)
  | processing (error : ProcessingError)
  | sessionEnded (reason : String)
deriving DecidableEq, Repr

def Line.display (databaseErrorToString : DatabaseError → String) : Line → String
  | .connecting endpoint => s!"Connecting to Solana WebSocket endpoint: {endpoint}"
  | .subscribed => "Subscribed to finalized Solana blocks"
  | .parseFailure report => report.display
  | .processing error => error.display databaseErrorToString
  | .sessionEnded reason => s!"WebSocket session ended: {reason}; reconnecting in 5 seconds"

/-- What leaves the process, beside the writes to the databases. -/
inductive Output where
  | stderr (line : Line)
  | stdout (summary : BlockSummary)
  | sent (message : Message)
deriving DecidableEq, Repr

/-- The tables, and all that was written so far. -/
structure World where
  tables : Tables
  output : List Output

/-- A function of the indexer; its errors are texts. -/
abbrev Receive (α : Type) := Rust.Effect String World α

/-! ## The loop -/

def maxReportedParseFailures : Nat := 5

/-- Hide the last six characters of an endpoint. -/
def redactEndpoint (endpoint : String) : String :=
  let visibleCharacters := endpoint.length - 6
  String.ofList (endpoint.toList.take visibleCharacters) ++
    String.ofList (List.replicate (endpoint.length - visibleCharacters) '*')

def World.emit (world : World) (output : List Output) : World :=
  { world with output := world.output ++ output }

def emit (output : Output) : Receive Unit :=
  modify fun world => world.emit [output]

/-- The world after calls of the saver, and more output. -/
def World.after (world : World) (calls : List Call) (output : List Output) : World where
  tables := calls.foldl Call.attempt world.tables
  output := world.output ++ output

namespace World

variable (world : World)

/-- Writing nothing changes nothing. -/
theorem emit_nil : world.emit [] = world := by
  rw [emit, List.append_nil]

/-- Output is appended. -/
theorem emit_emit (output output' : List Output) :
    (world.emit output).emit output' = world.emit (output ++ output') := by
  rw [emit, emit, emit, List.append_assoc]

/-- A world after no calls has only written. -/
theorem after_nil (output : List Output) : world.after [] output = world.emit output :=
  rfl

/-- First some calls and some output, then others. -/
theorem after_after (calls calls' : List Call) (output output' : List Output) :
    (world.after calls output).after calls' output' =
      world.after (calls ++ calls') (output ++ output') := by
  rw [after, after, after, List.foldl_append, List.append_assoc]

end World

namespace Indexer

variable (indexer : Indexer)

def displayError (error : ProcessingError) : String :=
  error.display indexer.databaseErrorToString

/-- Save a block, with the text of the error. -/
def save (env : Environment) (events : BlockEvents) : Receive Nat := fun world =>
  match saveBlockEvents env events world.tables with
  | .ok savedPrices tables => .ok savedPrices { world with tables }
  | .error error tables => .error (indexer.displayError (.save error)) { world with tables }

/-- Handle a message that is not a reply. -/
def handleNotification (turn : Turn) (message : Value) : Receive Unit :=
  match processNotificationEvents indexer.crates indexer.registry message turn.parseDuration with
  | .ok (some (summary, events)) => do
      forM ((parseFailureReports events).take maxReportedParseFailures) fun report =>
        emit (.stderr (.parseFailure report))
      let savedPrices ← indexer.save turn.env events
      emit (.stdout { summary with
        savedPrices, databaseWriteDuration := turn.databaseWriteDuration })
  | .ok none => pure ()
  | .error error => emit (.stderr (.processing error))

def handleText (turn : Turn) (text : String) : Receive Unit := do
  let message ← Rust.ofResult ((indexer.fromStr text).mapError fun error =>
    s!"received invalid JSON: {error}")
  if let some error := subscriptionError message then
    throw s!"blockSubscribe was rejected: {indexer.valueToString error}"
  if hasSubscriptionId message ∧ (message.get "result").isSome then
    emit (.stderr .subscribed)
  else
    indexer.handleNotification turn message

/-- One turn of the loop; a stream without a next message has ended. -/
def receive (turn : Turn) : Receive Unit :=
  match turn.received with
  | none => throw "server closed connection without a close frame"
  | some (.error error) => throw s!"failed to read message: {error}"
  | some (.ok (.text text)) => indexer.handleText turn text
  | some (.ok (.ping payload)) =>
      match turn.pongFailure with
      | some error => throw s!"failed to respond to ping: {error}"
      | none => emit (.sent (.pong payload))
  | some (.ok (.close frame)) => throw s!"server closed connection: {frame}"
  | some (.ok _) => pure ()

/-- A session.  It ends with an error only; without one it waits for the next message. -/
def receiveBlocks (session : Session) : Receive Unit := do
  emit (.stderr (.connecting (redactEndpoint indexer.websocketUrl)))
  if let some error := session.connectFailure then
    throw s!"failed to connect: {error}"
  if let some error := session.subscribeFailure then
    throw s!"failed to subscribe: {error}"
  emit (.sent (.text (indexer.valueToString blockSubscribeRequest)))
  loop indexer.receive session.turns

/-- All sessions, one after the other. -/
def run (sessions : List Session) (world : World) : World :=
  restart indexer.receiveBlocks
    (fun reason world => world.emit [.stderr (.sessionEnded reason)]) sessions world

/-! ## Actions -/

/-- What a message makes the loop do. -/
inductive Action where
  | stop (reason : String)
  | print (line : Line)
  | respond (payload : List UInt8)
  | save (summary : BlockSummary) (events : BlockEvents)
  | ignore

/-- Action of a processed message. -/
def actionOfProcessed : Except ProcessingError (Option (BlockSummary × BlockEvents)) → Action
  | .ok (some (summary, events)) => .save summary events
  | .ok none => .ignore
  | .error error => .print (.processing error)

/-- Action of a decoded text. -/
def actionOfMessage (turn : Turn) (message : Value) : Action :=
  match subscriptionError message with
  | some error => .stop s!"blockSubscribe was rejected: {indexer.valueToString error}"
  | none =>
      if hasSubscriptionId message ∧ (message.get "result").isSome then .print .subscribed
      else actionOfProcessed (processNotificationEvents indexer.crates indexer.registry message
        turn.parseDuration)

def action (turn : Turn) : Action :=
  match turn.received with
  | none => .stop "server closed connection without a close frame"
  | some (.error error) => .stop s!"failed to read message: {error}"
  | some (.ok (.text text)) =>
      match indexer.fromStr text with
      | .error error => .stop s!"received invalid JSON: {error}"
      | .ok message => indexer.actionOfMessage turn message
  | some (.ok (.ping payload)) => .respond payload
  | some (.ok (.close frame)) => .stop s!"server closed connection: {frame}"
  | some (.ok _) => .ignore

/-- Lines that report the failures of a block. -/
def failureLines (events : BlockEvents) : List Output :=
  ((parseFailureReports events).take maxReportedParseFailures).map fun report =>
    .stderr (.parseFailure report)

/-- Only a processed block is saved. -/
theorem actionOfProcessed_eq_save_iff
    {processed : Except ProcessingError (Option (BlockSummary × BlockEvents))}
    {summary : BlockSummary} {events : BlockEvents} :
    actionOfProcessed processed = .save summary events ↔
      processed = .ok (some (summary, events)) := by
  rcases processed with error | _ | ⟨summary', events'⟩ <;> simp [actionOfProcessed]

/-- Perform an action in a turn. -/
def perform (turn : Turn) : Action → Receive Unit
  | .stop reason => throw reason
  | .print line => emit (.stderr line)
  | .respond payload =>
      match turn.pongFailure with
      | some error => throw s!"failed to respond to ping: {error}"
      | none => emit (.sent (.pong payload))
  | .save summary events => do
      modify fun world => world.emit (failureLines events)
      let savedPrices ← indexer.save turn.env events
      emit (.stdout { summary with
        savedPrices, databaseWriteDuration := turn.databaseWriteDuration })
  | .ignore => pure ()

/-- Writing lines one after the other. -/
theorem forM_emit {ρ : Type} (line : ρ → Line) (reports : List ρ) :
    (forM reports fun report => emit (.stderr (line report))) =
      modify fun world => world.emit (reports.map fun report => .stderr (line report)) := by
  funext world
  induction reports generalizing world with
  | nil =>
      change EStateM.Result.ok () world = .ok () (world.emit [])
      rw [World.emit_nil]
  | cons report reports ih =>
      have hfirst : (emit (.stderr (line report))) world =
          .ok () (world.emit [.stderr (line report)]) := rfl
      rw [List.forM_cons, Rust.effect_bind_of_ok hfirst, ih]
      change EStateM.Result.ok () ((world.emit _).emit (reports.map _)) = .ok () (world.emit _)
      rw [World.emit_emit, List.map_cons, List.singleton_append]

/-- Handling a notification is performing the action that it calls for. -/
theorem handleNotification_eq (turn : Turn) (message : Value) :
    indexer.handleNotification turn message =
      indexer.perform turn (actionOfProcessed (processNotificationEvents indexer.crates
        indexer.registry message turn.parseDuration)) := by
  rw [handleNotification]
  cases processNotificationEvents indexer.crates indexer.registry message turn.parseDuration with
  | error error => rfl
  | ok processed =>
      cases processed with
      | none => rfl
      | some processed =>
          rcases processed with ⟨summary, events⟩
          dsimp only
          rw [forM_emit]
          rfl

/-- Handling a text is performing the action of its message. -/
theorem handleText_eq (turn : Turn) {text : String} {message : Value}
    (hjson : indexer.fromStr text = .ok message) :
    indexer.handleText turn text = indexer.perform turn (indexer.actionOfMessage turn message) := by
  funext world
  have hmessage : (Rust.ofResult ((indexer.fromStr text).mapError fun error =>
      s!"received invalid JSON: {error}") : Receive Value) world = .ok message world := by
    rw [hjson]
    rfl
  rw [handleText, Rust.effect_bind_of_ok hmessage, actionOfMessage]
  cases subscriptionError message with
  | some error => rfl
  | none =>
      dsimp only
      split
      · rfl
      · rw [handleNotification_eq]

/-- A turn of the loop performs the action of its message. -/
theorem receive_eq (turn : Turn) :
    indexer.receive turn = indexer.perform turn (indexer.action turn) := by
  rw [receive, action]
  cases turn.received with
  | none => rfl
  | some received =>
      cases received with
      | error error => rfl
      | ok message =>
          cases message with
          | text text =>
              dsimp only
              cases hjson : indexer.fromStr text with
              | ok message => exact indexer.handleText_eq turn hjson
              | error error =>
                  rw [handleText, hjson]
                  rfl
          | _ => rfl

/-! ## What a turn does -/

/-- Call of the saver in a turn. -/
def call (turn : Turn) : Option Call :=
  match indexer.action turn with
  | .save _ events => some ⟨turn.env, events⟩
  | _ => none

/-- Reason with which a turn ends its session. -/
def stop (turn : Turn) : Option String :=
  match indexer.action turn with
  | .stop reason => some reason
  | .respond _ => turn.pongFailure.map fun error => s!"failed to respond to ping: {error}"
  | .save _ events =>
      match (Call.mk turn.env events).result with
      | .ok _ => none
      | .error error => some (indexer.displayError (.save error))
  | _ => none

/-- What a turn writes. -/
def output (turn : Turn) : List Output :=
  match indexer.action turn with
  | .print line => [.stderr line]
  | .respond payload => if turn.pongFailure.isSome then [] else [.sent (.pong payload)]
  | .save summary events =>
      failureLines events ++
        match (Call.mk turn.env events).result with
        | .ok savedPrices => [.stdout { summary with
            savedPrices, databaseWriteDuration := turn.databaseWriteDuration }]
        | .error _ => []
  | _ => []

/-- The saver is called, and nothing is written. -/
theorem save_eq (env : Environment) (events : BlockEvents) (world : World) :
    indexer.save env events world =
      match (Call.mk env events).result with
      | .ok savedPrices => .ok savedPrices (world.after [⟨env, events⟩] [])
      | .error error =>
          .error (indexer.displayError (.save error)) (world.after [⟨env, events⟩] []) := by
  rw [save, ← outcome_saveBlockEvents ⟨env, events⟩ world.tables, World.after, List.append_nil,
    List.foldl_cons, List.foldl_nil, Call.attempt]
  cases saveBlockEvents env events world.tables <;> rfl

/-- Result of a turn: it is known before the turn. -/
theorem perform_eq (turn : Turn) (world : World) :
    indexer.perform turn (indexer.action turn) world =
      match indexer.stop turn with
      | none => .ok () (world.after (indexer.call turn).toList (indexer.output turn))
      | some reason =>
          .error reason (world.after (indexer.call turn).toList (indexer.output turn)) := by
  rw [stop, call, output]
  cases indexer.action turn with
  | stop reason => exact congrArg (EStateM.Result.error reason) world.emit_nil.symm
  | print line => rfl
  | ignore => exact congrArg (EStateM.Result.ok ()) world.emit_nil.symm
  | respond payload =>
      rw [perform]
      cases turn.pongFailure with
      | none => rfl
      | some error => exact congrArg (EStateM.Result.error _) world.emit_nil.symm
  | save summary events =>
      have hlines : (modify fun world => world.emit (failureLines events) : Receive Unit) world =
          .ok () (world.after [] (failureLines events)) := rfl
      rw [perform, Rust.effect_bind_of_ok hlines]
      have hsave := indexer.save_eq turn.env events (world.after [] (failureLines events))
      rw [World.after_after, List.nil_append, List.append_nil] at hsave
      dsimp only
      cases hresult : (Call.mk turn.env events).result with
      | ok savedPrices =>
          rw [hresult] at hsave
          rw [Rust.effect_bind_of_ok hsave]
          change EStateM.Result.ok () ((world.after _ _).after [] [_]) = .ok () (world.after _ _)
          rw [World.after_after, List.append_nil]
          rfl
      | error error =>
          rw [hresult] at hsave
          rw [Rust.effect_bind_eq_error_iff.mpr (.inl hsave), List.append_nil]
          rfl

/-- A turn ends the session exactly as its action says. -/
theorem ending_receive (turn : Turn) (world : World) :
    ending (indexer.receive turn world) = indexer.stop turn := by
  rw [receive_eq, perform_eq]
  cases indexer.stop turn <;> rfl

/-- A turn leaves the call and the output of its action. -/
theorem final_receive (turn : Turn) (world : World) :
    final (indexer.receive turn world) =
      world.after (indexer.call turn).toList (indexer.output turn) := by
  rw [receive_eq, perform_eq]
  cases indexer.stop turn <;> rfl

/-! ## What ends a session -/

/-- The message of a turn, if it is not a reply to the subscription. -/
def carried (turn : Turn) : Option Value :=
  match turn.received with
  | some (.ok (.text text)) =>
      (indexer.fromStr text).toOption.filter fun message => !isReply message
  | _ => none

/-- A turn carries a message exactly when it receives its text and the message is not a
reply. -/
theorem carried_eq_some_iff {turn : Turn} {message : Value} :
    indexer.carried turn = some message ↔
      ∃ text, turn.received = some (.ok (.text text)) ∧ indexer.fromStr text = .ok message ∧
        isReply message = false := by
  rw [carried]
  split
  · next text hreceived =>
      rw [hreceived, Option.filter_eq_some_iff, Bool.not_eq_true']
      constructor
      · intro hcarried
        rcases hcarried with ⟨hjson, hreply⟩
        refine ⟨text, rfl, ?_, hreply⟩
        cases hfrom : indexer.fromStr text with
        | error error =>
            rw [hfrom] at hjson
            cases hjson
        | ok found =>
            rw [hfrom] at hjson
            cases hjson
            rfl
      · intro hcarried
        rcases hcarried with ⟨found, hfound, hjson, hreply⟩
        cases hfound
        rw [hjson]
        exact ⟨rfl, hreply⟩
  · next hother =>
      refine ⟨(nomatch ·), fun hcarried => ?_⟩
      rcases hcarried with ⟨text, hreceived, -, -⟩
      exact absurd hreceived (hother text)

/-- A turn brings a block with these events. -/
def Brings (turn : Turn) (summary : BlockSummary) (events : BlockEvents) : Prop :=
  ∃ message, indexer.carried turn = some message ∧
    processNotificationEvents indexer.crates indexer.registry message turn.parseDuration =
      .ok (some (summary, events))

/-- Which turns end a session, and with which reason. -/
inductive Ends (turn : Turn) : String → Prop where
  | exhausted (hreceived : turn.received = none) :
      Ends turn "server closed connection without a close frame"
  | read (error : String) (hreceived : turn.received = some (.error error)) :
      Ends turn s!"failed to read message: {error}"
  | json (text error : String) (hreceived : turn.received = some (.ok (.text text)))
      (hjson : indexer.fromStr text = .error error) : Ends turn s!"received invalid JSON: {error}"
  | rejected (text : String) (message error : Value)
      (hreceived : turn.received = some (.ok (.text text)))
      (hjson : indexer.fromStr text = .ok message)
      (herror : subscriptionError message = some error) :
      Ends turn s!"blockSubscribe was rejected: {indexer.valueToString error}"
  | save (summary : BlockSummary) (events : BlockEvents) (error : SaverError)
      (hbrings : indexer.Brings turn summary events)
      (hresult : (Call.mk turn.env events).result = .error error) :
      Ends turn (indexer.displayError (.save error))
  | pong (payload : List UInt8) (error : String)
      (hreceived : turn.received = some (.ok (.ping payload)))
      (hfailure : turn.pongFailure = some error) : Ends turn s!"failed to respond to ping: {error}"
  | close (frame : String) (hreceived : turn.received = some (.ok (.close frame))) :
      Ends turn s!"server closed connection: {frame}"

/-- Other messages than replies are processed. -/
theorem actionOfMessage_of_not_isReply (turn : Turn) {message : Value}
    (hreply : isReply message = false) :
    indexer.actionOfMessage turn message =
      actionOfProcessed (processNotificationEvents indexer.crates indexer.registry message
        turn.parseDuration) := by
  rcases isReply_eq_false_iff.mp hreply with ⟨herror, hresult⟩
  rw [actionOfMessage, herror]
  exact if_neg hresult

/-- The action of a turn with a message is that of the message. -/
theorem action_of_carries {turn : Turn} {message : Value}
    (hcarries : indexer.carried turn = some message) :
    indexer.action turn = actionOfProcessed (processNotificationEvents indexer.crates
      indexer.registry message turn.parseDuration) := by
  rcases indexer.carried_eq_some_iff.mp hcarries with ⟨text, hreceived, hjson, hreply⟩
  rw [action, hreceived]
  dsimp only
  rw [hjson]
  exact indexer.actionOfMessage_of_not_isReply turn hreply

/-- Only a text carries a message. -/
theorem carried_eq_none {turn : Turn} {received : Option (Except String Message)}
    (hreceived : turn.received = received) (htext : ∀ text, received ≠ some (.ok (.text text))) :
    indexer.carried turn = none := by
  rw [Option.eq_none_iff_forall_ne_some]
  intro message hcarries
  rcases indexer.carried_eq_some_iff.mp hcarries with ⟨text, htext', -, -⟩
  exact htext text (hreceived.symm.trans htext')

/-- A reply carries none. -/
theorem carried_eq_none_of_text {turn : Turn} {text : String}
    (hreceived : turn.received = some (.ok (.text text)))
    (hreply : ∀ message, indexer.fromStr text = .ok message → isReply message = true) :
    indexer.carried turn = none := by
  rw [Option.eq_none_iff_forall_ne_some]
  intro message hcarries
  rcases indexer.carried_eq_some_iff.mp hcarries with ⟨found, hfound, hjson, hnot⟩
  rw [hreceived] at hfound
  cases hfound
  rw [hreply message hjson] at hnot
  cases hnot

/-- What can be made of a turn. -/
inductive Acts (turn : Turn) (found : Action) : Prop where
  | stop (reason : String) (hcarried : indexer.carried turn = none)
      (hends : indexer.Ends turn reason) (hfound : found = .stop reason)
  | subscribed (hcarried : indexer.carried turn = none) (hfound : found = .print .subscribed)
  | processed (message : Value) (hcarried : indexer.carried turn = some message)
      (hfound : found = actionOfProcessed (processNotificationEvents indexer.crates
        indexer.registry message turn.parseDuration))
  | respond (payload : List UInt8) (hcarried : indexer.carried turn = none)
      (hreceived : turn.received = some (.ok (.ping payload))) (hfound : found = .respond payload)
  | ignore (hcarried : indexer.carried turn = none)
      (hreceived : ∀ payload, turn.received ≠ some (.ok (.ping payload))) (hfound : found = .ignore)

/-- The action of a turn is one of those that are listed. -/
theorem acts_action (turn : Turn) : indexer.Acts turn (indexer.action turn) := by
  rw [action]
  split
  · next hreceived =>
      exact .stop _ (indexer.carried_eq_none hreceived (by simp)) (.exhausted hreceived) rfl
  · next error hreceived =>
      exact .stop _ (indexer.carried_eq_none hreceived (by simp)) (.read error hreceived) rfl
  · next text hreceived =>
      split
      · next error hjson =>
          have hcarried : indexer.carried turn = none :=
            indexer.carried_eq_none_of_text hreceived fun message hmessage => by
              rw [hjson] at hmessage
              cases hmessage
          exact .stop _ hcarried (.json text error hreceived hjson) rfl
      · next message hjson =>
          by_cases hreply : isReply message = false
          · exact .processed message
              (indexer.carried_eq_some_iff.mpr ⟨text, hreceived, hjson, hreply⟩)
              (indexer.actionOfMessage_of_not_isReply turn hreply)
          · have hcarried : indexer.carried turn = none :=
              indexer.carried_eq_none_of_text hreceived fun found hfound => by
                rw [hjson] at hfound
                cases hfound
                exact Bool.not_eq_false _ ▸ hreply
            rw [actionOfMessage]
            split
            · next error herror =>
                exact .stop _ hcarried (.rejected text message error hreceived hjson herror) rfl
            · next herror =>
                have hresult := (not_and.mp (isReply_eq_false_iff.not.mp hreply)) herror
                rw [if_pos (not_not.mp hresult)]
                exact .subscribed hcarried rfl
  · next payload hreceived =>
      exact .respond payload (indexer.carried_eq_none hreceived (by simp)) hreceived rfl
  · next frame hreceived =>
      exact .stop _ (indexer.carried_eq_none hreceived (by simp)) (.close frame hreceived) rfl
  · next message htext hping hclose hreceived =>
      refine .ignore (indexer.carried_eq_none hreceived fun text htext' => ?_)
        (fun payload hping' => ?_) rfl
      · exact htext text (Except.ok.inj (Option.some.inj htext'))
      · exact hping payload (Except.ok.inj (Option.some.inj (hreceived.symm.trans hping')))

/-- A turn saves exactly the block that it brings. -/
theorem action_eq_save_iff {turn : Turn} {summary : BlockSummary} {events : BlockEvents} :
    indexer.action turn = .save summary events ↔ indexer.Brings turn summary events := by
  constructor
  · intro haction
    have hacts := indexer.acts_action turn
    rw [haction] at hacts
    cases hacts with
    | stop _ _ _ hfound => cases hfound
    | subscribed _ hfound => cases hfound
    | processed message hcarries hfound =>
        exact ⟨message, hcarries, actionOfProcessed_eq_save_iff.mp hfound.symm⟩
    | respond _ _ _ hfound => cases hfound
    | ignore _ _ hfound => cases hfound
  · intro hbrings
    rcases hbrings with ⟨message, hcarries, hprocessed⟩
    rw [indexer.action_of_carries hcarries, hprocessed]
    rfl

/-- Only a ping is responded to. -/
theorem received_of_respond {turn : Turn} {payload : List UInt8}
    (haction : indexer.action turn = .respond payload) :
    turn.received = some (.ok (.ping payload)) := by
  have hacts := indexer.acts_action turn
  rw [haction] at hacts
  cases hacts with
  | stop _ _ _ hfound => cases hfound
  | subscribed _ hfound => cases hfound
  | processed message _ hfound =>
      cases hprocessed : processNotificationEvents indexer.crates indexer.registry message
          turn.parseDuration with
      | error error =>
          rw [hprocessed] at hfound
          cases hfound
      | ok processed =>
          rw [hprocessed] at hfound
          cases processed <;> cases hfound
  | respond _ _ hreceived hfound =>
      cases hfound
      exact hreceived
  | ignore _ _ hfound => cases hfound

/-- A turn with a block ends the session exactly when the save fails. -/
theorem stop_of_brings {turn : Turn} {summary : BlockSummary} {events : BlockEvents}
    (hbrings : indexer.Brings turn summary events) :
    indexer.stop turn =
      match (Call.mk turn.env events).result with
      | .ok _ => none
      | .error error => some (indexer.displayError (.save error)) := by
  rw [stop, indexer.action_eq_save_iff.mpr hbrings]

/-- Which turns end a session, and with which reason. -/
theorem stop_eq_some_iff {turn : Turn} {reason : String} :
    indexer.stop turn = some reason ↔ indexer.Ends turn reason := by
  constructor
  · intro hstop
    rw [stop] at hstop
    cases indexer.acts_action turn with
    | stop found _ hends hfound =>
        rw [hfound] at hstop
        cases hstop
        exact hends
    | subscribed _ hfound =>
        rw [hfound] at hstop
        cases hstop
    | processed message hcarries hfound =>
        rw [hfound] at hstop
        cases hprocessed : processNotificationEvents indexer.crates indexer.registry message
            turn.parseDuration with
        | error error =>
            rw [hprocessed] at hstop
            cases hstop
        | ok processed =>
            rw [hprocessed] at hstop
            rcases processed with _ | ⟨summary, events⟩
            · cases hstop
            · dsimp only [actionOfProcessed] at hstop
              split at hstop
              · cases hstop
              · next error hresult =>
                  cases hstop
                  exact .save summary events error ⟨message, hcarries, hprocessed⟩ hresult
    | respond payload _ hreceived hfound =>
        rw [hfound] at hstop
        rcases Option.map_eq_some_iff.mp hstop with ⟨error, hfailure, rfl⟩
        exact .pong payload error hreceived hfailure
    | ignore _ _ hfound =>
        rw [hfound] at hstop
        cases hstop
  · intro hends
    cases hends with
    | exhausted hreceived => rw [stop, action, hreceived]
    | read error hreceived => rw [stop, action, hreceived]
    | json text error hreceived hjson =>
        rw [stop, action, hreceived]
        simp only [hjson]
    | rejected text message error hreceived hjson herror =>
        rw [stop, action, hreceived]
        simp only [hjson, actionOfMessage, herror]
    | save summary events error hbrings hresult =>
        rw [indexer.stop_of_brings hbrings, hresult]
    | pong payload error hreceived hfailure =>
        rw [stop, action, hreceived]
        simp only [hfailure, Option.map_some]
    | close frame hreceived => rw [stop, action, hreceived]

end Indexer

end StandaloneIndexer
end PumpRealtimePrices
