import PumpRealtimePrices.StandaloneIndexer.Runs

/-!
# What the indexer accounts for

The indexer prints a summary for every stored block, and a line for everything that goes
wrong with a notification.  Over any number of sessions, with failures of the connection,
of the parser and of the databases at any place, the output and the tables agree.

Main results:

- Theorem {lit}`attempts_run`: the tables are those of one call for each handled block.
- Theorem {lit}`summaries_run`: the printed summaries are those of the stored blocks, and
  add up to the stored prices.
- Theorem {lit}`notifications_run`: every handled notification is accounted for once, by its
  own turn.
- Theorem {lit}`sent_run`: what the indexer sends.
-/

namespace PumpRealtimePrices
namespace StandaloneIndexer

open PumpRealtimePrices.Parser PumpRealtimePrices.Saver SerdeJson EventLoop

/-- Empty tables, and nothing written. -/
def World.start : World where
  tables := .empty
  output := []

/-! ## Parts of the output -/

def summaryOf : Output → Option BlockSummary
  | .stdout summary => some summary
  | _ => none

def processingErrorOf : Output → Option ProcessingError
  | .stderr (.processing error) => some error
  | _ => none

def sentOf : Output → Option Message
  | .sent message => some message
  | _ => none

/-- Lines about failures are neither summaries, nor errors, nor messages. -/
theorem filterMap_failureLines {β : Type} {select : Output → Option β}
    (hselect : ∀ report, select (.stderr (.parseFailure report)) = none) (events : BlockEvents) :
    (Indexer.failureLines events).filterMap select = [] := by
  rw [Indexer.failureLines, List.filterMap_map, List.filterMap_eq_nil_iff]
  exact fun report _ => hselect report

namespace Indexer

variable (indexer : Indexer)

/-- A part of the output, session by session. -/
theorem filterMap_output_run {β : Type} (select : Output → Option β) (sessions : List Session) :
    (indexer.run sessions .start).output.filterMap select =
      (indexer.startedSessions sessions).flatMap fun session =>
        (indexer.transcript session).filterMap select := by
  rw [run_history, World.after, World.start, List.nil_append, List.filterMap_flatMap]

/-- A part of the output that only turns write. -/
theorem filterMap_output_turns {β : Type} {select : Output → Option β}
    (hopening : ∀ session, (indexer.opening session).filterMap select = [])
    (hended : ∀ reason, select (.stderr (.sessionEnded reason)) = none)
    (sessions : List Session) :
    (indexer.run sessions .start).output.filterMap select =
      (indexer.turns sessions).flatMap fun turn => (indexer.output turn).filterMap select := by
  have htranscript : ∀ session, (indexer.transcript session).filterMap select =
      (indexer.handledTurns session).flatMap fun turn =>
        (indexer.output turn).filterMap select := by
    intro session
    have hclosing : (indexer.closing session).filterMap select = [] := by
      rw [closing, List.filterMap_map, List.filterMap_eq_nil_iff]
      exact fun reason _ => hended reason
    rw [transcript, List.filterMap_append, List.filterMap_append, hopening, hclosing,
      List.nil_append, List.append_nil, List.filterMap_flatMap]
  rw [filterMap_output_run, turns, List.flatMap_assoc]
  simp only [htranscript]

/-! ## Calls of the saver -/

/-- Calls of all handled turns. -/
def calls (sessions : List Session) : List Call :=
  (indexer.turns sessions).filterMap indexer.call

/-- The call of a turn is that for the block it brings. -/
theorem call_eq_some_iff {turn : Turn} {call : Call} :
    indexer.call turn = some call ↔
      ∃ summary, indexer.Brings turn summary call.events ∧ call.env = turn.env := by
  rcases call with ⟨env, events⟩
  constructor
  · intro hcall
    rw [Indexer.call] at hcall
    split at hcall
    · next summary found haction =>
        cases hcall
        exact ⟨summary, indexer.action_eq_save_iff.mp haction, rfl⟩
    · cases hcall
  · intro hbrings
    rcases hbrings with ⟨summary, hbrings, rfl⟩
    rw [Indexer.call, indexer.action_eq_save_iff.mpr hbrings]

/-! ## Summaries -/

/-- Summaries that a turn prints. -/
def turnSummaries (turn : Turn) : List BlockSummary :=
  (indexer.output turn).filterMap summaryOf

/-- Printed summaries, in their order. -/
def summaries (sessions : List Session) : List BlockSummary :=
  (indexer.run sessions .start).output.filterMap summaryOf

/-- The summaries, turn by turn. -/
theorem summaries_eq (sessions : List Session) :
    indexer.summaries sessions = (indexer.turns sessions).flatMap indexer.turnSummaries := by
  refine indexer.filterMap_output_turns (fun session => ?_) (fun _ => rfl) sessions
  rw [opening]
  split <;> rfl

/-- A turn carries a block notification. -/
def notifies (turn : Turn) : Bool :=
  (indexer.carried turn).any fun message => decide (IsBlockNotification message)

/-- Calls that fail. -/
def failedCalls (sessions : List Session) : List Call :=
  (indexer.calls sessions).filter fun call => !call.result.isOk

/-- Lines about notifications that are not processed to the end. -/
def processingErrors (sessions : List Session) : List ProcessingError :=
  (indexer.run sessions .start).output.filterMap processingErrorOf

/-- Lines that a turn prints about a notification that is not processed to the end. -/
def turnErrors (turn : Turn) : List ProcessingError :=
  (indexer.output turn).filterMap processingErrorOf

/-- Calls of a turn that fail. -/
def turnFailures (turn : Turn) : List Call :=
  (indexer.call turn).toList.filter fun call => !call.result.isOk

/-- A turn accounts for its notification once: with a summary, with a line, or with a
call that fails.  A turn without a notification has none of the three. -/
theorem notifies_accounted (turn : Turn) :
    (indexer.notifies turn).toNat =
      (indexer.turnSummaries turn).length + (indexer.turnErrors turn).length +
        (indexer.turnFailures turn).length := by
  rw [notifies, turnSummaries, turnErrors, turnFailures, output, call]
  cases indexer.acts_action turn with
  | stop reason hcarried _ hfound =>
      rw [hcarried, hfound]
      rfl
  | subscribed hcarried hfound =>
      rw [hcarried, hfound]
      rfl
  | ignore hcarried _ hfound =>
      rw [hcarried, hfound]
      rfl
  | respond payload hcarried _ hfound =>
      rw [hcarried, hfound]
      dsimp only
      split <;> rfl
  | processed message hcarried hfound =>
      rw [hcarried, hfound, Option.any_some]
      have hnotified : processNotificationEvents indexer.crates indexer.registry message
          turn.parseDuration ≠ .ok none ↔ IsBlockNotification message :=
        processNotificationEvents_eq_none_iff.not.trans not_not
      cases hprocessed : processNotificationEvents indexer.crates indexer.registry message
          turn.parseDuration with
      | error error =>
          rw [decide_eq_true (hnotified.mp (by simp [hprocessed]))]
          rfl
      | ok processed =>
          rcases processed with _ | ⟨summary, events⟩
          · have hnot := processNotificationEvents_eq_none_iff.mp hprocessed
            rw [decide_eq_false hnot]
            rfl
          · rw [decide_eq_true (hnotified.mp (by simp [hprocessed]))]
            dsimp only [actionOfProcessed]
            rw [List.filterMap_append, List.filterMap_append, filterMap_failureLines (fun _ => rfl),
              filterMap_failureLines (fun _ => rfl), Option.toList_some, List.filter_cons]
            cases hresult : (Call.mk turn.env events).result with
            | error error => rfl
            | ok savedPrices => rfl

/-- The lines about notifications, turn by turn. -/
theorem processingErrors_eq (sessions : List Session) :
    indexer.processingErrors sessions =
      (indexer.turns sessions).flatMap indexer.turnErrors := by
  refine indexer.filterMap_output_turns (fun session => ?_) (fun _ => rfl) sessions
  rw [opening]
  split <;> rfl

/-- The failed calls, turn by turn. -/
theorem failedCalls_eq (sessions : List Session) :
    indexer.failedCalls sessions = (indexer.turns sessions).flatMap indexer.turnFailures := by
  rw [failedCalls, calls, List.filterMap_eq_flatMap_toList, List.filter_flatMap]
  rfl

/-- A call that fails ends its session, which is reported. -/
theorem mem_output_of_failed {sessions : List Session} {session : Session}
    (hsession : session ∈ indexer.startedSessions sessions) {turn : Turn}
    (hturn : turn ∈ indexer.handledTurns session) {call : Call}
    (hcall : indexer.call turn = some call) {error : SaverError}
    (hresult : call.result = .error error) :
    Output.stderr (.sessionEnded (indexer.displayError (.save error))) ∈
      (indexer.run sessions .start).output := by
  rcases indexer.call_eq_some_iff.mp hcall with ⟨summary, hbrings, henv⟩
  have hstop : indexer.stop turn = some (indexer.displayError (.save error)) :=
    indexer.stop_eq_some_iff.mpr (.save summary call.events error hbrings (by rw [← henv, hresult]))
  have hended : indexer.sessionStop session = some (indexer.displayError (.save error)) := by
    rw [sessionStop]
    rw [handledTurns] at hturn
    split at hturn
    · next hconnect hsubscribe =>
        rw [hconnect, hsubscribe]
        exact findSome?_of_mem_handled hturn hstop
    · cases hturn
  rw [run_history, World.after, World.start, List.nil_append, List.mem_flatMap]
  refine ⟨session, hsession, List.mem_append_right _ ?_⟩
  rw [closing, hended]
  exact List.mem_singleton_self _

/-- Over all turns the summaries, lines and failed calls add up to the notifications. -/
theorem countP_notifies (turns : List Turn) :
    turns.countP indexer.notifies =
      (turns.flatMap indexer.turnSummaries).length + (turns.flatMap indexer.turnErrors).length +
        (turns.flatMap indexer.turnFailures).length := by
  induction turns with
  | nil => rfl
  | cons turn turns ih =>
      have hturn := indexer.notifies_accounted turn
      simp only [List.flatMap_cons, List.length_append, List.countP_cons]
      rw [ih]
      cases hnotifies : indexer.notifies turn with
      | false =>
          rw [hnotifies, Bool.toNat_false] at hturn
          simp only [Bool.false_eq_true, if_false]
          omega
      | true =>
          rw [hnotifies, Bool.toNat_true] at hturn
          simp only [if_true]
          omega

/-- What a run prints and what fails in it is that of its turns, and every turn accounts for
its notification once: by the summary of its stored block, by a line that tells what is wrong
with it, or by a failed call, which ends the session with a report. -/
theorem notifications_run (sessions : List Session) :
    (indexer.summaries sessions = (indexer.turns sessions).flatMap indexer.turnSummaries ∧
        indexer.processingErrors sessions = (indexer.turns sessions).flatMap indexer.turnErrors ∧
        indexer.failedCalls sessions = (indexer.turns sessions).flatMap indexer.turnFailures) ∧
      (∀ turn ∈ indexer.turns sessions,
        (indexer.notifies turn).toNat =
          (indexer.turnSummaries turn).length + (indexer.turnErrors turn).length +
            (indexer.turnFailures turn).length) ∧
      (indexer.turns sessions).countP indexer.notifies =
        (indexer.summaries sessions).length + (indexer.processingErrors sessions).length +
          (indexer.failedCalls sessions).length ∧
      ∀ session ∈ indexer.startedSessions sessions, ∀ turn ∈ indexer.handledTurns session,
        ∀ call error, indexer.call turn = some call → call.result = .error error →
          Output.stderr (.sessionEnded (indexer.displayError (.save error))) ∈
            (indexer.run sessions .start).output := by
  have hsummaries := indexer.summaries_eq sessions
  have herrors := indexer.processingErrors_eq sessions
  have hfailures := indexer.failedCalls_eq sessions
  refine ⟨⟨hsummaries, herrors, hfailures⟩, fun turn _ => indexer.notifies_accounted turn, ?_, ?_⟩
  · rw [hsummaries, herrors, hfailures]
    exact indexer.countP_notifies _
  · intro session hsession turn hturn call error hcall hresult
    exact indexer.mem_output_of_failed hsession hturn hcall hresult

/-! ## Messages that are sent -/

/-- Payload of a ping that is answered. -/
def answered (turn : Turn) : Option (List UInt8) :=
  match turn.received, turn.pongFailure with
  | some (.ok (.ping payload)), none => some payload
  | _, _ => none

/-- Request of a session that is connected. -/
def requested (session : Session) : List Message :=
  match session.connectFailure, session.subscribeFailure with
  | none, none => [.text (indexer.valueToString blockSubscribeRequest)]
  | _, _ => []

/-- A turn sends nothing but the answer to a ping. -/
theorem sent_output (turn : Turn) :
    (indexer.output turn).filterMap sentOf = (answered turn).toList.map Message.pong := by
  by_cases hping : ∃ payload, turn.received = some (.ok (.ping payload))
  · rcases hping with ⟨payload, hreceived⟩
    rw [output, answered, action, hreceived]
    cases turn.pongFailure <;> rfl
  · have hanswered : answered turn = none := by
      rw [answered]
      split
      · next payload hreceived _ => exact absurd ⟨payload, hreceived⟩ hping
      · rfl
    rw [hanswered, output]
    cases haction : indexer.action turn with
    | respond payload => exact absurd ⟨payload, indexer.received_of_respond haction⟩ hping
    | stop reason => rfl
    | print line => rfl
    | ignore => rfl
    | save summary events =>
        dsimp only
        rw [List.filterMap_append, filterMap_failureLines (fun _ => rfl)]
        split <;> rfl

/-- Over a connection the indexer sends one request, and then the answers to the pings that
it handles, in their order. -/
theorem sent_run (sessions : List Session) :
    (indexer.run sessions .start).output.filterMap sentOf =
      (indexer.startedSessions sessions).flatMap fun session =>
        indexer.requested session ++
          ((indexer.handledTurns session).filterMap answered).map Message.pong := by
  rw [filterMap_output_run]
  congr 1
  funext session
  have hopening : (indexer.opening session).filterMap sentOf = indexer.requested session := by
    rw [opening, requested]
    cases session.connectFailure <;> cases session.subscribeFailure <;> rfl
  have hclosing : (indexer.closing session).filterMap sentOf = [] := by
    rw [closing, List.filterMap_map, List.filterMap_eq_nil_iff]
    exact fun _ _ => rfl
  rw [transcript, List.filterMap_append, List.filterMap_append, hopening, hclosing,
    List.append_nil, List.filterMap_flatMap, List.filterMap_eq_flatMap_toList, List.map_flatMap]
  simp only [sent_output]

end Indexer

end StandaloneIndexer
end PumpRealtimePrices
