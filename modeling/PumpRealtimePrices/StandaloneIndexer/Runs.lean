import PumpRealtimePrices.StandaloneIndexer.Session

/-!
# Runs of the indexer

A session handles its turns up to the first one that ends it, and the next session is
started.  What the indexer has stored and written after any number of sessions is that of
the handled turns, in their order.

Main results:

- Theorem {lit}`receiveBlocks_eq_error_iff`: when a session ends.
- Theorem {lit}`run_history`: what the indexer has stored and written after any sessions.
-/

namespace PumpRealtimePrices
namespace StandaloneIndexer

open PumpRealtimePrices.Parser PumpRealtimePrices.Saver SerdeJson EventLoop

namespace Indexer

variable (indexer : Indexer)

/-! ## Sessions -/

/-- Reason with which a session ends, if it has ended. -/
def sessionStop (session : Session) : Option String :=
  match session.connectFailure, session.subscribeFailure with
  | some error, _ => some s!"failed to connect: {error}"
  | none, some error => some s!"failed to subscribe: {error}"
  | none, none => session.turns.findSome? indexer.stop

/-- Turns of a session, up to the one that ends it. -/
def handledTurns (session : Session) : List Turn :=
  match session.connectFailure, session.subscribeFailure with
  | none, none => handled indexer.stop session.turns
  | _, _ => []

/-- What a session writes before its first turn. -/
def opening (session : Session) : List Output :=
  .stderr (.connecting (redactEndpoint indexer.websocketUrl)) ::
    match session.connectFailure, session.subscribeFailure with
    | none, none => [.sent (.text (indexer.valueToString blockSubscribeRequest))]
    | _, _ => []

/-- What is written when a session has ended. -/
def closing (session : Session) : List Output :=
  (indexer.sessionStop session).toList.map fun reason => .stderr (.sessionEnded reason)

/-- The world that turns leave. -/
def afterTurns (world : World) (turns : List Turn) : World :=
  world.after (turns.filterMap indexer.call) (turns.flatMap indexer.output)

/-- Turns one after the other are one list of turns. -/
theorem composes_afterTurns :
    Composes fun turns world world' => world' = indexer.afterTurns world turns where
  refl world := world.emit_nil.symm
  trans hturns hturns' := by
    rw [hturns', hturns, afterTurns, afterTurns, afterTurns, World.after_after,
      List.filterMap_append, List.flatMap_append]

/-- The loop handles its turns up to the first one that ends it. -/
theorem final_loop (turns : List Turn) (world : World) :
    final (loop indexer.receive turns world) =
      indexer.afterTurns world (handled indexer.stop turns) := by
  refine loop_history indexer.composes_afterTurns indexer.ending_receive
    (fun turn world => ?_) turns world
  rw [final_receive, afterTurns, List.flatMap_singleton, List.filterMap_cons]
  cases indexer.call turn <;> rfl

/-- How a session ends, and the world that it leaves. -/
theorem receiveBlocks_spec (session : Session) (world : World) :
    ending (indexer.receiveBlocks session world) = indexer.sessionStop session ∧
      final (indexer.receiveBlocks session world) =
        indexer.afterTurns (world.emit (indexer.opening session))
          (indexer.handledTurns session) := by
  have hconnecting : emit (.stderr (.connecting (redactEndpoint indexer.websocketUrl))) world =
      .ok () (world.emit [.stderr (.connecting (redactEndpoint indexer.websocketUrl))]) := rfl
  rw [receiveBlocks, Rust.effect_bind_of_ok hconnecting, sessionStop, opening, handledTurns]
  cases session.connectFailure with
  | some error => exact ⟨rfl, (indexer.composes_afterTurns.refl _)⟩
  | none =>
      cases session.subscribeFailure with
      | some error => exact ⟨rfl, (indexer.composes_afterTurns.refl _)⟩
      | none =>
          dsimp only
          have hsent : ∀ world : World, emit (.sent (.text (indexer.valueToString
              blockSubscribeRequest))) world = .ok () (world.emit [.sent (.text
                (indexer.valueToString blockSubscribeRequest))]) := fun _ => rfl
          rw [Rust.effect_bind_of_ok (hsent _), World.emit_emit, List.singleton_append]
          exact ⟨ending_loop indexer.ending_receive _ _, indexer.final_loop _ _⟩

/-- When a session ends, and with which reason: the first turn that ends it decides. -/
inductive SessionEnds (session : Session) : String → Prop where
  | connect (error : String) (hconnect : session.connectFailure = some error) :
      SessionEnds session s!"failed to connect: {error}"
  | subscribe (error : String) (hconnect : session.connectFailure = none)
      (hsubscribe : session.subscribeFailure = some error) :
      SessionEnds session s!"failed to subscribe: {error}"
  | turn (before : List Turn) (turn : Turn) (after : List Turn) (reason : String)
      (hconnect : session.connectFailure = none) (hsubscribe : session.subscribeFailure = none)
      (hturns : session.turns = before ++ turn :: after)
      (hbefore : ∀ other ∈ before, ∀ found, ¬ indexer.Ends other found)
      (hends : indexer.Ends turn reason) : SessionEnds session reason

/-- A turn goes on exactly when nothing ends it. -/
theorem stop_eq_none_iff {turn : Turn} :
    indexer.stop turn = none ↔ ∀ reason, ¬ indexer.Ends turn reason := by
  rw [Option.eq_none_iff_forall_ne_some]
  exact forall_congr' fun _ => indexer.stop_eq_some_iff.not

/-- How a session ends and why. -/
theorem sessionStop_eq_some_iff {session : Session} {reason : String} :
    indexer.sessionStop session = some reason ↔ indexer.SessionEnds session reason := by
  rw [sessionStop]
  constructor
  · intro hstop
    split at hstop
    · next error hconnect =>
        cases hstop
        exact .connect error hconnect
    · next error hconnect hsubscribe =>
        cases hstop
        exact .subscribe error hconnect hsubscribe
    · next hconnect hsubscribe =>
        rcases List.findSome?_eq_some_iff.mp hstop with
          ⟨before, turn, after, hturns, hturn, hbefore⟩
        exact .turn before turn after reason hconnect hsubscribe hturns
          (fun other hother => indexer.stop_eq_none_iff.mp (hbefore other hother))
          (indexer.stop_eq_some_iff.mp hturn)
  · intro hends
    cases hends with
    | connect error hconnect => rw [hconnect]
    | subscribe error hconnect hsubscribe => rw [hconnect, hsubscribe]
    | turn before turn after _ hconnect hsubscribe hturns hbefore hends =>
        rw [hconnect, hsubscribe]
        exact List.findSome?_eq_some_iff.mpr ⟨before, turn, after, hturns,
          indexer.stop_eq_some_iff.mpr hends,
          fun other hother => indexer.stop_eq_none_iff.mpr (hbefore other hother)⟩

/-- When a session ends.  The world that it starts in has no influence. -/
theorem receiveBlocks_eq_error_iff (session : Session) (world : World) (reason : String) :
    (∃ world', indexer.receiveBlocks session world = .error reason world') ↔
      indexer.SessionEnds session reason := by
  rw [← sessionStop_eq_some_iff, ← (indexer.receiveBlocks_spec session world).1]
  constructor
  · intro hexists
    rcases hexists with ⟨world', herror⟩
    rw [herror, ending_error]
  · intro hending
    exact ⟨_, eq_error_of_ending hending⟩

/-! ## All sessions -/

/-- The sessions that are started. -/
def startedSessions (sessions : List Session) : List Session :=
  started indexer.sessionStop sessions

/-- All turns that are handled. -/
def turns (sessions : List Session) : List Turn :=
  (indexer.startedSessions sessions).flatMap indexer.handledTurns

/-- All that a session writes. -/
def transcript (session : Session) : List Output :=
  indexer.opening session ++ (indexer.handledTurns session).flatMap indexer.output ++
    indexer.closing session

/-- The world that sessions leave. -/
def afterSessions (world : World) (sessions : List Session) : World :=
  world.after ((sessions.flatMap indexer.handledTurns).filterMap indexer.call)
    (sessions.flatMap indexer.transcript)

/-- Sessions one after the other are one list of sessions. -/
theorem composes_afterSessions :
    Composes fun sessions world world' => world' = indexer.afterSessions world sessions where
  refl world := world.emit_nil.symm
  trans hsessions hsessions' := by
    rw [hsessions', hsessions, afterSessions, afterSessions, afterSessions, World.after_after,
      List.flatMap_append, List.flatMap_append, List.filterMap_append]

/-- What the indexer has written and stored after any sessions. -/
theorem run_history (sessions : List Session) (world : World) :
    indexer.run sessions world =
      world.after ((indexer.turns sessions).filterMap indexer.call)
        ((indexer.startedSessions sessions).flatMap indexer.transcript) := by
  refine restart_history indexer.composes_afterSessions
    (fun session world => (indexer.receiveBlocks_spec session world).1)
    (fun session world => ?_) sessions world
  rcases indexer.receiveBlocks_spec session world with ⟨hending, hfinal⟩
  rw [reported, hending, hfinal, afterTurns, ← World.after_nil, World.after_after,
    List.nil_append, afterSessions, List.flatMap_singleton, List.flatMap_singleton, transcript,
    closing]
  cases indexer.sessionStop session with
  | none => simp
  | some reason =>
      change (World.after _ _ _).after [] [_] = _
      rw [World.after_after]
      simp

end Indexer

end StandaloneIndexer
end PumpRealtimePrices
