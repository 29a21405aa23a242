import Fleet.Proofs.Http.Calls
import Fleet.Proofs.Store.Agreement

namespace Fleet
namespace Http

variable {clock : UInt64 → UInt64 → Prop}

/-!
# The service is its store

Requests take different ways to the store.  What agents send is given to the worker, which has the streams; the gateway
and the migrations are written past it, and everything is read past it.  From outside nothing of this can be seen.  The
responses to any sequence of requests show the answers of a store that is called directly for each of them, in the same
order.  The two need not read the same times, and this is the only way in which they can differ.
-/

/-! ## Calls at other times -/

/-- Two answers that differ in nothing but times. -/
inductive Answer.Matches (clock : UInt64 → UInt64 → Prop) : Answer → Answer → Prop
  | same (answer : Answer) : Matches clock answer answer
  | fleet {left right : Snapshot} (alike : left.Matches clock right) : Matches clock (.fleet left) (.fleet right)
  | node {left right : Option Node} (alike : Option.Rel (Node.Matches clock) left right) :
      Matches clock (.node left) (.node right)
  | history {left right : Option (List MigrationEvent)}
      (alike : Option.Rel (List.Forall₂ (MigrationEvent.Matches clock)) left right) :
      Matches clock (.history left) (.history right)

/-- Two stores that differ in nothing but times, with the same streams. -/
structure Bare.Agrees (clock : UInt64 → UInt64 → Prop) (left right : Bare) : Prop where
  store : left.store.Agrees clock right.store
  streams : left.streams = right.streams

namespace Bare

variable {left right : Bare}

theorem Agrees.change (reflexive : ∀ time, clock time time) (agree : left.Agrees clock right) {now later : UInt64}
    (times : clock now later) (change : Store.Change) {streams others : String → Decoder} (same : streams = others) :
    Agrees clock ⟨(left.store.apply now change).1, streams⟩ ⟨(right.store.apply later change).1, others⟩ :=
  ⟨(agree.store.apply reflexive times change).1, same⟩

/-- A call does the same at another time, and is answered alike. -/
theorem Agrees.call (reflexive : ∀ time, clock time time) (agree : left.Agrees clock right) {now later : UInt64}
    (times : clock now later) (call : Call) :
    (left.call now call).1.Agrees clock (right.call later call).1 ∧
      (left.call now call).2.Matches clock (right.call later call).2 := by
  cases call with
  | readFleet => exact ⟨agree, .fleet agree.store.fleet⟩
  | readNode id => exact ⟨agree, .node (agree.store.node? id)⟩
  | readConnection id =>
      refine ⟨agree, ?_⟩
      change Answer.Matches clock (.connection (left.store.connection? id)) (.connection (right.store.connection? id))
      rw [agree.store.connection? id]
      exact .same _
  | readBundles id =>
      refine ⟨agree, ?_⟩
      change Answer.Matches clock (.bundles (left.store.bundles? id)) (.bundles (right.store.bundles? id))
      rw [agree.store.bundles? id]
      exact .same _
  | readHistory id => exact ⟨agree, .history (agree.store.history? id)⟩
  | update id report => exact ⟨agree.change reflexive times (.update id report) agree.streams, .same _⟩
  | applyFrames id bytes =>
      rcases left with ⟨left, streams⟩
      rcases right with ⟨right, others⟩
      obtain rfl : streams = others := agree.streams
      rcases agree.store.applyFrames reflexive times id ((streams id).extend bytes) with ⟨stores, sameRest⟩
      refine ⟨⟨stores, congrArg (fun rest : FrameReport × Decoder => Function.update streams id rest.2) sameRest⟩, ?_⟩
      change Answer.Matches clock (.frames (left.applyFrames now id _).2.1) (.frames (right.applyFrames later id _).2.1)
      rw [sameRest]
      exact .same _
  | setConnection id connected =>
      refine ⟨agree.change reflexive times (.setConnection id connected) ?_, .same _⟩
      rw [agree.streams]
  | recordMigration id event =>
      rw [call_recordMigration, call_recordMigration, agree.store.knows id]
      exact ⟨agree.change reflexive times (.recordMigration id event) agree.streams, .same _⟩
  | updateGateway gateway => exact ⟨agree.change reflexive times (.updateGateway gateway) agree.streams, .same _⟩

end Bare

namespace Service

/-! ## Sessions -/

/-- A request at a time asks for a call at a time that corresponds. -/
def Asked (clock : UInt64 → UInt64 → Prop) (sent : UInt64 × Request) (asked : UInt64 × Call) : Prop :=
  clock sent.1 asked.1 ∧ sent.2.Asks asked.2

/-- The response to a request shows an answer to its call, but for times. -/
def Shows (clock : UInt64 → UInt64 → Prop) (exchange : Request × Response) (note : Call × Answer) : Prop :=
  ∃ answer, Answer.Matches clock answer note.2 ∧ exchange.2 = exchange.1.reply answer.response

theorem run_shows (reflexive : ∀ time, clock time time) {service : Service} {bare : Bare}
    (working : service.duty = .working) (agree : service.bare.Agrees clock bare)
    {history : List (UInt64 × Request)} {calls : List (UInt64 × Call)}
    (asked : List.Forall₂ (Asked clock) history calls) :
    List.Forall₂ (Shows clock) (Machine.run handle service history).2 (Machine.run Bare.call bare calls).2 := by
  induction asked generalizing service bare with
  | nil => exact .nil
  | @cons sent call rest calls same _ inductionHypothesis =>
      rcases sent with ⟨now, request⟩
      rcases call with ⟨later, call⟩
      rcases same with ⟨times, asks⟩
      -- The request is the call at its own time, and the call is the same at the other time.
      have does := does_of_asks working asks now
      rcases agree.call reflexive times call with ⟨nextAgree, answers⟩
      rw [← does.bare] at nextAgree
      exact .cons ⟨_, answers, does.response⟩ (inductionHypothesis does.working nextAgree)

/-- A service that does its work answers any requests, in whatever order and for whatever nodes, as a store answers
the calls that they ask for, when it is called directly and a stream is kept for every node until the node is
disconnected.  Requests that ask for no call change nothing, and the responses to them do not depend on anything. -/
theorem session_as_calls (reflexive : ∀ time, clock time time) (capacity : Nat)
    {history : List (UInt64 × Request)} {calls : List (UInt64 × Call)}
    (asked : List.Forall₂ (Asked clock) history calls) :
    List.Forall₂ (Shows clock) (Machine.run handle (start capacity .working) history).2
        (Machine.run Bare.call (.start capacity) calls).2 ∧
      ∀ request : Request, (∀ call, ¬ request.Asks call) →
        ∃ response, ∀ (service : Service) now, service.handle now request = (service, response) := by
  have agree : (start capacity .working).bare.Agrees clock (.start capacity) :=
    ⟨Store.agrees_empty reflexive capacity, rfl⟩
  exact ⟨run_shows reflexive rfl agree asked, fun _ nothing => handle_of_asks_nothing nothing⟩

/-- A node that connects, sends a frame, is read and disconnects; the calls are made an hour later. -/
theorem session_as_calls_one_node :
    let put (body : String) : Request := ⟨"PUT", "/api/nodes/a/connection", some "application/json", body.toUTF8⟩
    let frame : ByteArray := "\x7b\"type\":\"SYNC_PARTIAL\",\"payload\":\x7b\x7d\x7d\x00".toUTF8
    let history : List (UInt64 × Request) :=
      [(1, put "\x7b\"connected\":true\x7d"), (2, ⟨"POST", "/api/nodes/a/frames", none, frame⟩),
        (3, ⟨"GET", "/api/nodes/a", none, .empty⟩), (4, put "\x7b\"connected\":false\x7d"),
        (5, ⟨"HEAD", "/api/twin", none, .empty⟩)]
    let calls : List (UInt64 × Call) :=
      [(3601, .setConnection "a" true), (3602, .applyFrames "a" frame), (3603, .readNode "a"),
        (3604, .setConnection "a" false), (3605, .readFleet)]
    List.Forall₂ (Asked (· ≤ ·)) history calls ∧
      List.Forall₂ (Shows (· ≤ ·)) (Machine.run handle (start 5 .working) history).2
        (Machine.run Bare.call (.start 5) calls).2 := by
  intro put frame history calls
  have place : Resource.ofTarget "/api/nodes/a/connection" = some (.connection ['a']) := by decide +kernel
  have named : nodeId? ['a'] = some "a" := by decide +kernel
  have connects : (put "\x7b\"connected\":true\x7d").Asks (.setConnection "a" true) :=
    .setConnection rfl ⟨['a'], place, named⟩ ⟨by decide +kernel, by decide +kernel, by decide +kernel⟩
  have sends : Request.Asks ⟨"POST", "/api/nodes/a/frames", none, frame⟩ (.applyFrames "a" frame) :=
    .applyFrames rfl ⟨['a'], by decide +kernel, named⟩ (by decide +kernel)
  have reads : Request.Asks ⟨"GET", "/api/nodes/a", none, .empty⟩ (.readNode "a") :=
    .readNode (.inl rfl) ⟨['a'], by decide +kernel, named⟩
  have disconnects : (put "\x7b\"connected\":false\x7d").Asks (.setConnection "a" false) :=
    .setConnection rfl ⟨['a'], place, named⟩ ⟨by decide +kernel, by decide +kernel, by decide +kernel⟩
  have looks : Request.Asks ⟨"HEAD", "/api/twin", none, .empty⟩ .readFleet :=
    .readFleet (.inr rfl) (by decide +kernel)
  have asked : List.Forall₂ (Asked (· ≤ ·)) history calls :=
    .cons ⟨by decide, connects⟩ <| .cons ⟨by decide, sends⟩ <| .cons ⟨by decide, reads⟩ <|
      .cons ⟨by decide, disconnects⟩ <| .cons ⟨by decide, looks⟩ .nil
  exact ⟨asked, (session_as_calls UInt64.le_refl 5 asked).1⟩

end Service
end Http
end Fleet
