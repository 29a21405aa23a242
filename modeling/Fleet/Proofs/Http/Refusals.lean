import Fleet.Proofs.Http.Calls

namespace Fleet
namespace Http

/-!
# Requests that are refused

A request can be refused at many places: before anyone looks at what it asks for, by the store, which does not know the
node, or on the way to the worker, which may be gone or may lose what it is given.  None of these places lies behind a
change.  What a request changes it changes in one step, and after that step it is answered with a success.  So a session
goes on after a refusal as if the request had not been sent.

The worker may come and go.  A session therefore tells with every request how the worker is doing at that time.
-/

/-- The node that has to be known for a call to succeed. -/
def Call.wanted? : Call → Option String
  | readNode id => some id
  | readConnection id => some id
  | readBundles id => some id
  | readHistory id => some id
  | recordMigration id _ => some id
  | _ => none

/-- What looks for a node does not go through the worker. -/
theorem Call.command?_of_wanted {call : Call} {id : String} (wanted : call.wanted? = some id) :
    call.command? = none := by
  cases call with
  | readFleet | update | applyFrames | setConnection | updateGateway => cases wanted
  | readNode | readConnection | readBundles | readHistory | recordMigration => rfl

/-- A response says that the request went well. -/
def Response.Succeeds (response : Response) : Prop :=
  200 ≤ response.status.code ∧ response.status.code < 300

instance (response : Response) : Decidable response.Succeeds :=
  inferInstanceAs (Decidable (_ ∧ _))

theorem Response.succeeds_of_status (status : Status) {response : Response} (same : response.status = status)
    (good : status ∈ [.ok, .accepted, .noContent]) : response.Succeeds := by
  have holds : ∀ status ∈ [Status.ok, .accepted, .noContent], 200 ≤ status.code ∧ status.code < 300 := by decide
  unfold Succeeds
  rw [same]
  exact holds status good

theorem Request.status_reply (request : Request) (response : Response) :
    (request.reply response).status = response.status := by
  unfold reply
  split <;> rfl

theorem Request.succeeds_reply {request : Request} {response : Response} :
    (request.reply response).Succeeds ↔ response.Succeeds := by
  unfold Response.Succeeds
  rw [status_reply]

/-! ## Calls that succeed -/

namespace Bare

variable {bare : Bare} {call : Call}

/-- A call that looks for a node that is not known does nothing, and its answer says so. -/
theorem call_of_unknown {id : String} (wanted : call.wanted? = some id) (unknown : bare.store.knows id = false)
    (now : UInt64) : (bare.call now call).1 = bare ∧ (bare.call now call).2.response = .notFound := by
  have absent : bare.store.node? id = none := Keyed.contains_eq_false_iff.1 unknown
  cases call with
  | readNode own | readConnection own | readBundles own | readHistory own =>
      obtain rfl := Option.some.inj wanted
      refine ⟨rfl, ?_⟩
      simp only [Bare.call, Store.connection?, Store.bundles?, Store.history?, absent]
      rfl
  | recordMigration own event =>
      obtain rfl := Option.some.inj wanted
      rw [call_recordMigration, unknown, Store.apply_recordMigration, if_neg (by simp [unknown])]
      exact ⟨rfl, rfl⟩
  | readFleet | update | applyFrames | setConnection | updateGateway => cases wanted

/-- Every other call succeeds. -/
theorem succeeds_call (found : ∀ id, call.wanted? = some id → bare.store.knows id = true) (now : UInt64) :
    (bare.call now call).2.response.Succeeds := by
  have held : ∀ id, call.wanted? = some id → ∃ node, bare.store.node? id = some node :=
    fun id wanted => Option.isSome_iff_exists.1 (found id wanted)
  cases call with
  | readNode id | readConnection id | readBundles id | readHistory id =>
      rcases held id rfl with ⟨node, known⟩
      simp only [Bare.call, Store.connection?, Store.bundles?, Store.history?, known]
      exact Response.succeeds_of_status .ok rfl (by decide)
  | recordMigration id event =>
      rw [call_recordMigration, found id rfl]
      exact Response.succeeds_of_status .ok rfl (by decide)
  | readFleet | update | applyFrames => exact Response.succeeds_of_status .ok rfl (by decide)
  | setConnection => exact Response.succeeds_of_status .accepted rfl (by decide)
  | updateGateway => exact Response.succeeds_of_status .noContent rfl (by decide)

end Bare

namespace Service

variable {service : Service} {request : Request}

/-! ## What the worker is given -/

/-- The worker, as it is doing, makes nothing of a command. -/
def Loses (service : Service) (command : Command) : Prop :=
  service.duty = .gone ∨ service.duty = .idle ∧ awaitsReply command = true

theorem send_of_loses {command : Command} (loses : service.Loses command) (now : UInt64) :
    service.send now command = (service, unavailable) := by
  unfold send
  rcases loses with gone | ⟨idle, awaits⟩
  · simp only [gone]
  · simp only [idle, awaits, if_true]

theorem not_succeeds_unavailable : ¬ unavailable.Succeeds :=
  fun succeeds => absurd succeeds.2 (by decide)

theorem succeeds_replied (reply : Reply) : (replied reply).Succeeds := by
  cases reply with
  | warnings | frames => exact Response.succeeds_of_status .ok rfl (by decide)
  | silent => exact Response.succeeds_of_status .accepted rfl (by decide)

/-- A command that is not turned away is answered with a success, though it may be lost. -/
theorem succeeds_send {command : Command} (taken : ¬ service.Loses command) (now : UInt64) :
    (service.send now command).2.Succeeds := by
  unfold Loses at taken
  unfold send
  cases duty : service.duty with
  | gone => exact absurd (.inl duty) taken
  | idle =>
      have noReply : ¬ awaitsReply command = true := fun awaits => taken (.inr ⟨duty, awaits⟩)
      simp only [if_neg noReply]
      exact Response.succeeds_of_status .accepted rfl (by decide)
  | working => exact succeeds_replied _

/-! ## When a request succeeds -/

/-- A request that asks for a call is refused only when its node is not known or the worker does not take it. -/
theorem succeeds_iff_of_asks {call : Call} (asks : request.Asks call) (now : UInt64) :
    (service.handle now request).2.Succeeds ↔
      (∀ id, call.wanted? = some id → service.store.knows id = true) ∧
        ∀ command, call.command? = some command → ¬ service.Loses command := by
  cases sent : call.command? with
  | none =>
      rw [handle_of_direct asks sent now, Request.succeeds_reply]
      constructor
      · refine fun succeeds => ⟨fun id wanted => ?_, nofun⟩
        by_contra unknown
        have refused : (service.bare.call now call).2.response = .notFound :=
          (Bare.call_of_unknown wanted (Bool.eq_false_iff.2 unknown) now).2
        rw [refused] at succeeds
        exact absurd succeeds.2 (by decide)
      · exact fun given => Bare.succeeds_call given.1 now
  | some command =>
      rw [handle_of_command asks sent now]
      constructor
      · refine fun succeeds => ⟨fun id wanted => ?_, fun other same loses => ?_⟩
        · rw [Call.command?_of_wanted wanted] at sent
          cases sent
        · obtain rfl := Option.some.inj same
          rw [send_of_loses loses] at succeeds
          exact not_succeeds_unavailable succeeds
      · exact fun given => succeeds_send (given.2 command rfl) now

theorem handle_of_unknown {call : Call} (asks : request.Asks call) {id : String} (wanted : call.wanted? = some id)
    (unknown : service.store.knows id = false) (now : UInt64) :
    service.handle now request = (service, request.reply .notFound) := by
  have called : (service.bare.call now call).1 = service.bare ∧ (service.bare.call now call).2.response = .notFound :=
    Bare.call_of_unknown wanted unknown now
  rcases called with ⟨unchanged, refused⟩
  rw [handle_of_direct asks (Call.command?_of_wanted wanted) now, unchanged, refused]
  rfl

/-- A refused request leaves the service as it was, whatever it asks for and why it is refused. -/
theorem handle_of_refused {now : UInt64} (refused : ¬ (service.handle now request).2.Succeeds) :
    (service.handle now request).1 = service := by
  by_cases asksFor : ∃ call, request.Asks call
  · rcases asksFor with ⟨call, asks⟩
    rw [succeeds_iff_of_asks asks, not_and_or] at refused
    rcases refused with unknown | lost
    · push Not at unknown
      rcases unknown with ⟨id, wanted, unknown⟩
      rw [handle_of_unknown asks wanted (Bool.eq_false_iff.2 unknown)]
    · push Not at lost
      rcases lost with ⟨command, sent, loses⟩
      rw [handle_of_command asks sent, send_of_loses loses]
  · rcases handle_of_asks_nothing (not_exists.1 asksFor) with ⟨response, same⟩
    rw [same]

/-! ## When the worker is missed -/

theorem sized_available {next : ByteArray → Service × Response}
    (available : ∀ body, (next body).2.status ≠ .unavailable) :
    (service.sized request next).2.status ≠ .unavailable := by
  unfold sized
  split
  · exact nofun
  · exact available request.body

theorem reading_available {α : Type} {read : ByteArray → Body.Outcome α} {next : α → Service × Response}
    (available : ∀ value, (next value).2.status ≠ .unavailable) :
    (service.reading request read next).2.status ≠ .unavailable := by
  unfold reading
  split
  · refine sized_available fun body => ?_
    split
    · exact available _
    · exact nofun
    · exact nofun
  · exact nofun

theorem send_available (working : service.duty = .working) (now : UInt64) (command : Command) :
    (service.send now command).2.status ≠ .unavailable := by
  rw [send_of_working working]
  cases (service.worker.handle now command).2 <;> exact nofun

theorem perform_available (working : service.duty = .working) (now : UInt64) (id : String) (operation : Operation) :
    (service.perform now id request operation).2.status ≠ .unavailable := by
  cases operation with
  | readVersion | readFleet | followChanges => exact nofun
  | readNode | readConnection | readBundles | readMigrations =>
      change (lookup _ _).status ≠ .unavailable
      unfold lookup
      split <;> exact nofun
  | replaceGateway => exact reading_available fun _ => nofun
  | setConnection | mergeReport => exact reading_available fun _ => send_available working now _
  | takeFrames => exact sized_available fun _ => send_available working now _
  | recordMigration =>
      refine reading_available fun event => ?_
      cases service.store.recordMigration now id event <;> exact nofun

/-- A service that does its work is never missed. -/
theorem handle_available (working : service.duty = .working) (now : UInt64) (request : Request) :
    (service.handle now request).2.status ≠ .unavailable := by
  have answered : ∀ method, (service.answer now request method).2.status ≠ .unavailable := by
    intro method
    unfold answer
    split
    · exact nofun
    · split
      · exact nofun
      · split
        · exact perform_available working now _ _
        · split
          · exact nofun
          · exact perform_available working now _ _
  unfold handle
  split
  · exact nofun
  · exact answered .head
  · exact answered _

/-- The worker is missed by those requests alone whose command it makes nothing of. -/
theorem unavailable_iff {now : UInt64} :
    (service.handle now request).2.status = .unavailable ↔
      ∃ call command, request.Asks call ∧ call.command? = some command ∧ service.Loses command := by
  -- Without a command a service answers as it does when its worker works.
  let awake : Service := { service with duty := .working }
  have available : (awake.handle now request).2.status ≠ .unavailable := handle_available rfl now request
  constructor
  · intro missed
    by_cases asksFor : ∃ call, request.Asks call
    · rcases asksFor with ⟨call, asks⟩
      cases sent : call.command? with
      | none =>
          refine absurd ?_ available
          rw [handle_of_direct asks sent] at missed ⊢
          exact missed
      | some command =>
          refine ⟨call, command, asks, sent, ?_⟩
          by_contra taken
          rw [handle_of_command asks sent] at missed
          have succeeds := (succeeds_send taken now).2
          rw [missed] at succeeds
          exact absurd succeeds (by decide)
    · rcases handle_of_asks_nothing (not_exists.1 asksFor) with ⟨response, same⟩
      refine absurd ?_ available
      rw [same] at missed ⊢
      exact missed
  · rintro ⟨call, command, asks, sent, loses⟩
    rw [handle_of_command asks sent, send_of_loses loses]
    rfl

/-! ## Sessions in which the worker comes and goes -/

/-- Answer a request while the worker is doing as it is told. -/
def serve : Machine Service (Duty × Request) Response
  | service, now, (duty, request) => { service with duty }.handle now request

/-- The steps of a session in which a request was not refused. -/
def accepted (service : Service) (history : List (UInt64 × Duty × Request)) : List (UInt64 × Duty × Request) :=
  ((history.zip (Machine.run serve service history).2).filter fun step => step.2.2.Succeeds).map Prod.fst

theorem worker_serve_of_refused {now : UInt64} {sent : Duty × Request}
    (refused : ¬ (serve service now sent).2.Succeeds) : (serve service now sent).1.worker = service.worker := by
  unfold serve at refused ⊢
  rw [handle_of_refused refused]

/-- How the worker was doing before is of no importance. -/
theorem serve_eq_of_worker {left right : Service} (same : left.worker = right.worker) :
    serve left = serve right := by
  rcases left with ⟨worker, _⟩
  rcases right with ⟨_, _⟩
  obtain rfl : worker = _ := same
  rfl

theorem accepted_cons (service : Service) (now : UInt64) (sent : Duty × Request)
    (rest : List (UInt64 × Duty × Request)) :
    accepted service ((now, sent) :: rest) =
      if (serve service now sent).2.Succeeds then (now, sent) :: accepted (serve service now sent).1 rest
      else accepted (serve service now sent).1 rest := by
  unfold accepted
  rw [Machine.run_cons, List.zip_cons_cons, List.filter_cons]
  split <;> simp_all

theorem serve_of_unknown (service : Service) {call : Call} (asks : request.Asks call) {id : String}
    (wanted : call.wanted? = some id) (unknown : service.store.knows id = false) (now : UInt64) (duty : Duty) :
    serve service now (duty, request) = ({ service with duty }, request.reply .notFound) := by
  let doing : Service := { service with duty }
  have stillUnknown : doing.store.knows id = false := unknown
  exact handle_of_unknown asks wanted stillUnknown now

/-- A session ends with the same store and the same streams, and everything else is answered as before, when the
requests that were refused are not sent at all. -/
theorem run_accepted {service other : Service} (same : service.worker = other.worker)
    (history : List (UInt64 × Duty × Request)) :
    (Machine.run serve other (accepted service history)).1.worker =
        (Machine.run serve service history).1.worker ∧
      (Machine.run serve other (accepted service history)).2 =
        (Machine.run serve service history).2.filter fun note => note.2.Succeeds := by
  induction history generalizing service other with
  | nil => exact ⟨same.symm, rfl⟩
  | cons step rest inductionHypothesis =>
      rcases step with ⟨now, sent⟩
      rw [accepted_cons, Machine.run_cons, List.filter_cons]
      by_cases succeeds : (serve service now sent).2.Succeeds
      · rw [if_pos succeeds, if_pos (decide_eq_true succeeds), Machine.run_cons, ← serve_eq_of_worker same]
        rcases inductionHypothesis (rfl : (serve service now sent).1.worker = _) with ⟨sameWorker, sameNotes⟩
        exact ⟨sameWorker, congrArg _ sameNotes⟩
      · rw [if_neg succeeds, if_neg (by simpa using succeeds)]
        exact inductionHypothesis ((worker_serve_of_refused succeeds).trans same)

/-- A refused request changes nothing, neither the store nor the bytes that are kept of any stream, however the worker
has been doing before.  So a session goes as if no refused request had been sent.  That the worker is missed is said of
those requests alone whose command comes to nothing.  A request that asks for something is refused for two reasons
only: the node it looks for is not known, and stays so, or the worker does not take what it is given. -/
theorem refusals_change_nothing (capacity : Nat) (history : List (UInt64 × Duty × Request)) (now : UInt64)
    (duty : Duty) (request : Request) :
    let session := Machine.run serve (start capacity .working) history
    let shortened := Machine.run serve (start capacity .working) (accepted (start capacity .working) history)
    let answered := serve session.1 now (duty, request)
    let loses : Command → Prop := fun command => duty = .gone ∨ duty = .idle ∧ awaitsReply command = true
    (shortened.1.worker = session.1.worker ∧ shortened.2 = session.2.filter fun note => note.2.Succeeds) ∧
      (¬ answered.2.Succeeds → answered.1.worker = session.1.worker) ∧
      (answered.2.status = .unavailable ↔
        ∃ call command, request.Asks call ∧ call.command? = some command ∧ loses command) ∧
      ∀ call, request.Asks call →
        (answered.2.Succeeds ↔
          (∀ id, call.wanted? = some id → session.1.store.knows id = true) ∧
            ∀ command, call.command? = some command → ¬ loses command) ∧
        ∀ id, call.wanted? = some id → session.1.store.knows id = false →
          answered.2 = request.reply .notFound ∧ answered.1.store.knows id = false := by
  intro session shortened answered loses
  refine ⟨run_accepted rfl history, worker_serve_of_refused, unavailable_iff, fun call asks => ?_⟩
  refine ⟨succeeds_iff_of_asks asks now, fun id wanted unknown => ?_⟩
  have refused : answered = ({ session.1 with duty }, request.reply .notFound) :=
    serve_of_unknown session.1 asks wanted unknown now duty
  rw [refused]
  exact ⟨rfl, unknown⟩

/-- A node connects, and then frames are lost with the worker, an event is sent for a node that is not known, and a
document has the wrong kind.  All three are refused, and the event does not make the other node known. -/
theorem refusals_change_nothing_three_reasons :
    let put (body : String) : Request := ⟨"PUT", "/api/nodes/a/connection", some "application/json", body.toUTF8⟩
    let frames : Request := ⟨"POST", "/api/nodes/a/frames", none, "\x7b\"type\":".toUTF8⟩
    let record : Request :=
      ⟨"POST", "/api/nodes/b/migrations", some "application/json",
        "\x7b\"bundleId\":\"s\",\"action\":\"move\",\"status\":\"pending\"\x7d".toUTF8⟩
    let session := (Machine.run serve (start 5 .working) [(1, .working, put "\x7b\"connected\":true\x7d")]).1
    (serve session 2 (.idle, frames)).2.status = .unavailable ∧
      (serve session 2 (.idle, frames)).1.worker = session.worker ∧
      (serve session 3 (.working, record)).2.status = .notFound ∧
      (serve session 3 (.working, record)).1.store.knows "b" = false ∧
      (serve session 4 (.working, put "[1]")).2.status = .unprocessable ∧
      (serve session 4 (.working, put "[1]")).1.worker = session.worker := by
  intro put frames record session
  have ofSession := refusals_change_nothing 5 [(1, .working, put "\x7b\"connected\":true\x7d")]
  have framesAsk : frames.Asks (.applyFrames "a" frames.body) :=
    .applyFrames rfl ⟨['a'], by decide +kernel, by decide +kernel⟩ (by decide +kernel)
  have recordAsks : record.Asks (.recordMigration "b" ⟨0, "s", "move", .pending, none⟩) :=
    .recordMigration rfl ⟨['b'], by decide +kernel, by decide +kernel⟩
      ⟨by decide +kernel, by decide +kernel, by decide +kernel⟩
  have lost : (serve session 2 (.idle, frames)).2.status = .unavailable :=
    (ofSession 2 .idle frames).2.2.1.2 ⟨_, _, framesAsk, rfl, .inr ⟨rfl, rfl⟩⟩
  have unknown : session.store.knows "b" = false := by decide +kernel
  have unfit : (serve session 4 (.working, put "[1]")).2.status = .unprocessable := by decide +kernel
  rcases ((ofSession 3 .working record).2.2.2 _ recordAsks).2 "b" rfl unknown with ⟨notFound, stillUnknown⟩
  have refused (now : UInt64) (duty : Duty) (request : Request) (status : Status)
      (same : (serve session now (duty, request)).2.status = status) (bad : 300 ≤ status.code) :
      (serve session now (duty, request)).1.worker = session.worker := by
    refine (ofSession now duty request).2.1 fun succeeds => ?_
    have good := succeeds.2
    rw [same] at good
    exact absurd bad (Nat.not_le.2 good)
  refine ⟨lost, refused _ _ _ _ lost (by decide), ?_, stillUnknown, unfit, refused _ _ _ _ unfit (by decide)⟩
  rw [notFound]
  rfl

end Service
end Http
end Fleet
