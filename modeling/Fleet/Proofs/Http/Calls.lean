import Fleet.Http.Service
import Fleet.Proofs.Store.Streams

namespace Fleet
namespace Http

/-!
# Requests as calls of a store

A request comes to a call of the store, or to none.  Which one it is can be read from the request alone: from its
method, from its path and the id in it, and from its body.  So for each kind of call there is one rule that says which
requests ask for it.  A request that asks for nothing by these rules is turned away, or answered, without a look at the
store.

Someone who has the store can make these calls directly and keep the streams of the nodes aside.  A service that does
its work is nothing else, seen from outside: with its own store and streams, every request does exactly what its call
does, and the response shows the answer to the call.
-/

/-! ## Calls -/

/-- What can be asked of a store from outside. -/
inductive Call where
  | readFleet
  | readNode (id : String)
  | readConnection (id : String)
  | readBundles (id : String)
  | readHistory (id : String)
  /-- Merge a report into a node. -/
  | update (id : String) (report : Json)
  /-- Apply the frames that bytes complete in the stream of a node. -/
  | applyFrames (id : String) (bytes : ByteArray)
  | setConnection (id : String) (connected : Bool)
  | recordMigration (id : String) (event : MigrationEvent)
  | updateGateway (gateway : Gateway)

/-- What is given to the worker to make a call; other calls are made past it. -/
def Call.command? : Call → Option Command
  | update id report => some (.partialUpdate id report)
  | applyFrames id bytes => some (.frames id bytes)
  | setConnection id connected => some (.connection id connected)
  | _ => none

/-- What a store answers to a call. -/
inductive Answer where
  | fleet (fleet : Snapshot)
  | node (node : Option Node)
  | connection (connected : Option Bool)
  | bundles (bundles : Option (List Bundle))
  | history (log : Option (List MigrationEvent))
  | warnings (warnings : List ShapeWarning)
  | frames (report : FrameReport)
  | connectionSet
  /-- Whether the node is known, without which nothing is logged. -/
  | migration (known : Bool)
  | gatewaySet

/-- A store that is called directly, and what each node has sent of a frame that is not complete. -/
structure Bare where
  store : Store
  streams : String → Decoder

namespace Bare

def start (capacity : Nat) : Bare :=
  ⟨.empty capacity, fun _ => .start⟩

/-- Make a call.  A stream ends when its node is disconnected. -/
def call : Machine Bare Call Answer
  | bare, _, .readFleet => (bare, .fleet bare.store.fleet)
  | bare, _, .readNode id => (bare, .node (bare.store.node? id))
  | bare, _, .readConnection id => (bare, .connection (bare.store.connection? id))
  | bare, _, .readBundles id => (bare, .bundles (bare.store.bundles? id))
  | bare, _, .readHistory id => (bare, .history (bare.store.history? id))
  | bare, now, .update id report =>
      let (store, warnings) := bare.store.update now id report
      ({ bare with store }, .warnings warnings)
  | bare, now, .applyFrames id bytes =>
      let (store, report, rest) := bare.store.applyFrames now id ((bare.streams id).extend bytes)
      (⟨store, Function.update bare.streams id rest⟩, .frames report)
  | bare, _, .setConnection id connected =>
      let streams := if connected then bare.streams else Function.update bare.streams id .start
      (⟨bare.store.setConnection id connected, streams⟩, .connectionSet)
  | bare, now, .recordMigration id event =>
      match bare.store.recordMigration now id event with
      | some store => ({ bare with store }, .migration true)
      | none => (bare, .migration false)
  | bare, now, .updateGateway gateway => ({ bare with store := bare.store.updateGateway now gateway }, .gatewaySet)

theorem call_recordMigration (bare : Bare) (now : UInt64) (id : String) (event : MigrationEvent) :
    bare.call now (.recordMigration id event) =
      ({ bare with store := (bare.store.apply now (.recordMigration id event)).1 },
        .migration (bare.store.knows id)) := by
  unfold call Store.apply Store.recordMigration
  cases known : bare.store.knows id with
  | true => simp only [known, if_true]
  | false => simp only [known, Bool.false_eq_true, if_false]

end Bare

/-- A response that says that a request went well, with more fields. -/
def Response.succeeded (fields : List (String × Json)) : Response where
  status := .ok
  body := some (.object (("success", .bool true) :: fields))

/-- The response to a question about a node that is not known. -/
def Response.notFound : Response where
  status := .notFound
  body := some (.object [("success", .bool false), ("error", .string "not found")])

/-- The response to a question about a node. -/
def Response.ofFound {α : Type} (encode : α → Json) : Option α → Response
  | some value => .succeeded [("data", encode value)]
  | none => .notFound

/-- The response that shows an answer. -/
def Answer.response : Answer → Response
  | .fleet snapshot => ⟨.ok, some (Snapshot.codec.encode snapshot)⟩
  | .node found => .ofFound Node.codec.encode found
  | .connection found => .ofFound Json.bool found
  | .bundles found => .ofFound (fun bundles => .array (bundles.map Bundle.codec.encode)) found
  | .history found => .ofFound (fun log => .array (log.map MigrationEvent.codec.encode)) found
  | .warnings faults => .succeeded [("warnings", .array (faults.map ShapeWarning.encode))]
  | .frames report =>
      .succeeded [("applied", .ofNat report.applied), ("ignored", .ofNat report.ignored),
        ("rejected", .ofNat report.rejected), ("warnings", .array (report.warnings.map ShapeWarning.encode))]
  | .connectionSet => ⟨.accepted, none⟩
  | .migration true => .succeeded [("data", .null)]
  | .migration false => .notFound
  | .gatewaySet => ⟨.noContent, none⟩

/-! ## What a request asks for -/

namespace Request

/-- A request that reads, with or without interest in what it reads. -/
def Reads (request : Request) : Prop :=
  Method.ofText request.method = .get ∨ Method.ofText request.method = .head

/-- A request reaches a resource of a node. -/
def Reaches (request : Request) (resource : List Char → Resource) (id : String) : Prop :=
  ∃ segment, Resource.ofTarget request.target = some (resource segment) ∧ nodeId? segment = some id

/-- The body of a request is announced as a document, is not too large, and holds a value. -/
structure Holds {α : Type} (request : Request) (read : ByteArray → Body.Outcome α) (value : α) : Prop where
  announced : (request.contentType.map MediaType.isDocument).getD false = true
  fits : request.body.size ≤ Body.limit
  given : read request.body = .value value

/-- A request asks for a call. -/
inductive Asks (request : Request) : Call → Prop
  | readFleet (reads : request.Reads) (place : Resource.ofTarget request.target = some .fleet) :
      Asks request .readFleet
  | readNode {id : String} (reads : request.Reads) (place : request.Reaches .node id) : Asks request (.readNode id)
  | readConnection {id : String} (reads : request.Reads) (place : request.Reaches .connection id) :
      Asks request (.readConnection id)
  | readBundles {id : String} (reads : request.Reads) (place : request.Reaches .bundles id) :
      Asks request (.readBundles id)
  | readHistory {id : String} (reads : request.Reads) (place : request.Reaches .migrations id) :
      Asks request (.readHistory id)
  | update {id : String} {report : Json} (posts : Method.ofText request.method = .post)
      (place : request.Reaches .sync id) (body : request.Holds Body.readDocument report) :
      Asks request (.update id report)
  | applyFrames {id : String} (posts : Method.ofText request.method = .post) (place : request.Reaches .frames id)
      (fits : request.body.size ≤ Body.limit) : Asks request (.applyFrames id request.body)
  | setConnection {id : String} {connected : Bool} (puts : Method.ofText request.method = .put)
      (place : request.Reaches .connection id)
      (body : request.Holds (Body.readRecord Service.connectionRecord) connected) :
      Asks request (.setConnection id connected)
  | recordMigration {id : String} {event : MigrationEvent} (posts : Method.ofText request.method = .post)
      (place : request.Reaches .migrations id) (body : request.Holds (Body.readRecord MigrationEvent.record) event) :
      Asks request (.recordMigration id event)
  | updateGateway {gateway : Gateway} (puts : Method.ofText request.method = .put)
      (place : Resource.ofTarget request.target = some .gateway)
      (body : request.Holds (Body.readRecord Gateway.record) gateway) : Asks request (.updateGateway gateway)

/-- What is sent back of a response: to `HEAD` only how the request went. -/
def reply (request : Request) (response : Response) : Response :=
  if Method.ofText request.method = .head then .bare response.status else response

end Request

/-- What can be read with `GET` can be read with `HEAD`, but for the stream of changes. -/
theorem Operation.of?_of_reading {resource : Resource} {operation : Operation}
    (readable : reading? resource = some operation) (once : operation ≠ .followChanges) {method : Method}
    (reads : method = .get ∨ method = .head) : of? resource method = some operation := by
  rcases reads with rfl | rfl
  · exact readable
  · cases resource with
    | changes => exact absurd (Option.some.inj readable).symm once
    | _ => exact readable

/-- What is allowed: reading, and for each resource that can be written one method. -/
theorem Operation.of?_inversion {resource : Resource} {method : Method} {operation : Operation}
    (allowed : of? resource method = some operation) :
    ((method = .get ∨ method = .head) ∧ reading? resource = some operation) ∨
      (method = .put ∧ resource = .gateway ∧ operation = .replaceGateway) ∨
      (∃ segment, method = .put ∧ resource = .connection segment ∧ operation = .setConnection) ∨
      (∃ segment, method = .post ∧ resource = .sync segment ∧ operation = .mergeReport) ∨
      (∃ segment, method = .post ∧ resource = .frames segment ∧ operation = .takeFrames) ∨
      ∃ segment, method = .post ∧ resource = .migrations segment ∧ operation = .recordMigration := by
  cases method <;> cases resource <;> simp_all [of?, reading?]

namespace Service

variable {service : Service} {request : Request}

/-! ## How requests are handled -/

theorem lookup_eq {α : Type} (codec : Codec α) (found : Option α) :
    lookup codec found = .ofFound codec.encode found := by
  cases found <;> rfl

theorem reading_of_holds {α : Type} {read : ByteArray → Body.Outcome α} {value : α}
    (holds : request.Holds read value) (next : α → Service × Response) :
    service.reading request read next = next value := by
  unfold reading sized
  rw [if_pos holds.announced, if_neg (Nat.not_lt.2 holds.fits)]
  simp only [holds.given]

/-- A request whose body holds no value is turned away, in the same way by every service. -/
theorem reading_of_holds_nothing {α : Type} {read : ByteArray → Body.Outcome α}
    (holdsNothing : ∀ value, ¬ request.Holds read value) :
    ∃ response, ∀ (service : Service) (next : α → Service × Response),
      service.reading request read next = (service, response) := by
  unfold reading sized
  by_cases announced : (request.contentType.map MediaType.isDocument).getD false = true
  · by_cases large : Body.limit < request.body.size
    · exact ⟨.bare .tooLarge, fun _ _ => by rw [if_pos announced, if_pos large]⟩
    · simp only [if_pos announced, if_neg large]
      cases given : read request.body with
      | value value => exact absurd ⟨announced, Nat.not_lt.1 large, given⟩ (holdsNothing value)
      | malformed => exact ⟨.bare .badRequest, fun _ _ => rfl⟩
      | unfit => exact ⟨.bare .unprocessable, fun _ _ => rfl⟩
  · exact ⟨.bare .unsupportedMediaType, fun _ _ => by rw [if_neg announced]⟩

/-- A request for a node is answered with what its operation does for the node. -/
theorem answer_of_reaches (method : Method) {resource : List Char → Resource} {id : String}
    (place : request.Reaches resource id) (own : ∀ segment, (resource segment).segment? = some segment)
    {operation : Operation}
    (allowed : ∀ segment, Operation.of? (resource segment) method = some operation) (now : UInt64) :
    service.answer now request method = service.perform now id request operation := by
  rcases place with ⟨segment, found, named⟩
  unfold answer
  simp only [found, allowed segment, own segment, named]

/-- A request for a node is answered with what is done with the value in its body. -/
theorem answer_of_holds (method : Method) {resource : List Char → Resource} {id : String}
    (place : request.Reaches resource id) (own : ∀ segment, (resource segment).segment? = some segment)
    {operation : Operation} (allowed : ∀ segment, Operation.of? (resource segment) method = some operation)
    {now : UInt64} {α : Type} {read : ByteArray → Body.Outcome α} {value : α} (body : request.Holds read value)
    {next : α → Service × Response}
    (performs : service.perform now id request operation = service.reading request read next) :
    service.answer now request method = next value :=
  calc
    service.answer now request method = service.perform now id request operation :=
      answer_of_reaches method place own allowed now
    _ = service.reading request read next := performs
    _ = next value := reading_of_holds body next

theorem answer_of_place {resource : Resource} (place : Resource.ofTarget request.target = some resource)
    (own : resource.segment? = none) {method : Method} {operation : Operation}
    (allowed : Operation.of? resource method = some operation) (now : UInt64) :
    service.answer now request method = service.perform now "" request operation := by
  unfold answer
  simp only [place, allowed, own]

theorem handle_of_reads (reads : request.Reads) {now : UInt64} {response : Response}
    (answered : ∀ method, method = .get ∨ method = .head → service.answer now request method = (service, response)) :
    service.handle now request = (service, request.reply response) := by
  unfold handle Request.reply
  rcases reads with get | head
  · simp only [get, answered .get (.inl rfl)]
    rfl
  · simp only [head, answered .head (.inr rfl)]
    rfl

theorem handle_of_writes {method : Method} (writes : Method.ofText request.method = method)
    (write : method = .put ∨ method = .post) (now : UInt64) :
    service.handle now request = service.answer now request method := by
  unfold handle
  rcases write with rfl | rfl
  · simp only [writes]
  · simp only [writes]

theorem reply_of_writes {method : Method} (writes : Method.ofText request.method = method)
    (write : method = .put ∨ method = .post) (response : Response) : request.reply response = response := by
  unfold Request.reply
  rcases write with rfl | rfl
  · rw [if_neg (by simp [writes])]
  · rw [if_neg (by simp [writes])]

/-- Reading what belongs to a node changes nothing. -/
theorem handle_of_node_reads (reads : request.Reads) {now : UInt64} {resource : List Char → Resource} {id : String}
    (place : request.Reaches resource id) (own : ∀ segment, (resource segment).segment? = some segment)
    {operation : Operation} (readable : ∀ segment, Operation.reading? (resource segment) = some operation)
    (once : operation ≠ .followChanges) {response : Response}
    (performed : service.perform now id request operation = (service, response)) :
    service.handle now request = (service, request.reply response) := by
  refine handle_of_reads reads fun method get => ?_
  have allowed : ∀ segment, Operation.of? (resource segment) method = some operation :=
    fun segment => Operation.of?_of_reading (readable segment) once get
  rw [answer_of_reaches method place own allowed now, performed]

/-! ## What a call does -/

/-- What a service is, seen by someone who calls its store directly. -/
def bare (service : Service) : Bare :=
  ⟨service.store, service.worker.decoder⟩

/-- A request that asks for a command has it sent to the worker. -/
theorem handle_of_command {call : Call} (asks : request.Asks call) {command : Command}
    (sent : call.command? = some command) (now : UInt64) : service.handle now request = service.send now command := by
  cases asks with
  | @update id report posts place body =>
      obtain rfl := Option.some.inj sent
      have performs : service.perform now id request .mergeReport = service.reading request Body.readDocument
          fun payload => service.send now (.partialUpdate id payload) := rfl
      rw [handle_of_writes posts (.inr rfl)]
      exact answer_of_holds .post place (fun _ => rfl) (fun _ => rfl) body performs
  | @applyFrames id posts place fits =>
      obtain rfl := Option.some.inj sent
      have performs : service.perform now id request .takeFrames = service.send now (.frames id request.body) :=
        if_neg (Nat.not_lt.2 fits)
      rw [handle_of_writes posts (.inr rfl)]
      exact (answer_of_reaches .post place (fun _ => rfl) (fun _ => rfl) now).trans performs
  | @setConnection id connected puts place body =>
      obtain rfl := Option.some.inj sent
      have performs : service.perform now id request .setConnection =
          service.reading request (Body.readRecord connectionRecord) fun connected =>
            service.send now (.connection id connected) := rfl
      rw [handle_of_writes puts (.inl rfl)]
      exact answer_of_holds .put place (fun _ => rfl) (fun _ => rfl) body performs
  | readFleet | readNode | readConnection | readBundles | readHistory | recordMigration | updateGateway => cases sent

/-- Any other call is made past the worker, and does not depend on how the worker is doing. -/
theorem handle_of_direct {call : Call} (asks : request.Asks call) (direct : call.command? = none) (now : UInt64) :
    service.handle now request = (service.setStore (service.bare.call now call).1.store,
      request.reply (service.bare.call now call).2.response) := by
  cases asks with
  | readFleet reads place =>
      refine handle_of_reads reads fun method get => ?_
      exact answer_of_place place rfl (Operation.of?_of_reading rfl (by decide) get) now
  | readNode reads place | readConnection reads place | readBundles reads place | readHistory reads place =>
      exact handle_of_node_reads reads place (fun _ => rfl) (fun _ => rfl) (by decide)
        (congrArg (Prod.mk service) (lookup_eq _ _))
  | @recordMigration id event posts place body =>
      have performs : service.perform now id request .recordMigration =
          service.reading request (Body.readRecord MigrationEvent.record) fun event =>
            match service.store.recordMigration now id event with
            | some store => (service.setStore store, success [("data", .null)])
            | none => (service, failure .notFound "not found") := rfl
      have called : service.bare.call now (.recordMigration id event) =
          match service.store.recordMigration now id event with
          | some store => ({ service.bare with store }, .migration true)
          | none => (service.bare, .migration false) := rfl
      rw [handle_of_writes posts (.inr rfl), reply_of_writes posts (.inr rfl), called,
        answer_of_holds .post place (fun _ => rfl) (fun _ => rfl) body performs]
      cases service.store.recordMigration now id event with
      | some store => rfl
      | none => rfl
  | updateGateway puts place body =>
      have allowed : Operation.of? .gateway .put = some .replaceGateway := rfl
      rw [handle_of_writes puts (.inl rfl), reply_of_writes puts (.inl rfl), answer_of_place place rfl allowed now]
      exact reading_of_holds body _
  | update | applyFrames | setConnection => cases direct

theorem send_of_working (working : service.duty = .working) (now : UInt64) (command : Command) :
    service.send now command =
      ({ service with worker := (service.worker.handle now command).1 },
        replied (service.worker.handle now command).2) := by
  unfold send
  simp only [working]

theorem decoder_handle_eq (worker : Worker) (now : UInt64) (command : Command) :
    (worker.handle now command).1.decoder =
      Function.update worker.decoder command.node (worker.streamAfter command) := by
  funext id
  rw [Worker.decoder_handle, Function.update_apply]
  simp only [eq_comm]

/-- The worker makes a call as it is made directly; of the streams it changes that of the node alone. -/
theorem call_of_command (service : Service) {call : Call} {command : Command} (sent : call.command? = some command)
    (now : UInt64) :
    (service.bare.call now call).1 =
        ⟨(service.worker.handle now command).1.store, (service.worker.handle now command).1.decoder⟩ ∧
      (service.bare.call now call).2.response = replied (service.worker.handle now command).2 := by
  rw [decoder_handle_eq]
  cases call with
  | update id report =>
      obtain rfl := Option.some.inj sent
      have unchanged : Function.update service.worker.decoder id (service.worker.decoder id) =
          service.worker.decoder := Function.update_eq_self id service.worker.decoder
      exact ⟨congrArg (Bare.mk (service.store.update now id report).1) unchanged.symm, rfl⟩
  | applyFrames id bytes =>
      obtain rfl := Option.some.inj sent
      exact ⟨rfl, rfl⟩
  | setConnection id connected =>
      obtain rfl := Option.some.inj sent
      refine ⟨congrArg (Bare.mk (service.store.setConnection id connected)) ?_, rfl⟩
      cases connected with
      | true => exact (Function.update_eq_self id service.worker.decoder).symm
      | false => rfl
  | readFleet | readNode | readConnection | readBundles | readHistory | recordMigration | updateGateway => cases sent

/-- A call that is made past the worker leaves the streams alone. -/
theorem call_direct (bare : Bare) {call : Call} (direct : call.command? = none) (now : UInt64) :
    (bare.call now call).1.streams = bare.streams := by
  cases call with
  | recordMigration id event => rw [Bare.call_recordMigration]
  | update | applyFrames | setConnection => cases direct
  | readFleet | readNode | readConnection | readBundles | readHistory | updateGateway => rfl

/-- A request does at a service what a call does: to the store and the streams, and in what is answered. -/
structure Does (service : Service) (now : UInt64) (request : Request) (call : Call) : Prop where
  bare : (service.handle now request).1.bare = (service.bare.call now call).1
  working : (service.handle now request).1.duty = .working
  response : (service.handle now request).2 = request.reply (service.bare.call now call).2.response

/-- A request for a command is no request to read. -/
theorem reply_of_command {call : Call} (asks : request.Asks call) {command : Command}
    (sent : call.command? = some command) (response : Response) : request.reply response = response := by
  cases asks with
  | update posts | applyFrames posts => exact reply_of_writes posts (.inr rfl) response
  | setConnection puts => exact reply_of_writes puts (.inl rfl) response
  | readFleet | readNode | readConnection | readBundles | readHistory | recordMigration | updateGateway => cases sent

/-- A service that does its work does what a request asks for. -/
theorem does_of_asks (working : service.duty = .working) {call : Call} (asks : request.Asks call) (now : UInt64) :
    service.Does now request call := by
  cases sent : call.command? with
  | none =>
      have streams : service.worker.decoder = (service.bare.call now call).1.streams :=
        (call_direct service.bare sent now).symm
      constructor <;> rw [handle_of_direct asks sent]
      · exact congrArg (Bare.mk (service.bare.call now call).1.store) streams
      · exact working
  | some command =>
      rcases call_of_command service sent now with ⟨same, response⟩
      constructor <;> rw [handle_of_command asks sent, send_of_working working]
      · rw [same]
        rfl
      · exact working
      · rw [reply_of_command asks sent, response]

/-! ## Requests that ask for nothing -/

/-- Every service answers a request in the same way, and is not changed by it. -/
def Ignores (request : Request) (method : Method) : Prop :=
  ∃ response, ∀ (service : Service) now, service.answer now request method = (service, response)

/-- What belongs to a node is not looked at when the id of the node is no text. -/
theorem ignores_of_node {resource : Resource} {segment : List Char}
    (place : Resource.ofTarget request.target = some resource) (own : resource.segment? = some segment)
    {method : Method} {operation : Operation} (allowed : Operation.of? resource method = some operation)
    (performed : ∀ id, nodeId? segment = some id →
      ∃ response, ∀ (service : Service) now, service.perform now id request operation = (service, response)) :
    Ignores request method := by
  unfold Ignores answer
  simp only [place, allowed, own]
  cases named : nodeId? segment with
  | none => exact ⟨.bare .badRequest, fun _ _ => rfl⟩
  | some id => exact performed id named

theorem performed_of_holds_nothing {α : Type} {read : ByteArray → Body.Outcome α}
    (holdsNothing : ∀ value, ¬ request.Holds read value) {id : String} {operation : Operation}
    (reads : ∀ (service : Service) now, ∃ next,
      service.perform now id request operation = service.reading request read next) :
    ∃ response, ∀ (service : Service) now, service.perform now id request operation = (service, response) := by
  rcases reading_of_holds_nothing holdsNothing with ⟨response, same⟩
  refine ⟨response, fun service now => ?_⟩
  rcases reads service now with ⟨next, performed⟩
  rw [performed, same]

theorem ignores_of_reads (nothing : ∀ call, ¬ request.Asks call) (reads : request.Reads) {method : Method}
    {resource : Resource} (place : Resource.ofTarget request.target = some resource) {operation : Operation}
    (allowed : Operation.of? resource method = some operation)
    (readable : Operation.reading? resource = some operation) : Ignores request method := by
  cases resource with
  | version =>
      obtain rfl := Option.some.inj readable
      exact ⟨_, fun service now => answer_of_place place rfl allowed now⟩
  | changes =>
      obtain rfl := Option.some.inj readable
      exact ⟨_, fun service now => answer_of_place place rfl allowed now⟩
  | fleet => exact absurd (.readFleet reads place) (nothing _)
  | node segment =>
      exact ignores_of_node place rfl allowed fun id named =>
        absurd (.readNode reads ⟨segment, place, named⟩) (nothing (.readNode id))
  | connection segment =>
      exact ignores_of_node place rfl allowed fun id named =>
        absurd (.readConnection reads ⟨segment, place, named⟩) (nothing (.readConnection id))
  | bundles segment =>
      exact ignores_of_node place rfl allowed fun id named =>
        absurd (.readBundles reads ⟨segment, place, named⟩) (nothing (.readBundles id))
  | migrations segment =>
      exact ignores_of_node place rfl allowed fun id named =>
        absurd (.readHistory reads ⟨segment, place, named⟩) (nothing (.readHistory id))
  | gateway => cases readable
  | sync segment => cases readable
  | frames segment => cases readable

theorem ignores_of_asks_nothing (nothing : ∀ call, ¬ request.Asks call) :
    Ignores request (Method.ofText request.method) := by
  cases place : Resource.ofTarget request.target with
  | none =>
      refine ⟨.bare .notFound, fun _ _ => ?_⟩
      unfold answer
      simp only [place]
  | some resource =>
      cases allowed : Operation.of? resource (Method.ofText request.method) with
      | none =>
          refine ⟨.bare .methodNotAllowed, fun _ _ => ?_⟩
          unfold answer
          simp only [place, allowed]
      | some operation =>
          rcases Operation.of?_inversion allowed with ⟨reads, readable⟩ | ⟨puts, rfl, rfl⟩ |
            ⟨segment, puts, rfl, rfl⟩ | ⟨segment, posts, rfl, rfl⟩ | ⟨segment, posts, rfl, rfl⟩ |
            ⟨segment, posts, rfl, rfl⟩
          · exact ignores_of_reads nothing reads place allowed readable
          · have performed : ∃ response, ∀ (service : Service) now,
                service.perform now "" request .replaceGateway = (service, response) :=
              performed_of_holds_nothing (fun gateway body =>
                nothing _ (.updateGateway puts place body)) fun _ _ => ⟨_, rfl⟩
            rcases performed with ⟨response, same⟩
            exact ⟨response, fun service now => (answer_of_place place rfl allowed now).trans (same service now)⟩
          · exact ignores_of_node place rfl allowed fun id named =>
              performed_of_holds_nothing (fun connected body =>
                nothing _ (.setConnection puts ⟨segment, place, named⟩ body)) fun _ _ => ⟨_, rfl⟩
          · exact ignores_of_node place rfl allowed fun id named =>
              performed_of_holds_nothing (fun report body =>
                nothing _ (.update posts ⟨segment, place, named⟩ body)) fun _ _ => ⟨_, rfl⟩
          · refine ignores_of_node place rfl allowed fun id named => ?_
            have large : Body.limit < request.body.size :=
              Nat.lt_of_not_le fun fits => nothing _ (.applyFrames posts ⟨segment, place, named⟩ fits)
            exact ⟨.bare .tooLarge, fun _ _ => if_pos large⟩
          · exact ignores_of_node place rfl allowed fun id named =>
              performed_of_holds_nothing (fun event body =>
                nothing _ (.recordMigration posts ⟨segment, place, named⟩ body)) fun _ _ => ⟨_, rfl⟩

/-- A request that asks for nothing changes nothing, and its response does not depend on what there is. -/
theorem handle_of_asks_nothing (nothing : ∀ call, ¬ request.Asks call) :
    ∃ response, ∀ (service : Service) now, service.handle now request = (service, response) := by
  rcases ignores_of_asks_nothing nothing with ⟨response, same⟩
  unfold handle
  cases method : Method.ofText request.method with
  | options => exact ⟨.bare .ok, fun _ _ => rfl⟩
  | head =>
      rw [method] at same
      exact ⟨.bare response.status, fun service now => by simp only [same]⟩
  | get | put | post | other =>
      rw [method] at same
      exact ⟨response, same⟩

end Service
end Http
end Fleet
