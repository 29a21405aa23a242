import Fleet.Http.Body
import Fleet.Http.Exchange
import Fleet.Http.MediaType
import Fleet.Http.Path
import Fleet.Store.Ingest

namespace Fleet
namespace Http

/-!
# The service

What is asked for and what is done about it.  Everything that an agent sends goes to the worker and
waits for it; reading, and what other sources report, does not.  A request is turned away for the first
of these reasons: nothing is at its path, its method does not fit, the id of the node is no text, its body
is not announced as a document, its body is too large, its body is no document, or a document of the wrong
kind.  Only then is the worker asked, which may be gone.
-/

/-- What is done about a request. -/
inductive Operation where
  | readVersion
  | readFleet
  | readNode
  | readConnection
  | readBundles
  | readMigrations
  | followChanges
  | replaceGateway
  | setConnection
  | mergeReport
  | takeFrames
  | recordMigration
  deriving DecidableEq

namespace Operation

/-- What reading a resource does, if it can be read. -/
def reading? : Resource → Option Operation
  | .version => some readVersion
  | .fleet => some readFleet
  | .changes => some followChanges
  | .node _ => some readNode
  | .connection _ => some readConnection
  | .bundles _ => some readBundles
  | .migrations _ => some readMigrations
  | _ => none

/-- What a method does to a resource, if it is allowed. -/
def of? (resource : Resource) (method : Method) : Option Operation :=
  match method, resource with
  | .get, resource => reading? resource
  | .head, .changes => none
  | .head, resource => reading? resource
  | .put, .gateway => some replaceGateway
  | .put, .connection _ => some setConnection
  | .post, .sync _ => some mergeReport
  | .post, .frames _ => some takeFrames
  | .post, .migrations _ => some recordMigration
  | _, _ => none

end Operation

/-- The node that a resource belongs to, as it was sent. -/
def Resource.segment? : Resource → Option (List Char)
  | node id => some id
  | connection id => some id
  | sync id => some id
  | frames id => some id
  | bundles id => some id
  | migrations id => some id
  | _ => none

/-- Whether the worker does its work. -/
inductive Duty where
  /-- Commands are handled and answered. -/
  | working
  /-- Commands are accepted and lost. -/
  | idle
  /-- Commands are not accepted. -/
  | gone
  deriving DecidableEq

/-- The service: the worker with its store, and whether it does its work. -/
structure Service where
  worker : Worker
  duty : Duty

namespace Service

def start (capacity : Nat) (duty : Duty) : Service :=
  ⟨.start capacity, duty⟩

def stop (service : Service) : Service :=
  { service with duty := .gone }

def store (service : Service) : Store :=
  service.worker.store

def setStore (service : Service) (store : Store) : Service :=
  { service with worker := { service.worker with store } }

/-! ## Responses -/

def identity : Json :=
  .object [("name", .string "fleet-twin"), ("version", .string "0.1.0")]

def success (fields : List (String × Json)) : Response :=
  ⟨.ok, some (.object (("success", .bool true) :: fields))⟩

def failure (status : Status) (error : String) : Response :=
  ⟨status, some (.object [("success", .bool false), ("error", .string error)])⟩

def unavailable : Response :=
  failure .unavailable "ingest unavailable"

/-- The response to a question about a node, which may not be known. -/
def lookup {α : Type} (codec : Codec α) : Option α → Response
  | some value => success [("data", codec.encode value)]
  | none => failure .notFound "not found"

def replied : Reply → Response
  | .warnings warnings => success [("warnings", .array (warnings.map ShapeWarning.encode))]
  | .frames report => success report.fields
  | .silent => .bare .accepted

/-! ## The worker -/

def awaitsReply : Command → Bool
  | .connection _ _ => false
  | _ => true

def send (service : Service) (now : UInt64) (command : Command) : Service × Response :=
  match service.duty with
  | .gone => (service, unavailable)
  | .idle => (service, if awaitsReply command then unavailable else .bare .accepted)
  | .working =>
      let (worker, reply) := service.worker.handle now command
      ({ service with worker }, replied reply)

/-! ## Bodies -/

/-- The body of a request, unless it is too large. -/
def sized (service : Service) (request : Request) (next : ByteArray → Service × Response) :
    Service × Response :=
  if Body.limit < request.body.size then (service, .bare .tooLarge) else next request.body

/-- The value that the body of a request holds, unless the request is turned away. -/
def reading {α : Type} (service : Service) (request : Request) (read : ByteArray → Body.Outcome α)
    (next : α → Service × Response) : Service × Response :=
  if (request.contentType.map MediaType.isDocument).getD false then
    service.sized request fun body =>
      match read body with
      | .value value => next value
      | .malformed => (service, .bare .badRequest)
      | .unfit => (service, .bare .unprocessable)
  else (service, .bare .unsupportedMediaType)

/-- What a request says about the connection of a node. -/
def connectionRecord : Record Bool Bool :=
  .required ⟨"connected", []⟩ id .flag

/-! ## Requests -/

/-- Carry an operation out for a node; operations on the fleet do not look at its id. -/
def perform (service : Service) (now : UInt64) (id : String) (request : Request) :
    Operation → Service × Response
  | .readVersion => (service, ⟨.ok, some identity⟩)
  | .readFleet => (service, ⟨.ok, some (Snapshot.codec.encode service.store.fleet)⟩)
  | .readNode => (service, lookup Node.codec (service.store.node? id))
  | .readConnection => (service, lookup .flag (service.store.connection? id))
  | .readBundles => (service, lookup (.list Bundle.codec) (service.store.bundles? id))
  | .readMigrations => (service, lookup (.list MigrationEvent.codec) (service.store.history? id))
  | .followChanges => (service, .bare .badRequest)
  | .replaceGateway =>
      service.reading request (Body.readRecord Gateway.record) fun gateway =>
        (service.setStore (service.store.updateGateway now gateway), .bare .noContent)
  | .setConnection =>
      service.reading request (Body.readRecord connectionRecord) fun connected =>
        service.send now (.connection id connected)
  | .mergeReport =>
      service.reading request Body.readDocument fun payload =>
        service.send now (.partialUpdate id payload)
  | .takeFrames => service.sized request fun bytes => service.send now (.frames id bytes)
  | .recordMigration =>
      service.reading request (Body.readRecord MigrationEvent.record) fun event =>
        match service.store.recordMigration now id event with
        | some store => (service.setStore store, success [("data", .null)])
        | none => (service, failure .notFound "not found")

/-- Answer a request that is not about what is allowed. -/
def answer (service : Service) (now : UInt64) (request : Request) (method : Method) :
    Service × Response :=
  match Resource.ofTarget request.target with
  | none => (service, .bare .notFound)
  | some resource =>
      match Operation.of? resource method with
      | none => (service, .bare .methodNotAllowed)
      | some operation =>
          match resource.segment? with
          | none => service.perform now "" request operation
          | some segment =>
              match nodeId? segment with
              | none => (service, .bare .badRequest)
              | some id => service.perform now id request operation

/-- Answer a request.  To learn what is allowed one may ask anywhere; `HEAD` is answered like `GET`, but
without a body. -/
def handle (service : Service) (now : UInt64) (request : Request) : Service × Response :=
  match Method.ofText request.method with
  | .options => (service, .bare .ok)
  | .head =>
      let (service, response) := service.answer now request .head
      (service, .bare response.status)
  | method => service.answer now request method

end Service
end Http
end Fleet
