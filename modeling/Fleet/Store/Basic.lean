import Fleet.Bundle.Build
import Fleet.Domain
import Fleet.Migration
import Fleet.Report.Basic

namespace Fleet

/-!
# The store

The store holds the fleet, a log of migrations for every node, and the listeners that are told about every
change.  Whatever changes a node is followed by the passes that derive the rest, so that what is stored
always agrees with what was reported.  Reading changes nothing.

Every change gets a version.  Snapshots are handed to listeners in the order of their versions, and one
that comes late is left out: a listener never sees the fleet go back.  A listener that fails does not keep
others from being told.
-/

namespace Snapshot

def empty : Snapshot :=
  ⟨.empty, .unknown, ⟨[]⟩⟩

/-- Derive the route table and the domains of all nodes. -/
def reconcile (fleet : Snapshot) : Snapshot :=
  let routes := RouteTable.aggregate fleet.nodes
  { fleet with nodes := Domain.mapNodes routes fleet.nodes, proxy := ⟨routes⟩ }

/-- The node of an id; one that is not known yet is a node of which nothing is known. -/
def node (fleet : Snapshot) (id : String) : Node :=
  (fleet.nodes.get? id).getD .unknown

def setNode (fleet : Snapshot) (id : String) (node : Node) : Snapshot :=
  { fleet with nodes := fleet.nodes.insert id node }

end Snapshot

/-- Whether a listener fails when it is told of a version.  As a version has one snapshot, this may depend on the
snapshot too. -/
def Failing := Nat → Bool

/-- A listener that always fails, or never. -/
instance : Coe Bool Failing := ⟨fun always _ => always⟩

/-- Someone who is told about changes. -/
structure Listener where
  id : Nat
  label : String
  fails : Failing

/-- Someone who was told about a change. -/
structure Callee where
  id : Nat
  label : String
  /-- Whether the listener failed at this call. -/
  fails : Bool
  deriving DecidableEq

/-- A call of a listener. -/
structure Delivery where
  listener : Callee
  version : Nat
  snapshot : Snapshot

/-- The call that tells a listener of a version and its snapshot. -/
def Listener.told (version : Nat) (snapshot : Snapshot) (listener : Listener) : Delivery :=
  ⟨⟨listener.id, listener.label, listener.fails version⟩, version, snapshot⟩

/-- Call a listener.  The call counts even if the listener fails. -/
def Listener.call (version : Nat) (snapshot : Snapshot) (listener : Listener) :
    ExceptT Unit (StateM (List Delivery)) Unit := do
  modify fun deliveries => deliveries ++ [listener.told version snapshot]
  if listener.fails version then throw ()

/-- Call listeners one after the other.  When one fails, that is over before the next is called. -/
def Listener.callAll (version : Nat) (snapshot : Snapshot) : List Listener → StateM (List Delivery) Unit
  | [] => pure ()
  | listener :: rest => do
      let _ ← (listener.call version snapshot).run
      callAll version snapshot rest

/-- The fleet with its logs and listeners. -/
structure Store where
  fleet : Snapshot
  /-- The migrations of each node, the latest first. -/
  migrations : Keyed (List MigrationEvent)
  /-- How many migrations are kept for a node. -/
  capacity : Nat
  /-- The number of changes so far. -/
  version : Nat
  /-- The version that listeners were told last. -/
  delivered : Nat
  listeners : List Listener
  /-- The id that the next listener gets. -/
  nextListener : Nat
  /-- The calls of listeners, in order. -/
  deliveries : List Delivery
  capacity_pos : 0 < capacity

namespace Store

/-- How many migrations are kept unless the configuration says otherwise. -/
def defaultCapacity : Nat := 25

def empty (capacity : Nat) : Store where
  fleet := .empty
  migrations := .empty
  capacity := max capacity 1
  version := 0
  delivered := 0
  listeners := []
  nextListener := 0
  deliveries := []
  capacity_pos := Nat.lt_of_lt_of_le Nat.zero_lt_one (Nat.le_max_right capacity 1)

/-! ## Telling the listeners -/

/-- Hand the snapshot of a version to all listeners, unless they were told a later one. -/
def notify (store : Store) (version : Nat) (snapshot : Snapshot) : Store :=
  if version ≤ store.delivered then store
  else
    let ((), deliveries) := (Listener.callAll version snapshot store.listeners).run store.deliveries
    { store with delivered := version, deliveries }

def publish (store : Store) (fleet : Snapshot) : Store :=
  { store with fleet, version := store.version + 1 }.notify (store.version + 1) fleet

/-- Add a listener; the result tells the id by which it can be removed. -/
def subscribe (store : Store) (label : String) (fails : Failing) : Store × Nat :=
  let id := store.nextListener
  ({ store with listeners := store.listeners ++ [⟨id, label, fails⟩], nextListener := id + 1 }, id)

def unsubscribe (store : Store) (id : Nat) : Store :=
  { store with listeners := store.listeners.filter fun listener => listener.id != id }

/-! ## Changes -/

def knows (store : Store) (id : String) : Bool :=
  store.fleet.nodes.contains id

/-- Merge a report into a node and derive everything anew.  The parts that were left out are named in the
warnings; a report never fails as a whole. -/
def update (store : Store) (now : UInt64) (id : String) (report : Json) :
    Store × List ShapeWarning :=
  let (report, warnings) := Report.read report
  let node := (store.fleet.node id).receive now report
  (store.publish (store.fleet.setNode id node).reconcile, warnings)

/-- Make a node known, without saying that it is connected. -/
def register (store : Store) (id : String) : Store :=
  if store.knows id then store else store.publish (store.fleet.setNode id .unknown)

/-- Say whether a node is connected.  A node that is not keeps its state, but its routes no longer count. -/
def setConnection (store : Store) (id : String) (connected : Bool) : Store :=
  let node := store.fleet.node id
  if store.knows id && node.connected == connected then store
  else store.publish (store.fleet.setNode id { node with connected }).reconcile

def updateGateway (store : Store) (now : UInt64) (gateway : Gateway) : Store :=
  let gateway := { gateway with lastUpdated := some (gateway.lastUpdated.getD now) }
  store.publish { store.fleet with gateway }

/-- Log a migration of a node; only the latest are kept.  Nothing is logged for a node that is not known. -/
def recordMigration (store : Store) (now : UInt64) (id : String) (event : MigrationEvent) :
    Option Store :=
  if store.knows id then
    let event := { event with timestamp := if event.timestamp = 0 then now else event.timestamp }
    let log := (event :: (store.migrations.get? id).getD []).take store.capacity
    some { store with migrations := store.migrations.insert id log }
  else none

/-! ## Reading -/

/-- A node, if it is known. -/
def node? (store : Store) (id : String) : Option Node :=
  store.fleet.nodes.get? id

/-- Whether a node is connected, if it is known. -/
def connection? (store : Store) (id : String) : Option Bool :=
  (store.node? id).map Node.connected

/-- The bundles of a node, if it is known. -/
def bundles? (store : Store) (id : String) : Option (List Bundle) :=
  (store.node? id).map (Bundle.ofNode id)

/-- The migrations of a node, the latest first, if it is known. -/
def history? (store : Store) (id : String) : Option (List MigrationEvent) :=
  (store.node? id).map fun _ => (store.migrations.get? id).getD []

/-- Figures about the store. -/
structure Stats where
  nodes : Nat
  connected : Nat
  services : Nat
  containers : Nat
  routes : Nat
  subscribers : Nat
  deriving DecidableEq

def stats (store : Store) : Stats :=
  let nodes := store.fleet.nodes.values
  { nodes := nodes.length
    connected := (nodes.filter Node.connected).length
    services := (nodes.flatMap Node.services).length
    containers := (nodes.flatMap Node.containers).length
    routes := store.fleet.proxy.routes.length
    subscribers := store.listeners.length }

end Store
end Fleet
