import Fleet.Proofs.Store.Part
import Fleet.Proofs.Store.Settled

namespace Fleet

variable {clock : UInt64 → UInt64 → Prop}

/-!
# Changes of different nodes commute

Agents report independently, and their reports reach the store in some order that nobody chooses.  What the
store holds in the end does not depend on it: only the order of the changes of each single node counts, and
the order of the changes of the gateway.  Not syntactically so, since every report rewrites the route table
and all domains of the fleet.  But these are a function of what is held of the single nodes, computed from
nothing else, and without them every change concerns one node alone.

Orders differ in the times at which changes happen, and some of these times are stored: that of a node's
last report, and those that stand in for a time left open.  They cannot be the same, and are compared by a
`clock` instead, any reflexive relation that holds between the times of corresponding changes.  With
equality for a clock everything is equal; with the relation that always holds, everything but the times
read from it.
-/

/-! ## The same but for times -/

/-- Two nodes that differ in nothing but the time of the last report. -/
structure Node.Matches (clock : UInt64 → UInt64 → Prop) (left right : Node) : Prop where
  timeless : left.timeless = right.timeless
  lastSync : clock left.lastSync right.lastSync

def MigrationEvent.timeless (event : MigrationEvent) : MigrationEvent :=
  { event with timestamp := 0 }

/-- Two migrations that differ in nothing but the time. -/
structure MigrationEvent.Matches (clock : UInt64 → UInt64 → Prop) (left right : MigrationEvent) : Prop where
  timeless : left.timeless = right.timeless
  timestamp : clock left.timestamp right.timestamp

def Gateway.timeless (gateway : Gateway) : Gateway :=
  { gateway with lastUpdated := none }

/-- Two gateways that differ in nothing but the time. -/
structure Gateway.Matches (clock : UInt64 → UInt64 → Prop) (left right : Gateway) : Prop where
  timeless : left.timeless = right.timeless
  lastUpdated : Option.Rel clock left.lastUpdated right.lastUpdated

/-- Two fleets that differ in nothing but times. -/
structure Snapshot.Matches (clock : UInt64 → UInt64 → Prop) (left right : Snapshot) : Prop where
  nodes : ∀ id, Option.Rel (Node.Matches clock) (left.nodes.get? id) (right.nodes.get? id)
  gateway : left.gateway.Matches clock right.gateway
  proxy : left.proxy = right.proxy

theorem Node.matches_refl (reflexive : ∀ time, clock time time) (node : Node) : node.Matches clock node :=
  ⟨rfl, reflexive _⟩

theorem MigrationEvent.matches_refl (reflexive : ∀ time, clock time time) (event : MigrationEvent) :
    event.Matches clock event :=
  ⟨rfl, reflexive _⟩

theorem optionRel_refl {α : Type} {related : α → α → Prop} (reflexive : ∀ value, related value value)
    (given : Option α) : Option.Rel related given given := by
  cases given with
  | none => exact .none
  | some value => exact .some (reflexive value)

theorem optionRel_getD {α : Type} {related : α → α → Prop} {left right : Option α} {default : α}
    (rel : Option.Rel related left right) (defaults : related default default) :
    related (left.getD default) (right.getD default) := by
  cases rel with
  | none => exact defaults
  | some values => exact values

theorem optionRel_map {α β : Type} {related : α → α → Prop} {relatedAfter : β → β → Prop}
    {change other : α → β}
    (keeps : ∀ left right, related left right → relatedAfter (change left) (other right))
    {left right : Option α} (rel : Option.Rel related left right) :
    Option.Rel relatedAfter (left.map change) (right.map other) := by
  cases rel with
  | none => exact .none
  | some values => exact .some (keeps _ _ values)

theorem map_eq_of_rel {α β : Type} {related : α → α → Prop} {read : α → β}
    (same : ∀ left right, related left right → read left = read right) {left right : Option α}
    (rel : Option.Rel related left right) : left.map read = right.map read := by
  cases rel with
  | none => rfl
  | some values => exact congrArg some (same _ _ values)

theorem isSome_eq_of_rel {α β : Type} {related : α → β → Prop} {left : Option α} {right : Option β}
    (rel : Option.Rel related left right) : left.isSome = right.isSome := by
  cases rel <;> rfl

/-- A report that arrives at corresponding times makes matching nodes of matching ones. -/
theorem Node.Matches.receive {left right : Node} (alike : left.Matches clock right) {now later : UInt64}
    (times : clock now later) (report : Report) :
    (left.receive now report).withoutDomains.Matches clock (right.receive later report).withoutDomains where
  timeless := by
    rw [timeless_withoutDomains, timeless_withoutDomains, timeless_receive now report left,
      timeless_receive later report right, alike.timeless]
  lastSync := times

theorem Node.Matches.setConnected {left right : Node} (alike : left.Matches clock right) (connected : Bool) :
    { left with connected := connected }.Matches clock { right with connected := connected } where
  timeless := congrArg (fun node : Node => { node with connected := connected }) alike.timeless
  lastSync := alike.lastSync

theorem Node.Matches.mapNode {left right : Node} (alike : left.Matches clock right) (index : Domain.Index) :
    (Domain.mapNode index left).Matches clock (Domain.mapNode index right) where
  timeless := by rw [timeless_mapNode, timeless_mapNode, alike.timeless]
  lastSync := alike.lastSync

theorem MigrationEvent.matches_stamped (reflexive : ∀ time, clock time time) {now later : UInt64}
    (times : clock now later) (event : MigrationEvent) :
    (event.stamped now).Matches clock (event.stamped later) where
  timeless := rfl
  timestamp := by
    unfold stamped
    by_cases leftOpen : event.timestamp = 0
    · simpa only [if_pos leftOpen] using times
    · simpa only [if_neg leftOpen] using reflexive event.timestamp

theorem Gateway.matches_stamped (reflexive : ∀ time, clock time time) {now later : UInt64}
    (times : clock now later) (gateway : Gateway) :
    (gateway.stamped now).Matches clock (gateway.stamped later) where
  timeless := rfl
  lastUpdated := by
    apply Option.Rel.some
    cases gateway.lastUpdated with
    | none => exact times
    | some given => exact reflexive given

namespace Store

/-! ## Parts of a store -/

/-- The node that a change is about; a change of the gateway is about none. -/
def Change.node? : Change → Option String
  | update id _ => some id
  | register id => some id
  | setConnection id _ => some id
  | recordMigration id _ => some id
  | updateGateway _ => none

/-- What a store holds of one node: the node without domains, and its log with the room that it has. -/
structure Cell where
  node : Option Node
  log : List MigrationEvent
  capacity : Nat

/-- What a store holds under an id. -/
def cell (store : Store) (id : String) : Cell where
  node := store.fleet.bare? id
  log := (store.migrations.get? id).getD []
  capacity := store.capacity

/-- Two cells that differ in nothing but times. -/
structure Cell.Matches (clock : UInt64 → UInt64 → Prop) (left right : Cell) : Prop where
  node : Option.Rel (Node.Matches clock) left.node right.node
  log : List.Forall₂ (MigrationEvent.Matches clock) left.log right.log
  capacity : left.capacity = right.capacity

/-- What is seen of a store by those who change one node, or the gateway. -/
def Part : Option String → Type
  | some _ => Cell
  | none => Gateway

/-- The part of a store that belongs to a node, or to the gateway. -/
def view : (own : Option String) → Store → Part own
  | some id, store => store.cell id
  | none, store => store.fleet.gateway

/-- Two parts that differ in nothing but times. -/
def PartMatches (clock : UInt64 → UInt64 → Prop) : (own : Option String) → Part own → Part own → Prop
  | some _, left, right => Cell.Matches clock left right
  | none, left, right => Gateway.Matches clock left right

theorem view_refl (reflexive : ∀ time, clock time time) (own : Option String) (store : Store) :
    PartMatches clock own (view own store) (view own store) := by
  cases own with
  | none => exact ⟨rfl, optionRel_refl reflexive _⟩
  | some id =>
      exact ⟨optionRel_refl (Node.matches_refl reflexive) _,
        List.forall₂_same.2 fun event _ => MigrationEvent.matches_refl reflexive event, rfl⟩

/-! ### One change -/

/-- What is published does not touch the logs. -/
theorem cell_published {store after : Store} (published : Published store after) (id : String) :
    after.cell id = { store.cell id with node := after.fleet.bare? id } := by
  unfold cell
  rw [published.migrations_eq, published.capacity_eq]

theorem cell_published_eq_self {store after : Store} (published : Published store after) {id : String}
    (sameNode : after.fleet.bare? id = store.fleet.bare? id) : after.cell id = store.cell id := by
  rw [cell_published published, sameNode]
  rfl

theorem Cell.Matches.published {left leftAfter right rightAfter : Store} {id : String}
    (alike : (left.cell id).Matches clock (right.cell id)) (leftPublished : Published left leftAfter)
    (rightPublished : Published right rightAfter)
    (nodes : Option.Rel (Node.Matches clock) (leftAfter.fleet.bare? id) (rightAfter.fleet.bare? id)) :
    (leftAfter.cell id).Matches clock (rightAfter.cell id) := by
  rw [cell_published leftPublished, cell_published rightPublished]
  exact ⟨nodes, alike.log, alike.capacity⟩

/-- A change leaves the cells of other nodes as they are. -/
theorem cell_apply_of_ne (store : Store) (now : UInt64) {change : Change} {id : String}
    (other : change.node? ≠ some id) : (store.apply now change).1.cell id = store.cell id := by
  have different : ∀ own, change.node? = some own → own ≠ id := by
    intro own here same
    exact other (here.trans (congrArg some same))
  cases change with
  | update own report =>
      apply cell_published_eq_self (published_update store now own report)
      rw [bare?_update, if_neg (different own rfl)]
  | register own =>
      apply cell_published_eq_self (published_register store own)
      rw [bare?_register, if_neg (different own rfl)]
  | setConnection own connected =>
      apply cell_published_eq_self (published_setConnection store own connected)
      rw [bare?_setConnection, if_neg (different own rfl)]
  | recordMigration own event =>
      rw [apply_recordMigration]
      split
      · simp only [cell, Keyed.get?_insert, if_neg (different own rfl)]
      · rfl
  | updateGateway gateway =>
      apply cell_published_eq_self (published_updateGateway store now gateway)
      rw [bare?_updateGateway]

/-- A change of a node leaves the gateway as it is. -/
theorem gateway_apply_of_ne (store : Store) (now : UInt64) {change : Change} (other : change.node? ≠ none) :
    (store.apply now change).1.fleet.gateway = store.fleet.gateway := by
  cases change with
  | update id report => exact update_gateway store now id report
  | register id => exact register_gateway store id
  | setConnection id connected => exact setConnection_gateway store id connected
  | recordMigration id event => rw [apply_recordMigration_fleet]
  | updateGateway gateway => exact absurd rfl other

/-- The nodes that matching cells hold match, also when there is none. -/
theorem Cell.Matches.bare (reflexive : ∀ time, clock time time) {left right : Store} {id : String}
    (alike : (left.cell id).Matches clock (right.cell id)) :
    (left.fleet.bare id).Matches clock (right.fleet.bare id) :=
  optionRel_getD alike.node (Node.matches_refl reflexive Node.unknown)

/-- A change of one node does the same to matching cells, and is answered alike. -/
theorem cell_apply (reflexive : ∀ time, clock time time) {left right : Store} {now later : UInt64}
    (times : clock now later) {change : Change} {id : String} (own : change.node? = some id)
    (alike : (left.cell id).Matches clock (right.cell id)) :
    ((left.apply now change).1.cell id).Matches clock ((right.apply later change).1.cell id) ∧
      (left.apply now change).2 = (right.apply later change).2 := by
  have bare := alike.bare reflexive
  cases change with
  | update place report =>
      obtain rfl : place = id := Option.some.inj own
      have nodes : Option.Rel (Node.Matches clock) ((left.update now place report).1.fleet.bare? place)
          ((right.update later place report).1.fleet.bare? place) := by
        rw [bare?_update, bare?_update, if_pos rfl, if_pos rfl]
        exact .some (bare.receive times _)
      exact ⟨alike.published (published_update left now place report)
        (published_update right later place report) nodes, rfl⟩
  | register place =>
      obtain rfl : place = id := Option.some.inj own
      have nodes : Option.Rel (Node.Matches clock) ((left.register place).fleet.bare? place)
          ((right.register place).fleet.bare? place) := by
        rw [bare?_register, bare?_register, if_pos rfl, if_pos rfl]
        exact .some bare
      exact ⟨alike.published (published_register left place) (published_register right place) nodes, rfl⟩
  | setConnection place connected =>
      obtain rfl : place = id := Option.some.inj own
      have nodes : Option.Rel (Node.Matches clock) ((left.setConnection place connected).fleet.bare? place)
          ((right.setConnection place connected).fleet.bare? place) := by
        rw [bare?_setConnection, bare?_setConnection, if_pos rfl, if_pos rfl]
        exact .some (bare.setConnected connected)
      exact ⟨alike.published (published_setConnection left place connected)
        (published_setConnection right place connected) nodes, rfl⟩
  | recordMigration place event =>
      obtain rfl : place = id := Option.some.inj own
      have sameKnown : left.knows place = right.knows place := by
        rw [knows_eq, knows_eq]
        exact isSome_eq_of_rel alike.node
      rw [apply_recordMigration, apply_recordMigration, sameKnown]
      split
      · refine ⟨⟨alike.node, ?_, alike.capacity⟩, rfl⟩
        simp only [cell, Keyed.get?_insert, if_true, Option.getD_some]
        unfold logged
        rw [show right.capacity = left.capacity from alike.capacity.symm]
        exact List.forall₂_take _ (.cons (MigrationEvent.matches_stamped reflexive times event) alike.log)
      · exact ⟨alike, rfl⟩
  | updateGateway gateway => cases own

/-- The nodes and the gateway are parts of a store that do not meet. -/
theorem separated_apply (reflexive : ∀ time, clock time time) :
    apply.Separated Change.node? view (PartMatches clock) clock where
  elsewhere := by
    intro own store now change other
    cases own with
    | none => exact gateway_apply_of_ne store now other
    | some id => exact cell_apply_of_ne store now other
  within := by
    intro left right now later change times alike
    cases own : change.node? with
    | none =>
        cases change with
        | updateGateway gateway =>
            refine ⟨?_, rfl⟩
            change ((left.updateGateway now gateway).fleet.gateway).Matches clock
              ((right.updateGateway later gateway).fleet.gateway)
            rw [updateGateway_fleet, updateGateway_fleet]
            exact Gateway.matches_stamped reflexive times gateway
        | _ => cases own
    | some id =>
        rw [own] at alike
        exact cell_apply reflexive times own alike

end Store

/-! ## A fleet from its parts -/

namespace Snapshot

/-- The route table is that of the bare nodes. -/
theorem Settled.routes_eq {fleet : Snapshot} (settled : fleet.Settled) :
    fleet.proxy.routes =
      RouteTable.aggregate (fleet.nodes.mapValues fun node => node.withoutDomains.timeless) := by
  rw [settled.routes]
  exact (RouteTable.aggregate_mapValues (fun node => node.withoutDomains.timeless) (fun _ => rfl)
    (fun _ => rfl) fleet.nodes).symm

/-- A node is the bare node with the domains that the table gives it. -/
theorem Settled.get?_eq {fleet : Snapshot} (settled : fleet.Settled) (id : String) :
    fleet.nodes.get? id =
      (fleet.bare? id).map (Domain.mapNode (Domain.index fleet.proxy.routes)) := by
  have derived := congrArg (fun nodes => nodes.get? id) settled.domains
  rw [← derived]
  unfold Domain.mapNodes bare?
  rw [Keyed.get?_mapValues, Option.map_map]
  congr 1
  funext node
  exact (Node.mapNode_withoutDomains _ node).symm

/-- When the bare nodes of two settled fleets match, so do the fleets: the rest is derived from them. -/
theorem Settled.matches_of_bare {left right : Snapshot} (leftSettled : left.Settled)
    (rightSettled : right.Settled)
    (bare : ∀ id, Option.Rel (Node.Matches clock) (left.bare? id) (right.bare? id))
    (gateway : left.gateway.Matches clock right.gateway) : left.Matches clock right := by
  have timeless : (left.nodes.mapValues fun node => node.withoutDomains.timeless) =
      right.nodes.mapValues fun node => node.withoutDomains.timeless := by
    apply Keyed.ext_get?
    intro id
    have same := map_eq_of_rel (fun _ _ alike => alike.timeless) (bare id)
    unfold bare? at same
    rw [Option.map_map, Option.map_map] at same
    rw [Keyed.get?_mapValues, Keyed.get?_mapValues]
    exact same
  have routes : left.proxy.routes = right.proxy.routes := by
    rw [leftSettled.routes_eq, rightSettled.routes_eq, timeless]
  refine ⟨?_, gateway, congrArg RouteTable.mk routes⟩
  intro id
  rw [leftSettled.get?_eq, rightSettled.get?_eq, routes]
  exact optionRel_map (fun _ _ alike => alike.mapNode _) (bare id)

end Snapshot

namespace Store

/-! ## Orders of the same changes -/

/-- Two orders of the same changes: those of each node come in one order in both, at corresponding times,
and so do those of the gateway. -/
def Reordered (clock : UInt64 → UInt64 → Prop) (left right : List (UInt64 × Change)) : Prop :=
  ∀ own, List.Forall₂ (Machine.Corresponds clock) (Machine.stepsOf Change.node? own left)
    (Machine.stepsOf Change.node? own right)

theorem history?_eq (store : Store) (id : String) :
    store.history? id = (store.cell id).node.map fun _ => (store.cell id).log := by
  unfold history? node? cell Snapshot.bare?
  rw [Option.map_map]
  rfl

theorem Cell.Matches.history {left right : Store} {id : String}
    (alike : (left.cell id).Matches clock (right.cell id)) :
    Option.Rel (List.Forall₂ (MigrationEvent.Matches clock)) (left.history? id) (right.history? id) := by
  rw [history?_eq, history?_eq]
  exact optionRel_map (fun _ _ _ => alike.log) alike.node

/-- From any store that came about by operations, two orders of the same changes lead to fleets and histories
that differ in nothing but times, and give every change the same answer. -/
theorem reordered_runs_agree (reflexive : ∀ time, clock time time) (capacity : Nat)
    (before : List (UInt64 × Operation)) {left right : List (UInt64 × Change)}
    (reordered : Reordered clock left right) :
    let start := (perform.run (empty capacity) before).1
    let first := apply.run start left
    let second := apply.run start right
    first.1.fleet.Matches clock second.1.fleet ∧
      (∀ id, Option.Rel (List.Forall₂ (MigrationEvent.Matches clock)) (first.1.history? id)
        (second.1.history? id)) ∧
      ∀ own, Machine.notesOf Change.node? own first.2 = Machine.notesOf Change.node? own second.2 := by
  intro start first second
  have startSettled : start.fleet.Settled := settled_later Snapshot.settled_empty before
  have settled : ∀ changes, (apply.run start changes).1.fleet.Settled :=
    Machine.run_keeps (fun store : Store => store.fleet.Settled)
      (fun _ now change settled => settled_apply settled now change) startSettled
  have agree := fun own =>
    (separated_apply reflexive).run_related own (reordered own) (view_refl reflexive own start)
  have cells : ∀ id, (first.1.cell id).Matches clock (second.1.cell id) := fun id => (agree (some id)).1
  have gateways : first.1.fleet.gateway.Matches clock second.1.fleet.gateway := (agree none).1
  refine ⟨?_, fun id => (cells id).history, fun own => (agree own).2⟩
  exact (settled left).matches_of_bare (settled right) (fun id => (cells id).node) gateways

/-- A node that moves a bundle, another one that only connects, and the gateway, in two orders; the second
order happens later throughout. -/
theorem reordered_runs_agree_two_nodes :
    let moved : MigrationEvent := ⟨0, "web", "start", .succeeded, none⟩
    let left : List (UInt64 × Change) :=
      [(1, .register "a"), (2, .recordMigration "a" moved), (3, .setConnection "b" true),
        (4, .updateGateway .unknown)]
    let right : List (UInt64 × Change) :=
      [(5, .updateGateway .unknown), (6, .register "a"), (7, .setConnection "b" true),
        (8, .recordMigration "a" moved)]
    Reordered (· ≤ ·) left right ∧
      (apply.run (empty 3) left).1.fleet.Matches (· ≤ ·) (apply.run (empty 3) right).1.fleet := by
  intro moved left right
  have reordered : Reordered (· ≤ ·) left right := by
    intro own
    cases own with
    | none =>
        change List.Forall₂ _ [_] [_]
        exact .cons ⟨by decide, rfl⟩ .nil
    | some id =>
        by_cases first : "a" = id
        · subst first
          change List.Forall₂ _ [_, _] [_, _]
          exact .cons ⟨by decide, rfl⟩ (.cons ⟨by decide, rfl⟩ .nil)
        · by_cases second : "b" = id
          · subst second
            change List.Forall₂ _ [_] [_]
            exact .cons ⟨by decide, rfl⟩ .nil
          · simp [left, right, Machine.stepsOf, Change.node?, first, second]
  exact ⟨reordered, (reordered_runs_agree (fun time => UInt64.le_refl time) 3 [] reordered).1⟩

end Store
end Fleet
