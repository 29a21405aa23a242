import Fleet.Proofs.Store.Interleaving

namespace Fleet

variable {clock : UInt64 → UInt64 → Prop}

/-!
# Updates at other times

The same updates can reach a store at different times.  All that this changes are the times themselves: the one
at which each node was heard of last, in the fleet and in every snapshot that a listener was given.  The route
table and the domains do not ask for it, so it stays where it is written and has no influence on anything else.
-/

namespace Snapshot

variable {left right : Snapshot}

theorem Matches.refl (reflexive : ∀ time, clock time time) (fleet : Snapshot) : fleet.Matches clock fleet where
  nodes := fun _ => optionRel_refl (Node.matches_refl reflexive) _
  gateway := ⟨rfl, optionRel_refl reflexive _⟩
  proxy := rfl

theorem Matches.node (reflexive : ∀ time, clock time time) (alike : left.Matches clock right) (id : String) :
    (left.node id).Matches clock (right.node id) :=
  optionRel_getD (alike.nodes id) (Node.matches_refl reflexive Node.unknown)

theorem Matches.setNode (alike : left.Matches clock right) (id : String) {first second : Node}
    (nodes : first.Matches clock second) : (left.setNode id first).Matches clock (right.setNode id second) where
  nodes := by
    intro other
    unfold Snapshot.setNode
    rw [Keyed.get?_insert, Keyed.get?_insert]
    split
    · exact .some nodes
    · exact alike.nodes other
  gateway := alike.gateway
  proxy := alike.proxy

theorem Matches.aggregate_eq (alike : left.Matches clock right) :
    RouteTable.aggregate left.nodes = RouteTable.aggregate right.nodes := by
  have timeless : left.nodes.mapValues Node.timeless = right.nodes.mapValues Node.timeless := by
    apply Keyed.ext_get?
    intro id
    rw [Keyed.get?_mapValues, Keyed.get?_mapValues]
    exact map_eq_of_rel (fun _ _ same => same.timeless) (alike.nodes id)
  exact RouteTable.aggregate_eq_of_mapValues Node.timeless (fun _ => rfl) (fun _ => rfl) timeless

theorem Matches.reconcile (alike : left.Matches clock right) : left.reconcile.Matches clock right.reconcile where
  nodes := by
    intro id
    unfold Snapshot.reconcile Domain.mapNodes
    rw [Keyed.get?_mapValues, Keyed.get?_mapValues, alike.aggregate_eq]
    exact optionRel_map (fun _ _ same => same.mapNode _) (alike.nodes id)
  gateway := alike.gateway
  proxy := congrArg RouteTable.mk alike.aggregate_eq

/-- A report does the same to a fleet whenever it arrives. -/
theorem Matches.receive (reflexive : ∀ time, clock time time) (alike : left.Matches clock right) {now later : UInt64}
    (times : clock now later) (id : String) (report : Report) :
    (left.setNode id ((left.node id).receive now report)).reconcile.Matches clock
      (right.setNode id ((right.node id).receive later report)).reconcile := by
  refine (alike.setNode id ⟨?_, times⟩).reconcile
  rw [Node.timeless_receive now report, Node.timeless_receive later report, (alike.node reflexive id).timeless]

end Snapshot

/-- Two calls of a listener with snapshots that differ in nothing but times. -/
structure Delivery.Matches (clock : UInt64 → UInt64 → Prop) (left right : Delivery) : Prop where
  listener : left.listener = right.listener
  version : left.version = right.version
  snapshot : left.snapshot.Matches clock right.snapshot

namespace Store

/-- Two stores that differ in nothing but times. -/
structure Matches (clock : UInt64 → UInt64 → Prop) (left right : Store) : Prop where
  fleet : left.fleet.Matches clock right.fleet
  migrations : left.migrations = right.migrations
  capacity : left.capacity = right.capacity
  version : left.version = right.version
  delivered : left.delivered = right.delivered
  listeners : left.listeners = right.listeners
  nextListener : left.nextListener = right.nextListener
  deliveries : List.Forall₂ (Delivery.Matches clock) left.deliveries right.deliveries

variable {left right : Store}

theorem Matches.refl (reflexive : ∀ time, clock time time) (store : Store) : store.Matches clock store where
  fleet := .refl reflexive store.fleet
  migrations := rfl
  capacity := rfl
  version := rfl
  delivered := rfl
  listeners := rfl
  nextListener := rfl
  deliveries := List.forall₂_same.2 fun delivery _ => ⟨rfl, rfl, .refl reflexive delivery.snapshot⟩

theorem Matches.notify (alike : left.Matches clock right) (version : Nat) {first second : Snapshot}
    (fleets : first.Matches clock second) :
    (left.notify version first).Matches clock (right.notify version second) := by
  by_cases late : version ≤ right.delivered
  · rwa [notify_of_le late, notify_of_le (alike.delivered ▸ late)]
  · have later : right.delivered < version := Nat.lt_of_not_le late
    rw [notify_of_lt later, notify_of_lt (alike.delivered ▸ later)]
    refine { alike with delivered := rfl, deliveries := ?_ }
    rw [alike.listeners]
    refine List.rel_append alike.deliveries ?_
    rw [List.forall₂_map_left_iff, List.forall₂_map_right_iff]
    exact List.forall₂_same.2 fun _ _ => ⟨rfl, rfl, fleets⟩

theorem Matches.publish (alike : left.Matches clock right) {first second : Snapshot}
    (fleets : first.Matches clock second) : (left.publish first).Matches clock (right.publish second) := by
  have version : left.version + 1 = right.version + 1 := congrArg Nat.succ alike.version
  have stamped : ({ left with fleet := first, version := left.version + 1 } : Store).Matches clock
      { right with fleet := second, version := right.version + 1 } :=
    { alike with fleet := fleets, version := version }
  have notified := stamped.notify (left.version + 1) fleets
  unfold Store.publish
  rw [← version] at notified ⊢
  exact notified

theorem Matches.update (reflexive : ∀ time, clock time time) (alike : left.Matches clock right)
    {now later : UInt64} (times : clock now later) (id : String) (document : Json) :
    (left.update now id document).1.Matches clock (right.update later id document).1 :=
  alike.publish (alike.fleet.receive reflexive times id (Report.read document).1)

/-- Updates of a node one after the other, each at its time, and all their warnings. -/
def updates (id : String) : Store → List (UInt64 × Json) → Store × List ShapeWarning
  | store, [] => (store, [])
  | store, (now, document) :: rest =>
      let (next, warnings) := store.update now id document
      let (last, more) := updates id next rest
      (last, warnings ++ more)

theorem updates_cons (id : String) (store : Store) (now : UInt64) (document : Json) (rest : List (UInt64 × Json)) :
    updates id store ((now, document) :: rest) =
      ((updates id (store.update now id document).1 rest).1,
        (store.update now id document).2 ++ (updates id (store.update now id document).1 rest).2) := rfl

theorem updates_append (id : String) (store : Store) (first second : List (UInt64 × Json)) :
    updates id store (first ++ second) =
      ((updates id (updates id store first).1 second).1,
        (updates id store first).2 ++ (updates id (updates id store first).1 second).2) := by
  induction first generalizing store with
  | nil => rfl
  | cons call rest inductionHypothesis =>
      rw [List.cons_append, updates_cons, updates_cons, inductionHypothesis, List.append_assoc]

/-- The same updates at other times do the same and are answered alike. -/
theorem Matches.updates (reflexive : ∀ time, clock time time) (alike : left.Matches clock right) (id : String)
    {calls others : List (UInt64 × Json)}
    (correspond : List.Forall₂ (Machine.Corresponds clock) calls others) :
    (updates id left calls).1.Matches clock (updates id right others).1 ∧
      (updates id left calls).2 = (updates id right others).2 := by
  induction correspond generalizing left right with
  | nil => exact ⟨alike, rfl⟩
  | @cons call other calls others same _ inductionHypothesis =>
      rcases call with ⟨now, document⟩
      rcases other with ⟨later, document⟩
      rcases same with ⟨times, rfl⟩
      rcases inductionHypothesis (alike.update reflexive times id document) with ⟨stores, warnings⟩
      exact ⟨stores, congrArg ((Report.read document).2 ++ ·) warnings⟩

end Store
end Fleet
