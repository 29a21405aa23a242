import Fleet.Proofs.Keyed
import Fleet.Proofs.Node.Domains
import Fleet.Proofs.Store.Operation

namespace Fleet

/-!
# What lasts at every node

Four things happen to a node of a store: it becomes known, it receives a report, its connection changes, and
the fleet writes its domains.  A property of a node, or of a node and the reports that came from it, holds at
all times if it holds of an unknown node and is kept up by the other three.  The induction over histories is
made once, here, and so is the case analysis over the operations.
-/

/-- A property of a node and of the reports that came from it, in their order, which is kept up by all that
happens in a store. -/
structure Node.Lasting (Holds : List Report → Node → Prop) : Prop where
  unknown : Holds [] .unknown
  receive : ∀ now document reports node, Holds reports node →
    Holds (reports ++ [(Report.read document).1]) (node.receive now (Report.read document).1)
  setConnected : ∀ connected reports node, Holds reports node → Holds reports { node with connected := connected }
  mapNode : ∀ index reports node, Holds reports node → Holds reports (Domain.mapNode index node)

namespace Snapshot

theorem node_setNode (fleet : Snapshot) (id other : String) (node : Node) :
    (fleet.setNode id node).node other = if id = other then node else fleet.node other := by
  unfold Snapshot.node setNode
  rw [Keyed.get?_insert]
  split <;> rfl

/-- The domains are written into every node; one of which nothing is known has no place for them. -/
theorem node_reconcile (fleet : Snapshot) (id : String) :
    fleet.reconcile.node id =
      Domain.mapNode (Domain.index (RouteTable.aggregate fleet.nodes)) (fleet.node id) := by
  have held : fleet.reconcile.nodes.get? id = (fleet.nodes.get? id).map
      (Domain.mapNode (Domain.index (RouteTable.aggregate fleet.nodes))) := Keyed.get?_mapValues _ _ _
  unfold Snapshot.node
  rw [held]
  cases fleet.nodes.get? id <;> rfl

end Snapshot

namespace Store

/-- The node of an id after a report of that node. -/
theorem exists_node_update_self (store : Store) (now : UInt64) (id : String) (report : Json) :
    ∃ index, (store.update now id report).1.fleet.node id =
      Domain.mapNode index ((store.fleet.node id).receive now (Report.read report).1) := by
  rw [update_fleet, Snapshot.node_reconcile, Snapshot.node_setNode, if_pos rfl]
  exact ⟨_, rfl⟩

theorem node_of_not_knows {store : Store} {id : String} (unknown : ¬ store.knows id = true) :
    store.fleet.node id = .unknown := by
  have absent : store.fleet.nodes.get? id = none := by
    cases found : store.fleet.nodes.get? id with
    | none => rfl
    | some node => exact absurd (congrArg Option.isSome found) unknown
  unfold Snapshot.node
  rw [absent]
  rfl

/-- What an operation reports of a node: one report, or nothing. -/
def Operation.reports (id : String) : Operation → List Report
  | .change (.update own document) => if own = id then [(Report.read document).1] else []
  | _ => []

/-- The reports of a node in a history. -/
def reportsOf (id : String) (history : List (UInt64 × Operation)) : List Report :=
  history.flatMap fun step => step.2.reports id

variable {Holds : List Report → Node → Prop}

/-- After the domains are written, the property holds of a node if it holds of the one that was put in its
place, or of the one that was there. -/
theorem lasts_setNode_reconcile (lasting : Node.Lasting Holds) {fleet : Snapshot} {id other : String}
    {node : Node} {reports : List Report} (own : id = other → Holds reports node)
    (others : id ≠ other → Holds reports (fleet.node other)) :
    Holds reports ((fleet.setNode id node).reconcile.node other) := by
  rw [Snapshot.node_reconcile, Snapshot.node_setNode]
  apply lasting.mapNode
  split
  · rename_i same
    exact own same
  · rename_i different
    exact others different

theorem lasts_apply (lasting : Node.Lasting Holds) {store : Store} {past : String → List Report}
    (holds : ∀ id, Holds (past id) (store.fleet.node id)) (now : UInt64) (change : Change) (other : String) :
    Holds (past other ++ (Operation.change change).reports other)
      ((store.apply now change).1.fleet.node other) := by
  cases change with
  | update id report =>
      change Holds (past other ++ if id = other then [(Report.read report).1] else [])
        ((store.update now id report).1.fleet.node other)
      rw [update_fleet]
      refine lasts_setNode_reconcile lasting ?_ ?_
      · rintro rfl
        rw [if_pos rfl]
        exact lasting.receive now report _ _ (holds id)
      · intro different
        rw [if_neg different, List.append_nil]
        exact holds other
  | register id =>
      change Holds (past other ++ []) ((store.register id).fleet.node other)
      rw [List.append_nil, register_fleet]
      split
      · exact holds other
      · rename_i unknown
        rw [Snapshot.node_setNode]
        split
        · rename_i same
          have absent : store.fleet.node id = .unknown := node_of_not_knows unknown
          rw [← absent, same]
          exact holds other
        · exact holds other
  | setConnection id connected =>
      change Holds (past other ++ []) ((store.setConnection id connected).fleet.node other)
      rw [List.append_nil, setConnection_fleet]
      split
      · exact holds other
      · refine lasts_setNode_reconcile lasting ?_ fun _ => holds other
        rintro rfl
        exact lasting.setConnected connected _ _ (holds id)
  | recordMigration id event =>
      rw [apply_recordMigration_fleet]
      change Holds (past other ++ []) _
      rw [List.append_nil]
      exact holds other
  | updateGateway gateway =>
      change Holds (past other ++ []) ((store.updateGateway now gateway).fleet.node other)
      rw [List.append_nil, updateGateway_fleet]
      exact holds other

theorem lasts_perform (lasting : Node.Lasting Holds) {store : Store} {past : String → List Report}
    (holds : ∀ id, Holds (past id) (store.fleet.node id)) (now : UInt64) (operation : Operation)
    (other : String) :
    Holds (past other ++ operation.reports other) ((store.perform now operation).1.fleet.node other) := by
  have unchanged : Holds (past other ++ []) (store.fleet.node other) := by
    rw [List.append_nil]
    exact holds other
  cases operation with
  | change change => exact lasts_apply lasting holds now change other
  | ask question => exact unchanged
  | subscribe label fails => exact unchanged
  | unsubscribe listener => exact unchanged

/-- What lasts, lasts through a run from any store in which it holds. -/
theorem lasts_run_from (lasting : Node.Lasting Holds) {store : Store} {past : String → List Report}
    (holds : ∀ id, Holds (past id) (store.fleet.node id)) (history : List (UInt64 × Operation)) (id : String) :
    Holds (past id ++ reportsOf id history) ((perform.run store history).1.fleet.node id) := by
  induction history generalizing store past with
  | nil =>
      change Holds (past id ++ []) (store.fleet.node id)
      rw [List.append_nil]
      exact holds id
  | cons step rest inductionHypothesis =>
      have joined : past id ++ reportsOf id (step :: rest) =
          (past id ++ step.2.reports id) ++ reportsOf id rest := by
        rw [List.append_assoc]
        rfl
      rw [Machine.run_cons, joined]
      exact inductionHypothesis (lasts_perform lasting holds step.1 step.2)

/-- What lasts holds of every node and its reports, whatever was asked of the store before. -/
theorem lasts_run (lasting : Node.Lasting Holds) (capacity : Nat) (history : List (UInt64 × Operation))
    (id : String) : Holds (reportsOf id history) ((perform.run (empty capacity) history).1.fleet.node id) :=
  @lasts_run_from Holds lasting (empty capacity) (fun _ => []) (fun _ => lasting.unknown) history id

end Store
end Fleet
