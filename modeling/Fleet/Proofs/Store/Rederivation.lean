import Fleet.Proofs.Node.Derived
import Fleet.Proofs.Store.Part
import Fleet.Proofs.Store.Settled

namespace Fleet

/-!
# What is derived is derived from inputs alone

A fleet keeps what is derived in it between the inputs, and every derivation writes into the fleet that it
reads.  So it might happen that a value survives from what was derived before: a flag that kept a service a
proxy because it had been one, a port that stayed because it stood in the list already, a domain of a route
that is gone.  It does not.  When the passes have been over every node and the table and the domains are
derived, the fleet is a function of its inputs, whatever was derived in it before, right or wrong.

A node is looked at by the passes over that node alone, one node after the other, and after all of them by
the two passes over the fleet.  For a node the fact is `Node.reconcile_withoutDerived`.  For the fleet it is
that the table and the domains follow from the nodes without their domains.
-/

namespace Snapshot

/-- A fleet without what is derived in it. -/
def withoutDerived (fleet : Snapshot) : Snapshot :=
  { fleet with nodes := fleet.nodes.mapValues Node.withoutDerived, proxy := ⟨[]⟩ }

/-- A fleet after the passes over one of its nodes. -/
def reconcileNode (fleet : Snapshot) (id : String) : Snapshot :=
  match fleet.nodes.get? id with
  | some node => fleet.setNode id node.reconcile
  | none => fleet

/-- A fleet in which everything is derived anew: for each node in turn, and then for the fleet. -/
def rederive (fleet : Snapshot) : Snapshot :=
  (fleet.nodes.keys.foldl reconcileNode fleet).reconcile

/-! ## The passes over the fleet -/

/-- The table and the domains are derived as if the nodes had no domains yet. -/
theorem reconcile_eq (fleet : Snapshot) :
    fleet.reconcile =
      let bare := fleet.nodes.mapValues Node.withoutDomains
      let routes := RouteTable.aggregate bare
      ⟨Domain.mapNodes routes bare, fleet.gateway, ⟨routes⟩⟩ := by
  have table : RouteTable.aggregate (fleet.nodes.mapValues Node.withoutDomains) =
      RouteTable.aggregate fleet.nodes :=
    RouteTable.aggregate_mapValues Node.withoutDomains (fun _ => rfl) (fun _ => rfl) fleet.nodes
  have domains : ∀ routes, Domain.mapNodes routes (fleet.nodes.mapValues Node.withoutDomains) =
      Domain.mapNodes routes fleet.nodes := by
    intro routes
    unfold Domain.mapNodes
    rw [Keyed.mapValues_mapValues]
    simp only [Node.mapNode_withoutDomains]
  simp only [table, domains]
  rfl

theorem reconcile_eq_of_bare {left right : Snapshot} (bare : ∀ id, left.bare? id = right.bare? id)
    (gateway : left.gateway = right.gateway) : left.reconcile = right.reconcile := by
  have sameNodes : left.nodes.mapValues Node.withoutDomains = right.nodes.mapValues Node.withoutDomains := by
    apply Keyed.ext_get?
    intro id
    rw [Keyed.get?_mapValues, Keyed.get?_mapValues]
    exact bare id
  rw [reconcile_eq left, reconcile_eq right, sameNodes, gateway]

/-! ## The passes over the nodes -/

theorem get?_reconcileNode (fleet : Snapshot) (id other : String) :
    (fleet.reconcileNode id).nodes.get? other =
      if id = other then (fleet.nodes.get? other).map Node.reconcile else fleet.nodes.get? other := by
  unfold reconcileNode
  cases found : fleet.nodes.get? id with
  | none =>
      by_cases same : id = other
      · subst same
        rw [if_pos rfl, found]
        rfl
      · rw [if_neg same]
  | some node =>
      change (fleet.nodes.insert id node.reconcile).get? other = _
      rw [Keyed.get?_insert]
      by_cases same : id = other
      · subst same
        rw [if_pos rfl, if_pos rfl, found]
        rfl
      · rw [if_neg same, if_neg same]

/-- The passes over a node are not disturbed by those over others, and going over it again changes nothing. -/
theorem get?_reconcileNodes (ids : List String) (fleet : Snapshot) (id : String) :
    (ids.foldl reconcileNode fleet).nodes.get? id =
      if id ∈ ids then (fleet.nodes.get? id).map Node.reconcile else fleet.nodes.get? id := by
  induction ids generalizing fleet with
  | nil => rw [if_neg List.not_mem_nil]; rfl
  | cons first rest inductionHypothesis =>
      have again : ∀ node : Node, node.reconcile.reconcile = node.reconcile := fun node =>
        (Node.settled_reconcile node).reconcile_eq_self
      rw [List.foldl_cons, inductionHypothesis, get?_reconcileNode]
      by_cases same : first = id
      · subst same
        rw [if_pos rfl, if_pos List.mem_cons_self, Option.map_map]
        split
        · congr 1
          funext node
          exact again node
        · rfl
      · simp only [if_neg same, List.mem_cons, Ne.symm same, false_or]

theorem reconcileNodes_gateway (ids : List String) (fleet : Snapshot) :
    (ids.foldl reconcileNode fleet).gateway = fleet.gateway := by
  induction ids generalizing fleet with
  | nil => rfl
  | cons first rest inductionHypothesis =>
      rw [List.foldl_cons, inductionHypothesis]
      unfold reconcileNode
      cases fleet.nodes.get? first <;> rfl

/-- After the passes over all nodes, the nodes without their domains are what the inputs of the fleet give. -/
theorem bare?_reconcileNodes (fleet : Snapshot) (id : String) :
    (fleet.nodes.keys.foldl reconcileNode fleet).bare? id =
      (fleet.withoutDerived.nodes.get? id).map Node.reconcile := by
  have everyNode : (fleet.nodes.keys.foldl reconcileNode fleet).nodes.get? id =
      (fleet.nodes.get? id).map Node.reconcile := by
    rw [get?_reconcileNodes]
    split
    · rfl
    · rename_i absent
      rw [Keyed.get?_eq_none_iff.2 absent]
      rfl
  change ((fleet.nodes.keys.foldl reconcileNode fleet).nodes.get? id).map Node.withoutDomains =
    ((fleet.nodes.mapValues Node.withoutDerived).get? id).map Node.reconcile
  rw [everyNode, Keyed.get?_mapValues, Option.map_map, Option.map_map]
  congr 1
  funext node
  exact (Node.reconcile_withoutDerived node).symm

/-- Two fleets with the same inputs become one when everything is derived anew, whatever was derived in them
before. -/
theorem rederive_eq_of_inputs {left right : Snapshot} (same : left.withoutDerived = right.withoutDerived) :
    left.rederive = right.rederive := by
  apply reconcile_eq_of_bare
  · intro id
    rw [bare?_reconcileNodes, bare?_reconcileNodes, same]
  · have sameGateway := congrArg Snapshot.gateway same
    rw [reconcileNodes_gateway, reconcileNodes_gateway]
    exact sameGateway

/-- A fleet in which nothing was derived yet, and one that shows a service as the primary proxy which is none,
with a port, a domain and a route that nobody reported. -/
theorem rederive_eq_of_inputs_stale_proxy :
    let reported := { Service.named "web" with activeState := "active" }
    let stale := { reported with
      ports := some [.onHost 80], isReverseProxy := true, isPrimaryProxy := true,
      proxyConfiguration := some ⟨[]⟩, effectiveHostNetwork := true, verifiedDomains := some ["example.org"] }
    let fresh : Snapshot :=
      { empty with nodes := Keyed.empty.insert "a" { Node.unknown with services := [reported] } }
    let worn : Snapshot :=
      { empty with
        nodes := Keyed.empty.insert "a" { Node.unknown with services := [stale], nodeIps := ["10.0.0.5"] }
        proxy := ⟨[⟨"example.org", "10.0.0.5", some 80, false⟩]⟩ }
    fresh.withoutDerived = worn.withoutDerived ∧ fresh.rederive = worn.rederive := by
  intro reported stale fresh worn
  have sameInputs : fresh.withoutDerived = worn.withoutDerived := rfl
  exact ⟨sameInputs, rederive_eq_of_inputs sameInputs⟩

end Snapshot
end Fleet
