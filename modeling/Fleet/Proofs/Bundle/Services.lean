import Fleet.Bundle.Build
import Fleet.Proofs.Bundle.Links
import Mathlib.Data.List.Forall2

namespace Fleet
namespace Bundle

/-!
# Bundles are components

The bundles of a node are the components of its services: every service is listed in one bundle, and two are
listed together just when a chain of links connects them.  A dependency is a link, so the graph of a bundle
leads to no service of another bundle.
-/

/-- A bundle that lists the services of some places, with all that they ask for in its graph, and nothing in the
graph means a service of another place. -/
structure Holds (node : Node) (bundle : Bundle) (group : List (Fin node.services.length)) : Prop where
  services : bundle.services = group.map fun i => listedService (node.member i)
  graph : ∀ edge, edge ∈ bundle.graph ↔
    ∃ i ∈ group, edge.source = (node.member i).service.name ∧ node.Asks i edge.reason edge.target
  inside : ∀ edge ∈ bundle.graph, ∀ j, node.Means edge.target j → j ∈ group

theorem mem_graphOf_iff {members : List Member} {edge : GraphEdge} :
    edge ∈ graphOf members ↔
      ∃ member ∈ members, edge.source = member.service.name ∧ (edge.reason, edge.target) ∈ member.dependencies := by
  rw [graphOf, List.mem_flatMap]
  refine exists_congr fun member => and_congr_right fun _ => ?_
  constructor
  · intro listed
    rcases List.mem_map.1 listed with ⟨_, asked, rfl⟩
    exact ⟨rfl, asked⟩
  · rcases edge with ⟨source, target, reason⟩
    rintro ⟨rfl, asked⟩
    exact List.mem_map.2 ⟨_, asked, rfl⟩

/-- Bundles are made of groups one by one. -/
theorem forall₂_ofGroups (nodeName : String) (node : Node) (used : List String) (groups : List (List Member)) :
    List.Forall₂ (fun bundle members => bundle.services = members.map listedService ∧ bundle.graph = graphOf members)
      (ofGroups nodeName node used groups) groups := by
  induction groups generalizing used with
  | nil => exact .nil
  | cons members rest inductionHypothesis => exact .cons ⟨rfl, rfl⟩ (inductionHypothesis _)

/-- A bundle that is made of the services of a component holds them. -/
theorem holds_of_component {node : Node} {groups : List (List (Fin node.services.length))}
    (components : Components node.Linked groups) {group : List (Fin node.services.length)} (listed : group ∈ groups)
    {bundle : Bundle} {members : List Member}
    (same : members = group.map node.member)
    (services : bundle.services = members.map listedService) (graph : bundle.graph = graphOf members) :
    Holds node bundle group := by
  have edges : ∀ edge, edge ∈ bundle.graph ↔
      ∃ i ∈ group, edge.source = (node.member i).service.name ∧ node.Asks i edge.reason edge.target := by
    intro edge
    rw [graph, mem_graphOf_iff, same]
    constructor
    · rintro ⟨_, member, source, asked⟩
      rcases List.mem_map.1 member with ⟨i, place, rfl⟩
      exact ⟨i, place, source, Member.mem_dependenciesOf_iff.1 asked⟩
    · rintro ⟨i, place, source, asks⟩
      exact ⟨_, List.mem_map_of_mem place, source, Member.mem_dependenciesOf_iff.2 asks⟩
  refine ⟨?_, edges, ?_⟩
  · rw [services, same, List.map_map]
    rfl
  · intro edge member j means
    rcases (edges edge).1 member with ⟨i, place, _, asks⟩
    exact components.mem_of_linked listed place (.dependency asks means)

/-- The bundles of a node hold the components of its services, in the order of the components. -/
theorem ofNode_components (nodeName : String) (node : Node) :
    ∃ groups, Components node.Linked groups ∧ List.Forall₂ (Holds node) (ofNode nodeName node) groups := by
  have components := Member.components_placesOf node
  have bundles := forall₂_ofGroups nodeName node [] (Member.groups (Member.ofNode node))
  rw [Member.groups_ofNode, List.forall₂_map_right_iff] at bundles
  refine ⟨_, components, List.forall₂_iff_zip.2 ⟨?_, fun {bundle group} paired => ?_⟩⟩
  · rw [← bundles.length_eq, ofNode, Member.groups_ofNode]
  · rw [ofNode, Member.groups_ofNode] at paired
    have holds := (List.forall₂_iff_zip.1 bundles).2 paired
    exact holds_of_component components (List.of_mem_zip paired).2 rfl holds.1 holds.2

/-! ## Single bundles -/

theorem exists_ofGroup_of_mem {nodeName : String} {node : Node} {used : List String} {groups : List (List Member)}
    {bundle : Bundle} (listed : bundle ∈ ofGroups nodeName node used groups) :
    ∃ id, ∃ members ∈ groups, bundle = ofGroup nodeName node id members := by
  induction groups generalizing used with
  | nil => cases listed
  | cons members rest inductionHypothesis =>
      rcases List.mem_cons.1 listed with rfl | later
      · exact ⟨_, members, List.mem_cons_self, rfl⟩
      · rcases inductionHypothesis later with ⟨id, group, member, same⟩
        exact ⟨id, group, List.mem_cons_of_mem _ member, same⟩

/-- A bundle is made of a group of services of its node. -/
theorem exists_ofGroup {nodeName : String} {node : Node} {bundle : Bundle} (listed : bundle ∈ ofNode nodeName node) :
    ∃ id members, bundle = ofGroup nodeName node id members ∧ ∀ member ∈ members, member.service ∈ node.services := by
  rcases exists_ofGroup_of_mem listed with ⟨id, members, group, same⟩
  refine ⟨id, members, same, fun member inGroup => ?_⟩
  rw [Member.groups_ofNode] at group
  rcases List.mem_map.1 group with ⟨places, _, rfl⟩
  rcases List.mem_map.1 inGroup with ⟨i, _, rfl⟩
  exact List.getElem_mem i.isLt

/-- A bundle lists the containers of its services that the node has. -/
theorem mem_containersOf_iff {node : Node} {members : List Member} {entry : BundleContainer} :
    entry ∈ containersOf node members ↔
      (∃ member ∈ members, entry.id ∈ member.service.associatedContainerIds) ∧
        ∃ container, node.container? entry.id = some container ∧ entry = listedContainer container := by
  rw [containersOf, List.mem_filterMap]
  constructor
  · rintro ⟨id, associated, found⟩
    rcases Option.map_eq_some_iff.1 found with ⟨container, isFound, rfl⟩
    have sameId : container.id = id := by simpa using List.find?_some isFound
    subst sameId
    exact ⟨List.mem_flatMap.1 (mem_distinct.1 associated), container, isFound, rfl⟩
  · rintro ⟨associated, container, found, same⟩
    refine ⟨entry.id, mem_distinct.2 (List.mem_flatMap.2 associated), ?_⟩
    rw [found, same]
    rfl

end Bundle
end Fleet
