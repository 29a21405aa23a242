import Fleet.Proofs.Node.Derived
import Mathlib.Data.List.Forall2

namespace Fleet

/-!
# What a report leaves as it was

A report says something about a part of a node, and of the rest the node keeps what it was told before.  The merge
alone would make this plain.  But all passes are run over the node afterwards, whatever the report was about, and they
write into the services and the containers that the node kept.

What they write is told here, one record at a time.  A container keeps all that was reported of it, but for wildcards
among its addresses, which may be replaced by the address of the node.  A service keeps all that was reported of it, and
its containers, to which others may be added at the end.  Everything else that changes is derived.
-/

/-- A mapping as it is stored by a node whose first address is given: the same mapping, unless the node has an address
for its wildcard. -/
structure PortMapping.Keeps (nodeIp : Option String) (before after : PortMapping) : Prop where
  facts : { after with hostIp := before.hostIp } = before
  hostIp : after.hostIp = before.hostIp ∨ isUnspecified before.hostIp = true ∧ after.hostIp = nodeIp

/-- A container as it is stored by a node whose first address is given: the same but for its domains and for wildcards
among its addresses. -/
structure Container.Keeps (nodeIp : Option String) (before after : Container) : Prop where
  facts : { after with ports := before.ports, verifiedDomains := before.verifiedDomains } = before
  ports : List.Forall₂ (PortMapping.Keeps nodeIp) before.ports after.ports

/-- A service as it is stored: the same but for what is derived for it and for containers that were added to it. -/
structure Service.Keeps (before after : Service) : Prop where
  facts : { after.withoutDerived with associatedContainerIds := before.associatedContainerIds } = before.withoutDerived
  containers : before.associatedContainerIds <+: after.associatedContainerIds

/-! ## Records -/

theorem PortMapping.keeps_shownAt (nodeIp : Option String) (mapping : PortMapping) :
    mapping.Keeps nodeIp (shownAt nodeIp mapping) := by
  unfold shownAt
  split
  · rename_i unspecified
    cases nodeIp with
    | none => exact ⟨rfl, Or.inl rfl⟩
    | some ip => exact ⟨rfl, Or.inr ⟨unspecified, rfl⟩⟩
  · exact ⟨rfl, Or.inl rfl⟩

theorem Container.keeps_resolveContainer (nodeIp : Option String) (container : Container) :
    container.Keeps nodeIp (Node.resolveContainer nodeIp container) where
  facts := rfl
  ports := by
    change List.Forall₂ _ container.ports (PortMapping.resolveHostIps nodeIp container.ports)
    rw [PortMapping.resolveHostIps_eq]
    exact List.forall₂_map_right_iff.2 (List.forall₂_same.2 fun mapping _ => mapping.keeps_shownAt nodeIp)

namespace Service

theorem Keeps.refl (service : Service) : service.Keeps service :=
  ⟨rfl, List.prefix_rfl⟩

theorem Keeps.trans {first second third : Service} (before : first.Keeps second) (after : second.Keeps third) :
    first.Keeps third where
  facts :=
    calc
      { third.withoutDerived with associatedContainerIds := first.associatedContainerIds }
        = { { third.withoutDerived with associatedContainerIds := second.associatedContainerIds } with
            associatedContainerIds := first.associatedContainerIds } := rfl
      _ = { second.withoutDerived with associatedContainerIds := first.associatedContainerIds } := by rw [after.facts]
      _ = first.withoutDerived := before.facts
  containers := before.containers.trans after.containers

theorem forall₂_keeps_trans {first second third : List Service} (before : List.Forall₂ Keeps first second)
    (after : List.Forall₂ Keeps second third) : List.Forall₂ Keeps first third := by
  induction before generalizing third with
  | nil => exact after
  | cons keeps _ inductionHypothesis =>
      cases after with
      | cons keepsOn rest => exact .cons (keeps.trans keepsOn) (inductionHypothesis rest)

theorem keeps_extend (service : Service) (ids : List String) : service.Keeps (Association.extend service ids) where
  facts := rfl
  containers := by
    rcases exists_addAll_eq_append service.associatedContainerIds ids with ⟨fresh, added, _⟩
    exact ⟨fresh, added.symm⟩

/-- Deriving anew changes no facts and no containers. -/
theorem keeps_of_withoutDerived {before after : Service} (same : before.withoutDerived = after.withoutDerived) :
    before.Keeps after := by
  have sameContainers := congrArg Service.associatedContainerIds same
  change before.associatedContainerIds = after.associatedContainerIds at sameContainers
  refine ⟨?_, sameContainers ▸ List.prefix_rfl⟩
  rw [← same]
  rfl

end Service

/-! ## Nodes -/

namespace Node

/-- A node after a report: what the report has stands in place of what the node had, and the rest stands as it was. -/
structure Retains (report : Report) (before after : Node) : Prop where
  volumes : after.volumes = report.volumes.getD before.volumes
  files : after.files = report.files.getD before.files
  proxyRoutes : after.proxyRoutes = report.proxyRoutes.getD before.proxyRoutes
  resources : after.resources = report.resources.or before.resources
  initialSyncComplete : after.initialSyncComplete = report.initialSyncComplete.getD before.initialSyncComplete
  containers : List.Forall₂ (Container.Keeps after.nodeIps.head?) (report.containers.getD before.containers)
    after.containers
  services : List.Forall₂ Service.Keeps (report.services.getD before.services) after.services

theorem keeps_services_merge (report : Report) (node : Node) :
    List.Forall₂ Service.Keeps (report.services.getD node.services) (node.merge report).services := by
  cases given : report.services with
  | none =>
      simp only [merge, given, Option.getD_none]
      exact List.forall₂_same.2 fun service _ => .refl service
  | some services =>
      simp only [merge, given, Option.getD_some, Association.carryOver]
      refine List.forall₂_map_right_iff.2 (List.forall₂_same.2 fun service _ => ?_)
      split
      · exact service.keeps_extend _
      · exact .refl service

/-- The passes add containers to services, and rewrite what is derived for them. -/
theorem keeps_services_reconcile (node : Node) : List.Forall₂ Service.Keeps node.services node.reconcile.services := by
  have linked : List.Forall₂ Service.Keeps node.services node.link.services :=
    List.forall₂_map_right_iff.2 (List.forall₂_same.2 fun service _ => service.keeps_extend _)
  have sameInputs : node.link.services.map Service.withoutDerived =
      node.reconcile.services.map Service.withoutDerived :=
    (congrArg Node.services (withoutDerived_reconcile node)).symm
  have derived : List.Forall₂ Service.Keeps node.link.services node.reconcile.services := by
    rw [← List.forall₂_eq_eq_eq, List.forall₂_map_left_iff, List.forall₂_map_right_iff] at sameInputs
    exact sameInputs.imp fun _ _ => Service.keeps_of_withoutDerived
  exact Service.forall₂_keeps_trans linked derived

theorem retains_receive (now : UInt64) (report : Report) (node : Node) :
    Retains report node (node.receive now report) where
  volumes := rfl
  files := rfl
  proxyRoutes := rfl
  resources := rfl
  initialSyncComplete := rfl
  containers :=
    List.forall₂_map_right_iff.2 (List.forall₂_same.2 fun container _ => container.keeps_resolveContainer _)
  services := Service.forall₂_keeps_trans (keeps_services_merge report node) (keeps_services_reconcile _)

/-- The domains that the fleet writes are derived as well. -/
theorem Retains.mapNode {report : Report} {before after : Node} (retains : Retains report before after)
    (index : Domain.Index) : Retains report before (Domain.mapNode index after) where
  volumes := retains.volumes
  files := retains.files
  proxyRoutes := retains.proxyRoutes
  resources := retains.resources
  initialSyncComplete := retains.initialSyncComplete
  containers := List.forall₂_map_right_iff.2 (retains.containers.imp fun _ _ keeps => ⟨keeps.facts, keeps.ports⟩)
  services := List.forall₂_map_right_iff.2 (retains.services.imp fun _ _ keeps => ⟨keeps.facts, keeps.containers⟩)

end Node
end Fleet
