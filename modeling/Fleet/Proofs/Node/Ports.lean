import Fleet.Proofs.Bundle.Services
import Fleet.Proofs.Node.Derived
import Fleet.Proofs.Port.Service
import Fleet.Proofs.Report

namespace Fleet

/-!
# The ports of a node are canonical

What an agent lists of ports is canonical once it is read, and stays so as long as it is stored: deriving writes
addresses over wildcards and touches nothing else of it.  The ports that are shown for a service are derived anew
at every report and need nothing but that.  A bundle merges the ports of its services.
-/

open PortMapping

/-! ## Reports -/

namespace Report

theorem canonicalList_portsOf (value : Option Json) : CanonicalList (portsOf value) := by
  unfold portsOf
  split
  · exact canonicalList_normalizeAll _
  · exact canonicalList_nil

theorem canonicalList_ports {document : Json} {containers : List Container} {container : Container}
    (given : (read document).1.containers = some containers) (member : container ∈ containers) :
    CanonicalList container.ports := by
  have gives : containerRecord.Gives fun container => CanonicalList container.ports := by
    unfold containerRecord
    iterate 10 apply Record.gives_seq
    apply Record.gives_map
    intros
    exact canonicalList_portsOf _
  exact holds_container gives given member

theorem canonicalList_declaredPorts {document : Json} {services : List Service} {service : Service}
    (given : (read document).1.services = some services) (member : service ∈ services) :
    CanonicalList service.declaredPorts := by
  have gives : serviceRecord.Gives fun service => CanonicalList service.declaredPorts := by
    unfold serviceRecord
    iterate 13 apply Record.gives_seq
    apply Record.gives_map
    intros
    exact canonicalList_portsOf _
  exact holds_service gives given member

end Report

/-! ## Nodes -/

theorem Container.ofIds_subset (containers : List Container) (ids : List String) :
    ofIds containers ids ⊆ containers := by
  intro container member
  rcases List.mem_filterMap.1 member with ⟨id, _, found⟩
  exact List.mem_reverse.1 (List.mem_of_find?_eq_some found)

namespace Node

variable {node : Node}

/-- The ports that were reported for a node are kept as they should be. -/
structure ReportedCanonical (node : Node) : Prop where
  containers : ∀ container ∈ node.containers, CanonicalList container.ports
  declared : ∀ service ∈ node.services, CanonicalList service.declaredPorts

/-- All ports of a node are as they should be.  A service without ports has no list of them. -/
structure CanonicalPorts (node : Node) : Prop extends node.ReportedCanonical where
  services : ∀ service ∈ node.services, ∀ ports, service.ports = some ports → ports ≠ [] ∧ CanonicalList ports

theorem canonicalPorts_unknown : unknown.CanonicalPorts where
  containers := fun _ member => absurd member List.not_mem_nil
  declared := fun _ member => absurd member List.not_mem_nil
  services := fun _ member => absurd member List.not_mem_nil

theorem ReportedCanonical.merge (canonical : node.ReportedCanonical) (document : Json) :
    (node.merge (Report.read document).1).ReportedCanonical where
  containers := by
    intro container member
    cases given : (Report.read document).1.containers with
    | none => exact canonical.containers container (by simpa only [Node.merge, given, Option.getD_none] using member)
    | some containers =>
        exact Report.canonicalList_ports given (by simpa only [Node.merge, given, Option.getD_some] using member)
  declared := by
    intro service member
    cases given : (Report.read document).1.services with
    | none => exact canonical.declared service (by simpa only [Node.merge, given] using member)
    | some services =>
        have carried : service ∈ Association.carryOver node.services services := by
          simpa only [Node.merge, given] using member
        rcases List.mem_map.1 carried with ⟨reported, listed, rfl⟩
        have declared := Report.canonicalList_declaredPorts given listed
        split
        · exact declared
        · exact declared

/-- The first two passes leave the ports alone that are given for services. -/
theorem exists_declaredPorts_eq {service : Service} (member : service ∈ node.link.resolveProxies.services) :
    ∃ reported ∈ node.services, service.declaredPorts = reported.declaredPorts := by
  rcases ProxyRole.mem_resolve member with ⟨linked, linkedMember, flag, rfl⟩
  rcases List.mem_map.1 linkedMember with ⟨reported, listed, rfl⟩
  exact ⟨reported, listed, rfl⟩

/-- The ports that are shown for a service are canonical, and there is at least one. -/
theorem ports_enrichService {containers : List Container} {files : Unit.Files} {routes : List Route}
    {nodeIp : Option String} {service : Service} {ports : List PortMapping}
    (canonical : ∀ container ∈ containers, CanonicalList container.ports)
    (declared : CanonicalList service.declaredPorts)
    (shown : (enrichService containers files routes nodeIp service).ports = some ports) :
    ports ≠ [] ∧ CanonicalList ports := by
  have subset := Container.ofIds_subset containers service.associatedContainerIds
  have effective := (ServicePorts.canonicalList_effective canonical subset files routes declared).resolveHostIps nodeIp
  unfold enrichService at shown
  dsimp only at shown
  split at shown
  · cases shown
  · rename_i given
    cases shown
    exact ⟨fun empty => given (List.isEmpty_iff.2 empty), effective⟩

/-- Deriving makes all ports canonical from those that were reported. -/
theorem ReportedCanonical.reconcile (canonical : node.ReportedCanonical) : node.reconcile.CanonicalPorts := by
  have containers : ∀ container ∈ node.reconcile.containers, CanonicalList container.ports := by
    intro container member
    rcases List.mem_map.1 member with ⟨listed, listedMember, rfl⟩
    exact (canonical.containers listed listedMember).resolveHostIps _
  have declared : ∀ service ∈ node.link.resolveProxies.services, CanonicalList service.declaredPorts := by
    intro service member
    rcases exists_declaredPorts_eq member with ⟨reported, listed, same⟩
    exact same ▸ canonical.declared reported listed
  refine ⟨⟨containers, fun service member => ?_⟩, fun service member ports shown => ?_⟩
  · rcases List.mem_map.1 member with ⟨resolved, resolvedMember, rfl⟩
    exact declared resolved resolvedMember
  · rcases List.mem_map.1 member with ⟨resolved, resolvedMember, rfl⟩
    exact ports_enrichService containers (declared resolved resolvedMember) shown

theorem CanonicalPorts.receive (canonical : node.CanonicalPorts) (now : UInt64) (document : Json) :
    (node.receive now (Report.read document).1).CanonicalPorts := by
  have merged := canonical.toReportedCanonical.merge document
  exact ReportedCanonical.reconcile ⟨merged.containers, merged.declared⟩

theorem CanonicalPorts.mapNode (canonical : node.CanonicalPorts) (index : Domain.Index) :
    (Domain.mapNode index node).CanonicalPorts where
  containers := by
    intro container member
    rcases List.mem_map.1 member with ⟨listed, listedMember, rfl⟩
    exact canonical.containers listed listedMember
  declared := by
    intro service member
    rcases List.mem_map.1 member with ⟨listed, listedMember, rfl⟩
    exact canonical.declared listed listedMember
  services := by
    intro service member
    rcases List.mem_map.1 member with ⟨listed, listedMember, rfl⟩
    exact canonical.services listed listedMember

end Node

/-! ## Bundles -/

namespace Bundle

theorem canonicalList_portsOf {members : List Member}
    (declared : ∀ member ∈ members, CanonicalList member.service.declaredPorts)
    (shown : ∀ member ∈ members, ∀ ports, member.service.ports = some ports → CanonicalList ports) :
    CanonicalList (portsOf members) := by
  refine canonicalList_merge fun mapping listed => ?_
  rcases List.mem_flatMap.1 listed with ⟨member, memberListed, bound⟩
  cases given : member.service.ports with
  | none =>
      rw [given] at bound
      exact (declared member memberListed).entries mapping bound
  | some ports =>
      rw [given] at bound
      exact (shown member memberListed ports given).entries mapping bound

end Bundle

theorem Node.CanonicalPorts.bundles {node : Node} (canonical : node.CanonicalPorts) {nodeName : String}
    {bundle : Bundle} (listed : bundle ∈ Bundle.ofNode nodeName node) : CanonicalList bundle.ports := by
  rcases Bundle.exists_ofGroup listed with ⟨id, members, rfl, ofNode⟩
  exact Bundle.canonicalList_portsOf (fun member inGroup => canonical.declared _ (ofNode member inGroup))
    fun member inGroup ports shown => (canonical.services _ (ofNode member inGroup) ports shown).2

end Fleet
