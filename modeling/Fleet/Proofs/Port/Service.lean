import Fleet.Proofs.Unit.Workload
import Fleet.Service.Ports
import Mathlib.Data.List.Nodup

namespace Fleet

/-!
# The ports of a service are canonical

A service takes its ports from its agent, from its containers, from the processes of these and from its unit file,
and the primary proxy gets the web ports on top.  All but the last are merged, so nothing is said twice.  A web
port is added behind the others without merging; it is new because no mapping has its host port.
-/

open PortMapping

namespace ServicePorts

variable {containers linked : List Container} {files : Unit.Files} {routes : List Route} {service : Service}
  {ports : List PortMapping}

theorem canonicalList_published (directives : Unit.Directives) : CanonicalList (published directives) := by
  refine canonicalList_merge fun mapping member => ?_
  rcases exists_ok_of_mem_filterMap member with ⟨spec, _, parsed⟩
  exact PublishSpec.canonical_parse parsed

theorem canonicalList_ofPods (files : Unit.Files) (unitPath : String) (directives : Unit.Directives) :
    CanonicalList (ofPods files unitPath directives) := by
  unfold ofPods
  dsimp only
  cases found : (do
    let file ← Unit.resolveYaml files unitPath (← directives.kubeYaml)
    Workload.portsIn? file.content : Option (List PortMapping)) with
  | none => exact canonicalList_nil
  | some ports =>
      rcases Option.bind_eq_some_iff.1 found with ⟨reference, _, rest⟩
      rcases Option.bind_eq_some_iff.1 rest with ⟨file, _, asked⟩
      rcases Option.map_eq_some_iff.1 asked with ⟨documents, _, rfl⟩
      exact Workload.canonicalList_ports documents

theorem canonicalList_fromUnitFile (files : Unit.Files) (name : String) : CanonicalList (fromUnitFile files name) := by
  unfold fromUnitFile
  split
  · exact canonicalList_nil
  · dsimp only
    split
    · exact canonicalList_ofPods _ _ _
    · exact canonicalList_published _
    · exact canonicalList_published _
    · exact canonicalList_nil
    · exact canonicalList_nil

/-- A host port is added only to a list in which no mapping has it, so it is a new mapping there. -/
theorem canonicalList_ensure {port : UInt16} (valid : IsPort port) (canonical : CanonicalList ports) :
    CanonicalList (ensure port ports) := by
  unfold ensure
  split
  · exact canonical
  · rename_i free
    refine ⟨fun mapping member => ?_, ?_⟩
    · rcases List.mem_append.1 member with known | added
      · exact canonical.entries mapping known
      · exact List.mem_singleton.1 added ▸ canonical_onHost valid
    · rw [List.map_append, List.nodup_append]
      refine ⟨canonical.once, List.nodup_singleton _, fun left known right added same => free ?_⟩
      rcases List.mem_map.1 known with ⟨mapping, listed, rfl⟩
      rw [List.mem_singleton.1 added] at same
      have hostPort : mapping.hostPort = some port := congrArg Prod.fst same
      exact List.any_eq_true.2 ⟨mapping, listed, beq_iff_eq.2 hostPort⟩

theorem canonicalList_ensureWeb (routes : List Route) (canonical : CanonicalList ports) :
    CanonicalList (ensureWeb routes ports) := by
  have web : CanonicalList (ensure 80 ports) := canonicalList_ensure (by decide) canonical
  unfold ensureWeb
  dsimp only
  split
  · exact canonicalList_ensure (by decide) web
  · exact web

theorem canonical_of_mem_live (canonical : ∀ container ∈ containers, CanonicalList container.ports)
    {mapping : PortMapping} (member : mapping ∈ live containers linked) : mapping.Canonical := by
  rcases List.mem_flatMap.1 member with ⟨pid, _, ofPid⟩
  rcases mem_merge ofPid with absent | given
  · cases absent
  · rcases List.mem_flatMap.1 given with ⟨container, filtered, listed⟩
    exact (canonical container (List.mem_filter.1 filtered).1).entries mapping listed

theorem canonicalList_observed (canonical : ∀ container ∈ containers, CanonicalList container.ports)
    (subset : linked ⊆ containers) (routes : List Route) (declared : CanonicalList service.declaredPorts) :
    CanonicalList (observed containers routes linked service) := by
  have merged : CanonicalList (PortMapping.merge service.declaredPorts
      ((if needsLive linked service then live containers linked else []) ++ linked.flatMap Container.ports)) := by
    refine declared.merge fun mapping member => ?_
    rcases List.mem_append.1 member with lived | own
    · split at lived
      · exact canonical_of_mem_live canonical lived
      · cases lived
    · rcases List.mem_flatMap.1 own with ⟨container, listed, bound⟩
      exact (canonical container (subset listed)).entries mapping bound
  unfold observed
  dsimp only
  split
  · exact canonicalList_ensureWeb routes merged
  · exact merged

/-- The ports of a service are canonical when those of its agent and of the containers are. -/
theorem canonicalList_effective (canonical : ∀ container ∈ containers, CanonicalList container.ports)
    (subset : linked ⊆ containers) (files : Unit.Files) (routes : List Route)
    (declared : CanonicalList service.declaredPorts) :
    CanonicalList (effective containers files routes linked service) := by
  unfold effective
  dsimp only
  split
  · exact canonicalList_fromUnitFile files service.name
  · exact canonicalList_observed canonical subset routes declared

end ServicePorts

end Fleet
