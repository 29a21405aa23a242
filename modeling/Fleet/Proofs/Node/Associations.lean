import Fleet.Proofs.Node.Derived
import Fleet.Proofs.Report

namespace Fleet

/-!
# The containers of a service through a report

The set of containers of a service is written by a report and by the first pass, and by nothing else.  A
report that names the services puts the containers that it gives first, adds those that were known, and the
first pass adds those for which there is evidence; a report that does not name them leaves the set to the
first pass.  What becomes of the set is therefore one equation, `known?_receive`, in which neither the
service itself nor any other service occurs: a service is looked up by its name, and of two with one name the
first counts.
-/

namespace Association

/-- The containers of the service of a name; of two services with one name the first counts. -/
def known? (services : List Service) (name : String) : Option (List String) :=
  (services.find? fun service => service.name == name).map Service.associatedContainerIds

/-- Services that keep their names, and whose containers change by a rule that asks for nothing but the name. -/
theorem known?_map (adapt : Service → Service) (rule : String → List String → List String)
    (sameName : ∀ service, (adapt service).name = service.name)
    (ids : ∀ service, (adapt service).associatedContainerIds = rule service.name service.associatedContainerIds)
    (services : List Service) (name : String) :
    known? (services.map adapt) name = (known? services name).map (rule name) := by
  have looksAtName : (fun service : Service => service.name == name) ∘ adapt =
      fun service => service.name == name := by
    funext service
    rw [Function.comp_apply, sameName]
  unfold known?
  rw [List.find?_map, looksAtName, Option.map_map, Option.map_map]
  cases found : services.find? fun service => service.name == name with
  | none => rfl
  | some service =>
      have named : service.name = name := by simpa using List.find?_some found
      simp only [Option.map_some, Function.comp_apply, ids, named]

theorem known?_map_of_kept (adapt : Service → Service)
    (sameName : ∀ service, (adapt service).name = service.name)
    (sameIds : ∀ service, (adapt service).associatedContainerIds = service.associatedContainerIds)
    (services : List Service) (name : String) : known? (services.map adapt) name = known? services name :=
  (known?_map adapt (fun _ ids => ids) sameName sameIds services name).trans Option.map_id'

theorem known?_link (containers : List Container) (files : Unit.Files) (services : List Service)
    (name : String) :
    known? (link containers files services) name =
      (known? services name).map fun ids => addAll ids (evidence containers files name) :=
  known?_map (fun service => extend service (evidence containers files service.name))
    (fun name ids => addAll ids (evidence containers files name)) (fun _ => rfl) (fun _ => rfl) services name

/-- A service that was not known before is one of which no containers were known. -/
theorem carryOver_eq (previous incoming : List Service) :
    carryOver previous incoming =
      incoming.map fun service => extend service ((known? previous service.name).getD []) := by
  unfold carryOver known?
  refine List.map_congr_left fun service _ => ?_
  cases previous.find? fun old => old.name == service.name <;> rfl

theorem known?_carryOver (previous incoming : List Service) (name : String) :
    known? (carryOver previous incoming) name =
      (known? incoming name).map fun ids => addAll ids ((known? previous name).getD []) := by
  rw [carryOver_eq]
  exact known?_map (fun service => extend service ((known? previous service.name).getD []))
    (fun name ids => addAll ids ((known? previous name).getD [])) (fun _ => rfl) (fun _ => rfl) incoming name

theorem known?_withoutDerived (services : List Service) (name : String) :
    known? (services.map Service.withoutDerived) name = known? services name :=
  known?_map_of_kept Service.withoutDerived (fun _ => rfl) (fun _ => rfl) services name

end Association

/-- The containers that a report gives for the service of a name, none if it does not name it. -/
def Report.declared (report : Report) (name : String) : List String :=
  (Association.known? (report.services.getD []) name).getD []

namespace Node

theorem known?_reconcile (node : Node) (name : String) :
    Association.known? node.reconcile.services name =
      (Association.known? node.services name).map fun ids =>
        addAll ids (Association.evidence node.containers node.files name) := by
  have inputs := congrArg Node.services (withoutDerived_reconcile node)
  calc
    Association.known? node.reconcile.services name
      = Association.known? node.reconcile.withoutDerived.services name :=
        (Association.known?_withoutDerived _ name).symm
    _ = Association.known? node.link.withoutDerived.services name := by rw [inputs]
    _ = Association.known? node.link.services name := Association.known?_withoutDerived _ name
    _ = _ := Association.known?_link _ _ _ name

/-- What becomes of the containers of a service when a report arrives. -/
theorem known?_receive (now : UInt64) (report : Report) (node : Node) (name : String) :
    Association.known? (node.receive now report).services name =
      (match report.services with
        | some services => (Association.known? services name).map fun ids =>
            addAll ids ((Association.known? node.services name).getD [])
        | none => Association.known? node.services name).map fun ids =>
          addAll ids (Association.evidence (node.merge report).containers (node.merge report).files name) := by
  unfold receive
  rw [known?_reconcile]
  congr 1
  unfold merge
  cases report.services with
  | none => rfl
  | some services => exact Association.known?_carryOver node.services services name

/-- The evidence is the same in the containers as they are merged and as they are stored. -/
theorem evidence_receive (now : UInt64) (report : Report) (node : Node) (name : String) :
    Association.evidence (node.receive now report).containers (node.receive now report).files name =
      Association.evidence (node.merge report).containers (node.merge report).files name :=
  Association.evidence_map (keepsIdentity_resolveContainer _) _ _ name

/-- No service of a node has a container twice. -/
def Unrepeated (node : Node) : Prop :=
  ∀ service ∈ node.services, service.associatedContainerIds.Nodup

theorem Unrepeated.of_map_eq {left right : Node} (unrepeated : left.Unrepeated)
    (same : right.services.map Service.associatedContainerIds =
      left.services.map Service.associatedContainerIds) : right.Unrepeated := by
  intro service member
  have listed : service.associatedContainerIds ∈ left.services.map Service.associatedContainerIds :=
    same ▸ List.mem_map_of_mem member
  rcases List.mem_map.1 listed with ⟨other, otherMember, sameIds⟩
  exact sameIds ▸ unrepeated other otherMember

theorem Unrepeated.link {node : Node} (unrepeated : node.Unrepeated) : node.link.Unrepeated := by
  intro linked member
  rcases List.mem_map.1 member with ⟨service, serviceMember, rfl⟩
  exact nodup_addAll _ (unrepeated service serviceMember)

theorem Unrepeated.reconcile {node : Node} (unrepeated : node.Unrepeated) : node.reconcile.Unrepeated := by
  refine unrepeated.link.of_map_eq ?_
  have inputs := congrArg (fun node => node.services.map Service.associatedContainerIds)
    (withoutDerived_reconcile node)
  simp only [withoutDerived, List.map_map] at inputs
  exact inputs

theorem Unrepeated.merge {node : Node} (unrepeated : node.Unrepeated) (document : Json) :
    (node.merge (Report.read document).1).Unrepeated := by
  intro merged member
  unfold Node.merge at member
  cases given : (Report.read document).1.services with
  | none =>
      rw [given] at member
      exact unrepeated merged member
  | some services =>
      rw [given] at member
      simp only [Association.carryOver_eq] at member
      rcases List.mem_map.1 member with ⟨service, serviceMember, rfl⟩
      exact nodup_addAll _ (Report.nodup_associatedContainerIds given serviceMember)

theorem Unrepeated.receive {node : Node} (unrepeated : node.Unrepeated) (now : UInt64) (document : Json) :
    (node.receive now (Report.read document).1).Unrepeated := by
  have merged : { node.merge (Report.read document).1 with connected := true, lastSync := now }.Unrepeated :=
    unrepeated.merge document
  exact merged.reconcile

theorem Unrepeated.mapNode {node : Node} (unrepeated : node.Unrepeated) (index : Domain.Index) :
    (Domain.mapNode index node).Unrepeated := by
  refine unrepeated.of_map_eq ?_
  unfold Domain.mapNode
  rw [List.map_map]
  rfl

end Node
end Fleet
