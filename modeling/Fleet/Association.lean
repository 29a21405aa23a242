import Fleet.Container
import Fleet.Distinct
import Fleet.Service
import Fleet.Unit.Files

namespace Fleet
namespace Association

/-!
# Which containers belong to a service

A container shows by its label, its pod or its names which service started it, and a unit file may name its
container itself.  Every container for which there is evidence is added to the set of the service, and
nothing is ever taken out: a container that is gone for a moment still belongs to its service when it
comes back.
-/

/-- Whether the label of a container names the service. -/
def labelShows (service : String) (container : Container) : Bool :=
  container.label? Container.unitLabel == some (service ++ ".service")

/-- Whether the pod of a container is named after the service. -/
def podShows (service : String) (container : Container) : Bool :=
  match container.podName with
  | none => false
  | some pod => pod == service || pod == service ++ "-pod"

def nameShows (service : String) (container : Container) : Bool :=
  container.hasName service || container.hasName ("systemd-" ++ service)

/-- Whether a container carries evidence of having been started by the service. -/
def implements (service : String) (container : Container) : Bool :=
  labelShows service container || podShows service container || nameShows service container

/-- The name that the unit file of a service gives to its container. -/
def declaredName? (files : Unit.Files) (service : String) : Option String :=
  (Unit.directivesFor files service).bind Unit.Directives.containerName

/-- Whether there is evidence that a container belongs to a service. -/
def evidenced (files : Unit.Files) (service : String) (container : Container) : Bool :=
  implements service container || (declaredName? files service).any container.hasName

/-- The ids of the containers for which there is evidence. -/
def evidence (containers : List Container) (files : Unit.Files) (service : String) : List String :=
  (containers.filter (evidenced files service)).map Container.id

def extend (service : Service) (ids : List String) : Service :=
  { service with associatedContainerIds := addAll service.associatedContainerIds ids }

/-- Add to every service the containers for which there is evidence. -/
def link (containers : List Container) (files : Unit.Files) (services : List Service) : List Service :=
  services.map fun service => extend service (evidence containers files service.name)

/-- Add to every reported service the containers that were known before to belong to it. -/
def carryOver (previous incoming : List Service) : List Service :=
  incoming.map fun service =>
    match previous.find? fun old => old.name == service.name with
    | some old => extend service old.associatedContainerIds
    | none => service

/-- Linking does not ask what is known already, so doing it again adds nothing. -/
theorem link_link (containers : List Container) (files : Unit.Files) (services : List Service) :
    link containers files (link containers files services) = link containers files services := by
  unfold link
  rw [List.map_map]
  refine List.map_congr_left fun service _ => ?_
  simp only [Function.comp_apply, extend]
  congr 1
  exact addAll_eq_self fun id member => mem_addAll.2 (Or.inr member)

end Association
end Fleet
