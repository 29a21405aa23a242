import Fleet.Proofs.Node.Identity
import Fleet.Proofs.Store.Nodes
import Fleet.Proofs.Store.Settled

namespace Fleet

/-!
# Looking up records in a store

The ports and flags of a service follow from the containers that are found for its ids from the end of the list,
and a bundle lists those that are found from its beginning.  These are the same containers, unless an agent lists
different ones under one id; and a name means the same service for a report as for a bundle, unless two services of
a list have it, be it only after the ending of their units is left out.
-/

namespace Node

theorem lasting_lists : Lasting fun reports node => node.Lists reports where
  unknown := lists_unknown
  receive := fun now document _ _ lists => lists.receive now (Report.read document).1
  setConnected := fun _ _ _ lists => ⟨lists.containers, lists.services⟩
  mapNode := fun index _ _ lists => lists.mapNode index

end Node

namespace Store

/-- At any time the ports and flags of every service follow from the containers found last for its ids.  Of a
container id for which the last list of containers has one record, the container found first is the one found
last, and it is the one that the bundles list.  If the last list of services has a name at one place, the service
that is found first for it is the one found last, and reports take over the containers of that one. -/
theorem lookups_agree (capacity : Nat) (history : List (UInt64 × Operation)) (id : String) :
    let node := (perform.run (empty capacity) history).1.fleet.node id
    let containers := Report.last Report.containers (reportsOf id history)
    let services := Report.last Report.services (reportsOf id history)
    (∀ service ∈ node.services, node.FollowsContainers service) ∧
      (∀ key, OneRecord Container.id containers key →
        node.container? key = Container.ofId? node.containers key) ∧
      (∀ name, OnePlace Service.name services name →
        node.service? name = node.indexed? name) ∧
      (∀ incoming, (∀ service ∈ incoming, OnePlace Service.name services service.name) →
        Association.carryOver node.services incoming = incoming.map fun service =>
          match node.indexed? service.name with
          | some known => Association.extend service known.associatedContainerIds
          | none => service) ∧
      ∀ bundle ∈ Bundle.ofNode id node, ∃ group ⊆ node.services,
        bundle.services.map BundleService.name = group.map Service.name ∧
          ∀ entry : BundleContainer, OneRecord Container.id containers entry.id →
            (entry ∈ bundle.containers ↔
              (∃ service ∈ group, entry.id ∈ service.associatedContainerIds) ∧
                ∃ container, Container.ofId? node.containers entry.id = some container ∧
                  entry = Bundle.listedContainer container) := by
  intro node containers services
  have lists : node.Lists (reportsOf id history) := lasts_run Node.lasting_lists capacity history id
  have settled : node.Settled := (settled_later Snapshot.settled_empty history).node id
  refine ⟨fun service listed => settled.followsContainers listed, fun key single => lists.container?_eq single,
    fun name single => lists.service?_eq single, fun incoming single => lists.carryOver_eq single,
    fun bundle listed => ?_⟩
  rcases Bundle.exists_ofGroup listed with ⟨bundleId, members, rfl, ofNode⟩
  refine ⟨members.map Member.service, ?_, ?_, fun entry single => ?_⟩
  · intro service member
    rcases List.mem_map.1 member with ⟨inGroup, groupMember, rfl⟩
    exact ofNode inGroup groupMember
  · change (members.map Bundle.listedService).map BundleService.name = _
    rw [List.map_map, List.map_map]
    rfl
  · change entry ∈ Bundle.containersOf node members ↔ _
    rw [Bundle.mem_containersOf_iff, lists.container?_eq single]
    simp only [List.mem_map, exists_exists_and_eq_and]

/-- Two containers under one id.  The port of the service is that of the second, and the bundle lists the first. -/
theorem lookups_disagree :
    let document : Json := .object
      [("containers", .array [
          .object [("id", .string "c"), ("image", .string "one"), ("names", Json.texts ["web"])],
          .object [("id", .string "c"), ("image", .string "two"), ("names", Json.texts ["web"]),
            ("ports", .array [.ofNat 8080])]]),
        ("services", .array [.object [("name", .string "web.service")], .object
          [("description", .string "again"), ("name", .string "web")]])]
    let node := (perform.run (empty 5) [(1, .change (.update "n" document))]).1.fleet.node "n"
    (node.container? "c").map Container.image = some "one" ∧
      (Container.ofId? node.containers "c").map Container.image = some "two" ∧
      (node.service? "web").map Service.description = some "" ∧
      (node.indexed? "web").map Service.description = some "again" ∧
      (Bundle.ofNode "n" node).map (fun bundle => (bundle.containers.map BundleContainer.image, bundle.ports)) =
        [(["one"], [.onHost 8080]), (["one"], [.onHost 8080])] := by
  intro document node
  refine ⟨?_, ?_, ?_, ?_, ?_⟩ <;> decide +kernel +zetaReduce

/-- A container that is listed twice word for word, and two services of different names. -/
theorem lookups_agree_two_services :
    let web : Json := .object [("id", .string "c"), ("image", .string "one"), ("names", Json.texts ["web"])]
    let document : Json := .object
      [("containers", .array [web, web]),
        ("services", .array [.object [("name", .string "web.service")], .object [("name", .string "api")]])]
    let history : List (UInt64 × Operation) := [(1, .change (.update "n" document))]
    let node := (perform.run (empty 5) history).1.fleet.node "n"
    OneRecord Container.id (Report.last Report.containers (reportsOf "n" history)) "c" ∧
      OnePlace Service.name (Report.last Report.services (reportsOf "n" history)) "web" ∧
      node.container? "c" = Container.ofId? node.containers "c" ∧ node.service? "web" = node.indexed? "web" := by
  intro web document history node
  have record : OneRecord Container.id (Report.last Report.containers (reportsOf "n" history)) "c" := by
    have listed : ∀ first ∈ Report.last Report.containers (reportsOf "n" history),
        ∀ second ∈ Report.last Report.containers (reportsOf "n" history), first = second := by
      decide +kernel +zetaReduce
    exact fun first firstMember second secondMember _ _ => listed first firstMember second secondMember
  have place : OnePlace Service.name (Report.last Report.services (reportsOf "n" history)) "web" := by
    unfold OnePlace
    decide +kernel +zetaReduce
  have agree := lookups_agree 5 history "n"
  exact ⟨record, place, agree.2.1 "c" record, agree.2.2.1 "web" place⟩

end Store
end Fleet
