import Fleet.Proofs.Bundle.Services
import Fleet.Proofs.Node.Addresses
import Mathlib.Data.List.FinRange

namespace Fleet

/-!
# Records of one identity

Containers are found by their ids and services by their names.  Some look-ups take the first record of an identity
and some the last, and nothing keeps an agent from listing two: lists are stored as they come, and only the records
that are derived or merged are kept apart.  What can be said is that the look-ups agree wherever the list that came
last has one record.  The records that are stored stand for those of that list one by one, so that no identity is
shared that was not shared in it.
-/

section

variable {α : Type}

/-- The first and the last of the entries that fit are the same if all of them are. -/
theorem find?_reverse_of_same {fits : α → Bool} {entries : List α}
    (same : ∀ first ∈ entries, ∀ second ∈ entries, fits first = true → fits second = true → first = second) :
    entries.reverse.find? fits = entries.find? fits := by
  cases found : entries.find? fits with
  | none =>
      refine List.find?_eq_none.2 fun entry member => ?_
      exact List.find?_eq_none.1 found entry (List.mem_reverse.1 member)
  | some first =>
      have firstListed := List.mem_of_find?_eq_some found
      cases last : entries.reverse.find? fits with
      | none =>
          exact absurd (List.find?_some found) (List.find?_eq_none.1 last first (List.mem_reverse.2 firstListed))
      | some second =>
          have secondListed := List.mem_reverse.1 (List.mem_of_find?_eq_some last)
          exact congrArg some (same second secondListed first firstListed (List.find?_some last) (List.find?_some found))

/-- Whether all entries of an identity are one record. -/
def OneRecord (identity : α → String) (entries : List α) (key : String) : Prop :=
  ∀ first ∈ entries, ∀ second ∈ entries, identity first = key → identity second = key → first = second

/-- Whether an identity stands at one place at most. -/
def OnePlace (identity : α → String) (entries : List α) (key : String) : Prop :=
  (entries.map identity).count key ≤ 1

theorem OnePlace.oneRecord {identity : α → String} {entries : List α} {key : String}
    (single : OnePlace identity entries key) : OneRecord identity entries key := by
  induction entries with
  | nil => exact fun first member => absurd member List.not_mem_nil
  | cons entry rest inductionHypothesis =>
      unfold OnePlace at single inductionHypothesis
      rw [List.map_cons, List.count_cons] at single
      have later := inductionHypothesis (Nat.le_of_add_right_le single)
      by_cases here : identity entry = key
      · -- The first place is taken, so none is left for another entry.
        have taken : (rest.map identity).count key = 0 := by simpa [here] using single
        have onlyHere : ∀ other ∈ entry :: rest, identity other = key → other = entry := by
          intro other member named
          rcases List.mem_cons.1 member with rfl | inRest
          · rfl
          · exact absurd (named ▸ List.mem_map_of_mem inRest) (List.count_eq_zero.1 taken)
        intro first firstMember second secondMember firstNamed secondNamed
        rw [onlyHere first firstMember firstNamed, onlyHere second secondMember secondNamed]
      · intro first firstMember second secondMember firstNamed secondNamed
        have inRest : ∀ other ∈ entry :: rest, identity other = key → other ∈ rest := by
          intro other member named
          exact (List.mem_cons.1 member).resolve_left fun same => here (same ▸ named)
        exact later first (inRest first firstMember firstNamed) second (inRest second secondMember secondNamed)
          firstNamed secondNamed

end

namespace Report

/-- A list as the last report gave it that had one. -/
def last {α : Type} (field : Report → Option (List α)) (reports : List Report) : List α :=
  ((reports.filterMap field).getLast?).getD []

theorem last_append {α : Type} (field : Report → Option (List α)) (reports : List Report) (report : Report) :
    last field (reports ++ [report]) = (field report).getD (last field reports) := by
  unfold last
  cases given : field report with
  | none => simp [given]
  | some entries => simp [given]

end Report

namespace Node

variable {node : Node}

/-! ## What is stored of a list -/

/-- The containers and the services of a node stand for those of the reports that listed them last, one by one
and in their order. -/
structure Lists (reports : List Report) (node : Node) : Prop where
  containers : ∃ change, Container.KeepsIdentity change ∧
    node.containers = (Report.last Report.containers reports).map change
  services : node.services.map Service.name = (Report.last Report.services reports).map Service.name

theorem lists_unknown : Lists [] unknown :=
  ⟨⟨id, fun _ => rfl, rfl⟩, rfl⟩

theorem names_reconcile (node : Node) : node.reconcile.services.map Service.name = node.services.map Service.name :=
  calc
    node.reconcile.services.map Service.name
      = node.reconcile.withoutDerived.services.map Service.name :=
        (List.map_map (g := Service.name) (f := Service.withoutDerived)).symm
    _ = node.link.withoutDerived.services.map Service.name := by rw [withoutDerived_reconcile]
    _ = node.services.map Service.name := by
        unfold withoutDerived link Association.link
        rw [List.map_map, List.map_map]
        rfl

theorem Lists.receive {reports : List Report} (lists : node.Lists reports) (now : UInt64) (report : Report) :
    (node.receive now report).Lists (reports ++ [report]) where
  containers := by
    have received : (node.receive now report).containers = (report.containers.getD node.containers).map
        (resolveContainer (addressesOf (report.resources.or node.resources)).head?) := rfl
    rw [Report.last_append, received]
    cases report.containers with
    | some containers => exact ⟨_, keepsIdentity_resolveContainer _, rfl⟩
    | none =>
        rcases lists.containers with ⟨change, keeps, stored⟩
        refine ⟨resolveContainer (addressesOf (report.resources.or node.resources)).head? ∘ change,
          (keepsIdentity_resolveContainer _).comp keeps, ?_⟩
        rw [Option.getD_none, Option.getD_none, stored, List.map_map]
  services := by
    have merged : (node.merge report).services.map Service.name =
        (report.services.getD node.services).map Service.name := by
      cases given : report.services with
      | none => simp only [merge, given, Option.getD_none]
      | some services =>
          simp only [merge, given, Option.getD_some, Association.carryOver, List.map_map]
          refine List.map_congr_left fun service _ => ?_
          rw [Function.comp_apply]
          split <;> rfl
    rw [Report.last_append]
    calc
      (node.receive now report).services.map Service.name = (node.merge report).services.map Service.name :=
        names_reconcile _
      _ = (report.services.getD node.services).map Service.name := merged
      _ = _ := by
        cases report.services with
        | some services => rfl
        | none => exact lists.services

theorem Lists.mapNode {reports : List Report} (lists : node.Lists reports) (index : Domain.Index) :
    (Domain.mapNode index node).Lists reports where
  containers := by
    rcases lists.containers with ⟨change, keeps, stored⟩
    have marks : Container.KeepsIdentity fun container =>
        { container with verifiedDomains := Domain.verified index node.nodeIps container.ports } := fun _ => rfl
    refine ⟨_, marks.comp keeps, ?_⟩
    rw [← List.map_map, ← stored]
    rfl
  services := (List.map_map (g := Service.name)).trans lists.services

/-! ## Look-ups -/

/-- The service that a name means in a bundle: of several the one listed last. -/
def indexed? (node : Node) (name : String) : Option Service :=
  (Member.placeOf? (Member.ofNode node) name).map fun place => ((Member.ofNode node).get place).service

theorem indexed?_eq (node : Node) (name : String) :
    node.indexed? name = node.services.reverse.find? fun service => service.name == name := by
  have members : (List.finRange (Member.ofNode node).length).reverse.map (Member.ofNode node).get =
      (Member.ofNode node).reverse := by
    rw [List.map_reverse, List.map_get_finRange]
  have services : (Member.ofNode node).reverse.map Member.service = node.services.reverse := by
    rw [List.map_reverse, Member.ofNode, List.map_map]
    exact congrArg List.reverse (List.map_id node.services)
  calc
    node.indexed? name
      = (((List.finRange (Member.ofNode node).length).reverse.find?
          fun place => ((Member.ofNode node).get place).service.name == name).map (Member.ofNode node).get).map
            Member.service := (Option.map_map _ _ _).symm
    _ = (((Member.ofNode node).reverse.find? fun member => member.service.name == name)).map Member.service := by
        rw [← members, List.find?_map]
        rfl
    _ = node.services.reverse.find? fun service => service.name == name := by
        rw [← services, List.find?_map]
        rfl

/-- A container of an id that the last list has one record for is found alike from both ends. -/
theorem Lists.container?_eq {reports : List Report} (lists : node.Lists reports) {id : String}
    (single : OneRecord Container.id (Report.last Report.containers reports) id) :
    node.container? id = Container.ofId? node.containers id := by
  rcases lists.containers with ⟨change, keeps, stored⟩
  refine (find?_reverse_of_same ?_).symm
  rw [stored]
  intro first firstMember second secondMember firstFits secondFits
  rcases List.mem_map.1 firstMember with ⟨left, leftListed, rfl⟩
  rcases List.mem_map.1 secondMember with ⟨right, rightListed, rfl⟩
  rw [beq_iff_eq, keeps.id_eq] at firstFits secondFits
  rw [single left leftListed right rightListed firstFits secondFits]

theorem Lists.service?_eq {reports : List Report} (lists : node.Lists reports) {name : String}
    (single : OnePlace Service.name (Report.last Report.services reports) name) :
    node.service? name = node.indexed? name := by
  have stored : OnePlace Service.name node.services name := by
    unfold OnePlace
    rw [lists.services]
    exact single
  rw [indexed?_eq]
  refine (find?_reverse_of_same fun first firstMember second secondMember firstFits secondFits => ?_).symm
  exact stored.oneRecord first firstMember second secondMember (beq_iff_eq.1 firstFits) (beq_iff_eq.1 secondFits)

/-- A report takes over the containers of the service that its name means. -/
theorem Lists.carryOver_eq {reports : List Report} (lists : node.Lists reports) {incoming : List Service}
    (single : ∀ service ∈ incoming, OnePlace Service.name (Report.last Report.services reports) service.name) :
    Association.carryOver node.services incoming = incoming.map fun service =>
      match node.indexed? service.name with
      | some known => Association.extend service known.associatedContainerIds
      | none => service := by
  refine List.map_congr_left fun service member => ?_
  rw [← lists.service?_eq (single service member)]
  rfl

/-! ## What the containers of a service determine -/

/-- The ports and flags of a service are those that follow from the containers found for its ids. -/
structure FollowsContainers (node : Node) (service : Service) : Prop where
  ports : service.ports =
    let ports := PortMapping.resolveHostIps node.nodeIps.head? (ServicePorts.effective node.containers node.files
      node.proxyRoutes (Container.ofIds node.containers service.associatedContainerIds) service)
    if ports.isEmpty then none else some ports
  hostNetwork : service.effectiveHostNetwork =
    (Container.ofIds node.containers service.associatedContainerIds).any Container.usesHostNetwork
  reverseProxy : service.isReverseProxy = ProxyRole.isProxy node.files
    (Container.ofIds node.containers service.associatedContainerIds) service
  management : service.isServiceBay = ProxyRole.isManagement node.files
    (Container.ofIds node.containers service.associatedContainerIds) service

theorem Settled.followsContainers (settled : node.Settled) {service : Service} (listed : service ∈ node.services) :
    node.FollowsContainers service := by
  have derived := settled.enrichService_eq listed
  rw [settled.nodeIps] at derived
  have resolved : ProxyRole.resolve node.containers node.files node.services = node.services :=
    congrArg Node.services settled.resolveProxies
  have flagged : service ∈ ProxyRole.resolve node.containers node.files node.services := by
    rw [resolved]
    exact listed
  rcases ProxyRole.mem_resolve flagged with ⟨other, _, flag, same⟩
  refine ⟨(congrArg Service.ports derived).symm, (congrArg Service.effectiveHostNetwork derived).symm, ?_, ?_⟩
  · rw [same]
    rfl
  · rw [same]
    rfl

end Node
end Fleet
