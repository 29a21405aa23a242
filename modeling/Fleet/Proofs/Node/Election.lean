import Fleet.Proofs.Node.Identity
import Fleet.Proofs.Text
import Mathlib.Data.Bool.Basic
import Mathlib.Data.Prod.Lex

namespace Fleet

/-!
# The election of the primary proxy

Of the reverse proxies of a node one is the primary proxy, and only it has a configuration.  Which one it is, is
decided by three things in turn: an active service comes before one that is not, then a well-known name before any
other, then the place in the list.  The election itself goes by ranks, and takes the first service of the best rank
that is taken.  That this is the service that comes first in the order of the three things is shown here.

Who stands in the election is decided before it, from what the agent claims, from names and descriptions, and from
the containers.  There may be evidence of every kind for a service that only sounds like a proxy; its name keeps it
out.
-/

namespace ProxyRole

/-- What counts of a service at a place in the election, the first thing first: whether it is active, whether its
name is well known, and where it is listed.  Lower is better. -/
def standing (place : Nat) (service : Service) : Bool ×ₗ Bool ×ₗ Nat :=
  toLex (!service.isActive, toLex (!isWellKnown service.name, place))

/-- A service at a place comes first among the reverse proxies of a list. -/
def ComesFirst (services : List Service) (place : Nat) (service : Service) : Prop :=
  service.isReverseProxy = true ∧ ∀ other rival, services[other]? = some rival → rival.isReverseProxy = true →
    standing place service ≤ standing other rival

/-! ## Ranks -/

/-- Ranks put services in the order of activity and name, and leave it to the place to decide between equals. -/
theorem standing_le_iff {place other : Nat} {service rival : Service} :
    standing place service ≤ standing other rival ↔
      rank service < rank rival ∨ rank service = rank rival ∧ place ≤ other := by
  unfold standing rank
  rw [Prod.Lex.toLex_le_toLex, Prod.Lex.toLex_le_toLex]
  cases service.isActive <;> cases rival.isActive <;> cases isWellKnown service.name <;>
    cases isWellKnown rival.name <;> simp

theorem rank_mem (service : Service) : rank service ∈ [0, 1, 2, 3] := by
  unfold rank
  cases service.isActive <;> cases isWellKnown service.name <;> decide

variable {services : List Service}

/-- The place that is found has the first of the reverse proxies: of a better rank there is none, and none of the
same rank is listed before. -/
theorem comesFirst_of_primary? {place : Nat} (elected : primary? services = some place) :
    ∃ service, services[place]? = some service ∧ ComesFirst services place service := by
  rcases List.findSome?_eq_some_iff.1 elected with ⟨better, best, worse, ranks, found, noBetter⟩
  rcases List.findIdx?_eq_some_iff_getElem.1 found with ⟨inside, fits, noEarlier⟩
  rcases Bool.and_eq_true_iff.1 fits with ⟨proxy, ranked⟩
  have increasing : (better ++ best :: worse).Pairwise (· < ·) := ranks ▸ by decide
  refine ⟨services[place], List.getElem?_eq_getElem inside, proxy, ?_⟩
  intro other rival listed rivalProxy
  rcases List.getElem?_eq_some_iff.1 listed with ⟨otherInside, rfl⟩
  rw [standing_le_iff, beq_iff_eq.1 ranked]
  have rankListed : rank services[other] ∈ better ++ best :: worse := ranks ▸ rank_mem _
  rcases List.mem_append.1 rankListed with lower | notLower
  · have none := List.findIdx?_eq_none_iff.1 (noBetter _ lower) _ (List.getElem_mem otherInside)
    simp [rivalProxy] at none
  · rcases List.mem_cons.1 notLower with same | higher
    · refine Or.inr ⟨same.symm, Nat.le_of_not_lt fun before => noEarlier other before ?_⟩
      simp [rivalProxy, same]
    · exact Or.inl ((List.pairwise_cons.1 (List.pairwise_append.1 increasing).2.1).1 _ higher)

/-- If nobody is found, nobody stands. -/
theorem isReverseProxy_of_primary?_eq_none (nobody : primary? services = none) {service : Service}
    (listed : service ∈ services) : service.isReverseProxy = false := by
  have ofRank := List.findSome?_eq_none_iff.1 nobody _ (rank_mem service)
  have none := List.findIdx?_eq_none_iff.1 ofRank service listed
  simpa using none

/-- Two places have different standings, so only one of them comes first. -/
theorem ComesFirst.eq {first second : Nat} {service other : Service} (best : ComesFirst services first service)
    (listed : services[first]? = some service) (otherBest : ComesFirst services second other)
    (otherListed : services[second]? = some other) : first = second := by
  have below := standing_le_iff.1 (best.2 second other otherListed otherBest.1)
  have above := standing_le_iff.1 (otherBest.2 first service listed best.1)
  omega

/-- The place that is found is the one that comes first. -/
theorem primary?_eq_some_iff {place : Nat} {service : Service} (listed : services[place]? = some service) :
    primary? services = some place ↔ ComesFirst services place service := by
  constructor
  · intro elected
    rcases comesFirst_of_primary? elected with ⟨found, foundListed, best⟩
    obtain rfl : service = found := Option.some.inj (listed.symm.trans foundListed)
    exact best
  · intro best
    cases elected : primary? services with
    | none =>
        have stands := isReverseProxy_of_primary?_eq_none elected (List.mem_of_getElem? listed)
        rw [best.1] at stands
        cases stands
    | some winner =>
        rcases comesFirst_of_primary? elected with ⟨found, foundListed, foundBest⟩
        rw [foundBest.eq foundListed best listed]

/-! ## The one that is marked -/

/-- If one place of a list is marked, and no other, then one entry is. -/
theorem countP_eq_one_of_marked {α : Type} {marked : α → Bool} {entries : List α} {place : Nat}
    (inside : place < entries.length)
    (marks : ∀ other entry, entries[other]? = some entry → marked entry = decide (other = place)) :
    entries.countP marked = 1 := by
  induction entries generalizing place with
  | nil => cases inside
  | cons head rest inductionHypothesis =>
      have headMark := marks 0 head rfl
      cases place with
      | zero =>
          have unmarked : ∀ entry ∈ rest, ¬ marked entry = true := by
            intro entry member
            rcases List.getElem?_of_mem member with ⟨other, found⟩
            simp [marks (other + 1) entry found]
          rw [List.countP_cons_of_pos (headMark.trans rfl), List.countP_eq_zero.2 unmarked]
      | succ place =>
          have headUnmarked : ¬ marked head = true := by simp [headMark]
          rw [List.countP_cons_of_neg headUnmarked]
          refine inductionHypothesis (Nat.lt_of_succ_lt_succ inside) fun other entry found => ?_
          simp [marks (other + 1) entry found]

/-- After an election one service is the primary proxy if any service is a reverse proxy, and else none is. -/
theorem countP_isPrimaryProxy (elected : elect services = services) :
    services.countP Service.isPrimaryProxy = if services.any Service.isReverseProxy then 1 else 0 := by
  have flags := elect_eq_self_iff.1 elected
  cases found : primary? services with
  | none =>
      rw [found] at flags
      have nobodyStands : services.any Service.isReverseProxy = false :=
        List.any_eq_false.2 fun service listed =>
          Bool.eq_false_iff.1 (isReverseProxy_of_primary?_eq_none found listed)
      rw [nobodyStands, if_neg Bool.false_ne_true, List.countP_eq_zero]
      intro service listed
      rcases List.getElem?_of_mem listed with ⟨place, placed⟩
      rw [flags place service placed]
      exact Bool.false_ne_true
  | some winner =>
      rw [found] at flags
      rcases comesFirst_of_primary? found with ⟨service, listed, best⟩
      have stands : services.any Service.isReverseProxy = true :=
        List.any_eq_true.2 ⟨service, List.mem_of_getElem? listed, best.1⟩
      rcases List.getElem?_eq_some_iff.1 listed with ⟨inside, _⟩
      rw [if_pos stands]
      refine countP_eq_one_of_marked inside fun place rival placed => ?_
      rw [flags place rival placed, Bool.eq_iff_iff, beq_iff_eq, decide_eq_true_iff, Option.some_inj]
      exact eq_comm

/-- A service whose name has a part that shows it to be no proxy is none, whatever else is known of it. -/
theorem isProxy_of_excluded {files : Unit.Files} {linked : List Container} {service : Service} {word : String}
    (excludes : word ∈ excludes) (named : word.toList <:+: Text.lowered service.name.toList) :
    isProxy files linked service = false := by
  have excluded : isExcluded service.name = true :=
    List.any_eq_true.2 ⟨word, excludes, Text.occursIn_eq_true_iff.2 named⟩
  simp [isProxy, excluded]

end ProxyRole

/-- A server block stands for a route: it answers for the host of the route and for no other, with encryption if the
route asks for it, and sends everything to the target of the route. -/
structure Destination.StandsFor (server : ProxyServer) (route : Route) : Prop where
  serverName : server.serverName = [route.host]
  plain : "80" ∈ server.listen
  encrypted : "443 ssl" ∈ server.listen ↔ route.ssl = true
  locations : server.locations = [⟨"/", (ofRoute route).1⟩]
  target : server.target = (ofRoute route).2

theorem Destination.mem_listen {ssl : Bool} : "80" ∈ listen ssl ∧ ("443 ssl" ∈ listen ssl ↔ ssl = true) := by
  cases ssl <;> decide

theorem Destination.standsFor_server (route : Route) : StandsFor (server route) route := by
  rcases shown : ofRoute route with ⟨url, target⟩
  have block : server route = ⟨[route.host], listen route.ssl, [⟨"/", url⟩], target⟩ := by
    unfold server
    rw [shown]
  rw [block]
  refine ⟨rfl, mem_listen.1, mem_listen.2, ?_, ?_⟩
  · rw [shown]
  · rw [shown]

namespace Node

/-- The proxies of a node are what they should be. -/
structure Elected (node : Node) : Prop where
  /-- One service is the primary proxy if any service is a reverse proxy, and else none is. -/
  single : node.services.countP Service.isPrimaryProxy = if node.services.any Service.isReverseProxy then 1 else 0
  /-- It is the reverse proxy that comes first in the order of activity, name and place. -/
  first : ∀ place service, node.services[place]? = some service →
    (service.isPrimaryProxy = true ↔ ProxyRole.ComesFirst node.services place service)
  /-- It has a configuration, and no other service has one. -/
  configured : ∀ service ∈ node.services, service.proxyConfiguration.isSome = service.isPrimaryProxy
  /-- A configuration has a server block for every route of the node, in the order of the routes. -/
  blocks : ∀ service ∈ node.services, ∀ configuration, service.proxyConfiguration = some configuration →
    List.Forall₂ Destination.StandsFor configuration.servers node.proxyRoutes
  /-- A service whose name has an excluded part is no reverse proxy, whatever its agent says of it. -/
  excluded : ∀ service ∈ node.services, ∀ word ∈ ProxyRole.excludes,
    word.toList <:+: Text.lowered service.name.toList → service.isReverseProxy = false

theorem Settled.elected {node : Node} (settled : node.Settled) : node.Elected := by
  have resolved : ProxyRole.elect (node.services.map (ProxyRole.assess node.containers node.files)) =
      node.services := congrArg Node.services settled.resolveProxies
  have elected : ProxyRole.elect node.services = node.services := by
    rw [← resolved]
    exact ProxyRole.elect_elect _
  have configurations : ∀ service ∈ node.services, service.proxyConfiguration =
      if service.isPrimaryProxy then some (Destination.configuration node.proxyRoutes) else none :=
    fun _ listed => (congrArg Service.proxyConfiguration (settled.enrichService_eq listed)).symm
  refine ⟨ProxyRole.countP_isPrimaryProxy elected, ?_, ?_, ?_, ?_⟩
  · intro place service listed
    rw [ProxyRole.elect_eq_self_iff.1 elected place service listed, beq_iff_eq]
    exact ProxyRole.primary?_eq_some_iff listed
  · intro service listed
    rw [configurations service listed]
    cases service.isPrimaryProxy <;> rfl
  · intro service listed configuration given
    rw [configurations service listed] at given
    split at given
    · obtain rfl := Option.some.inj given
      refine List.forall₂_map_left_iff.2 (List.forall₂_same.2 fun route _ => ?_)
      exact Destination.standsFor_server route
    · cases given
  · intro service listed word excludes named
    rw [(settled.followsContainers listed).reverseProxy]
    exact ProxyRole.isProxy_of_excluded excludes named

end Node
end Fleet
