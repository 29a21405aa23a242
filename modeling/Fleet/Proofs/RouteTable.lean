import Fleet.Domain
import Fleet.Proofs.Keyed

namespace Fleet
namespace RouteTable

/-!
# The hosts of a route table

The table takes one route of every host name, the first that it meets.  So a host name determines its route,
and what is known of a host name is known of one route.  It takes one of every host name, so nothing but the
connected nodes and their routes decides whether a host name is in the table.
-/

/-- The host names of routes are pairwise different. -/
def Unambiguous (routes : List Route) : Prop :=
  routes.Pairwise fun first second => first.host ≠ second.host

theorem Unambiguous.add {routes : List Route} (unambiguous : Unambiguous routes) (route : Route) :
    Unambiguous (add routes route) := by
  unfold RouteTable.add
  split
  · exact unambiguous
  · rename_i fresh
    refine List.pairwise_append.2 ⟨unambiguous, List.pairwise_singleton _ _, ?_⟩
    intro known knownMember other otherMember sameHost
    obtain rfl := List.mem_singleton.1 otherMember
    exact fresh (List.any_eq_true.2 ⟨known, knownMember, beq_iff_eq.2 sameHost⟩)

theorem Unambiguous.foldl_add {routes : List Route} (unambiguous : Unambiguous routes) (given : List Route) :
    Unambiguous (given.foldl RouteTable.add routes) := by
  induction given generalizing routes with
  | nil => exact unambiguous
  | cons route rest inductionHypothesis => exact inductionHypothesis (unambiguous.add route)

theorem unambiguous_aggregate (nodes : Keyed Node) : Unambiguous (aggregate nodes) :=
  Unambiguous.foldl_add List.Pairwise.nil _

theorem Unambiguous.eq_of_same_host {routes : List Route} (unambiguous : Unambiguous routes)
    {first second : Route} (firstMember : first ∈ routes) (secondMember : second ∈ routes)
    (sameHost : first.host = second.host) : first = second := by
  induction routes with
  | nil => cases firstMember
  | cons route rest inductionHypothesis =>
      rcases List.pairwise_cons.1 unambiguous with ⟨apart, restUnambiguous⟩
      rcases List.mem_cons.1 firstMember with rfl | firstLater
      · rcases List.mem_cons.1 secondMember with rfl | secondLater
        · rfl
        · exact absurd sameHost (apart second secondLater)
      · rcases List.mem_cons.1 secondMember with rfl | secondLater
        · exact absurd sameHost.symm (apart first firstLater)
        · exact inductionHypothesis restUnambiguous firstLater secondLater

/-! ## Which hosts there are -/

theorem exists_mem_add_iff {routes : List Route} {route : Route} {host : String} :
    (∃ known ∈ add routes route, known.host = host) ↔ (∃ known ∈ routes, known.host = host) ∨ route.host = host := by
  unfold RouteTable.add
  split
  · rename_i present
    rcases List.any_eq_true.1 present with ⟨known, member, same⟩
    refine ⟨Or.inl, fun given => given.elim id fun here => ⟨known, member, ?_⟩⟩
    exact (beq_iff_eq.1 same).trans here
  · simp [or_and_right, exists_or]

theorem exists_mem_foldl_add_iff {given routes : List Route} {host : String} :
    (∃ route ∈ given.foldl add routes, route.host = host) ↔
      (∃ route ∈ routes, route.host = host) ∨ ∃ route ∈ given, route.host = host := by
  induction given generalizing routes with
  | nil => simp
  | cons route rest inductionHypothesis =>
      rw [List.foldl_cons, inductionHypothesis, exists_mem_add_iff, or_assoc]
      simp only [List.mem_cons, or_and_right, exists_or, exists_eq_left]

/-- A host is in the table exactly if a connected node has a route for it. -/
theorem exists_mem_aggregate_iff {nodes : Keyed Node} {host : String} :
    (∃ route ∈ aggregate nodes, route.host = host) ↔
      ∃ id node, nodes.get? id = some node ∧ node.connected = true ∧ ∃ route ∈ node.proxyRoutes, route.host = host := by
  unfold aggregate
  rw [exists_mem_foldl_add_iff]
  constructor
  · rintro (⟨route, absent, _⟩ | ⟨route, member, same⟩)
    · cases absent
    · rcases List.mem_flatMap.1 member with ⟨node, nodeMember, listed⟩
      rcases List.mem_filter.1 nodeMember with ⟨stored, connected⟩
      rcases Keyed.mem_values_iff.1 stored with ⟨id, found⟩
      exact ⟨id, node, found, connected, route, listed, same⟩
  · rintro ⟨id, node, found, connected, route, listed, same⟩
    have stored : node ∈ nodes.values := Keyed.mem_values_iff.2 ⟨id, found⟩
    exact Or.inr ⟨route, List.mem_flatMap.2 ⟨node, List.mem_filter.2 ⟨stored, connected⟩, listed⟩, same⟩

end RouteTable
end Fleet
