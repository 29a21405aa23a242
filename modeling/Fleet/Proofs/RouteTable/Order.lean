import Fleet.Proofs.ByteOrder
import Fleet.Proofs.RouteTable

namespace Fleet
namespace RouteTable

/-!
# Who provides a route

A route stands at a place: in a list of a node, under the id of the node.  Places are ordered, by the bytes of
the id first and then by the position, and the table is made along this order.  So the routes of the table are
those at the first place where their host occurs, and they stand in the order of these places.

Nothing but the routes of the connected nodes enters, each under the id of its node.  Therefore nodes with the
same routes have the same table, whatever else is known of them and in whatever order it came to be known.
-/

/-- The routes that are offered under an id: those of a node that is connected. -/
def offered (nodes : Keyed Node) (id : String) : List Route :=
  match nodes.get? id with
  | some node => if node.connected then node.proxyRoutes else []
  | none => []

/-- One place comes before another: the id is smaller, byte by byte, or it is the same and the position is
smaller. -/
def Before (first second : String × Nat) : Prop :=
  Text.bytes first.1 < Text.bytes second.1 ∨ first.1 = second.1 ∧ first.2 < second.2

/-- A route is provided at the first place of its host: it is the first one for its host of its node, and no
node with a smaller id has one for it. -/
structure Provides (nodes : Keyed Node) (id : String) (position : Nat) (route : Route) : Prop where
  listed : (offered nodes id)[position]? = some route
  first : ∀ earlier < position, ∀ other, (offered nodes id)[earlier]? = some other → other.host ≠ route.host
  smallest : ∀ lower, Text.bytes lower < Text.bytes id → ∀ other ∈ offered nodes lower, other.host ≠ route.host

/-! ## Places -/

theorem Before.irrefl (place : String × Nat) : ¬ Before place place := by
  rintro (below | ⟨_, below⟩)
  · exact List.lt_irrefl _ below
  · exact Nat.lt_irrefl _ below

theorem Before.asymm {first second : String × Nat} (before : Before first second) : ¬ Before second first := by
  rcases before with below | ⟨same, below⟩
  · rintro (above | ⟨same, _⟩)
    · exact List.lt_asymm below above
    · exact List.lt_irrefl _ (same ▸ below)
  · rintro (above | ⟨_, above⟩)
    · exact List.lt_irrefl _ (same ▸ above)
    · exact Nat.lt_asymm below above

theorem mem_offered_iff {nodes : Keyed Node} {id : String} {route : Route} :
    route ∈ offered nodes id ↔
      ∃ node, nodes.get? id = some node ∧ node.connected = true ∧ route ∈ node.proxyRoutes := by
  unfold offered
  cases nodes.get? id with
  | none => simp
  | some node => cases connected : node.connected <;> simp [connected]

theorem provides_iff {nodes : Keyed Node} {id : String} {position : Nat} {route : Route} :
    Provides nodes id position route ↔
      (offered nodes id)[position]? = some route ∧
        ∀ place other, (offered nodes place.1)[place.2]? = some other → other.host = route.host →
          ¬ Before place (id, position) := by
  constructor
  · rintro ⟨listed, first, smallest⟩
    refine ⟨listed, ?_⟩
    rintro ⟨place, earlier⟩ other found sameHost (below | ⟨rfl, below⟩)
    · exact smallest place below other (List.mem_of_getElem? found) sameHost
    · exact first earlier below other found sameHost
  · rintro ⟨listed, first⟩
    refine ⟨listed, fun earlier below other found sameHost => ?_, fun lower below other member sameHost => ?_⟩
    · exact first (id, earlier) other found sameHost (.inr ⟨rfl, below⟩)
    · rcases List.getElem?_of_mem member with ⟨earlier, found⟩
      exact first (lower, earlier) other found sameHost (.inl below)

/-! ## The walk along the places -/

/-- The routes of all connected nodes with their places, in the order of the walk. -/
def placed (nodes : Keyed Node) : List ((String × Nat) × Route) :=
  nodes.keys.flatMap fun id => (offered nodes id).zipIdx.map fun listed => ((id, listed.2), listed.1)

theorem mem_placed_iff {nodes : Keyed Node} {place : String × Nat} {route : Route} :
    (place, route) ∈ placed nodes ↔ (offered nodes place.1)[place.2]? = some route := by
  unfold placed
  rw [List.mem_flatMap]
  constructor
  · rintro ⟨id, _, member⟩
    rcases List.mem_map.1 member with ⟨listed, listedMember, same⟩
    cases same
    exact List.mem_zipIdx_iff_getElem?.1 listedMember
  · intro found
    rcases mem_offered_iff.1 (List.mem_of_getElem? found) with ⟨node, stored, _⟩
    have known : place.1 ∈ nodes.keys := List.mem_map_of_mem (Keyed.get?_eq_some_iff.1 stored)
    exact ⟨place.1, known, List.mem_map.2 ⟨(route, place.2), List.mk_mem_zipIdx_iff_getElem?.2 found, rfl⟩⟩

theorem placed_ordered (nodes : Keyed Node) : (placed nodes).Pairwise fun first second => Before first.1 second.1 := by
  unfold placed
  refine List.pairwise_flatMap.2 ⟨fun id _ => ?_, ?_⟩
  · refine List.pairwise_map.2 (List.pairwise_iff_getElem.2 fun i j iBound jBound below => ?_)
    rw [List.getElem_zipIdx, List.getElem_zipIdx]
    exact .inr ⟨rfl, Nat.add_lt_add_left below 0⟩
  · refine List.pairwise_map.2 (nodes.increasing.imp ?_)
    intro firstEntry secondEntry below first firstMember second secondMember
    rcases List.mem_map.1 firstMember with ⟨_, _, rfl⟩
    rcases List.mem_map.1 secondMember with ⟨_, _, rfl⟩
    exact .inl (Text.bytes_lt_iff.2 below)

theorem map_snd_placed (nodes : Keyed Node) :
    (placed nodes).map Prod.snd = (nodes.values.filter Node.connected).flatMap Node.proxyRoutes := by
  have own : ∀ entry ∈ nodes.entries,
      offered nodes entry.1 = if entry.2.connected then entry.2.proxyRoutes else [] := by
    intro entry member
    rw [offered, Keyed.get?_eq_some_iff.2 member]
  calc
    (placed nodes).map Prod.snd = nodes.entries.flatMap fun entry => offered nodes entry.1 := by
      rw [placed, Keyed.keys, List.flatMap_map, List.map_flatMap]
      simp only [List.map_map, Function.comp_def, List.zipIdx_map_fst]
    _ = nodes.entries.flatMap fun entry => if entry.2.connected then entry.2.proxyRoutes else [] :=
      List.flatMap_congr own
    _ = (nodes.values.filter Node.connected).flatMap Node.proxyRoutes := by
      rw [Keyed.values, List.filter_map, List.flatMap_map]
      generalize nodes.entries = entries
      induction entries with
      | nil => rfl
      | cons entry rest inductionHypothesis =>
          rw [List.flatMap_cons, inductionHypothesis, List.filter_cons]
          cases connected : entry.2.connected <;> simp [connected]

/-! ## What the walk keeps -/

/-- Of routes with their places those are kept that have the first place of their host, in the same order. -/
structure FirstPlaces (routes kept : List ((String × Nat) × Route)) : Prop where
  sublist : kept.Sublist routes
  mem_iff : ∀ entry, entry ∈ kept ↔
    entry ∈ routes ∧ ∀ other ∈ routes, other.2.host = entry.2.host → ¬ Before other.1 entry.1

section Step

variable {routes kept : List ((String × Nat) × Route)} {last : (String × Nat) × Route}

/-- A route at a later place has no part in what is at the first place among those before it. -/
theorem first_append_iff (beforeLast : ∀ entry ∈ routes, Before entry.1 last.1) {entry : (String × Nat) × Route}
    (member : entry ∈ routes) :
    (∀ other ∈ routes ++ [last], other.2.host = entry.2.host → ¬ Before other.1 entry.1) ↔
      ∀ other ∈ routes, other.2.host = entry.2.host → ¬ Before other.1 entry.1 := by
  rw [List.forall_mem_append, List.forall_mem_singleton]
  exact and_iff_left fun _ => (beforeLast entry member).asymm

/-- A route whose host occurs before it is not kept. -/
theorem FirstPlaces.append_known (firsts : FirstPlaces routes kept)
    (beforeLast : ∀ entry ∈ routes, Before entry.1 last.1) (known : ∃ entry ∈ routes, entry.2.host = last.2.host) :
    FirstPlaces (routes ++ [last]) kept := by
  refine ⟨firsts.sublist.trans (List.sublist_append_left _ _), fun entry => ?_⟩
  rw [firsts.mem_iff, List.mem_append, List.mem_singleton]
  constructor
  · rintro ⟨member, first⟩
    exact ⟨.inl member, (first_append_iff beforeLast member).2 first⟩
  · rintro ⟨member | rfl, first⟩
    · exact ⟨member, (first_append_iff beforeLast member).1 first⟩
    · rcases known with ⟨other, otherMember, sameHost⟩
      exact absurd (beforeLast other otherMember) (first other (List.mem_append_left _ otherMember) sameHost)

/-- A route whose host does not occur before it is kept. -/
theorem FirstPlaces.append_fresh (firsts : FirstPlaces routes kept)
    (beforeLast : ∀ entry ∈ routes, Before entry.1 last.1) (fresh : ¬ ∃ entry ∈ routes, entry.2.host = last.2.host) :
    FirstPlaces (routes ++ [last]) (kept ++ [last]) := by
  refine ⟨firsts.sublist.append (List.Sublist.refl _), fun entry => ?_⟩
  rw [List.mem_append, firsts.mem_iff, List.mem_append, List.mem_singleton]
  constructor
  · rintro (⟨member, first⟩ | rfl)
    · exact ⟨.inl member, (first_append_iff beforeLast member).2 first⟩
    · refine ⟨.inr rfl, fun other member sameHost => ?_⟩
      rcases List.mem_append.1 member with before | here
      · exact absurd ⟨other, before, sameHost⟩ fresh
      · exact List.mem_singleton.1 here ▸ Before.irrefl _
  · rintro ⟨member | rfl, first⟩
    · exact .inl ⟨member, (first_append_iff beforeLast member).1 first⟩
    · exact .inr rfl

end Step

theorem exists_firstPlaces {routes : List ((String × Nat) × Route)}
    (ordered : routes.Pairwise fun first second => Before first.1 second.1) :
    ∃ kept, FirstPlaces routes kept ∧ (routes.map Prod.snd).foldl add [] = kept.map Prod.snd := by
  induction routes using List.reverseRecOn with
  | nil => exact ⟨[], ⟨List.Sublist.refl _, by simp⟩, rfl⟩
  | append_singleton routes last inductionHypothesis =>
      rcases List.pairwise_append.1 ordered with ⟨orderedBefore, _, below⟩
      have beforeLast : ∀ entry ∈ routes, Before entry.1 last.1 := fun entry member => below entry member last (by simp)
      rcases inductionHypothesis orderedBefore with ⟨kept, firsts, collected⟩
      have known_iff : (kept.map Prod.snd).any (fun known => known.host == last.2.host) = true ↔
          ∃ entry ∈ routes, entry.2.host = last.2.host := by
        rw [← collected, List.any_eq_true]
        simp only [beq_iff_eq]
        rw [exists_mem_foldl_add_iff, or_iff_right fun ⟨_, absent, _⟩ => List.not_mem_nil absent]
        simp only [List.mem_map, exists_exists_and_eq_and]
      rw [List.map_append, List.foldl_append, collected, List.map_singleton, List.foldl_cons, List.foldl_nil, add]
      by_cases known : ∃ entry ∈ routes, entry.2.host = last.2.host
      · rw [if_pos (known_iff.2 known)]
        exact ⟨kept, firsts.append_known beforeLast known, rfl⟩
      · rw [if_neg fun present => known (known_iff.1 present)]
        exact ⟨kept ++ [last], firsts.append_fresh beforeLast known, by rw [List.map_append, List.map_singleton]⟩

/-! ## The table -/

theorem exists_kept (nodes : Keyed Node) :
    ∃ kept : List ((String × Nat) × Route), aggregate nodes = kept.map Prod.snd ∧
      (kept.Pairwise fun first second => Before first.1 second.1) ∧
      ∀ entry, entry ∈ kept ↔ Provides nodes entry.1.1 entry.1.2 entry.2 := by
  rcases exists_firstPlaces (placed_ordered nodes) with ⟨kept, firsts, collected⟩
  refine ⟨kept, ?_, (placed_ordered nodes).sublist firsts.sublist, fun entry => ?_⟩
  · rw [← collected, map_snd_placed, aggregate]
  · rw [firsts.mem_iff, provides_iff, mem_placed_iff]
    refine and_congr_right fun _ => ⟨fun first place other found => ?_, fun first other member => ?_⟩
    · exact first (place, other) (mem_placed_iff.2 found)
    · exact first other.1 other.2 (mem_placed_iff.1 member)

theorem mem_aggregate_iff {nodes : Keyed Node} {route : Route} :
    route ∈ aggregate nodes ↔ ∃ id position, Provides nodes id position route := by
  rcases exists_kept nodes with ⟨kept, collected, _, kept_iff⟩
  rw [collected, List.mem_map]
  constructor
  · rintro ⟨entry, member, rfl⟩
    exact ⟨entry.1.1, entry.1.2, (kept_iff entry).1 member⟩
  · rintro ⟨id, position, provides⟩
    exact ⟨((id, position), route), (kept_iff _).2 provides, rfl⟩

/-- Of two places one comes before the other. -/
theorem before_or_eq_or_before (first second : String × Nat) :
    Before first second ∨ first = second ∨ Before second first := by
  by_cases sameId : first.1 = second.1
  · rcases Nat.lt_trichotomy first.2 second.2 with below | same | above
    · exact .inl (.inr ⟨sameId, below⟩)
    · exact .inr (.inl (Prod.ext sameId same))
    · exact .inr (.inr (.inr ⟨sameId.symm, above⟩))
  · by_cases below : first.1 < second.1
    · exact .inl (.inl (Text.bytes_lt_iff.2 below))
    · have above : second.1 < first.1 :=
        String.not_le.1 fun low => sameId (String.le_antisymm low (String.not_lt.1 below))
      exact .inr (.inr (.inl (Text.bytes_lt_iff.2 above)))

/-- A host has one first place. -/
theorem Provides.place_eq {nodes : Keyed Node} {place other : String × Nat} {route : Route}
    (provides : Provides nodes place.1 place.2 route) (again : Provides nodes other.1 other.2 route) :
    place = other := by
  rcases provides_iff.1 provides with ⟨listed, first⟩
  rcases provides_iff.1 again with ⟨otherListed, otherFirst⟩
  rcases before_or_eq_or_before place other with before | same | after
  · exact absurd before (otherFirst place route listed rfl)
  · exact same
  · exact absurd after (first other route otherListed rfl)

theorem aggregate_ordered (nodes : Keyed Node) :
    (aggregate nodes).Pairwise fun first second => ∀ place later,
      Provides nodes place.1 place.2 first → Provides nodes later.1 later.2 second → Before place later := by
  rcases exists_kept nodes with ⟨kept, collected, ordered, kept_iff⟩
  rw [collected]
  refine List.pairwise_map.2 (ordered.imp_of_mem ?_)
  intro firstEntry secondEntry firstMember secondMember before place later provides laterProvides
  obtain rfl := ((kept_iff firstEntry).1 firstMember).place_eq provides
  obtain rfl := ((kept_iff secondEntry).1 secondMember).place_eq laterProvides
  exact before

theorem Provides.of_offered {nodes others : Keyed Node} (same : ∀ id, offered others id = offered nodes id)
    {id : String} {position : Nat} {route : Route} (provides : Provides nodes id position route) :
    Provides others id position route where
  listed := same id ▸ provides.listed
  first := same id ▸ provides.first
  smallest := fun lower below => same lower ▸ provides.smallest lower below

/-- The table depends on nothing but what the connected nodes offer. -/
theorem aggregate_eq_of_offered {nodes others : Keyed Node} (same : ∀ id, offered others id = offered nodes id) :
    aggregate others = aggregate nodes := by
  have provided : ∀ {id position route}, Provides others id position route ↔ Provides nodes id position route :=
    ⟨Provides.of_offered fun id => (same id).symm, Provides.of_offered same⟩
  have distinct : ∀ nodes, (aggregate nodes).Nodup := fun nodes =>
    (unambiguous_aggregate nodes).imp fun apart equal => apart (congrArg Route.host equal)
  have permuted : (aggregate others).Perm (aggregate nodes) :=
    (List.perm_ext_iff_of_nodup (distinct others) (distinct nodes)).2 fun route => by
      simp only [mem_aggregate_iff, provided]
  have ordered := aggregate_ordered others
  simp only [provided] at ordered
  refine permuted.eq_of_pairwise ?_ ordered (aggregate_ordered nodes)
  intro first second firstMember secondMember before after
  rcases mem_aggregate_iff.1 firstMember with ⟨id, position, provides⟩
  rcases mem_aggregate_iff.1 secondMember with ⟨laterId, laterPosition, laterProvides⟩
  have firstPlace := provided.1 provides
  have below := before (id, position) (laterId, laterPosition) firstPlace laterProvides
  exact absurd (after (laterId, laterPosition) (id, position) laterProvides firstPlace) below.asymm

/-! ## Registrations and updates -/

/-- The nodes after changes one after the other, each of the node under one id, which it may find absent. -/
def changed (nodes : Keyed Node) (changes : List (String × (Option Node → Node))) : Keyed Node :=
  changes.foldl (fun nodes change => nodes.insert change.1 (change.2 (nodes.get? change.1))) nodes

/-- A node is the result of the changes of its own. -/
theorem get?_changed (nodes : Keyed Node) (changes : List (String × (Option Node → Node))) (id : String) :
    (changed nodes changes).get? id =
      (changes.filter fun change => change.1 == id).foldl (fun node change => some (change.2 node))
        (nodes.get? id) := by
  unfold changed
  induction changes generalizing nodes with
  | nil => rfl
  | cons change rest inductionHypothesis =>
      rw [List.foldl_cons, inductionHypothesis, Keyed.get?_insert, List.filter_cons]
      by_cases own : change.1 = id
      · rw [if_pos own, if_pos (beq_iff_eq.2 own), List.foldl_cons, own]
      · rw [if_neg own, if_neg fun same => own (beq_iff_eq.1 same)]

/-- Changes of different nodes may be made in any order. -/
theorem changed_eq_of_filter {changes others : List (String × (Option Node → Node))}
    (same : ∀ id, (others.filter fun change => change.1 == id) = changes.filter fun change => change.1 == id)
    (nodes : Keyed Node) : changed nodes others = changed nodes changes :=
  Keyed.ext_get? fun id => by rw [get?_changed, get?_changed, same]

/-- The hosts of the table are different, and they are the hosts for which a connected node has a route.  A host
has the route that is the first one for it in the connected node with the smallest id among those that have one.
The routes stand in the order of the ids of the nodes that provide them and of their positions there.  Nodes
that offer the same routes have the same table, and so have nodes that underwent the same changes, if only the
changes of each node were made in the same order. -/
theorem aggregate_first_places (nodes : Keyed Node) :
    ((aggregate nodes).map Route.host).Nodup ∧
      (∀ host, host ∈ (aggregate nodes).map Route.host ↔
        ∃ id node, nodes.get? id = some node ∧ node.connected = true ∧ host ∈ node.proxyRoutes.map Route.host) ∧
      (∀ route, route ∈ aggregate nodes ↔ ∃ id position, Provides nodes id position route) ∧
      ((aggregate nodes).Pairwise fun first second => ∀ place later,
        Provides nodes place.1 place.2 first → Provides nodes later.1 later.2 second → Before place later) ∧
      (∀ others, (∀ id, offered others id = offered nodes id) → aggregate others = aggregate nodes) ∧
      ∀ changes others,
        (∀ id, (others.filter fun change => change.1 == id) = changes.filter fun change => change.1 == id) →
          aggregate (changed nodes others) = aggregate (changed nodes changes) := by
  refine ⟨List.pairwise_map.2 (unambiguous_aggregate nodes), fun host => ?_, fun _ => mem_aggregate_iff,
    aggregate_ordered nodes, fun _ => aggregate_eq_of_offered, fun changes others same => ?_⟩
  · simp only [List.mem_map]
    exact exists_mem_aggregate_iff
  · rw [changed_eq_of_filter same]

/-- Two nodes with a route for one host, registered in one order and in the other. -/
theorem aggregate_first_places_two_nodes :
    let route (target : String) : Route := ⟨"web.example", target, none, false⟩
    let serving (target : String) (_ : Option Node) : Node :=
      { Node.unknown with connected := true, proxyRoutes := [route target] }
    let changes := [("a", serving "10.0.0.1:80"), ("b", serving "10.0.0.2:80")]
    let others := [("b", serving "10.0.0.2:80"), ("a", serving "10.0.0.1:80")]
    (∀ id, (others.filter fun change => change.1 == id) = changes.filter fun change => change.1 == id) ∧
      aggregate (changed .empty others) = aggregate (changed .empty changes) ∧
      aggregate (changed .empty changes) = [route "10.0.0.1:80"] := by
  intro route serving changes others
  have same : ∀ id, (others.filter fun change => change.1 == id) = changes.filter fun change => change.1 == id := by
    intro id
    by_cases first : "a" = id
    · subst first
      rfl
    · by_cases second : "b" = id
      · subst second
        rfl
      · simp [changes, others, first, second]
  exact ⟨same, (aggregate_first_places .empty).2.2.2.2.2 changes others same, by decide⟩

end RouteTable
end Fleet
