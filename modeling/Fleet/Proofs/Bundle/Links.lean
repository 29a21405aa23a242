import Fleet.Bundle.Member
import Fleet.Proofs.Bundle.Components

namespace Fleet

/-!
# Links between services

What links two services of a node is said here without a list of links: they are in one pod, or one of them
asks for a unit that means the other.  The list of links is shorter.  It joins every service of a pod to the
first one only, and states a dependency in one direction.  Still it connects the same services, since
connection does not ask for the direction of a link, and two services of a pod are connected by way of the first.
-/

namespace Node

variable (node : Node)

/-- A service is in the pod that its unit file gives, or else in the one that the agent gives; a pod has a
name. -/
def InPod (i : Fin node.services.length) (pod : String) : Prop :=
  let given := (Unit.directivesFor node.files node.services[i].name).bind Unit.Directives.pod
  pod ≠ "" ∧ (given = some pod ∨ given = none ∧ node.services[i].podReference.map Unit.podName = some pod)

/-- A service of the node with what its unit file adds to it. -/
def member (i : Fin node.services.length) : Member :=
  Member.ofService node.files node.services[i]

/-- A service asks for a unit, in its unit file or by the word of the agent. -/
def Asks (i : Fin node.services.length) (reason : DependencyReason) (target : String) : Prop :=
  (∃ directives, Unit.directivesFor node.files node.services[i].name = some directives ∧
      target ∈ reason.inDirectives directives) ∨
    target ∈ reason.inService node.services[i]

/-- The name of a unit means a service of the node; of several services of a name the one listed last. -/
def Means (target : String) (j : Fin node.services.length) : Prop :=
  target = node.services[j].name ++ ".service" ∧ ∀ k, j < k → node.services[k].name ≠ node.services[j].name

/-- What links a service to another one. -/
inductive Linked : Fin node.services.length → Fin node.services.length → Prop where
  | pod {i j : Fin node.services.length} {pod : String} : node.InPod i pod → node.InPod j pod → Linked i j
  | dependency {i j : Fin node.services.length} {reason : DependencyReason} {target : String} :
      node.Asks i reason target → node.Means target j → Linked i j

end Node

theorem Unit.service?_eq_some_iff {target name : String} :
    Unit.service? target = some name ↔ target = name ++ ".service" := by
  unfold Unit.service? Text.beforeEnd?
  rw [Option.map_eq_some_iff]
  constructor
  · rintro ⟨before, cut, rfl⟩
    apply String.toList_inj.1
    rw [String.toList_append, String.toList_ofList, ← List.isSuffixOf?_eq_some_iff_append_eq.1 cut]
    rfl
  · rintro rfl
    refine ⟨name.toList, List.isSuffixOf?_eq_some_iff_append_eq.2 ?_, String.ofList_toList⟩
    rw [String.toList_append]
    rfl

namespace Member

/-! ## Members of a node -/

theorem podOf_eq_some_iff {directives : Option Unit.Directives} {service : Service} {pod : String} :
    podOf directives service = some pod ↔
      pod ≠ "" ∧ (directives.bind Unit.Directives.pod = some pod ∨
        directives.bind Unit.Directives.pod = none ∧ service.podReference.map Unit.podName = some pod) := by
  rw [podOf, Option.filter_eq_some_iff, Option.or_eq_some_iff, and_comm]
  simp

theorem mem_dependenciesOf_iff {directives : Option Unit.Directives} {service : Service}
    {reason : DependencyReason} {target : String} :
    (reason, target) ∈ dependenciesOf directives service ↔
      (∃ given, directives = some given ∧ target ∈ reason.inDirectives given) ∨
        target ∈ reason.inService service := by
  have known : reason ∈ DependencyReason.all := by cases reason <;> decide
  have listed : target ∈ (directives.map reason.inDirectives).getD [] ++ reason.inService service ↔
      (∃ given, directives = some given ∧ target ∈ reason.inDirectives given) ∨
        target ∈ reason.inService service := by
    cases directives <;> simp
  rw [dependenciesOf, mem_distinct, List.mem_flatMap, ← listed]
  constructor
  · rintro ⟨_, _, stated⟩
    rcases List.mem_map.1 stated with ⟨_, member, same⟩
    cases same
    exact member
  · exact fun member => ⟨reason, known, List.mem_map_of_mem member⟩

theorem length_ofNode (node : Node) : (ofNode node).length = node.services.length :=
  List.length_map _

/-- The place of a member is that of its service. -/
def place (node : Node) (i : Fin (ofNode node).length) : Fin node.services.length :=
  i.cast (length_ofNode node)

theorem get_ofNode (node : Node) (i : Fin (ofNode node).length) :
    (ofNode node).get i = node.member (place node i) :=
  List.getElem_map _

theorem pod_eq_some_iff {node : Node} {i : Fin (ofNode node).length} {pod : String} :
    ((ofNode node).get i).pod = some pod ↔ node.InPod (place node i) pod := by
  rw [get_ofNode]
  exact podOf_eq_some_iff

theorem mem_dependencies_iff {node : Node} {i : Fin (ofNode node).length} {reason : DependencyReason}
    {target : String} :
    (reason, target) ∈ ((ofNode node).get i).dependencies ↔ node.Asks (place node i) reason target := by
  rw [get_ofNode]
  exact mem_dependenciesOf_iff

/-! ## Places -/

theorem last_of_placeOf? {members : List Member} {name : String} {j : Fin members.length}
    (found : placeOf? members name = some j) :
    (members.get j).service.name = name ∧ ∀ k, j < k → (members.get k).service.name ≠ name := by
  rcases List.find?_eq_some_iff_append.1 found with ⟨named, before, after, split, others⟩
  have downwards := List.pairwise_reverse.2 (List.pairwise_lt_finRange members.length)
  rw [split] at downwards
  refine ⟨by simpa using named, fun k above => ?_⟩
  have listed : k ∈ before ++ j :: after := split ▸ List.mem_reverse.2 (List.mem_finRange k)
  rcases List.mem_append.1 listed with early | late
  · simpa using others k early
  · rcases List.mem_cons.1 late with rfl | later
    · exact absurd above (lt_irrefl k)
    · exact absurd above (lt_asymm (List.rel_of_pairwise_cons (List.pairwise_append.1 downwards).2.1 later))

theorem placeOf?_eq_some_iff {members : List Member} {name : String} {j : Fin members.length} :
    placeOf? members name = some j ↔
      (members.get j).service.name = name ∧ ∀ k, j < k → (members.get k).service.name ≠ name := by
  refine ⟨last_of_placeOf?, fun ⟨named, last⟩ => ?_⟩
  cases found : placeOf? members name with
  | none =>
      have unnamed := List.find?_eq_none.1 found j (List.mem_reverse.2 (List.mem_finRange j))
      exact absurd named (by simpa using unnamed)
  | some other =>
      rcases last_of_placeOf? found with ⟨otherNamed, otherLast⟩
      rcases lt_trichotomy j other with above | rfl | below
      · exact absurd otherNamed (last other above)
      · rfl
      · exact absurd named (otherLast j below)

theorem exists_firstOfPod? {members : List Member} {i : Fin members.length} {pod : String}
    (inPod : (members.get i).pod = some pod) :
    ∃ first, firstOfPod? members pod = some first ∧ (members.get first).pod = some pod := by
  cases found : firstOfPod? members pod with
  | none =>
      have outside := List.find?_eq_none.1 found i (List.mem_finRange i)
      exact absurd inPod (by simpa using outside)
  | some first => exact ⟨first, rfl, by simpa using List.find?_some found⟩

/-! ## Links -/

theorem mem_links_iff {members : List Member} {i j : Fin members.length} :
    (i, j) ∈ links members ↔
      (∃ pod, (members.get i).pod = some pod ∧ firstOfPod? members pod = some j) ∨
        ∃ name reason target, (reason, target) ∈ (members.get i).dependencies ∧
          Unit.service? target = some name ∧ placeOf? members name = some j := by
  have stated : (i, j) ∈ links members ↔ (i, j) ∈ linksOf members i := by
    rw [links, List.mem_flatMap]
    constructor
    · rintro ⟨other, _, listed⟩
      rcases List.mem_map.1 listed with ⟨_, _, same⟩
      cases same
      exact listed
    · exact fun listed => ⟨i, List.mem_finRange i, listed⟩
  rw [stated]
  simp only [linksOf, serviceTargets, List.mem_map, Prod.mk.injEq, true_and, exists_eq_right, List.mem_append,
    Option.mem_toList, Option.bind_eq_some_iff, List.mem_filterMap, Prod.exists, ← exists_and_right, and_assoc]
  exact Iff.rfl

variable {node : Node}

theorem means_iff {target : String} {j : Fin (ofNode node).length} :
    node.Means target (place node j) ↔
      ∃ name, Unit.service? target = some name ∧ placeOf? (ofNode node) name = some j := by
  have name_eq : ∀ k, ((ofNode node).get k).service.name = node.services[place node k].name :=
    fun k => congrArg (fun member => member.service.name) (get_ofNode node k)
  simp only [Unit.service?_eq_some_iff, placeOf?_eq_some_iff, name_eq]
  constructor
  · rintro ⟨named, last⟩
    exact ⟨_, named, rfl, fun k above => last (place node k) above⟩
  · rintro ⟨_, named, rfl, last⟩
    exact ⟨named, fun k above => last (k.cast (length_ofNode node).symm) above⟩

/-- The list of links connects the services that links connect. -/
theorem eqvGen_links_iff {i j : Fin (ofNode node).length} :
    Relation.EqvGen (fun i j => (i, j) ∈ links (ofNode node)) i j ↔
      Relation.EqvGen (fun i j => node.Linked (place node i) (place node j)) i j := by
  constructor
  · refine Forest.same_of_eqvGen (Relation.EqvGen.is_equivalence _) ?_
    intro a b listed
    apply Relation.EqvGen.rel
    rcases mem_links_iff.1 listed with ⟨pod, inPod, found⟩ | ⟨name, reason, target, asked, meant, found⟩
    · rcases exists_firstOfPod? inPod with ⟨first, firstFound, firstInPod⟩
      cases found.symm.trans firstFound
      exact .pod (pod_eq_some_iff.1 inPod) (pod_eq_some_iff.1 firstInPod)
    · exact .dependency (mem_dependencies_iff.1 asked) (means_iff.2 ⟨name, meant, found⟩)
  · refine Forest.same_of_eqvGen (Relation.EqvGen.is_equivalence _) ?_
    intro a b linked
    cases linked with
    | @pod pod inPod otherInPod =>
        -- Neither of the two need be the first of the pod, so the chain goes by way of that one.
        rcases exists_firstOfPod? (pod_eq_some_iff.2 inPod) with ⟨first, found, _⟩
        have joined : ∀ c, node.InPod (place node c) pod →
            Relation.EqvGen (fun i j => (i, j) ∈ links (ofNode node)) c first :=
          fun c inPod => .rel c first (mem_links_iff.2 (.inl ⟨pod, pod_eq_some_iff.2 inPod, found⟩))
        exact (joined a inPod).trans _ _ _ ((joined b otherInPod).symm _ _)
    | @dependency reason target asks means =>
        rcases means_iff.1 means with ⟨name, meant, found⟩
        exact .rel a b (mem_links_iff.2 (.inr ⟨name, reason, target, mem_dependencies_iff.2 asks, meant, found⟩))

/-! ## Groups -/

/-- The services of each group, in the order of the groups. -/
def placesOf (node : Node) : List (List (Fin node.services.length)) :=
  (rooted (forest (ofNode node)).root).map (List.map (place node))

theorem components_placesOf (node : Node) : Components node.Linked (placesOf node) := by
  have linked : (forest (ofNode node)).Groups fun i j => False ∨ (i, j) ∈ links (ofNode node) :=
    (Forest.groups_discrete _).unionAll _
  simp only [false_or] at linked
  exact .cast (length_ofNode node) (components_rooted (Forest.root_le _) (Forest.root_root _) fun i j =>
    (linked i j).trans eqvGen_links_iff)

/-- The groups of members are those of their places. -/
theorem groups_ofNode (node : Node) :
    groups (ofNode node) = (placesOf node).map (List.map node.member) := by
  unfold groups placesOf rooted
  simp only [List.map_map]
  refine List.map_congr_left fun root _ => ?_
  simp only [Function.comp_apply, List.filter_map, List.map_map]
  exact List.map_congr_left fun i _ => get_ofNode node i

end Member
end Fleet
