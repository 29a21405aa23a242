import Fleet.Proofs.Bundle.Services

namespace Fleet

/-!
# What a bundle tells of its services

The graph of a bundle, its hints and its severity are made one from another.  Each can be said by itself.  The graph has
what every service of the bundle asks for, without repetition for any of them.  A hint is a line for a reason that the
graph has edges of, and a unit is missing if a service cannot run without it and the node has no service of that name.
The severity is a matter of the states of the services and of whether anything is missing.
-/

section

variable {α : Type} [BEq α] [LawfulBEq α]

omit [LawfulBEq α] in
/-- The items of a list, each once, in the order in which they first occur. -/
structure FirstOccurrences (items result : List α) : Prop where
  nodup : result.Nodup
  mem_iff : ∀ item, item ∈ result ↔ item ∈ items
  ordered : result.Pairwise fun earlier later => items.idxOf earlier < items.idxOf later

theorem firstOccurrences_distinct (items : List α) : FirstOccurrences items (distinct items) := by
  refine ⟨nodup_distinct items, fun _ => mem_distinct, ?_⟩
  induction items using List.reverseRecOn with
  | nil => exact .nil
  | append_singleton items last inductionHypothesis =>
      have kept : ∀ item ∈ distinct items, (items ++ [last]).idxOf item = items.idxOf item :=
        fun item member => List.idxOf_append_of_mem (mem_distinct.1 member)
      have before : (distinct items).Pairwise fun earlier later =>
          (items ++ [last]).idxOf earlier < (items ++ [last]).idxOf later := by
        refine inductionHypothesis.imp_of_mem fun {earlier later} earlierMember laterMember lower => ?_
        rw [kept earlier earlierMember, kept later laterMember]
        exact lower
      have step : distinct (items ++ [last]) = addNew (distinct items) last := addAll_append [] items [last]
      rw [step, addNew]
      split
      · exact before
      · rename_i absent
        refine List.pairwise_append.2 ⟨before, List.pairwise_singleton _ _, fun earlier member other isLast => ?_⟩
        cases List.mem_singleton.1 isLast
        have new : last ∉ items := fun present => absent (List.contains_iff_mem.2 (mem_distinct.2 present))
        rw [kept earlier member, List.idxOf_append_of_notMem new]
        exact Nat.lt_add_right _ (List.idxOf_lt_length_of_mem (mem_distinct.1 member))

end

namespace Bundle

variable {node : Node}

/-- A unit is missing: something cannot run without it, and it is a service of which the node has none of that name. -/
def Lacks (node : Node) (graph : List GraphEdge) (unit : String) : Prop :=
  (∃ edge ∈ graph, edge.target = unit ∧ (edge.reason = .requires ∨ edge.reason = .bindsTo)) ∧
    ∃ name, unit = name ++ ".service" ∧ ∀ service ∈ node.services, service.name ≠ name

/-- One of the services failed. -/
def HasFailed (node : Node) (places : List (Fin node.services.length)) : Prop :=
  ∃ i ∈ places, (node.member i).service.activeState = "failed"

/-- One of the services is not active; a reload in progress does not count. -/
def HasInactive (node : Node) (places : List (Fin node.services.length)) : Prop :=
  ∃ i ∈ places, (node.member i).service.activeState ∉ ["active", "reloading"]

/-- A line that lists items. -/
def listing (label : String) (items : List String) : String :=
  label ++ ": " ++ ", ".intercalate items

/-- A bundle of the services at some places of a node tells of them what it should, if it is known which units each of
them asks for. -/
structure Tells (node : Node) (asks : Fin node.services.length → DependencyReason → String → Prop)
    (places : List (Fin node.services.length)) (bundle : Bundle) : Prop where
  upwards : places.Pairwise (· < ·)
  services : bundle.services = places.map fun i => listedService (node.member i)
  /-- There is one edge for each service and all that it asks for. -/
  graph : ∃ asked : Fin node.services.length → List (DependencyReason × String),
    (bundle.graph = places.flatMap fun i =>
      (asked i).map fun dependency => ⟨(node.member i).service.name, dependency.2, dependency.1⟩) ∧
    ∀ i, (asked i).Nodup ∧ ∀ reason unit, (reason, unit) ∈ asked i ↔ asks i reason unit
  /-- There is a line for every reason that has edges, and one for what is missing if anything is. -/
  hints : ∃ targets : DependencyReason → List String, ∃ missing : List String,
    (∀ reason, FirstOccurrences
      ((bundle.graph.filter fun edge => edge.reason == reason).map GraphEdge.target) (targets reason)) ∧
    missing.Nodup ∧ (∀ unit, unit ∈ missing ↔ Lacks node bundle.graph unit) ∧
    bundle.hints =
      ((DependencyReason.all.filter fun reason => bundle.graph.any fun edge => edge.reason == reason).map fun reason =>
        listing reason.label (targets reason)) ++
      if missing = [] then [] else [listing "Missing dependencies" missing]
  critical : bundle.severity = .critical ↔ HasFailed node places
  warning : bundle.severity = .warning ↔
    ¬ HasFailed node places ∧ ((∃ unit, Lacks node bundle.graph unit) ∨ HasInactive node places)
  ok : bundle.severity = .ok ↔
    ¬ HasFailed node places ∧ ¬ ((∃ unit, Lacks node bundle.graph unit) ∨ HasInactive node places)

/-! ## The graph -/

theorem graphOf_places (places : List (Fin node.services.length)) :
    graphOf (places.map node.member) = places.flatMap fun i =>
      (node.member i).dependencies.map fun dependency => ⟨(node.member i).service.name, dependency.2, dependency.1⟩ :=
  List.flatMap_map _ _ _

/-! ## What is missing -/

theorem service?_eq_none_iff {name : String} :
    node.service? name = none ↔ ∀ service ∈ node.services, service.name ≠ name := by
  unfold Node.service?
  simp only [List.find?_eq_none, beq_iff_eq]

theorem isHard_iff {reason : DependencyReason} : reason.isHard = true ↔ reason = .requires ∨ reason = .bindsTo := by
  cases reason <;> decide

theorem isMissing_iff {edge : GraphEdge} :
    isMissing node edge = true ↔ (edge.reason = .requires ∨ edge.reason = .bindsTo) ∧
      ∃ name, edge.target = name ++ ".service" ∧ ∀ service ∈ node.services, service.name ≠ name := by
  unfold isMissing
  rw [Bool.and_eq_true, isHard_iff, Option.any_eq_true]
  simp only [Unit.service?_eq_some_iff, Option.isNone_iff_eq_none, service?_eq_none_iff]

theorem mem_missingOf_iff {graph : List GraphEdge} {unit : String} :
    unit ∈ missingOf node graph ↔ Lacks node graph unit := by
  unfold missingOf Lacks
  simp only [mem_distinct, List.mem_map, List.mem_filter, isMissing_iff]
  constructor
  · rintro ⟨edge, ⟨member, hard, name, named, absent⟩, rfl⟩
    exact ⟨⟨edge, member, rfl, hard⟩, name, named, absent⟩
  · rintro ⟨⟨edge, member, rfl, hard⟩, name, named, absent⟩
    exact ⟨edge, ⟨member, hard, name, named, absent⟩, rfl⟩

theorem missingOf_eq_nil_iff {graph : List GraphEdge} :
    missingOf node graph = [] ↔ ¬ ∃ unit, Lacks node graph unit := by
  rw [List.eq_nil_iff_forall_not_mem, not_exists]
  exact forall_congr' fun unit => not_congr mem_missingOf_iff

/-! ## Hints -/

theorem hint_eq (label : String) (items : List String) :
    hint label items = if items = [] then [] else [listing label items] := by
  unfold hint
  simp only [List.isEmpty_iff]
  rfl

theorem flatMap_eq_map_filter {ι : Type} {keeps : ι → Bool} {lines : ι → List String} {line : ι → String}
    (kept : ∀ i, lines i = if keeps i then [line i] else []) (items : List ι) :
    items.flatMap lines = (items.filter keeps).map line := by
  induction items with
  | nil => rfl
  | cons i rest inductionHypothesis =>
      rw [List.flatMap_cons, List.filter_cons, kept, inductionHypothesis]
      cases keeps i <;> rfl

theorem targetsFor_eq_nil_iff {reason : DependencyReason} {graph : List GraphEdge} :
    targetsFor reason graph = [] ↔ (graph.any fun edge => edge.reason == reason) = false := by
  rw [targetsFor, distinct_eq_nil_iff, List.map_eq_nil_iff, List.filter_eq_nil_iff, List.any_eq_false]

theorem hintsOf_eq (graph : List GraphEdge) (missing : List String) :
    hintsOf graph missing =
      ((DependencyReason.all.filter fun reason => graph.any fun edge => edge.reason == reason).map fun reason =>
        listing reason.label (targetsFor reason graph)) ++
      if missing = [] then [] else [listing "Missing dependencies" missing] := by
  unfold hintsOf
  rw [hint_eq "Missing dependencies"]
  refine congrArg (· ++ _) (flatMap_eq_map_filter (fun reason => ?_) DependencyReason.all)
  rw [hint_eq]
  cases present : graph.any fun edge => edge.reason == reason with
  | true => exact if_neg fun empty => Bool.false_ne_true ((targetsFor_eq_nil_iff.1 empty).symm.trans present)
  | false => exact if_pos (targetsFor_eq_nil_iff.2 present)

/-! ## The severity -/

theorem any_failed_iff {places : List (Fin node.services.length)} :
    ((places.map node.member).any fun member => member.service.activeState == "failed") = true ↔
      HasFailed node places := by
  rw [List.any_map, List.any_eq_true]
  exact exists_congr fun i => and_congr_right fun _ => beq_iff_eq

theorem isActive_iff {service : Service} : service.isActive = true ↔ service.activeState ∈ ["active", "reloading"] := by
  simp [Service.isActive]

theorem any_inactive_iff {places : List (Fin node.services.length)} :
    ((places.map node.member).any fun member => !member.service.isActive) = true ↔ HasInactive node places := by
  rw [List.any_map, List.any_eq_true]
  refine exists_congr fun i => and_congr_right fun _ => ?_
  rw [Function.comp_apply, Bool.not_eq_true', ← Bool.not_eq_true, isActive_iff]

/-- The gravest severity that applies is taken. -/
theorem severityOf_iff (places : List (Fin node.services.length)) (graph : List GraphEdge) :
    (severityOf (places.map node.member) (missingOf node graph) = .critical ↔ HasFailed node places) ∧
      (severityOf (places.map node.member) (missingOf node graph) = .warning ↔
        ¬ HasFailed node places ∧ ((∃ unit, Lacks node graph unit) ∨ HasInactive node places)) ∧
      (severityOf (places.map node.member) (missingOf node graph) = .ok ↔
        ¬ HasFailed node places ∧ ¬ ((∃ unit, Lacks node graph unit) ∨ HasInactive node places)) := by
  have lacking : (!(missingOf node graph).isEmpty) = true ↔ ∃ unit, Lacks node graph unit := by
    rw [Bool.not_eq_true', List.isEmpty_eq_false_iff, ne_eq, missingOf_eq_nil_iff, not_not]
  have wanting_iff : (!(missingOf node graph).isEmpty ||
      (places.map node.member).any fun member => !member.service.isActive) = true ↔
        (∃ unit, Lacks node graph unit) ∨ HasInactive node places := by
    rw [Bool.or_eq_true, lacking, any_inactive_iff]
  unfold severityOf
  by_cases failed : HasFailed node places
  · rw [if_pos (any_failed_iff.2 failed)]
    exact ⟨iff_of_true rfl failed, iff_of_false (by decide) fun warning => warning.1 failed,
      iff_of_false (by decide) fun calm => calm.1 failed⟩
  · rw [if_neg (failed ∘ any_failed_iff.1)]
    by_cases wanting : (∃ unit, Lacks node graph unit) ∨ HasInactive node places
    · rw [if_pos (wanting_iff.2 wanting)]
      exact ⟨iff_of_false (by decide) failed, iff_of_true rfl ⟨failed, wanting⟩,
        iff_of_false (by decide) fun calm => calm.2 wanting⟩
    · rw [if_neg (wanting ∘ wanting_iff.1)]
      exact ⟨iff_of_false (by decide) failed, iff_of_false (by decide) fun warning => wanting warning.2,
        iff_of_true rfl ⟨failed, wanting⟩⟩

/-! ## Bundles -/

/-- Every bundle of a node tells of its services what it should. -/
theorem exists_tells {nodeName : String} {asks : Fin node.services.length → DependencyReason → String → Prop}
    (known : ∀ i reason unit, node.Asks i reason unit ↔ asks i reason unit) {bundle : Bundle}
    (listed : bundle ∈ ofNode nodeName node) : ∃ places, Tells node asks places bundle := by
  rcases exists_ofGroup_of_mem listed with ⟨id, members, group, rfl⟩
  rw [Member.groups_ofNode] at group
  rcases List.mem_map.1 group with ⟨places, placesListed, rfl⟩
  rcases severityOf_iff places (graphOf (places.map node.member)) with ⟨critical, warning, ok⟩
  refine ⟨places, (Member.components_placesOf node).upwards places placesListed, List.map_map, ?_, ?_,
    critical, warning, ok⟩
  · refine ⟨fun i => (node.member i).dependencies, graphOf_places places, fun i => ⟨nodup_distinct _, ?_⟩⟩
    exact fun reason unit => Member.mem_dependenciesOf_iff.trans (known i reason unit)
  · exact ⟨fun reason => targetsFor reason _, missingOf node _, fun reason => firstOccurrences_distinct _,
      nodup_distinct _, fun unit => mem_missingOf_iff, hintsOf_eq _ _⟩

end Bundle
end Fleet
