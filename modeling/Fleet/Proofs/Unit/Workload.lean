import Fleet.Proofs.Port.Canonical
import Fleet.Unit.Workload

namespace Fleet
namespace Workload

/-!
# The ports of workloads

A stream of documents is a tree of which little has to be as expected.  What counts in it are the entries for ports, in
the lists of a container, in the lists of containers of a pod, which a document specifies itself or by a template.  An
entry asks for a port if it has one, and for the same port of the host if nothing else is said and the pod is on the
network of the host.  A list that is no list and a number that is no port count as absent, and nothing else gets lost.

The ports of a stream are merged from left to right, entry by entry.  As merging is associative, the documents of a
stream can be read in parts, and a pod gives the same ports however it is wrapped.
-/

open PortMapping

variable {value item document spec container entry : Yaml.Value} {name : String} {port : UInt16} {key : Identity}

/-! ## Entries -/

/-- A value has a list under a name, with an item in it. -/
def Lists (value : Yaml.Value) (name : String) (item : Yaml.Value) : Prop :=
  ∃ list items, value.get? name = some list ∧ list.items? = some items ∧ item ∈ items

/-- The specification of a pod has an entry for a port, in one of its containers. -/
def HasEntry (spec entry : Yaml.Value) : Prop :=
  ∃ name ∈ containerLists, ∃ container, Lists spec name container ∧ Lists container "ports" entry

/-- An entry has a port under a name, which is a whole number from 1 to 65535. -/
def HasPort (entry : Yaml.Value) (name : String) (port : UInt16) : Prop :=
  ∃ number, entry.get? name = some number ∧ number.whole? = some (port.toNat : Int) ∧ IsPort port

/-- What an entry has under a name, if it is a port. -/
inductive Usable (entry : Yaml.Value) (name : String) : Option UInt16 → Prop
  | port {port : UInt16} (given : HasPort entry name port) : Usable entry name (some port)
  | nothing (absent : ∀ port, ¬ HasPort entry name port) : Usable entry name none

/-- The containers of a pod share the network of the host. -/
def OnHost (spec : Yaml.Value) : Prop :=
  ∃ flag, spec.get? "hostNetwork" = some flag ∧ flag.bool? = some true

def protocol (entry : Yaml.Value) : String :=
  normalizeProtocol ((entry.get? "protocol").bind Yaml.Value.text?)

/-- The port that an entry asks for, on the network of the host or not. -/
inductive Asks (onHost : Prop) (entry : Yaml.Value) : Identity → Prop
  | bound {host : UInt16} {inside : Option UInt16} (hostPort : HasPort entry "hostPort" host)
      (containerPort : Usable entry "containerPort" inside) : Asks onHost entry (some host, inside, protocol entry)
  | shared {port : UInt16} (unbound : ∀ host, ¬ HasPort entry "hostPort" host)
      (containerPort : HasPort entry "containerPort" port) (network : onHost) :
      Asks onHost entry (some port, some port, protocol entry)
  | inside {port : UInt16} (unbound : ∀ host, ¬ HasPort entry "hostPort" host)
      (containerPort : HasPort entry "containerPort" port) (network : ¬ onHost) :
      Asks onHost entry (none, some port, protocol entry)

theorem mem_itemsUnder_iff : item ∈ itemsUnder value name ↔ Lists value name item := by
  unfold itemsUnder Lists
  cases value.get? name with
  | none => simp
  | some list => cases items : list.items? <;> simp [items]

theorem port?_eq_some_iff {value : Option Yaml.Value} : port? value = some port ↔
    ∃ number, value = some number ∧ number.whole? = some (port.toNat : Int) ∧ IsPort port := by
  unfold port?
  cases value with
  | none => simp
  | some number =>
      cases whole : number.whole? with
      | none => simp [whole]
      | some n =>
          constructor
          · intro reads
            have inRange : (1 ≤ n ∧ n ≤ 65535) ∧ UInt16.ofNat n.toNat = port := by simpa [whole] using reads
            rcases inRange with ⟨⟨least, greatest⟩, rfl⟩
            have same : (UInt16.ofNat n.toNat).toNat = n.toNat := by
              rw [UInt16.toNat_ofNat']
              omega
            refine ⟨number, rfl, ?_, isPort_ofNat least greatest⟩
            rw [whole, same, Int.toNat_of_nonneg (by omega)]
          · rintro ⟨_, ⟨⟩, given, least, greatest⟩
            obtain rfl : n = port.toNat := Option.some.inj (whole.symm.trans given)
            have inRange : 1 ≤ (port.toNat : Int) ∧ (port.toNat : Int) ≤ 65535 := by omega
            simp [whole, inRange]

theorem isPort_port? {value : Option Yaml.Value} (found : port? value = some port) : IsPort port := by
  rcases port?_eq_some_iff.1 found with ⟨_, _, _, isPort⟩
  exact isPort

theorem hasPort_iff : port? (entry.get? name) = some port ↔ HasPort entry name port :=
  port?_eq_some_iff

theorem port?_eq_iff {found : Option UInt16} : port? (entry.get? name) = found ↔ Usable entry name found := by
  cases found with
  | some port =>
      rw [hasPort_iff]
      exact ⟨.port, fun | .port given => given⟩
  | none =>
      rw [Option.eq_none_iff_forall_ne_some]
      simp only [ne_eq, hasPort_iff]
      exact ⟨.nothing, fun | .nothing absent => absent⟩

theorem usesHostNetwork_iff : usesHostNetwork spec = true ↔ OnHost spec := by
  unfold usesHostNetwork OnHost
  cases spec.get? "hostNetwork" with
  | none => simp
  | some flag => cases given : flag.bool? <;> simp [given]

/-- What is made of an entry, by the two ports that it may have. -/
theorem map_identity_mapping? (hostNetwork : Bool) (entry : Yaml.Value) :
    (mapping? hostNetwork entry).map identity =
      match port? (entry.get? "hostPort"), port? (entry.get? "containerPort") with
      | some host, inside => some (some host, inside, protocol entry)
      | none, some port => some (if hostNetwork then some port else none, some port, protocol entry)
      | none, none => none := by
  unfold mapping?
  cases port? (entry.get? "hostPort") <;> cases port? (entry.get? "containerPort") <;> cases hostNetwork <;> rfl

theorem asks_iff {hostNetwork : Bool} :
    (mapping? hostNetwork entry).map identity = some key ↔ Asks (hostNetwork = true) entry key := by
  rw [map_identity_mapping?]
  constructor
  · intro made
    cases hostPort : port? (entry.get? "hostPort") with
    | some host =>
        rw [hostPort] at made
        cases made
        exact .bound (hasPort_iff.1 hostPort) (port?_eq_iff.1 rfl)
    | none =>
        cases port?_eq_iff.1 hostPort with
        | nothing unbound =>
            cases containerPort : port? (entry.get? "containerPort") with
            | none => rw [hostPort, containerPort] at made; cases made
            | some port =>
                rw [hostPort, containerPort] at made
                cases made
                have given := hasPort_iff.1 containerPort
                split
                · exact .shared unbound given ‹_›
                · exact .inside unbound given ‹_›
  · rintro (⟨hostPort, containerPort⟩ | ⟨unbound, containerPort, network⟩ | ⟨unbound, containerPort, network⟩)
    · rw [hasPort_iff.2 hostPort, port?_eq_iff.2 containerPort]
    · rw [port?_eq_iff.2 (.nothing unbound), hasPort_iff.2 containerPort]
      exact congrArg (fun host => some (host, _)) (if_pos network)
    · rw [port?_eq_iff.2 (.nothing unbound), hasPort_iff.2 containerPort]
      exact congrArg (fun host => some (host, _)) (if_neg network)

theorem mem_identity_requested_iff :
    key ∈ (requested spec).map identity ↔ ∃ entry, HasEntry spec entry ∧ Asks (OnHost spec) entry key := by
  unfold requested HasEntry
  rw [List.map_filterMap, List.mem_filterMap, ← usesHostNetwork_iff]
  simp only [asks_iff, List.mem_flatMap, mem_itemsUnder_iff]

/-! ## Canonical mappings -/

theorem canonical_mapping? {hostNetwork : Bool} {mapping : PortMapping}
    (asked : mapping? hostNetwork entry = some mapping) : mapping.Canonical := by
  have host : ∀ port, (port? (entry.get? "hostPort")).or
      (if hostNetwork then port? (entry.get? "containerPort") else none) = some port → IsPort port := by
    intro port chosen
    rcases Option.or_eq_some_iff.1 chosen with own | ⟨_, ofHost⟩
    · exact isPort_port? own
    · split at ofHost
      · exact isPort_port? ofHost
      · cases ofHost
  unfold mapping? at asked
  dsimp only at asked
  generalize (port? (entry.get? "hostPort")).or _ = hostPort at asked host
  split at asked
  · cases asked
  · rename_i given
    cases asked
    exact ⟨binds_of_given given, host, fun _ chosen => isPort_port? chosen, isProtocol_normalizeProtocol _⟩

theorem canonicalList_ports (documents : List Yaml.Value) : CanonicalList (ports documents) := by
  refine canonicalList_merge fun mapping member => ?_
  rcases List.mem_flatMap.1 member with ⟨document, _, inDocument⟩
  rcases List.mem_flatMap.1 inDocument with ⟨spec, _, inSpec⟩
  rcases List.mem_filterMap.1 inSpec with ⟨entry, _, asked⟩
  exact canonical_mapping? asked

/-! ## Documents -/

/-- The specification of a pod is wrapped in a template, within the specification of a document. -/
def Wraps (document outer spec : Yaml.Value) : Prop :=
  document.get? "spec" = some outer ∧
    ∃ template, outer.get? "template" = some template ∧ template.get? "spec" = some spec

/-- A document specifies a pod, itself or by the template of a workload. -/
inductive Specifies (document : Yaml.Value) : Yaml.Value → Prop
  | own {spec : Yaml.Value} (given : document.get? "spec" = some spec) : Specifies document spec
  | template {outer spec : Yaml.Value} (wraps : Wraps document outer spec) : Specifies document spec

/-- The specification in the template of another one. -/
def templateSpec? (spec : Yaml.Value) : Option Yaml.Value :=
  (spec.get? "template").bind fun template => template.get? "spec"

theorem wraps_iff {outer : Yaml.Value} :
    Wraps document outer spec ↔ document.get? "spec" = some outer ∧ templateSpec? outer = some spec :=
  and_congr_right fun _ => Option.bind_eq_some_iff.symm

theorem requested_eq_nil (silent : ∀ entry, ¬ HasEntry spec entry) : requested spec = [] := by
  have none : ∀ key, key ∉ (requested spec).map identity := fun key asked => by
    rcases mem_identity_requested_iff.1 asked with ⟨entry, has, _⟩
    exact silent entry has
  exact List.map_eq_nil_iff.1 (List.eq_nil_iff_forall_not_mem.2 none)

/-- What a document asks for.  To ask first whether it has containers makes no difference. -/
theorem flatMap_podSpecs (given : document.get? "spec" = some spec) :
    (podSpecs document).flatMap requested = requested spec ++ (templateSpec? spec).toList.flatMap requested := by
  unfold podSpecs
  rw [given]
  dsimp only
  rw [List.flatMap_append]
  congr 1
  split
  · exact List.append_nil _
  · rename_i unlisted
    refine (requested_eq_nil fun entry has => unlisted ?_).symm
    rcases has with ⟨name, known, _, ⟨list, _, found, _⟩, _⟩
    exact List.any_eq_true.2 ⟨name, known, Option.isSome_of_eq_some found⟩

theorem mem_identity_podSpecs_iff :
    key ∈ ((podSpecs document).flatMap requested).map identity ↔
      ∃ spec, Specifies document spec ∧ key ∈ (requested spec).map identity := by
  cases given : document.get? "spec" with
  | none =>
      have silent : podSpecs document = [] := by
        unfold podSpecs
        rw [given]
      rw [silent]
      refine iff_of_false List.not_mem_nil ?_
      rintro ⟨_, own | ⟨outerGiven, _⟩, _⟩
      · cases given.symm.trans own
      · cases given.symm.trans outerGiven
  | some outer =>
      rw [flatMap_podSpecs given, List.map_append, List.mem_append]
      constructor
      · rintro (own | inTemplate)
        · exact ⟨outer, .own given, own⟩
        · cases found : templateSpec? outer with
          | none => rw [found] at inTemplate; cases inTemplate
          | some spec =>
              rw [found, Option.toList_some, List.flatMap_singleton] at inTemplate
              exact ⟨spec, .template (wraps_iff.2 ⟨given, found⟩), inTemplate⟩
      · rintro ⟨spec, own | wraps, asked⟩
        · cases given.symm.trans own
          exact Or.inl asked
        · rcases wraps_iff.1 wraps with ⟨outerGiven, found⟩
          cases given.symm.trans outerGiven
          rw [found, Option.toList_some, List.flatMap_singleton]
          exact Or.inr asked

/-- A workload has the entries of its own specification, if there are any, and those of the pod that it wraps. -/
theorem ports_wrapped {pod workload outer : Yaml.Value} (given : pod.get? "spec" = some spec)
    (wraps : Wraps workload outer spec) (plain : templateSpec? spec = none) :
    ports [workload] = merge (merge [] (requested outer)) (ports [pod]) := by
  rcases wraps_iff.1 wraps with ⟨outerGiven, wrapped⟩
  unfold ports
  rw [List.flatMap_singleton, List.flatMap_singleton, flatMap_podSpecs outerGiven, flatMap_podSpecs given, wrapped,
    plain, Option.toList_some, Option.toList_none, List.flatMap_singleton, List.flatMap_nil, List.append_nil,
    merge_append, merge_merge_nil]

/-- The ports of a stream are those that the entries of its pods ask for, each of them once.  The ports of two streams
together are the merged ports of each.  A pod whose specification has no template in it gives the same ports by itself
as in the template of a workload, which come after those that the workload asks for otherwise, if there are any. -/
theorem ports_of_pods :
    (∀ documents key, key ∈ (ports documents).map identity ↔
      ∃ document ∈ documents, ∃ spec, Specifies document spec ∧
        ∃ entry, HasEntry spec entry ∧ Asks (OnHost spec) entry key) ∧
      (∀ documents, ((ports documents).map identity).Nodup) ∧
      (∀ first second, ports (first ++ second) = merge (ports first) (ports second)) ∧
      ∀ pod workload outer spec, pod.get? "spec" = some spec → Wraps workload outer spec →
        (∀ template, spec.get? "template" = some template → template.get? "spec" = none) →
          ports [workload] = merge (merge [] (requested outer)) (ports [pod]) ∧
            ((∀ entry, ¬ HasEntry outer entry) → ports [workload] = ports [pod]) := by
  refine ⟨fun documents key => ?_, fun documents => nodup_identity_merge _ List.nodup_nil, fun first second => ?_, ?_⟩
  · unfold ports
    rw [mem_identity_merge, List.map_nil, or_iff_right List.not_mem_nil, List.map_flatMap, List.mem_flatMap]
    simp only [mem_identity_podSpecs_iff, mem_identity_requested_iff]
  · unfold ports
    rw [List.flatMap_append, merge_append, merge_merge_nil]
  · intro pod workload outer spec given wraps plain
    have wrapped := ports_wrapped given wraps (Option.bind_eq_none_iff.2 plain)
    refine ⟨wrapped, fun silent => ?_⟩
    rw [wrapped, requested_eq_nil silent, merge_nil]
    exact merge_merge_nil [] _

/-- A pod on the network of the host, by itself and as the template of a deployment. -/
theorem ports_of_pods_deployment :
    let entry := Yaml.Value.mapping [(.text "containerPort", .whole 53), (.text "protocol", .text "UDP")]
    let container := Yaml.Value.mapping [(.text "ports", .sequence [entry])]
    let spec := Yaml.Value.mapping [(.text "hostNetwork", .bool true), (.text "containers", .sequence [container])]
    let pod := Yaml.Value.mapping [(.text "spec", spec)]
    let deployment := Yaml.Value.mapping [(.text "spec", .mapping [(.text "template", pod)])]
    ports [deployment] = ports [pod] ∧ ports [pod] = [⟨some 53, some 53, "udp", none⟩] := by
  intro entry container spec pod deployment
  have silent : ∀ entry, ¬ HasEntry (.mapping [(.text "template", pod)]) entry := by
    rintro entry ⟨name, known, _, ⟨_, _, found, _⟩, _⟩
    rcases List.mem_pair.1 known with rfl | rfl <;> cases found
  have wraps : Wraps deployment (.mapping [(.text "template", pod)]) spec := ⟨rfl, pod, rfl, rfl⟩
  have plain : ∀ template, spec.get? "template" = some template → template.get? "spec" = none := nofun
  refine ⟨(ports_of_pods.2.2.2 pod deployment _ spec rfl wraps plain).2 silent, ?_⟩
  decide +kernel +zetaReduce

end Workload
end Fleet
