import Fleet.Domain
import Fleet.Proofs.Keyed
import Fleet.Proofs.Numeral
import Fleet.Proofs.Text

namespace Fleet

/-!
# Which domains a port serves

The domains are found in an index of texts: a target is entered under its own text and, if it has no port,
under the text with the port beside it, and a port of a host is looked up under every address of the host,
written together with the port.  What this comes to is said here without an index.  A route leads to a port
when its target is one of the addresses with the port, or one of the addresses alone, and the port stands
beside it.

That these are the only coincidences of texts rests on what follows the last colon.  A text with a port is
taken apart in one way, because a number contains no colon, so that equal texts have equal addresses and
equal ports.  For the same reason no target that has a port of its own is mistaken for an address to which
the port beside it belongs.
-/

namespace Domain

/-! ## Addresses and ports -/

/-- The addresses at which a proxy may reach a host: those that every host has for itself, and those that
others know it by. -/
def addresses (nodeIps : List String) : List String :=
  ["127.0.0.1", "localhost", "0.0.0.0"] ++ nodeIps

/-- An address as hosts have them: a text of small letters, digits and points.  Nothing in it has a meaning in
a target. -/
structure Plain (address : String) : Prop where
  nonempty : address ≠ ""
  characters : ∀ c ∈ address.toList, c = '.' ∨ c.isDigit = true ∨ c.isLower = true

/-- Whether a character has no place in an address. -/
def Foreign (mark : Char) : Prop :=
  mark ≠ '.' ∧ mark.isDigit = false ∧ mark.isLower = false

theorem Plain.not_mem {address : String} (plain : Plain address) {mark : Char} (foreign : Foreign mark) :
    mark ∉ address.toList := by
  intro member
  rcases plain.characters mark member with point | digit | letter
  · exact foreign.1 point
  · exact Bool.false_ne_true (foreign.2.1.symm.trans digit)
  · exact Bool.false_ne_true (foreign.2.2.symm.trans letter)

/-- An address is its own lower case. -/
theorem Plain.lowered_eq {address : String} (plain : Plain address) :
    Text.lowered address.toList = address.toList := by
  refine Text.lowered_eq_self fun c member => ?_
  rcases plain.characters c member with rfl | digit | letter
  · decide
  · exact Text.isUpper_of_isDigit digit
  · exact Text.isUpper_of_isLower letter

/-- Whether no port stands at the end of a target. -/
def PortFree (target : String) : Prop :=
  ∀ address port, target.toList = address ++ ':' :: port → Number.word16? port = none

theorem candidates_eq (nodeIps : List String) (port : UInt16) :
    candidates nodeIps port = (addresses nodeIps).map fun address => atPort address port := rfl

theorem toList_atPort (address : String) (port : UInt16) :
    (atPort address port).toList = address.toList ++ ':' :: (toString port.toNat).toList := by
  simp [atPort]

theorem hasPort_eq_false_iff {target : String} : hasPort target = false ↔ PortFree target := by
  unfold hasPort PortFree
  constructor
  · intro none address port split
    cases reads : Number.word16? port with
    | none => rfl
    | some word =>
        have absent : ':' ∉ port := Number.not_mem_of_word16? reads (by decide) (by decide)
        simp [Text.cutLast_eq_some_iff.2 ⟨split, absent⟩, reads] at none
  · intro free
    cases cut : Text.cutLast ':' target.toList with
    | none => rfl
    | some parts => simp [free parts.1 parts.2 (Text.eq_of_cutLast cut)]

/-- A text with a port is taken apart in one way. -/
theorem cutLast_atPort (address : String) (port : UInt16) :
    Text.cutLast ':' (atPort address port).toList = some (address.toList, (toString port.toNat).toList) := by
  rw [toList_atPort]
  exact Text.cutLast_append ':' _ (Number.not_mem_of_word16? (Number.word16?_toString port) (by decide) (by decide))

@[simp] theorem hasPort_atPort (address : String) (port : UInt16) : hasPort (atPort address port) = true := by
  rw [hasPort, cutLast_atPort]
  exact congrArg Option.isSome (Number.word16?_toString port)

theorem atPort_inj {address other : String} {port otherPort : UInt16} :
    atPort address port = atPort other otherPort ↔ address = other ∧ port = otherPort := by
  constructor
  · intro same
    have cuts := cutLast_atPort address port
    rw [same, cutLast_atPort] at cuts
    obtain ⟨sameAddress, samePort⟩ := Prod.mk.inj (Option.some.inj cuts)
    refine ⟨String.toList_inj.1 sameAddress.symm, ?_⟩
    have reads := Number.word16?_toString port
    rw [← samePort, Number.word16?_toString] at reads
    exact (Option.some.inj reads).symm
  · rintro ⟨rfl, rfl⟩
    rfl

theorem Plain.not_mem_atPort {address : String} (plain : Plain address) (port : UInt16) {mark : Char}
    (foreign : Foreign mark) (noColon : mark ≠ ':') : mark ∉ (atPort address port).toList := by
  rw [toList_atPort]
  intro member
  rcases List.mem_append.1 member with inside | behind
  · exact plain.not_mem foreign inside
  · rcases List.mem_cons.1 behind with colon | digit
    · exact noColon colon
    · exact Bool.false_ne_true (foreign.2.1.symm.trans (Number.isDigit_of_mem_toString digit))

/-! ## Targets -/

/-- Whether a route leads to a port of a host: its target names an address of the host with the port, or
the address alone, and the port stands beside it. -/
def LeadsTo (route : Route) (nodeIps : List String) (port : UInt16) : Prop :=
  ∃ address ∈ addresses nodeIps,
    normalizeTarget route.targetService = atPort address port ∨
      PortFree (normalizeTarget route.targetService) ∧ normalizeTarget route.targetService = address ∧
        route.targetPort = some port

theorem mem_targetsOf_iff {route : Route} {address : String} (named : address ≠ "") {port : UInt16} :
    atPort address port ∈ targetsOf route ↔
      normalizeTarget route.targetService = atPort address port ∨
        PortFree (normalizeTarget route.targetService) ∧ normalizeTarget route.targetService = address ∧
          route.targetPort = some port := by
  rw [← hasPort_eq_false_iff]
  unfold targetsOf
  generalize normalizeTarget route.targetService = target
  simp only []
  by_cases blank : target.isEmpty = true
  · have nothing : target = "" := String.isEmpty_iff.1 blank
    have noPort : "" ≠ atPort address port := fun same => by
      have texts := congrArg String.toList same
      rw [toList_atPort] at texts
      simp at texts
    rw [if_pos blank, nothing]
    simp [noPort, named.symm]
  · rw [if_neg blank]
    cases port? : hasPort target with
    | true => simp [eq_comm]
    | false =>
        have bare : target ≠ atPort address port := fun same => by simp [same] at port?
        cases beside : route.targetPort with
        | none => simp [bare.symm, bare]
        | some other => simp [bare.symm, bare, atPort_inj, eq_comm]

/-! ## The index -/

theorem mem_enter_iff {index : Index} {entry : String × String} {key host : String} :
    host ∈ ((enter index entry).get? key).getD [] ↔ host ∈ (index.get? key).getD [] ∨ entry = (key, host) := by
  unfold enter Keyed.alter
  rw [Keyed.get?_insert]
  by_cases same : entry.1 = key
  · subst same
    rw [if_pos rfl, Option.getD_some, mem_addNew]
    simp [Prod.ext_iff, eq_comm]
  · rw [if_neg same]
    simp [Prod.ext_iff, same]

theorem mem_foldl_enter_iff {index : Index} {entries : List (String × String)} {key host : String} :
    host ∈ ((entries.foldl enter index).get? key).getD [] ↔
      host ∈ (index.get? key).getD [] ∨ (key, host) ∈ entries := by
  induction entries generalizing index with
  | nil => simp
  | cons entry rest inductionHypothesis =>
      rw [List.foldl_cons, inductionHypothesis, mem_enter_iff, List.mem_cons, or_assoc, eq_comm (a := entry)]

/-- Under a target the index has the host names of the routes that are found there. -/
theorem mem_index_iff {routes : List Route} {target host : String} :
    host ∈ ((index routes).get? target).getD [] ↔ ∃ route ∈ routes, target ∈ targetsOf route ∧ route.host = host := by
  unfold index
  rw [mem_foldl_enter_iff, List.mem_flatMap]
  constructor
  · rintro (nothing | ⟨route, member, entered⟩)
    · cases nothing
    · rcases List.mem_map.1 entered with ⟨found, foundMember, same⟩
      obtain ⟨rfl, rfl⟩ := Prod.mk.inj same
      exact ⟨route, member, foundMember, rfl⟩
  · rintro ⟨route, member, foundMember, rfl⟩
    exact Or.inr ⟨route, member, List.mem_map.2 ⟨target, foundMember, rfl⟩⟩

/-! ## The domains of an entity -/

theorem mem_sorted_iff {texts : List String} {text : String} : text ∈ sorted texts ↔ text ∈ texts := by
  unfold sorted
  rw [Keyed.mem_keys_ofList, List.map_map]
  simp

theorem increasing_sorted (texts : List String) : (sorted texts).Pairwise (· < ·) := by
  unfold sorted Keyed.keys
  exact List.pairwise_map.2 (Keyed.increasing _)

/-- Whether a host name is served at one of the ports of a host: a route for it leads there. -/
def Serves (routes : List Route) (nodeIps : List String) (ports : List PortMapping) (host : String) : Prop :=
  ∃ route ∈ routes, route.host = host ∧
    ∃ mapping ∈ ports, ∃ port, mapping.hostPort = some port ∧ LeadsTo route nodeIps port

/-- The domains are the host names that are served, in strictly increasing order, or nothing if there are
none. -/
structure Exact (routes : List Route) (nodeIps : List String) (ports : List PortMapping)
    (domains : Option (List String)) : Prop where
  mem_iff : ∀ host, host ∈ domains.getD [] ↔ Serves routes nodeIps ports host
  increasing : (domains.getD []).Pairwise (· < ·)
  absent_iff : domains = none ↔ ¬ ∃ host, Serves routes nodeIps ports host

/-- Looking up the candidates finds the host names that are served.  An address without a name would be the
only one to be mistaken for a target that says nothing. -/
theorem mem_found_iff {routes : List Route} {nodeIps : List String} {ports : List PortMapping} {host : String}
    (named : ∀ address ∈ addresses nodeIps, address ≠ "") :
    host ∈ (((ports.filterMap PortMapping.hostPort).flatMap (candidates nodeIps)).flatMap fun address =>
        ((index routes).get? address).getD []) ↔ Serves routes nodeIps ports host := by
  simp only [List.mem_flatMap, candidates_eq, List.mem_map, List.mem_filterMap, mem_index_iff]
  constructor
  · rintro ⟨_, ⟨port, ⟨mapping, mappingMember, shown⟩, address, known, rfl⟩, route, routeMember, found, sameHost⟩
    exact ⟨route, routeMember, sameHost, mapping, mappingMember, port, shown, address, known,
      (mem_targetsOf_iff (named address known)).1 found⟩
  · rintro ⟨route, routeMember, sameHost, mapping, mappingMember, port, shown, address, known, leads⟩
    exact ⟨_, ⟨port, ⟨mapping, mappingMember, shown⟩, address, known, rfl⟩, route, routeMember,
      (mem_targetsOf_iff (named address known)).2 leads, sameHost⟩

theorem exact_verified {routes : List Route} {nodeIps : List String} {ports : List PortMapping}
    (named : ∀ address ∈ addresses nodeIps, address ≠ "") :
    Exact routes nodeIps ports (verified (index routes) nodeIps ports) := by
  have found := fun host => @mem_found_iff routes nodeIps ports host named
  unfold verified
  revert found
  generalize (((ports.filterMap PortMapping.hostPort).flatMap (candidates nodeIps)).flatMap fun address =>
    ((index routes).get? address).getD []) = hosts
  intro found
  cases hosts with
  | nil =>
      have nothing : ¬ ∃ host, Serves routes nodeIps ports host := fun ⟨host, served⟩ =>
        List.not_mem_nil ((found host).2 served)
      exact ⟨fun host => found host, List.Pairwise.nil, iff_of_true rfl nothing⟩
  | cons first rest =>
      have something : ∃ host, Serves routes nodeIps ports host := ⟨first, (found first).1 List.mem_cons_self⟩
      refine ⟨fun host => mem_sorted_iff.trans (found host), increasing_sorted _, ?_⟩
      exact iff_of_false (fun absent => nomatch absent) (not_not_intro something)

end Domain
end Fleet
