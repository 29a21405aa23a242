import Fleet.Proofs.Codec.Rereading
import Fleet.Proofs.Node.Ports
import Fleet.Proofs.Port.Feedback
import Fleet.Proofs.Port.Numbers
import Fleet.Proofs.Report.Cleaned

namespace Fleet

open Codec Record

/-!
# Reports in the form of the fleet

What was read of a report is cleaned: names are a list, networks are a list, labels are texts, ports are mappings
of which none is repeated, and numbers and texts that say nothing are gone.  Written with the names of the fleet, it
is read again without a change, in whatever order the fields of its objects arrive, as long as no port has an
address of blanks.
-/

variable {given : Json}

/-! ## Containers -/

namespace Report

/-- A container as a report gives it. -/
structure Cleaned (container : Container) : Prop where
  ports : PortMapping.CanonicalList container.ports
  hostNetwork : container.networks.contains "host" = true → container.isHostNetwork = true
  podId : container.podId ≠ some ""
  podName : container.podName ≠ some ""
  pid : ∀ pid ∈ container.pid, 1 ≤ pid.toNat
  verifiedDomains : container.verifiedDomains = none

theorem nonEmpty_ne (text : Option String) : nonEmpty text ≠ some "" := by
  intro same
  have solid := (Option.filter_eq_some_iff.1 same).2
  cases solid

theorem nonEmpty_eq_self {text : Option String} (solid : text ≠ some "") : nonEmpty text = text := by
  cases text with
  | none => rfl
  | some text =>
      have named : (!text.isEmpty) = true := by
        rw [Bool.not_eq_true', Bool.eq_false_iff]
        exact fun empty => solid (congrArg some (String.isEmpty_iff.1 empty))
      rw [nonEmpty, Option.filter_some, if_pos named]

theorem le_of_processId {n : Int} {pid : UInt32} (read : processId n = some pid) : 1 ≤ pid.toNat := by
  unfold processId at read
  split at read
  · rename_i range
    cases read
    have bound : n < 4294967296 := range.2
    rw [UInt32.toNat_ofNat']
    omega
  · cases read

theorem processId_ofNat {pid : UInt32} (positive : 1 ≤ pid.toNat) : processId (Int.ofNat pid.toNat) = some pid := by
  have range : 1 ≤ Int.ofNat pid.toNat ∧ Int.ofNat pid.toNat < Int.ofNat (Number.twoTo 32) :=
    ⟨Int.ofNat_le.2 positive, Int.ofNat_lt.2 pid.toNat_lt⟩
  rw [processId, if_pos range]
  exact congrArg some UInt32.ofNat_toNat

theorem gives_cleaned : containerRecord.Gives Cleaned := by
  unfold containerRecord
  iterate 10 apply Record.gives_seq
  apply Record.gives_map
  intro id names image state ports labels networks isHostNetwork podId podName pid
  refine ⟨canonicalList_portsOf _, fun host => ?_, nonEmpty_ne _, nonEmpty_ne _, fun process given => ?_, rfl⟩
  · change (networks.getD []).contains "host" = true at host
    exact Bool.or_eq_true_iff.2 (.inr host)
  · rcases Option.bind_eq_some_iff.1 given with ⟨n, _, read⟩
    exact le_of_processId read

/-- What is read of the fields of a cleaned container is the container. -/
theorem container_eq_self {whole : Container} (cleaned : Cleaned whole) {ports : Json}
    (read : portsOf (some ports) = whole.ports) :
    container whole.id (some whole.names) (some whole.image) (some whole.state) (some ports)
      (some (whole.labels.mapValues Json.string)) (some whole.networks) (some whole.isHostNetwork) whole.podId
      whole.podName (whole.pid.map fun pid => Int.ofNat pid.toNat) = whole := by
  have labels : (whole.labels.mapValues Json.string).mapValues labelText = whole.labels := by
    rw [Keyed.mapValues_mapValues]
    exact Keyed.ext (List.map_id _)
  have hostNetwork : (whole.isHostNetwork || whole.networks.contains "host") = whole.isHostNetwork := by
    cases among : whole.networks.contains "host" with
    | false => exact Bool.or_false _
    | true => rw [cleaned.hostNetwork among, Bool.or_true]
  have process : (whole.pid.map fun pid => Int.ofNat pid.toNat).bind processId = whole.pid := by
    cases given : whole.pid with
    | none => rfl
    | some pid => exact processId_ofNat (cleaned.pid pid given)
  have domains := cleaned.verifiedDomains
  have podId := nonEmpty_eq_self cleaned.podId
  have podName := nonEmpty_eq_self cleaned.podName
  simp only [container, Option.getD_some, read, labels, hostNetwork, process, podId, podName]
  rw [← domains]

theorem accepts_ports {whole : Container} (cleaned : Cleaned whole)
    (addressed : ∀ mapping ∈ whole.ports, ¬ mapping.HasBlankAddress) :
    Accepts document.decode (PortMapping.codec.list.encode whole.ports) fun ports =>
      portsOf (some ports) = whole.ports := by
  refine ⟨nofun, fun given alike => ⟨given, rfl, ?_⟩⟩
  rcases alike.exists_items with ⟨items, rfl, each⟩
  exact cleaned.ports.normalizeAll_written addressed each

theorem accepts_pid (pid : UInt32) :
    Accepts signed64.decode (word32.encode pid) (· = Int.ofNat pid.toNat) := by
  refine accepts_of_isLeaf trivial nofun (if_pos ⟨?_, ?_⟩)
  · exact Int.le_trans (by decide) (Int.natCast_nonneg _)
  · exact Int.le_trans (Int.ofNat_le.2 (Nat.le_of_lt pid.toNat_lt)) (by decide)

theorem oneOrMany_texts (texts : List String) : oneOrMany (text.list.encode texts) = .ok texts := by
  have many : text.list.decode (text.list.encode texts) = .ok texts := Faithful.decode_encode texts
  unfold oneOrMany firstOf
  rw [many]
  rfl

theorem networks_texts (texts : List String) : networks (text.list.encode texts) = .ok texts := by
  have many : text.list.decode (text.list.encode texts) = .ok texts := Faithful.decode_encode texts
  unfold networks firstOf
  rw [many]
  rfl

theorem rereads_container {whole : Container} (cleaned : Cleaned whole)
    (addressed : ∀ mapping ∈ whole.ports, ¬ mapping.HasBlankAddress) :
    Rereads containerRecord Container.record whole (· = whole) := by
  unfold containerRecord Container.record
  refine .unwritten (if_pos (by rw [cleaned.verifiedDomains]; rfl)) ?_
  refine .seq (rereads_may_optional fun pid _ => accepts_pid pid) ?_
  refine .seq (rereads_may_optional fun podName _ => accepts_exact text (id podName) trivial) ?_
  refine .seq (rereads_may_optional fun podId _ => accepts_exact text (id podId) trivial) ?_
  refine .seq (rereads_may rfl (accepts_exact flag whole.isHostNetwork trivial)) ?_
  refine .seq (rereads_may rfl (accepts_texts (networks_texts whole.networks))) ?_
  refine .seq (rereads_may rfl (accepts_keyed_texts whole.labels)) ?_
  refine .seq (rereads_may rfl (accepts_ports cleaned addressed)) ?_
  refine .seq (rereads_may rfl (accepts_exact text whole.state trivial)) ?_
  refine .seq (rereads_may rfl (accepts_exact text whole.image trivial)) ?_
  refine .seq (rereads_may rfl (accepts_texts (oneOrMany_texts whole.names))) ?_
  refine .map Container.mk ((rereads_need rfl (accepts_exact text whole.id trivial)).imp ?_)
  rintro _ rfl _ ⟨_, rfl, rfl⟩ _ ⟨_, rfl, rfl⟩ _ ⟨_, rfl, rfl⟩ _ ⟨ports, rfl, read⟩ _ ⟨_, rfl, rfl⟩ _ ⟨_, rfl, rfl⟩
    _ ⟨_, rfl, rfl⟩ _ rfl _ rfl _ rfl
  rw [Option.map_id, id, id]
  exact container_eq_self cleaned read

theorem readContainer_written {whole : Container} (cleaned : Cleaned whole)
    (addressed : ∀ mapping ∈ whole.ports, ¬ mapping.HasBlankAddress)
    (alike : given.Alike (Container.codec.encode whole)) :
    readContainer given = .ok whole := by
  rcases (rereads_container cleaned addressed).decode (by decide +kernel) alike with ⟨_, decoded, rfl⟩
  rw [readContainer, decoded]
  rfl

/-! ## Routes -/

/-- A route as a report gives it. -/
structure CleanedRoute (route : Route) : Prop where
  host : Text.trimmed route.host = route.host
  named : route.host ≠ ""
  targetService : Text.trimmed route.targetService = route.targetService
  targetPort : ∀ port ∈ route.targetPort, IsPort port

theorem isPort_routePort {number : LooseNumber} {port : UInt16} (read : routePort number = some port) :
    IsPort port := by
  unfold routePort at read
  simp only at read
  split at read
  · split at read
    · rename_i range
      cases read
      exact isPort_ofNat range.1 range.2
    · cases read
  · cases read

theorem cleanedRoute_of_readRoute {item : Json} {route : Route} (read : readRoute item = .ok route) :
    CleanedRoute route := by
  have gives : routeRecord.Gives fun route => route.host ≠ "" → CleanedRoute route := by
    unfold routeRecord
    iterate 3 apply Record.gives_seq
    apply Record.gives_map
    intro host targetService targetPort ssl named
    refine ⟨Text.trimmed_trimmed host, named, Text.trimmed_trimmed targetService, fun port given => ?_⟩
    rcases Option.bind_eq_some_iff.1 given with ⟨number, _, found⟩
    exact isPort_routePort found
  unfold readRoute at read
  split at read
  · cases read
  · rename_i decoded
    split at read
    · cases read
    · rename_i solid
      cases read
      exact gives.decode decoded fun empty => solid (String.isEmpty_iff.2 empty)

theorem rereads_route {whole : Route} (cleaned : CleanedRoute whole) :
    Rereads routeRecord Route.record whole (· = whole) := by
  unfold routeRecord Route.record
  refine .seq (rereads_may rfl (accepts_exact flag whole.ssl trivial)) ?_
  refine .seq (rereads_may_optional fun port _ =>
    accepts_of_isLeaf trivial nofun (PortMapping.decode_word16 port)) ?_
  refine .seq (rereads_need rfl (accepts_exact text whole.targetService trivial)) ?_
  refine .map Route.mk ((rereads_need rfl (accepts_exact text whole.host trivial)).imp ?_)
  rintro _ rfl _ rfl _ rfl _ ⟨_, rfl, rfl⟩
  have targetPort : (whole.targetPort.map fun port => LooseNumber.whole (Int.ofNat port.toNat)).bind routePort =
      whole.targetPort := by
    cases given : whole.targetPort with
    | none => rfl
    | some port =>
        change routePort (.whole (Int.ofNat port.toNat)) = some port
        rw [LooseNumber.routePort_whole, toOption_eq_some_iff]
        exact PublishSpec.portInRange_ofNat_eq_ok_iff.2 ⟨cleaned.targetPort port given, UInt16.ofNat_toNat.symm⟩
  rw [route, cleaned.host, cleaned.targetService, targetPort]
  rfl

theorem readRoute_written {whole : Route} (cleaned : CleanedRoute whole)
    (alike : given.Alike (Route.codec.encode whole)) :
    readRoute given = .ok whole := by
  rcases (rereads_route cleaned).decode (by decide +kernel) alike with ⟨_, decoded, rfl⟩
  unfold readRoute
  rw [decoded]
  exact if_neg fun empty => cleaned.named (String.isEmpty_iff.1 empty)

/-! ## Reports -/

/-- What an object has under a name is found in any other one that is alike. -/
theorem rel_field?_of_alike {fields written : List (String × Json)}
    (alike : (Json.object fields).Alike (.object written)) (once : (written.map Prod.fst).Nodup) (name : String) :
    Option.Rel Json.Alike ((Json.object fields).field? name) ((Json.object written).field? name) := by
  have under : ∀ fields : List (String × Json), (Json.object fields).field? name = (valuesUnder name fields).head? := by
    intro fields
    induction fields with
    | nil => rfl
    | cons field rest inductionHypothesis =>
        rw [valuesUnder_cons]
        by_cases here : field.1 = name
        · simp [Json.field?, here]
        · simpa [Json.field?, here] using inductionHypothesis
  rcases alike.exists_fields with ⟨_, moved, same, order, each⟩
  cases same
  have movedOnce : (moved.map Prod.fst).Nodup := Json.keys_eq_of_alike each ▸ once
  rw [under, under, valuesUnder_eq_of_perm order movedOnce]
  have values := forall₂_valuesUnder each name
  generalize valuesUnder name moved = found at values ⊢
  generalize valuesUnder name written = wanted at values ⊢
  cases values with
  | nil => exact .none
  | cons first _ => exact .some first

section Field

variable {α : Type} {fields written : List (String × Json)} {name : String} {read : Json → Field α}

theorem fieldOf_of_alike (alike : (Json.object fields).Alike (.object written)) (once : (written.map Prod.fst).Nodup)
    {value : Json} (present : (Json.object written).field? name = some value) {result : Field α}
    (reads : ∀ given : Json, given.Alike value → read given = result) :
    fieldOf (.object fields) name read = result := by
  have found := rel_field?_of_alike alike once name
  rw [present] at found
  unfold fieldOf
  generalize (Json.object fields).field? name = given at found ⊢
  cases found with
  | some alike => exact reads _ alike

theorem field?_eq_none_of_alike (alike : (Json.object fields).Alike (.object written))
    (once : (written.map Prod.fst).Nodup) (nothing : (Json.object written).field? name = none) :
    (Json.object fields).field? name = none := by
  have found := rel_field?_of_alike alike once name
  rw [nothing] at found
  generalize (Json.object fields).field? name = given at found ⊢
  cases found
  rfl

end Field

theorem listField_written {α : Type} {field : String} {read : Json → Except Problem α} {write : α → Json}
    {entries : List α} (each : ∀ entry ∈ entries, ∀ given : Json, given.Alike (write entry) → read given = .ok entry)
    (alike : given.Alike (.array (entries.map write))) : listField field read given = (some entries, []) := by
  rcases alike.exists_items with ⟨items, rfl, arrived⟩
  have reads := Json.forall₂_read each arrived
  refine Prod.ext (congrArg some (Json.filterMap_read reads)) (complaints_eq_nil fun entry member => ?_)
  rcases List.mem_map.1 member with ⟨item, itemMember, rfl⟩
  exact Json.isOk_read reads (List.fst_mem_of_mem_zipIdx itemMember)

/-- A container that is read of a report is cleaned. -/
theorem cleaned_of_read {document : Json} {containers : List Container} {container : Container}
    (given : (read document).1.containers = some containers) (member : container ∈ containers) : Cleaned container :=
  holds_container gives_cleaned given member

/-- A route that is read of a report is cleaned, under whichever name it is sent. -/
theorem cleanedRoute_of_read {document : Json} {routes : List Route} {route : Route}
    (given : (read document).1.proxyRoutes = some routes) (member : route ∈ routes) : CleanedRoute route := by
  cases document with
  | object fields =>
      change (routesOf (.object fields)).1 = some routes at given
      rcases mem_fieldOf_listField given member with ⟨item, found⟩
      exact cleanedRoute_of_readRoute found
  | _ => cases given

/-- Containers and routes that are read of any reports and written with the names of the fleet are read as they are
and without a warning, in whatever order the fields of the objects arrive, if no port has an address of blanks. -/
theorem read_written {containers : List Container} {routes : List Route}
    (reported : ∀ container ∈ containers, ∃ document listed,
      (read document).1.containers = some listed ∧ container ∈ listed)
    (addressed : ∀ container ∈ containers, ∀ mapping ∈ container.ports, ∀ ip ∈ mapping.hostIp,
      Text.isBlankText ip = false)
    (served : ∀ route ∈ routes, ∃ document listed, (read document).1.proxyRoutes = some listed ∧ route ∈ listed)
    {document : Json}
    (written : document.Alike (.object [("containers", .array (containers.map Container.codec.encode)),
      ("proxyRoutes", .array (routes.map Route.codec.encode))])) :
    read document = ({ silent with containers := some containers, proxyRoutes := some routes }, []) := by
  have container : ∀ container ∈ containers, ∀ given : Json, given.Alike (Container.codec.encode container) →
      readContainer given = .ok container := by
    intro container member given alike
    rcases reported container member with ⟨_, listed, read, inside⟩
    refine readContainer_written (cleaned_of_read read inside) (fun mapping there => ?_) alike
    rintro ⟨ip, present, blank⟩
    cases (addressed container member mapping there ip present).symm.trans blank
  have route : ∀ route ∈ routes, ∀ given : Json, given.Alike (Route.codec.encode route) →
      readRoute given = .ok route := by
    intro route member given alike
    rcases served route member with ⟨_, listed, read, inside⟩
    exact readRoute_written (cleanedRoute_of_read read inside) alike
  obtain ⟨fields, _, rfl, _⟩ := written.exists_fields
  have once : ["containers", "proxyRoutes"].Nodup := by decide
  have others : ∀ name, (Json.object [("containers", .array (containers.map Container.codec.encode)),
      ("proxyRoutes", .array (routes.map Route.codec.encode))]).field? name = none →
        (Json.object fields).field? name = none := fun name => field?_eq_none_of_alike written once
  have containersField : fieldOf (.object fields) "containers" (listField "containers" readContainer) =
      (some containers, []) :=
    fieldOf_of_alike written once rfl fun _ => listField_written container
  have routesField : routesOf (.object fields) = (some routes, []) :=
    (routesOf_of_single (others "proxy" rfl)).trans
      (fieldOf_of_alike written once rfl fun _ => listField_written route)
  rw [read, containersField, routesField, fieldOf, others "services" rfl, fieldOf, others "volumes" rfl, fieldOf,
    others "files" rfl, fieldOf, others "resources" rfl, fieldOf, others "initialSyncComplete" rfl]
  rfl

/-- A container and a route in the spelling of an engine, written by the fleet with all fields the other way round. -/
theorem read_written_of_engine :
    let report : Json := .object
      [("containers", .array [.object
        [("Id", .string "c1"), ("Names", .string "/web"), ("Networks", .object [("host", .object [])]),
          ("Labels", .object [("weight", .ofInt 2)]), ("Pod", .string ""), ("Pid", .ofInt (-1)),
          ("Ports", .array [.string "127.0.0.1:8080:80/TCP", .ofInt 0, .string "8080:80"])]]),
        ("proxy", .array [.object
          [("host", .string " web.example "), ("target_service", .string "10.0.0.1"), ("targetPort", .string "80")]])]
    let container : Container :=
      ⟨"c1", ["/web"], "", "", [⟨some 8080, some 80, "tcp", some "127.0.0.1"⟩], .ofList [("weight", "2")], ["host"],
        true, none, none, none, none⟩
    let route : Route := ⟨"web.example", "10.0.0.1", some 80, false⟩
    let document : Json := .object
      [("proxyRoutes", .array [.object (Route.record.write route).reverse]),
        ("containers", .array [.object (Container.record.write container).reverse])]
    (read report).1.containers = some [container] ∧ (read report).1.proxyRoutes = some [route] ∧
      read document = ({ silent with containers := some [container], proxyRoutes := some [route] }, []) := by
  intro report container route document
  have reported : (read report).1.containers = some [container] := by decide +kernel +zetaReduce
  have served : (read report).1.proxyRoutes = some [route] := by decide +kernel +zetaReduce
  have addressed : ∀ mapping ∈ container.ports, ∀ ip ∈ mapping.hostIp, Text.isBlankText ip = false := by
    decide +kernel +zetaReduce
  have reversed : ∀ fields : List (String × Json), (Json.object fields.reverse).Alike (.object fields) := fun fields =>
    .object (List.reverse_perm fields) rfl (List.forall₂_same.2 fun value _ => .same value)
  refine ⟨reported, served, ?_⟩
  exact read_written (List.forall_mem_singleton.2 ⟨report, _, reported, List.mem_cons_self⟩)
    (List.forall_mem_singleton.2 addressed) (List.forall_mem_singleton.2 ⟨report, _, served, List.mem_cons_self⟩)
    (.object (.swap _ _ []) rfl
      (.cons (.array (.cons (reversed _) .nil)) (.cons (.array (.cons (reversed _) .nil)) .nil)))

end Report
end Fleet
