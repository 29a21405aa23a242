import Fleet.Proofs.Bundle.Summary
import Fleet.Proofs.Node.Identity
import Fleet.Proofs.Node.Retention
import Fleet.Proofs.Report.Dependencies
import Fleet.Proofs.Store.Nodes

namespace Fleet

/-!
# Summaries of the bundles in a store

The services of a node are those of the list that its agent sent last, and keep the dependencies that the list gives for
them.  So what a bundle tells can be said of what was written: of the texts in the unit files that the node has, and of
those in the entries of that list, however either spells the units.
-/

namespace Report

/-- The list of services in a report, if it has one. -/
def serviceEntries (document : Json) : Option (List Json) :=
  match document.field? "services" with
  | some (.array entries) => some entries
  | _ => none

/-- The entries of the list of services that came last, but for those that cannot be read. -/
def lastServiceEntries (documents : List Json) : List Json :=
  (((documents.filterMap serviceEntries).getLast?).getD []).filter fun entry => (readService entry).isOk

theorem services_read (document : Json) :
    (read document).1.services =
      (serviceEntries document).map fun entries => entries.filterMap fun entry => (readService entry).toOption := by
  cases document with
  | object fields =>
      change (fieldOf (.object fields) "services" (listField "services" readService)).1 = _
      unfold fieldOf serviceEntries
      cases (Json.object fields).field? "services" with
      | none => rfl
      | some value => cases value <;> rfl
  | _ => rfl

theorem last_services (documents : List Json) :
    last Report.services (documents.map fun document => (read document).1) =
      (((documents.filterMap serviceEntries).getLast?).getD []).filterMap fun entry =>
        (readService entry).toOption := by
  unfold last
  simp only [List.filterMap_map, Function.comp_def, services_read, ← List.map_filterMap, List.getLast?_map]
  cases (documents.filterMap serviceEntries).getLast? <;> rfl

/-- The services that were listed last are read from their entries. -/
theorem forall₂_lastServiceEntries (documents : List Json) :
    List.Forall₂ (fun entry service => readService entry = .ok service) (lastServiceEntries documents)
      (last Report.services (documents.map fun document => (read document).1)) := by
  rw [last_services]
  exact forall₂_filter_isOk readService _

end Report

namespace Node

/-- The services of a node are kept from the list that came last. -/
theorem lasting_keeps :
    Lasting fun reports node => List.Forall₂ Service.Keeps (Report.last Report.services reports) node.services where
  unknown := .nil
  receive := by
    intro now document reports node keeps
    have retained := (retains_receive now (Report.read document).1 node).services
    rw [Report.last_append]
    cases given : (Report.read document).1.services with
    | none =>
        rw [given] at retained
        exact Service.forall₂_keeps_trans keeps retained
    | some services =>
        rw [given] at retained
        exact retained
  setConnected := fun _ _ _ keeps => keeps
  mapNode := fun _ _ _ keeps =>
    List.forall₂_map_right_iff.2 (keeps.imp fun _ _ kept => ⟨kept.facts, kept.containers⟩)

/-- A service depends on a unit by what is written: in its unit file, or in its entry of a list of services. -/
def AsksInWriting (node : Node) (entries : List Json) (i : Fin node.services.length) (reason : DependencyReason)
    (unit : String) : Prop :=
  ∃ list, Unit.Names list unit ∧
    ((∃ file, Unit.fileFor node.files (node.member i).service.name = some file ∧ reason.InFile file.content list) ∨
      ∃ entry, entries[i.val]? = some entry ∧ Report.Lists entry reason list)

theorem inService_of_keeps {before after : Service} (keeps : before.Keeps after) (reason : DependencyReason) :
    reason.inService after = reason.inService before := by
  have facts := congrArg reason.inService keeps.facts
  cases reason <;> exact facts

/-- What a service asks for is what is written for it, if the services of the node are kept from these entries. -/
theorem asks_iff_inWriting {node : Node} {entries : List Json} {reported : List Service}
    (reads : List.Forall₂ (fun entry service => Report.readService entry = .ok service) entries reported)
    (keeps : List.Forall₂ Service.Keeps reported node.services) (i : Fin node.services.length)
    (reason : DependencyReason) (unit : String) :
    node.Asks i reason unit ↔ node.AsksInWriting entries i reason unit := by
  have inReported : i < reported.length := Nat.lt_of_lt_of_eq i.isLt keeps.length_eq.symm
  have inEntries : i < entries.length := Nat.lt_of_lt_of_eq inReported reads.length_eq.symm
  have read : Report.readService entries[i.val] = .ok reported[i.val] := reads.get inEntries inReported
  have kept : reported[i.val].Keeps (node.member i).service := keeps.get inReported i.isLt
  have listed : entries[i.val]? = some entries[i.val] := List.getElem?_eq_getElem inEntries
  have fromAgent : unit ∈ reason.inService (node.member i).service ↔
      ∃ list, Report.Lists entries[i.val] reason list ∧ Unit.Names list unit := by
    rw [inService_of_keeps kept, Report.mem_inService_iff read]
  refine (or_congr_right fromAgent).trans ?_
  constructor
  · rintro (⟨_, found, member⟩ | ⟨list, lists, names⟩)
    · rcases Option.map_eq_some_iff.1 found with ⟨file, isFile, rfl⟩
      rcases DependencyReason.mem_inDirectives_iff.1 member with ⟨list, inFile, names⟩
      exact ⟨list, names, Or.inl ⟨file, isFile, inFile⟩⟩
    · exact ⟨list, names, Or.inr ⟨_, listed, lists⟩⟩
  · rintro ⟨list, names, ⟨file, isFile, inFile⟩ | ⟨entry, otherListed, lists⟩⟩
    · refine Or.inl ⟨_, Option.map_eq_some_iff.2 ⟨file, isFile, rfl⟩, ?_⟩
      exact DependencyReason.mem_inDirectives_iff.2 ⟨list, inFile, names⟩
    · cases listed.symm.trans otherListed
      exact Or.inr ⟨list, lists, names⟩

end Node

namespace Store

/-- What an operation reports of a node, as its agent sent it. -/
def Operation.documents (id : String) : Operation → List Json
  | .change (.update own document) => if own = id then [document] else []
  | _ => []

theorem Operation.reports_eq (id : String) (operation : Operation) :
    operation.reports id = (operation.documents id).map fun document => (Report.read document).1 := by
  cases operation with
  | change change =>
      cases change with
      | update own document => by_cases same : own = id <;> simp [Operation.reports, Operation.documents, same]
      | _ => rfl
  | _ => rfl

/-- The reports of a node in a history, as its agent sent them. -/
def documentsOf (id : String) (history : List (UInt64 × Operation)) : List Json :=
  history.flatMap fun step => step.2.documents id

theorem reportsOf_eq (id : String) (history : List (UInt64 × Operation)) :
    reportsOf id history = (documentsOf id history).map fun document => (Report.read document).1 := by
  unfold reportsOf documentsOf
  rw [List.map_flatMap]
  exact congrArg (history.flatMap ·) (funext fun step => step.2.reports_eq id)

/-- At any time a node has as many services as the list that came last has entries, and every bundle tells what these
entries and the unit files of the node say of its services. -/
theorem summaries_consistent (capacity : Nat) (history : List (UInt64 × Operation)) (id : String) :
    let node := (perform.run (empty capacity) history).1.fleet.node id
    let entries := Report.lastServiceEntries (documentsOf id history)
    entries.length = node.services.length ∧
      ∀ bundle ∈ Bundle.ofNode id node, ∃ places, Bundle.Tells node (node.AsksInWriting entries) places bundle := by
  intro node entries
  have reads := Report.forall₂_lastServiceEntries (documentsOf id history)
  have keeps := lasts_run Node.lasting_keeps capacity history id
  rw [reportsOf_eq] at keeps
  refine ⟨reads.length_eq.trans keeps.length_eq, fun bundle listed => ?_⟩
  exact Bundle.exists_tells (Node.asks_iff_inWriting reads keeps) listed

/-- A dependency that is written four times, in the unit file and by the agent, and gives one edge. -/
theorem summaries_consistent_written_twice :
    let web : Json := .object [("name", .string "web.service"), ("activeState", .string "active"),
      ("requires", .string "db.service, db"), ("wants", Json.texts ["cache", "x.target"])]
    let cache : Json := .object [("name", .string "cache"), ("activeState", .string "reloading")]
    let file : Json := .object [("content", .string "[Unit]\nRequires=db\nWants=cache.service\nRequires=db.service")]
    let document : Json := .object
      [("services", .array [web, .null, cache]), ("files", .object [("/q/web.container", file)])]
    let history : List (UInt64 × Operation) := [(1, .change (.update "n" document))]
    let node := (perform.run (empty 5) history).1.fleet.node "n"
    ∃ bundle, Bundle.ofNode "n" node = [bundle] ∧
      bundle.graph = [⟨"web", "db.service", .requires⟩, ⟨"web", "cache.service", .wants⟩, ⟨"web", "x.target", .wants⟩] ∧
      bundle.hints = ["Hard dependencies: db.service", "Soft dependencies: cache.service, x.target",
        "Missing dependencies: db.service"] ∧
      bundle.severity = .warning ∧ ∃ places, Bundle.Tells node (node.AsksInWriting [web, cache]) places bundle := by
  intro web cache file document history node
  have summary : (Bundle.ofNode "n" node).map (fun bundle => (bundle.graph, bundle.hints, bundle.severity)) =
      [([⟨"web", "db.service", .requires⟩, ⟨"web", "cache.service", .wants⟩, ⟨"web", "x.target", .wants⟩],
        ["Hard dependencies: db.service", "Soft dependencies: cache.service, x.target",
          "Missing dependencies: db.service"], .warning)] := by
    decide +kernel +zetaReduce
  rcases List.map_eq_singleton_iff.1 summary with ⟨bundle, single, told⟩
  simp only [Prod.mk.injEq] at told
  have entries : Report.lastServiceEntries (documentsOf "n" history) = [web, cache] := rfl
  have tells := (summaries_consistent 5 history "n").2 bundle (by simp [node, single])
  rw [entries] at tells
  exact ⟨bundle, single, told.1, told.2.1, told.2.2, tells⟩

end Store
end Fleet
