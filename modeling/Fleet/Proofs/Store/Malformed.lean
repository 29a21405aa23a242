import Fleet.Proofs.Report.Cleaned
import Fleet.Proofs.Store.Repetition

namespace Fleet

/-!
# Malformed reports

What cannot be used of a report counts as not sent.  A store ends up with the same fleet, but for the time of the
report, when the unusable parts are taken out of the document first; and the warnings say which parts those are,
each once and in their order, so that nothing disappears without a trace.
-/

namespace Snapshot

theorem setNode_setNode (fleet : Snapshot) (id : String) (first second : Node) :
    (fleet.setNode id first).setNode id second = fleet.setNode id second := by
  have nodes : (fleet.nodes.insert id first).insert id second = fleet.nodes.insert id second := by
    apply Keyed.ext_get?
    intro other
    rw [Keyed.get?_insert, Keyed.get?_insert, Keyed.get?_insert]
    split <;> rfl
  exact congrArg (fun nodes : Keyed Node => { fleet with nodes }) nodes

/-- Of a report that arrives at another time nothing is different but that time. -/
theorem receive_later (fleet : Snapshot) (id : String) (now later : UInt64) (report : Report) :
    (fleet.setNode id ((fleet.node id).receive later report)).reconcile =
      (fleet.setNode id ((fleet.node id).receive now report)).reconcile.syncedAt id later := by
  have known : ((fleet.setNode id ((fleet.node id).receive now report)).nodes.get? id).isSome := by
    unfold Snapshot.setNode
    rw [Keyed.get?_insert, if_pos rfl]
    rfl
  have moved : (fleet.setNode id ((fleet.node id).receive now report)).syncedAt id later =
      fleet.setNode id ((fleet.node id).receive later report) := by
    rw [syncedAt, node_setNode, if_pos rfl, setNode_setNode]
    rfl
  rw [← moved, reconcile_syncedAt known]

end Snapshot

namespace Store

/-- The unusable parts of a report might as well not have been sent. -/
theorem malformed_as_absent (store : Store) (now later : UInt64) (id : String) {document : Json}
    (once : Report.NamesRoutesOnce document) :
    let parts := Report.unusable document
    let updated := store.update now id document
    let cleaned := store.update later id (document.without parts)
    cleaned.1.fleet = updated.1.fleet.syncedAt id later ∧ cleaned.2 = [] ∧
      parts.Nodup ∧ updated.2.map ShapeWarning.field = parts.map Report.Part.label ∧
      ((∀ fields, document ≠ .object fields) → parts = [.root] ∧ document.without parts = .object []) ∧
      (document.field? "resources" = some .null →
        store.update now id (document.without [.field "resources"]) = updated) ∧
      ∀ name count value, (name, count) ∈ (Report.read document).1.taken → document.field? name = some value →
        .field name ∉ parts → Report.KeysDiffer value →
          count + parts.countP (Report.Part.isEntryOf name) = Report.sent value := by
  intro parts updated cleaned
  refine ⟨?_, ?_, Report.nodup_unusable document, Report.field_warnings once, fun noObject => ?_, fun null => ?_,
    fun name count value member given usable different => Report.taken_add_unusable once member given usable different⟩
  · change (store.update later id _).1.fleet = (store.update now id _).1.fleet.syncedAt id later
    rw [update_fleet, update_fleet, Report.read_cleaned once]
    exact Snapshot.receive_later store.fleet id now later _
  · exact congrArg Prod.snd (Report.read_cleaned once)
  · cases document with
    | object fields => exact absurd rfl (noObject fields)
    | _ => exact ⟨rfl, rfl⟩
  · change Store.update _ _ _ _ = Store.update _ _ _ _
    unfold Store.update
    rw [Report.read_without_null null]

/-- A report with something wrong in every field: entries that cannot be read, a field of the wrong kind, resources
that are `null`, and a number where a truth value belongs. -/
theorem malformed_as_absent_mixed :
    let document : Json := .object
      [("containers", .array [.null, .object [("id", .string "c")]]), ("files", .object [("a", .bool true)]),
        ("initialSyncComplete", .ofNat 1), ("proxy", .string "none"), ("resources", .null)]
    let parts : List Report.Part :=
      [.entry "containers" 0 "0", .field "proxy", .entry "files" 0 "a", .field "initialSyncComplete"]
    Report.NamesRoutesOnce document ∧ Report.unusable document = parts ∧
      document.without parts =
        .object [("containers", .array [.object [("id", .string "c")]]), ("files", .object []), ("resources", .null)] ∧
      ((empty 5).update 2 "n" (document.without parts)).1.fleet =
        ((empty 5).update 1 "n" document).1.fleet.syncedAt "n" 2 := by
  intro document parts
  have once : Report.NamesRoutesOnce document := Or.inl rfl
  have unusable : Report.unusable document = parts := by decide +kernel
  exact ⟨once, unusable, rfl, unusable ▸ (malformed_as_absent (empty 5) 1 2 "n" once).1⟩

end Store
end Fleet
