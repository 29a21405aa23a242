import Fleet.Proofs.Codec.Models
import Fleet.Proofs.Node.Retention
import Fleet.Proofs.Report
import Fleet.Proofs.Store.Nodes

namespace Fleet

/-!
# Documents that are written and read again

What was read from a document can be written as another one and be read from that, and nothing is changed by it,
however the first document was spelled.  It may have been an array, it may have used other names, left out what has a
default, or put `null` for it; the second document is always spelled in one way.

The fleet of a store was not read from one document.  It reads back all the same, but for the claims of agents that
services are proxies.
-/

namespace Codec

variable {α : Type}

/-- All that is read from documents is read again when it was written. -/
def ReadsBack (codec : Codec α) : Prop :=
  codec.Gives fun value => codec.decode (codec.encode value) = .ok value

theorem readsBack (codec : Codec α) [codec.Faithful] : codec.ReadsBack :=
  fun _ value _ => Faithful.decode_encode value

end Codec

theorem Service.readsBack : Service.codec.ReadsBack := by
  intro document service decoded
  rw [service.restores_withoutClaim.decode_encode, gives_withoutClaim document service decoded]

theorem SystemResources.readsBack : SystemResources.codec.ReadsBack :=
  fun document resources decoded => (restores_self (gives_definite document resources decoded)).decode_encode

theorem Node.readsBack : Node.codec.ReadsBack := by
  intro document node decoded
  rcases gives_definite document node decoded with ⟨definite, same⟩
  rw [(restores_withoutClaims definite).decode_encode, same]

theorem Snapshot.readsBack : Snapshot.codec.ReadsBack := by
  intro document fleet decoded
  rcases gives_definite document fleet decoded with ⟨definite, same⟩
  rw [(restores_withoutClaims definite).decode_encode, same]

/-! ## Fleets of stores -/

/-- The resources of a report are read from a document. -/
theorem Report.definite_resources {document : Json} {resources : SystemResources}
    (given : (read document).1.resources = some resources) : resources.Definite := by
  cases document with
  | object fields =>
      change (fieldOf (.object fields) "resources" resourcesField).1 = some resources at given
      unfold fieldOf at given
      split at given
      · unfold resourcesField at given
        split at given
        · cases given
        · split at given <;> cases given
          exact SystemResources.gives_definite _ resources ‹_›
        · cases given
      · cases given
  | _ => cases given

theorem Node.lasting_definite : Lasting fun _ node => node.Definite where
  unknown := nofun
  receive := by
    intro now document reports node definite resources known
    rw [(retains_receive now _ node).resources] at known
    rcases Option.or_eq_some_iff.1 known with reported | ⟨_, before⟩
    · exact Report.definite_resources reported
    · exact definite resources before
  setConnected := fun _ _ _ definite => definite
  mapNode := fun _ _ _ definite => definite

namespace Store

/-- Every value that is read from a document of one of these types is written as a document from which it is read
again.  The fleet of a store, whatever was asked of it before, is read from its document as it is, but that no agent
claims that a service is a proxy. -/
theorem documents_read_back :
    (PortMapping.codec.ReadsBack ∧ Container.codec.ReadsBack ∧ Service.codec.ReadsBack ∧ Volume.codec.ReadsBack ∧
        WatchedFile.codec.ReadsBack ∧ SystemResources.codec.ReadsBack ∧ Node.codec.ReadsBack ∧ Route.codec.ReadsBack ∧
        Gateway.codec.ReadsBack ∧ MigrationEvent.codec.ReadsBack ∧ Bundle.codec.ReadsBack ∧
        Snapshot.codec.ReadsBack) ∧
      ∀ (capacity : Nat) (history : List (UInt64 × Operation)),
        let fleet := (perform.run (empty capacity) history).1.fleet
        Snapshot.codec.decode (Snapshot.codec.encode fleet) = .ok fleet.withoutClaims := by
  refine ⟨⟨Codec.readsBack _, Codec.readsBack _, Service.readsBack, Codec.readsBack _, Codec.readsBack _,
    SystemResources.readsBack, Node.readsBack, Codec.readsBack _, Codec.readsBack _, Codec.readsBack _,
    Codec.readsBack _, Snapshot.readsBack⟩, fun capacity history => ?_⟩
  intro fleet
  have definite : ∀ node ∈ fleet.nodes.values, node.Definite := by
    intro node member
    rcases Keyed.mem_values_iff.1 member with ⟨id, found⟩
    have lasting := lasts_run Node.lasting_definite capacity history id
    have own : fleet.node id = node := by
      unfold Snapshot.node
      rw [found]
      rfl
    exact own ▸ lasting
  exact (Snapshot.restores_withoutClaims definite).decode_encode

/-- A volume in two spellings of which neither is the one that is written, and the fleet after a service was reported
with the claim to be a proxy. -/
theorem documents_read_back_other_spellings :
    let volume : Volume := ⟨"data", "", "", .empty, []⟩
    let report : Json :=
      .object [("services", .array [.object [("name", .string "web"), ("isReverseProxy", .bool true)]])]
    let fleet := (perform.run (empty 5) [(1, .change (.update "a" report))]).1.fleet
    let claims : Snapshot → List Bool := fun fleet => (fleet.node "a").services.map Service.reportedReverseProxy
    Volume.codec.decode (.object [("Name", .string "data"), ("Labels", .null)]) = .ok volume ∧
      Volume.codec.decode (.array [.string "data"]) = .ok volume ∧
      Volume.codec.decode (Volume.codec.encode volume) = .ok volume ∧
      claims fleet = [true] ∧ claims fleet.withoutClaims = [false] ∧
      Snapshot.codec.decode (Snapshot.codec.encode fleet) = .ok fleet.withoutClaims := by
  intro volume report fleet claims
  have capitals : Volume.codec.decode (.object [("Name", .string "data"), ("Labels", .null)]) = .ok volume := rfl
  refine ⟨capitals, rfl, documents_read_back.1.2.2.2.1 _ volume capitals, by decide +kernel, by decide +kernel, ?_⟩
  exact documents_read_back.2 5 [(1, .change (.update "a" report))]

end Store
end Fleet
