import Fleet.Bundle.Basic
import Fleet.Migration
import Fleet.Proofs.Codec.Reading
import Fleet.Proofs.Codec.Records
import Fleet.Snapshot

namespace Fleet

open Codec Record

/-!
# Which values documents keep

Most types of the fleet are read as they were written, whatever their values.  Three do not keep everything.  The claim
of an agent that a service is a proxy is not written, so it is gone from every service, and from every node and fleet
with it.  And an operating system that is told as `null` would be read as not told.  Neither can be read from a document
in the first place.
-/

/-! ## Types that are kept as they are -/

instance : PortMapping.codec.Exact :=
  exact_codec (by decide +kernel) fun mapping => by unfold PortMapping.record; infer_instance

instance : Container.codec.Exact :=
  exact_codec (by decide +kernel) fun container => by unfold Container.record; infer_instance

instance : VolumeUser.codec.Exact :=
  exact_codec (by decide +kernel) fun user => by unfold VolumeUser.record; infer_instance

instance : Volume.codec.Exact :=
  exact_codec (by decide +kernel) fun volume => by unfold Volume.record; infer_instance

instance : WatchedFile.codec.Exact :=
  exact_codec (by decide +kernel) fun file => by unfold WatchedFile.record; infer_instance

instance : NetworkAddress.codec.Exact :=
  exact_codec (by decide +kernel) fun address => by unfold NetworkAddress.record; infer_instance

instance : Route.codec.Exact :=
  exact_codec (by decide +kernel) fun route => by unfold Route.record; infer_instance

instance : RouteTable.codec.Exact :=
  exact_codec (by decide +kernel) fun table => by unfold RouteTable.record; infer_instance

instance : Gateway.codec.Exact :=
  exact_codec (by decide +kernel) fun gateway => by unfold Gateway.record; infer_instance

instance : ProxyTarget.codec.Exact :=
  exact_codec (by decide +kernel) fun target => by unfold ProxyTarget.record; infer_instance

instance : ProxyLocation.codec.Exact :=
  exact_codec (by decide +kernel) fun location => by unfold ProxyLocation.record; infer_instance

instance : ProxyServer.codec.Exact :=
  exact_codec (by decide +kernel) fun server => by unfold ProxyServer.record; infer_instance

instance : ProxyConfiguration.codec.Exact :=
  exact_codec (by decide +kernel) fun configuration => by unfold ProxyConfiguration.record; infer_instance

instance : MigrationStatus.codec.Exact :=
  exact_word fun status => by cases status <;> rfl

instance : MigrationEvent.codec.Exact :=
  exact_codec (by decide +kernel) fun event => by unfold MigrationEvent.record; infer_instance

instance : DependencyReason.codec.Exact :=
  exact_word fun reason => by cases reason <;> rfl

instance : Severity.codec.Exact :=
  exact_word fun severity => by cases severity <;> rfl

instance : AssetKind.codec.Exact :=
  exact_word fun kind => by cases kind <;> rfl

instance : GraphEdge.codec.Exact :=
  exact_codec (by decide +kernel) fun edge => by unfold GraphEdge.record; infer_instance

instance : BundleService.codec.Exact :=
  exact_codec (by decide +kernel) fun service => by unfold BundleService.record; infer_instance

instance : BundleContainer.codec.Exact :=
  exact_codec (by decide +kernel) fun container => by unfold BundleContainer.record; infer_instance

instance : BundleAsset.codec.Exact :=
  exact_codec (by decide +kernel) fun asset => by unfold BundleAsset.record; infer_instance

instance : Bundle.codec.Exact :=
  exact_codec (by decide +kernel) fun bundle => by unfold Bundle.record; infer_instance

/-! ## Services -/

namespace Service

/-- A service without its agent's claim. -/
def withoutClaim (service : Service) : Service :=
  { service with reportedReverseProxy := false }

theorem restores_withoutClaim (service : Service) : codec.Restores service service.withoutClaim := by
  have fields : record.Restores service service.withoutClaim := by
    unfold record
    infer_instance
  exact restores_codec (by decide +kernel)

theorem gives_withoutClaim : codec.Gives fun service => service.withoutClaim = service := by
  refine Gives.codec ?_
  unfold record
  refine gives_seq_of (gives_hidden false) ?_
  iterate 19 apply gives_seq
  apply gives_map
  intros
  subst_vars
  rfl

end Service

/-! ## Resources -/

namespace SystemResources

/-- An operating system is told, or is absent, but is not told as `null`. -/
def Definite (resources : SystemResources) : Prop :=
  resources.os ≠ some .null

theorem restores_self {resources : SystemResources} (definite : resources.Definite) :
    codec.Restores resources resources := by
  have os : document.nullable.Restores resources.os resources.os := by
    cases told : resources.os with
    | none => exact ⟨rfl⟩
    | some value =>
        have present : document.encode value ≠ .null := fun null => definite (told.trans (congrArg some null))
        exact restores_nullable present inferInstance
  have fields : record.Restores resources resources := by
    unfold record
    infer_instance
  exact restores_codec (by decide +kernel)

theorem gives_definite : codec.Gives Definite := by
  refine Gives.codec ?_
  unfold record
  iterate 2 apply gives_seq
  refine gives_seq_of (gives_optional gives_nullable_document) ?_
  iterate 3 apply gives_seq
  apply gives_map
  exact fun _ _ _ _ _ definite _ _ => definite

end SystemResources

/-! ## Nodes -/

namespace Node

/-- A node without the claims of its agent. -/
def withoutClaims (node : Node) : Node :=
  { node with services := node.services.map Service.withoutClaim }

/-- What is known of the operating system is definite. -/
def Definite (node : Node) : Prop :=
  ∀ resources, node.resources = some resources → resources.Definite

theorem restores_withoutClaims {node : Node} (definite : node.Definite) :
    codec.Restores node node.withoutClaims := by
  have resources : SystemResources.codec.nullable.Restores node.resources node.resources := by
    cases known : node.resources with
    | none => exact ⟨rfl⟩
    | some resources => exact restores_nullable nofun (SystemResources.restores_self (definite resources known))
  have services : Service.codec.list.Restores node.services (node.services.map Service.withoutClaim) :=
    restores_list fun service _ => service.restores_withoutClaim
  have fields : record.Restores node node.withoutClaims := by
    unfold record
    infer_instance
  exact restores_codec (by decide +kernel)

theorem gives_definite : codec.Gives fun node => node.Definite ∧ node.withoutClaims = node := by
  refine Gives.codec ?_
  unfold record
  iterate 4 apply gives_seq
  refine gives_seq_of (gives_required Service.gives_withoutClaim.list) ?_
  apply gives_seq
  refine gives_seq_of (gives_optional SystemResources.gives_definite.nullable) ?_
  iterate 2 apply gives_seq
  apply gives_map
  intro connected lastSync initialSyncComplete resources definite containers services claims volumes files routes ips
  have same : services.map Service.withoutClaim = services :=
    (List.map_congr_left claims).trans (List.map_id services)
  exact ⟨definite, by rw [withoutClaims, same]⟩

end Node

/-! ## Fleets -/

namespace Snapshot

/-- A fleet without the claims of agents. -/
def withoutClaims (fleet : Snapshot) : Snapshot :=
  { fleet with nodes := fleet.nodes.mapValues Node.withoutClaims }

theorem restores_withoutClaims {fleet : Snapshot} (definite : ∀ node ∈ fleet.nodes.values, node.Definite) :
    codec.Restores fleet fleet.withoutClaims := by
  have nodes : Node.codec.keyed.Restores fleet.nodes (fleet.nodes.mapValues Node.withoutClaims) :=
    restores_keyed fun node member => Node.restores_withoutClaims (definite node member)
  have fields : record.Restores fleet fleet.withoutClaims := by
    unfold record
    infer_instance
  exact restores_codec (by decide +kernel)

theorem gives_definite : codec.Gives fun fleet =>
    (∀ node ∈ fleet.nodes.values, node.Definite) ∧ fleet.withoutClaims = fleet := by
  refine Gives.codec ?_
  unfold record
  iterate 2 apply gives_seq
  refine gives_map_of (gives_required Node.gives_definite.keyed) fun nodes known gateway proxy => ?_
  have same : nodes.mapValues Node.withoutClaims = nodes := by
    refine Keyed.ext ((List.map_congr_left fun entry member => ?_).trans (List.map_id nodes.entries))
    exact congrArg (Prod.mk entry.1) (known entry.2 (List.mem_map_of_mem member)).2
  exact ⟨fun node member => (known node member).1, by rw [withoutClaims, same]⟩

end Snapshot
end Fleet
