import Fleet.Container
import Fleet.Proxy.Configuration
import Fleet.Resources
import Fleet.Service
import Fleet.Volume
import Fleet.Unit.Files

namespace Fleet

/-!
# Nodes

What is known about one host.  A node is never forgotten; when its agent goes away it is only marked as
not connected.
-/

/-- A host of the fleet. -/
structure Node where
  connected : Bool
  /-- When the last report was merged, in milliseconds since the epoch. -/
  lastSync : UInt64
  initialSyncComplete : Bool
  resources : Option SystemResources
  containers : List Container
  services : List Service
  volumes : List Volume
  /-- The watched files under the keys by which the agent reports them. -/
  files : Keyed WatchedFile
  proxyRoutes : List Route
  /-- The external addresses, derived from the resources. -/
  nodeIps : List String

namespace Node

def record : Record Node Node :=
  mk <$> .required ⟨"connected", []⟩ connected .flag
    <*> .required ⟨"lastSync", []⟩ lastSync .word64
    <*> .required ⟨"initialSyncComplete", []⟩ initialSyncComplete .flag
    <*> .optional ⟨"resources", []⟩ resources SystemResources.codec
    <*> .required ⟨"containers", []⟩ containers (.list Container.codec)
    <*> .required ⟨"services", []⟩ services (.list Service.codec)
    <*> .required ⟨"volumes", []⟩ volumes (.list Volume.codec)
    <*> .required ⟨"files", []⟩ files (.keyed WatchedFile.codec)
    <*> .required ⟨"proxyRoutes", []⟩ proxyRoutes (.list Route.codec)
    <*> .required ⟨"nodeIPs", []⟩ nodeIps (.list .text)

def codec : Codec Node :=
  record.codec

def unknown : Node where
  connected := false
  lastSync := 0
  initialSyncComplete := false
  resources := none
  containers := []
  services := []
  volumes := []
  files := .empty
  proxyRoutes := []
  nodeIps := []

instance : Inhabited Node := ⟨unknown⟩

def container? (node : Node) (id : String) : Option Container :=
  node.containers.find? fun container => container.id == id

def service? (node : Node) (name : String) : Option Service :=
  node.services.find? fun service => service.name == name

end Node
end Fleet
