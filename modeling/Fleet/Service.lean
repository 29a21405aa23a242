import Fleet.Port.Basic
import Fleet.Proxy.Configuration

namespace Fleet

/-!
# Services

A system service of a node, with what its agent reports and what the fleet derives.  Derived are the
ports, the three proxy and management flags, the proxy configuration, the use of host networking and the
verified domains; the set of associated containers grows from both sources.
-/

/-- A system service of a node. -/
structure Service where
  name : String
  activeState : String
  subState : String
  loadState : String
  description : String
  /-- The path of the unit file that the service manager loaded. -/
  path : String
  /-- The containers that the service is known to have run, each once. -/
  associatedContainerIds : List String
  /-- The ports that the agent itself gave for the service. -/
  declaredPorts : List PortMapping
  ports : Option (List PortMapping)
  isReverseProxy : Bool
  isServiceBay : Bool
  isPrimaryProxy : Bool
  proxyConfiguration : Option ProxyConfiguration
  effectiveHostNetwork : Bool
  requires : List String
  after : List String
  wants : List String
  bindsTo : List String
  podReference : Option String
  verifiedDomains : Option (List String)
  /-- The agent's own claim that the service is a proxy.  It is kept apart from the derived flag, and
  documents do not show it. -/
  reportedReverseProxy : Bool
  deriving DecidableEq

namespace Service

def record : Record Service Service :=
  mk <$> .required ⟨"name", []⟩ name .text
    <*> .defaulted ⟨"activeState", []⟩ activeState .text ""
    <*> .defaulted ⟨"subState", []⟩ subState .text ""
    <*> .defaulted ⟨"loadState", []⟩ loadState .text ""
    <*> .defaulted ⟨"description", []⟩ description .text ""
    <*> .defaulted ⟨"path", []⟩ path .text ""
    <*> .defaulted ⟨"associatedContainerIds", []⟩ associatedContainerIds (.list .text) []
    <*> .defaulted ⟨"declaredPorts", []⟩ declaredPorts (.list PortMapping.codec) [] List.isEmpty
    <*> .optional ⟨"ports", []⟩ ports (.list PortMapping.codec)
    <*> .defaulted ⟨"isReverseProxy", []⟩ isReverseProxy .flag false
    <*> .defaulted ⟨"isServiceBay", []⟩ isServiceBay .flag false
    <*> .defaulted ⟨"isPrimaryProxy", []⟩ isPrimaryProxy .flag false
    <*> .optional ⟨"proxyConfiguration", []⟩ proxyConfiguration ProxyConfiguration.codec
    <*> .defaulted ⟨"effectiveHostNetwork", []⟩ effectiveHostNetwork .flag false
    <*> .defaulted ⟨"requires", []⟩ requires (.list .text) []
    <*> .defaulted ⟨"after", []⟩ after (.list .text) []
    <*> .defaulted ⟨"wants", []⟩ wants (.list .text) []
    <*> .defaulted ⟨"bindsTo", []⟩ bindsTo (.list .text) []
    <*> .optional ⟨"podReference", []⟩ podReference .text
    <*> .optional ⟨"verifiedDomains", []⟩ verifiedDomains (.list .text)
    <*> .hidden false

def codec : Codec Service :=
  record.codec

def named (name : String) : Service where
  name := name
  activeState := ""
  subState := ""
  loadState := ""
  description := ""
  path := ""
  associatedContainerIds := []
  declaredPorts := []
  ports := none
  isReverseProxy := false
  isServiceBay := false
  isPrimaryProxy := false
  proxyConfiguration := none
  effectiveHostNetwork := false
  requires := []
  after := []
  wants := []
  bindsTo := []
  podReference := none
  verifiedDomains := none
  reportedReverseProxy := false

/-- Whether the service is up, a reload in progress included. -/
def isActive (service : Service) : Bool :=
  service.activeState == "active" || service.activeState == "reloading"

def unitName (service : Service) : String :=
  service.name ++ ".service"

end Service
end Fleet
