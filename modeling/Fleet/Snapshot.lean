import Fleet.Codec.Record
import Fleet.Node

namespace Fleet

/-!
# The whole fleet

The nodes, the edge router and the routes of all connected nodes, as one document.
-/

/-- The edge router as it was last reported. -/
structure Gateway where
  provider : Option String
  publicIp : Option String
  internalIp : Option String
  uptime : Option UInt64
  lastUpdated : Option UInt64
  deriving DecidableEq

namespace Gateway

def record : Record Gateway Gateway :=
  mk <$> .optional ⟨"provider", []⟩ provider .text
    <*> .optional ⟨"publicIp", []⟩ publicIp .text
    <*> .optional ⟨"internalIp", []⟩ internalIp .text
    <*> .optional ⟨"uptime", []⟩ uptime .word64
    <*> .optional ⟨"lastUpdated", []⟩ lastUpdated .word64

def codec : Codec Gateway :=
  record.codec

def unknown : Gateway :=
  ⟨none, none, none, none, none⟩

end Gateway

/-- The routes of all connected nodes, one for each host name. -/
structure RouteTable where
  routes : List Route
  deriving DecidableEq

namespace RouteTable

def record : Record RouteTable RouteTable :=
  mk <$> .required ⟨"routes", []⟩ routes (.list Route.codec)

def codec : Codec RouteTable :=
  record.codec

end RouteTable

/-- The whole fleet at one moment. -/
structure Snapshot where
  nodes : Keyed Node
  gateway : Gateway
  proxy : RouteTable

namespace Snapshot

def record : Record Snapshot Snapshot :=
  mk <$> .required ⟨"nodes", []⟩ nodes (.keyed Node.codec)
    <*> .required ⟨"gateway", []⟩ gateway Gateway.codec
    <*> .required ⟨"proxy", []⟩ proxy RouteTable.codec

def codec : Codec Snapshot :=
  record.codec

end Snapshot
end Fleet
