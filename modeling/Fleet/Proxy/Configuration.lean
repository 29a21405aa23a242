import Fleet.Codec.Record

namespace Fleet

/-!
# Routes and the configuration of a reverse proxy

A reverse proxy serves routes.  Its configuration has server blocks in the style of common web servers, one for
each route of the node.  Their field names follow that style and not the one of the other records.
-/

/-- A route that a reverse proxy serves: requests for a host name go to a target. -/
structure Route where
  host : String
  /-- An address with or without a port, or a whole URL. -/
  targetService : String
  targetPort : Option UInt16
  ssl : Bool
  deriving DecidableEq

namespace Route

def record : Record Route Route :=
  mk <$> .required ⟨"host", []⟩ host .text
    <*> .required ⟨"targetService", []⟩ targetService .text
    <*> .optional ⟨"targetPort", []⟩ targetPort .word16
    <*> .defaulted ⟨"ssl", []⟩ ssl .flag false

def codec : Codec Route :=
  record.codec

end Route

/-- The address that a server block forwards to, in its parts. -/
structure ProxyTarget where
  targetHost : String
  targetPort : Option UInt16
  ssl : Bool
  deriving DecidableEq

namespace ProxyTarget

def record : Record ProxyTarget ProxyTarget :=
  mk <$> .required ⟨"targetHost", []⟩ targetHost .text
    <*> .optional ⟨"targetPort", []⟩ targetPort .word16
    <*> .required ⟨"ssl", []⟩ ssl .flag

def codec : Codec ProxyTarget :=
  record.codec

end ProxyTarget

/-- A path of a server and the URL that it forwards to. -/
structure ProxyLocation where
  path : String
  proxyPass : String
  deriving DecidableEq

namespace ProxyLocation

def record : Record ProxyLocation ProxyLocation :=
  mk <$> .required ⟨"path", []⟩ path .text
    <*> .required ⟨"proxy_pass", []⟩ proxyPass .text

def codec : Codec ProxyLocation :=
  record.codec

end ProxyLocation

/-- A server block. -/
structure ProxyServer where
  serverName : List String
  listen : List String
  locations : List ProxyLocation
  /-- The target, kept so that host names can be traced back to services. -/
  target : ProxyTarget
  deriving DecidableEq

namespace ProxyServer

def record : Record ProxyServer ProxyServer :=
  mk <$> .required ⟨"server_name", []⟩ serverName (.list .text)
    <*> .required ⟨"listen", []⟩ listen (.list .text)
    <*> .required ⟨"locations", []⟩ locations (.list ProxyLocation.codec)
    <*> .required ⟨"metadata", []⟩ target ProxyTarget.codec

def codec : Codec ProxyServer :=
  record.codec

end ProxyServer

/-- The server blocks of a proxy. -/
structure ProxyConfiguration where
  servers : List ProxyServer
  deriving DecidableEq

namespace ProxyConfiguration

def record : Record ProxyConfiguration ProxyConfiguration :=
  mk <$> .required ⟨"servers", []⟩ servers (.list ProxyServer.codec)

def codec : Codec ProxyConfiguration :=
  record.codec

end ProxyConfiguration
end Fleet
