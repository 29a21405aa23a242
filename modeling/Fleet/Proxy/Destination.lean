import Fleet.Number.Numeral
import Fleet.Proxy.Configuration
import Fleet.Text.Cut

namespace Fleet
namespace Destination

/-!
# Where a route leads

The target of a route is written as an address, with or without a scheme, a port and a path.  A server block
forwards to the whole URL, and shows host and port in parts.  A port in the target counts more than the one
beside it.
-/

/-- Host and port of an authority.  An address with colons stands in brackets; what follows the last colon
of any other authority is a port if it is a number, and else belongs to the host. -/
def splitAuthority (authority : List Char) : List Char × Option UInt16 :=
  let unbracketed :=
    match Text.cutLast ':' authority with
    | none => (authority, none)
    | some (host, port) =>
        match Number.word16? port with
        | some port => (host, some port)
        | none => (authority, none)
  match authority with
  | '[' :: inside =>
      match Text.cutFirst ']' inside with
      | some (host, ':' :: port) => (host, Number.word16? port)
      | some (host, _) => (host, none)
      | none => unbracketed
  | _ => unbracketed

/-- A URL in the parts that matter here. -/
structure Parts where
  scheme : List Char
  authority : List Char
  path : List Char

/-- The parts of a target; slashes at its end do not count. -/
def partsOf (target : String) : Parts :=
  let text := Text.trim target.toList
  let (scheme, rest) := (Text.cutAround "://".toList text).getD ("http".toList, text)
  let rest := Text.stripEnd '/' rest
  ⟨scheme, rest.takeWhile fun c => c != '/', rest.dropWhile fun c => c != '/'⟩

/-- The URL and the parts of the target that a server block for a route gets. -/
def ofRoute (route : Route) : String × ProxyTarget :=
  let parts := partsOf route.targetService
  let (host, port) := splitAuthority parts.authority
  let suffix :=
    match port, route.targetPort with
    | none, some port => ':' :: (toString port.toNat).toList
    | _, _ => []
  (String.ofList (parts.scheme ++ "://".toList ++ parts.authority ++ suffix ++ parts.path),
    ⟨String.ofList host, port.or route.targetPort, route.ssl⟩)

def listen (ssl : Bool) : List String :=
  if ssl then ["443 ssl", "80"] else ["80"]

def server (route : Route) : ProxyServer :=
  let (url, target) := ofRoute route
  ⟨[route.host], listen route.ssl, [⟨"/", url⟩], target⟩

/-- The configuration of a proxy that serves the given routes. -/
def configuration (routes : List Route) : ProxyConfiguration :=
  ⟨routes.map server⟩

end Destination
end Fleet
