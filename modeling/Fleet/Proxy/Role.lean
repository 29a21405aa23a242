import Fleet.Container
import Fleet.Service
import Fleet.Unit.Files

namespace Fleet
namespace ProxyRole

/-!
# Reverse proxies of a node

Which services are reverse proxies, which one of them is the primary one, and which services belong to the
management of the fleet itself.  The evidence is in names, descriptions, images and labels, and in what the
agent claims.  A few names sound like proxies and are none; for them no evidence counts.

Of the reverse proxies the primary one is an active one rather than another, then one with a well-known
name, then the one listed first.
-/

/-- The names of well-known proxies, all in lower case. -/
def keywords : List String :=
  ["nginx", "nginx-web", "haproxy", "traefik", "caddy", "envoy"]

/-- Parts of names that show that a service is no reverse proxy. -/
def excludes : List String :=
  ["mpris-proxy"]

/-- Parts of names that show the management of the fleet. -/
def managementWords : List String :=
  ["servicebay"]

def roleLabel : String := "servicebay.role"

/-- The label of containers that the management of the fleet protects. -/
def protectedLabel : String := "servicebay.protected"

/-- Whether one of several parts occurs in a text, whatever the case of its letters. -/
def mentions (text : String) (words : List String) : Bool :=
  let lowered := Text.lowered text.toList
  words.any fun word => Text.occursIn word.toList lowered

/-- The part of a text before the first occurrence of a character. -/
def before (mark : Char) (text : List Char) : List Char :=
  text.takeWhile fun c => c != mark

/-- The name of an image, without registry, tag and digest. -/
def imageName (image : String) : String :=
  String.ofList (before ':' (before '@' (Unit.fileName image).toList))

def isExcluded (name : String) : Bool :=
  mentions name excludes

def isWellKnown (name : String) : Bool :=
  keywords.contains (Text.lowerCase name)

/-- What a service is described as: by the agent, or else by its unit file. -/
def describe (files : Unit.Files) (service : Service) : String :=
  if !service.description.isEmpty then service.description
  else ((Unit.directivesFor files service.name).bind Unit.Directives.description).getD ""

/-- Whether name or description sound like a reverse proxy. -/
def soundsLikeProxy (name description : String) : Bool :=
  mentions name keywords || mentions description keywords || mentions name ["proxy"]

/-- Whether a container looks like that of a reverse proxy. -/
def showsProxy (container : Container) : Bool :=
  container.label? roleLabel == some "reverse-proxy" || mentions (imageName container.image) keywords ||
    mentions container.displayName keywords

/-- Whether name or description sound like the management of the fleet. -/
def soundsLikeManagement (name description : String) : Bool :=
  mentions name managementWords || mentions description managementWords

/-- Whether a container looks like that of the management of the fleet. -/
def showsManagement (container : Container) : Bool :=
  container.label? protectedLabel == some "true" || container.label? roleLabel == some "servicebay" ||
    mentions (imageName container.image) managementWords ||
    mentions container.displayName managementWords

/-- Whether a service with the given containers is a reverse proxy. -/
def isProxy (files : Unit.Files) (linked : List Container) (service : Service) : Bool :=
  !isExcluded service.name &&
    (service.reportedReverseProxy || soundsLikeProxy service.name (describe files service) ||
      linked.any showsProxy)

/-- Whether a service with the given containers belongs to the management of the fleet. -/
def isManagement (files : Unit.Files) (linked : List Container) (service : Service) : Bool :=
  soundsLikeManagement service.name (describe files service) || linked.any showsManagement

/-- Set the two flags of a service that do not depend on the other services. -/
def assess (containers : List Container) (files : Unit.Files) (service : Service) : Service :=
  let linked := Container.ofIds containers service.associatedContainerIds
  { service with
    isReverseProxy := isProxy files linked service
    isServiceBay := isManagement files linked service }

/-- The rank of a reverse proxy in the election; lower is better. -/
def rank (service : Service) : Nat :=
  (if service.isActive then 0 else 2) + (if isWellKnown service.name then 0 else 1)

/-- The place of the primary reverse proxy: the first of the best rank. -/
def primary? (services : List Service) : Option Nat :=
  [0, 1, 2, 3].findSome? fun best =>
    services.findIdx? fun service => service.isReverseProxy && rank service == best

/-- Make the elected service the only primary one. -/
def elect (services : List Service) : List Service :=
  let primary := primary? services
  services.mapIdx fun place service => { service with isPrimaryProxy := primary == some place }

def resolve (containers : List Container) (files : Unit.Files) (services : List Service) : List Service :=
  elect (services.map (assess containers files))

end ProxyRole
end Fleet
