import Fleet.Association
import Fleet.Node.Derivation
import Fleet.Report.Entry
import Fleet.Resources
import Fleet.Unit.Files

namespace Fleet

/-!
# Reports

A report tells the state of a part of a node: the fields that it has replace what was known, and the others
stay.  A field of the wrong kind counts as absent, and an entry that cannot be read as not listed; both
are named in a warning, in the order in which the fields are looked at.
-/

/-- What an agent reports; an absent field leaves what was known. -/
structure Report where
  containers : Option (List Container)
  services : Option (List Service)
  volumes : Option (List Volume)
  files : Option Unit.Files
  proxyRoutes : Option (List Route)
  resources : Option SystemResources
  initialSyncComplete : Option Bool

namespace Report

def silent : Report :=
  ⟨none, none, none, none, none, none, none⟩

/-! ## Fields -/

/-- What a field of a report gives: its value, if it can be used, and warnings. -/
abbrev Field (α : Type) := Option α × List ShapeWarning

def absent {α : Type} : Field α :=
  (none, [])

def rejected {α : Type} (field wanted : String) (found : Json) : Field α :=
  (none, [⟨field, .unexpected wanted found.kind⟩])

/-- The warnings about the entries that cannot be read. -/
def complaints {α : Type} (field : String) (read : Json → Except Problem α)
    (entries : List (String × Json)) : List ShapeWarning :=
  entries.filterMap fun entry =>
    match read entry.2 with
    | .ok _ => none
    | .error problem => some ⟨ShapeWarning.entryName field entry.1, problem⟩

def listField {α : Type} (field : String) (read : Json → Except Problem α) : Json → Field (List α)
  | .array items =>
      (some (items.filterMap fun item => (read item).toOption),
        complaints field read (items.zipIdx.map fun item => (toString item.2, item.1)))
  | other => rejected field "array" other

/-- The files that can be read, under their keys. -/
def acceptedFiles (entries : List (String × Json)) : Unit.Files :=
  Keyed.ofList (entries.filterMap fun entry =>
    (readFile entry.1 entry.2).toOption.map fun file => (entry.1, file))

def filesField : Json → Field Unit.Files
  | .object entries =>
      (some (acceptedFiles entries),
        entries.flatMap fun entry => complaints "files" (readFile entry.1) [entry])
  | other => rejected "files" "object" other

/-- The field of the resources; `null` says nothing. -/
def resourcesField : Json → Field SystemResources
  | .null => absent
  | .object fields =>
      match SystemResources.codec.decode (.object fields) with
      | .ok resources => (some resources, [])
      | .error fault => (none, [⟨"resources", .misfit fault⟩])
  | other => rejected "resources" "object" other

/-- The field that tells whether the first complete report was sent. -/
def completionField : Json → Field Bool
  | .bool complete => (some complete, [])
  | other => rejected "initialSyncComplete" "bool" other

/-! ## Reading -/

/-- What a field gives, if the report has it. -/
def fieldOf {α : Type} (report : Json) (field : String) (read : Json → Field α) : Field α :=
  match report.field? field with
  | some value => read value
  | none => absent

/-- The routes, which agents also send under a shorter name. -/
def routesOf (report : Json) : Field (List Route) :=
  let field := if (report.field? "proxyRoutes").isSome then "proxyRoutes" else "proxy"
  fieldOf report field (listField field readRoute)

def read (report : Json) : Report × List ShapeWarning :=
  match report with
  | .object _ =>
      let containers := fieldOf report "containers" (listField "containers" readContainer)
      let services := fieldOf report "services" (listField "services" readService)
      let volumes := fieldOf report "volumes" (listField "volumes" readVolume)
      let proxyRoutes := routesOf report
      let files := fieldOf report "files" filesField
      let resources := fieldOf report "resources" resourcesField
      let completion := fieldOf report "initialSyncComplete" completionField
      (⟨containers.1, services.1, volumes.1, files.1, proxyRoutes.1, resources.1, completion.1⟩,
        containers.2 ++ services.2 ++ volumes.2 ++ proxyRoutes.2 ++ files.2 ++ resources.2 ++
          completion.2)
  | other => (silent, [⟨"<root>", .unexpected "object" other.kind⟩])

end Report

/-! ## What a report changes -/

namespace Node

/-- A node with a report merged into it.  Services keep the containers that were known to belong to them. -/
def merge (report : Report) (node : Node) : Node :=
  { node with
    containers := report.containers.getD node.containers
    services :=
      match report.services with
      | some services => Association.carryOver node.services services
      | none => node.services
    volumes := report.volumes.getD node.volumes
    files := report.files.getD node.files
    proxyRoutes := report.proxyRoutes.getD node.proxyRoutes
    resources := report.resources.or node.resources
    initialSyncComplete := report.initialSyncComplete.getD node.initialSyncComplete }

/-- A node after a report that arrived at a time: merged, connected, and with everything derived anew. -/
def receive (now : UInt64) (report : Report) (node : Node) : Node :=
  { node.merge report with connected := true, lastSync := now }.reconcile

end Node
end Fleet
