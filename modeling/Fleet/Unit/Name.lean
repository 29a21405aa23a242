import Fleet.Text.Cut

namespace Fleet
namespace Unit

/-!
# Names of units

Dependencies are listed as unit names, separated by commas or blanks.  A name without one of the known
endings is that of a service.
-/

def suffixes : List String :=
  ["service", "target", "socket", "mount", "timer", "path", "slice", "scope", "device", "swap"]

def serviceEnding : List Char := ".service".toList

def isComplete (name : List Char) : Bool :=
  match Text.cutLast '.' name with
  | some parts => suffixes.contains (String.ofList parts.2)
  | none => false

/-- A name with the ending of a service if it has no known ending. -/
def complete (name : List Char) : String :=
  String.ofList (if isComplete name then name else name ++ serviceEnding)

def namesIn (list : String) : List String :=
  (Text.pieces (fun c => c == ',' || Text.isBlank c) list.toList).map complete

/-- The service that a unit name means, if it is that of a service. -/
def service? (unit : String) : Option String :=
  (Text.beforeEnd? serviceEnding unit.toList).map String.ofList

/-- The pod that a reference means, with or without the ending of its unit file. -/
def podName (reference : String) : String :=
  match Text.beforeEnd? ".pod".toList reference.toList with
  | some name => String.ofList name
  | none => reference

end Unit
end Fleet
