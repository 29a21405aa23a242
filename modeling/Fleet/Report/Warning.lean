import Fleet.Codec.Basic

namespace Fleet

/-!
# Warnings about reports

An agent's report is taken apart field by field, and a part that cannot be used is left out without
touching the others.  Every part left out is named in a warning.
-/

/-- Why a part of a report was left out. -/
inductive Problem where
  /-- A value of another kind than the one that belongs there. -/
  | unexpected (wanted found : String)
  /-- A value of the right kind that does not decode. -/
  | misfit (fault : Fault)
  /-- A service without a name. -/
  | unnamedService
  /-- A route without a host name. -/
  | unnamedHost
  deriving DecidableEq

def Problem.message : Problem → String
  | unexpected wanted found => "expected " ++ wanted ++ ", got " ++ found
  | misfit fault => fault.message
  | unnamedService => "service name is empty"
  | unnamedHost => "route host is empty"

/-- A part of a report that was left out. -/
structure ShapeWarning where
  field : String
  problem : Problem
  deriving DecidableEq

namespace ShapeWarning

def encode (warning : ShapeWarning) : Json :=
  .object [("field", .string warning.field), ("reason", .string warning.problem.message)]

def entryName (field key : String) : String :=
  field ++ "[" ++ key ++ "]"

end ShapeWarning
end Fleet
