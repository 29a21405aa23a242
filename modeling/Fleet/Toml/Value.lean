import Fleet.Json.Basic
import Fleet.Number.Numeral

namespace Fleet

/-!
# Values of configuration files

A configuration file is a table.  Where a table was written decides what may still be added to it, so
every table remembers its origin.  No setting is a floating-point number or a point in time; of these
it is only known that they are there.
-/

/-- How a table came to be. -/
inductive Toml.Origin where
  /-- By a header for a table inside it. -/
  | implied
  /-- By its own header. -/
  | opened
  /-- By a key of several parts. -/
  | dotted
  /-- In braces, which leave nothing to be added. -/
  | inline
  deriving DecidableEq

/-- A value of a configuration file. -/
inductive Toml where
  | text (value : String)
  | flag (value : Bool)
  | whole (value : Int)
  | real
  | moment
  /-- An array; `ofTables` says that headers add to it. -/
  | array (ofTables : Bool) (items : List Toml)
  | table (origin : Toml.Origin) (entries : List (String × Toml))

namespace Toml

instance : Inhabited Toml := ⟨flag false⟩

mutual

/-- The value as a document.  What no setting can be becomes `null`; a point in time has the form of a
table, in which no setting is found. -/
def toJson : Toml → Json
  | text value => .string value
  | flag value => .bool value
  | whole value => if Number.fits64 value then .ofInt value else .null
  | real => .null
  | moment => .object []
  | array _ items => .array (itemsToJson items)
  | table _ entries => .object (entriesToJson entries)

def itemsToJson : List Toml → List Json
  | [] => []
  | item :: rest => item.toJson :: itemsToJson rest

def entriesToJson : List (String × Toml) → List (String × Json)
  | [] => []
  | (key, value) :: rest => (key, value.toJson) :: entriesToJson rest

end

end Toml
end Fleet
