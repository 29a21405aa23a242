import Fleet.Toml.Value

namespace Fleet
namespace Toml

/-!
# Tables of configuration files

Nothing may be defined twice.  A header opens a table that does not exist yet or exists only because
something inside it was opened before; a key of several parts reaches into tables that no header opened;
and a table in braces is complete.  All three are the same walk along a path, which differs in the tables
that it may enter.
-/

abbrev Entries := List (String × Toml)

def find? (key : String) (entries : Entries) : Option Toml :=
  (entries.find? fun entry => entry.1 == key).map Prod.snd

/-- Add an entry under a key that has none. -/
def add (key : String) (value : Toml) (entries : Entries) : Entries :=
  entries ++ [(key, value)]

def replace (key : String) (value : Toml) (entries : Entries) : Entries :=
  entries.map fun entry => if entry.1 == key then (key, value) else entry

/-- How a path is written. -/
inductive Walk where
  | header
  | dottedKey
  deriving DecidableEq

/-- The origin of a table that a walk comes upon first. -/
def Walk.creates : Walk → Origin
  | header => .implied
  | dottedKey => .dotted

def Walk.enters : Walk → Origin → Bool
  | header, origin => origin != .inline
  | dottedKey, origin => origin == .implied || origin == .dotted

/-- Change the table at the end of a path, with tables made where there are none.  A header reaches the
last table of an array of tables. -/
def within (walk : Walk) (change : Entries → Option Entries) : List String → Entries → Option Entries
  | [], entries => change entries
  | key :: path, entries =>
      match find? key entries with
      | none => do
          let inner ← within walk change path []
          return add key (.table walk.creates inner) entries
      | some (.table origin inner) => do
          if walk.enters origin then
            let inner ← within walk change path inner
            return replace key (.table origin inner) entries
          else none
      | some (.array true items) => do
          match walk, items.getLast? with
          | .header, some (.table origin inner) =>
              let inner ← within walk change path inner
              return replace key (.array true (items.dropLast ++ [.table origin inner])) entries
          | _, _ => none
      | some _ => none

def openTable (key : String) (entries : Entries) : Option Entries :=
  match find? key entries with
  | none => some (add key (.table .opened []) entries)
  | some (.table .implied inner) => some (replace key (.table .opened inner) entries)
  | some _ => none

def openItem (key : String) (entries : Entries) : Option Entries :=
  match find? key entries with
  | none => some (add key (.array true [.table .opened []]) entries)
  | some (.array true items) =>
      some (replace key (.array true (items ++ [.table .opened []])) entries)
  | some _ => none

def define (value : Toml) (key : String) (entries : Entries) : Option Entries :=
  match find? key entries with
  | none => some (add key value entries)
  | some _ => none

/-- Do something with the last key of a path, in the table that the keys before it lead to. -/
def atPath (walk : Walk) (change : String → Entries → Option Entries) (path : List String)
    (entries : Entries) : Option Entries := do
  within walk (change (← path.getLast?)) path.dropLast entries

end Toml
end Fleet
