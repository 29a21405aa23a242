import Fleet.Text.Cut

namespace Fleet
namespace Unit

/-!
# Assignments in unit files

A unit file is a sequence of lines.  A line opens a section, or assigns a value to a key of the section
that was opened last, or says nothing.  All that the fleet takes from a unit file depends on its
assignments alone, in their order; comments, blank lines, indentation and the case of section names and
keys make no difference.
-/

/-- A value given to a key of a section; section and key are in lower case. -/
structure Assignment where
  heading : String
  key : String
  value : String
  deriving DecidableEq

/-- What a single line says. -/
inductive Line where
  | silent
  | header (name : String)
  | assignment (key value : String)
  deriving DecidableEq

/-- The name in a section header, if the line is one. -/
def headerName? (line : List Char) : Option (List Char) :=
  match line with
  | '[' :: inside => Text.beforeEnd? [']'] inside
  | _ => none

/-- Read a line.  Blanks around a line, a key and a value do not count, and an assignment that leaves one of its
sides empty says nothing. -/
def Line.read (text : List Char) : Line :=
  let line := Text.trim text
  match line with
  | [] => .silent
  | '#' :: _ => .silent
  | ';' :: _ => .silent
  | _ =>
      match headerName? line with
      | some name => .header (String.ofList (Text.lowered name))
      | none =>
          match Text.cutFirst '=' line with
          | none => .silent
          | some (before, after) =>
              let key := Text.lowered (Text.trim before)
              let value := Text.trim after
              if key.isEmpty || value.isEmpty then .silent
              else .assignment (String.ofList key) (String.ofList value)

def assignmentsIn (heading : String) : List Line → List Assignment
  | [] => []
  | .silent :: rest => assignmentsIn heading rest
  | .header name :: rest => assignmentsIn name rest
  | .assignment key value :: rest => ⟨heading, key, value⟩ :: assignmentsIn heading rest

def linesOf (content : String) : List Line :=
  (Text.segments '\n' content.toList).map Line.read

def assignments (content : String) : List Assignment :=
  assignmentsIn "" (linesOf content)

end Unit
end Fleet
