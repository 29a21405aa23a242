import Fleet.Codec.Record
import Fleet.Keyed
import Fleet.Unit.Directives

namespace Fleet

/-!
# Watched files, and the unit files among them

Finding the file that defines a service, and the file of pod definitions that such a file refers to.
Files are looked through in the order of their keys, and the first that fits is taken.
-/

/-- A configuration or unit file that an agent watches, with its whole content. -/
structure WatchedFile where
  path : String
  content : String
  modified : Binary64
  deriving DecidableEq

namespace WatchedFile

def record : Record WatchedFile WatchedFile :=
  mk <$> .required ⟨"path", []⟩ path .text
    <*> .defaulted ⟨"content", []⟩ content .text ""
    <*> .defaulted ⟨"modified", []⟩ modified .real .zero

def codec : Codec WatchedFile :=
  record.codec

end WatchedFile

namespace Unit

abbrev Files := Keyed WatchedFile

/-- The first watched file with a property of its path. -/
def Files.find? (files : Files) (fits : String → Bool) : Option WatchedFile :=
  files.values.find? fun file => fits file.path

/-- The endings of the files that define a service, the preferred ones first. -/
def extensions : List String :=
  ["kube", "container", "pod", "service"]

def fileName (path : String) : String :=
  match Text.cutLast '/' path.toList with
  | some parts => String.ofList parts.2
  | none => path

/-- A path without its last segment; empty when it has only one. -/
def directory (path : String) : String :=
  match Text.cutLast '/' path.toList with
  | some parts => String.ofList parts.1
  | none => ""

def fileFor (files : Files) (service : String) : Option WatchedFile :=
  extensions.findSome? fun extension =>
    let wanted := service ++ "." ++ extension
    files.find? fun path => fileName path == wanted

def directivesFor (files : Files) (service : String) : Option Directives :=
  (fileFor files service).map fun file => Directives.parse file.content

/-- The segments of a path with `.` left out and `..` taking back the segment before it; the segments
already settled are listed last first. -/
def collapse : (done : List (List Char)) → List (List Char) → List (List Char)
  | done, [] => done.reverse
  | done, segment :: rest =>
      if segment.isEmpty ∨ segment = ['.'] then collapse done rest
      else if segment = ['.', '.'] then collapse done.tail rest
      else collapse (segment :: done) rest

/-- A path without empty segments, `.` and `..`. -/
def normalizePath (path : String) : String :=
  let segments := collapse [] (Text.segments '/' path.toList)
  let joined := ['/'].intercalate segments
  String.ofList (if path.toList.head? = some '/' then '/' :: joined else joined)

/-- The file that a reference in a unit file means: the one at the reference, taken from the directory of
the unit file, or else the first whose path ends with the reference. -/
def resolveYaml (files : Files) (unitPath reference : String) : Option WatchedFile :=
  let direct :=
    if reference.toList.head? = some '/' then normalizePath reference
    else normalizePath (directory unitPath ++ "/" ++ reference)
  match files.find? fun path => path == direct with
  | some file => some file
  | none =>
      let suffix := Text.stripStart '/' (normalizePath reference).toList
      files.find? fun path =>
        path.toList == suffix || (Text.beforeEnd? ('/' :: suffix) path.toList).isSome

end Unit
end Fleet
