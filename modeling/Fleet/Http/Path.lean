import Fleet.Number.Numeral
import Fleet.Text.Cut

namespace Fleet
namespace Http

/-!
# Paths

What a path leads to.  The segments of a path are compared as they were sent, and only the segment that
names a node is decoded: a percent sign with two hexadecimal digits stands for a byte, and the bytes have to
be a text.
-/

/-- What can be asked for.  Nodes are named by the segment that was sent. -/
inductive Resource where
  | version
  | fleet
  | gateway
  /-- The stream of changes, for which another protocol is used. -/
  | changes
  | node (id : List Char)
  | connection (id : List Char)
  | sync (id : List Char)
  | frames (id : List Char)
  | bundles (id : List Char)
  | migrations (id : List Char)
  deriving DecidableEq

namespace Resource

/-- What belongs to a node, by the segment after its id. -/
def ofNode (id : List Char) : String → Option Resource
  | "connection" => some (connection id)
  | "sync" => some (sync id)
  | "frames" => some (frames id)
  | "bundles" => some (bundles id)
  | "migrations" => some (migrations id)
  | _ => none

def ofSegments (segments : List (List Char)) : Option Resource :=
  match segments.map String.ofList, segments with
  | ["", "version"], _ => some version
  | ["", "api", "twin"], _ => some fleet
  | ["", "api", "gateway"], _ => some gateway
  | ["", "ws", "twin"], _ => some changes
  | ["", "api", "nodes", _], [_, _, _, id] => if id.isEmpty then none else some (node id)
  | ["", "api", "nodes", _, part], [_, _, _, id, _] => if id.isEmpty then none else ofNode id part
  | _, _ => none

/-- What a path leads to; a query does not count. -/
def ofTarget (target : String) : Option Resource :=
  ofSegments (Text.segments '/' (target.toList.takeWhile fun c => c != '?' && c != '#'))

end Resource

/-- The bytes that a segment stands for.  A percent sign without two digits stands for itself. -/
def percentDecoded : List UInt8 → List UInt8
  | 0x25 :: high :: low :: rest =>
      match Number.natural? 16 [Char.ofNat high.toNat, Char.ofNat low.toNat] with
      | some value => UInt8.ofNat value :: percentDecoded rest
      | none => 0x25 :: percentDecoded (high :: low :: rest)
  | byte :: rest => byte :: percentDecoded rest
  | [] => []

/-- The id of a node that a segment stands for, if its bytes are a text. -/
def nodeId? (segment : List Char) : Option String :=
  String.fromUTF8? ⟨(percentDecoded (String.ofList segment).toUTF8.toList).toArray⟩

end Http
end Fleet
