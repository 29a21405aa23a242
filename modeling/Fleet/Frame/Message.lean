import Fleet.Codec.Basic
import Fleet.Json.Reader

namespace Fleet

/-!
# Messages of agents

A message is a document with a type.  One type carries a report; messages of any other type are understood
to be for someone else.  A message may be written as an object or as an array with the type in front, and
must not give one of its fields twice.
-/

mutual

/-- The value with the fields of every object in order, each once; of repeated ones the last counts. -/
def Json.sorted : Json → Json
  | .array items => .array (Json.sortedItems items)
  | .object fields => .object (Keyed.ofList (Json.sortedFields fields)).entries
  | .null => .null
  | .bool value => .bool value
  | .number value => .number value
  | .string value => .string value

def Json.sortedItems : List Json → List Json
  | [] => []
  | item :: rest => item.sorted :: Json.sortedItems rest

/-- The same for the values of the fields of an object, which stay in place. -/
def Json.sortedFields : List (String × Json) → List (String × Json)
  | [] => []
  | (name, value) :: rest => (name, value.sorted) :: Json.sortedFields rest

end

/-- A message of an agent. -/
inductive Message where
  /-- The report of a part of a node. -/
  | syncPartial (payload : Json) (timestamp : Option Binary64)
  /-- A message of another type. -/
  | unknown

namespace Message

def syncPartialType : String := "SYNC_PARTIAL"

/-- A message with a report, whose time stamp may be absent or `null`. -/
def report? (payload : Json) (timestamp : Option Json) : Option Message :=
  match timestamp with
  | none => some (.syncPartial payload.sorted none)
  | some value =>
      match (Codec.nullable .real).decode value with
      | .ok timestamp => some (.syncPartial payload.sorted timestamp)
      | .error _ => none

def valuesOf (name : String) (fields : List (String × Json)) : List Json :=
  (fields.filter fun field => field.1 == name).map Prod.snd

/-- The message that a document stands for, if it is one. -/
def ofJson? : Json → Option Message
  | .object fields =>
      match valuesOf "type" fields with
      | [.string type] =>
          if type == syncPartialType then
            match valuesOf "payload" fields, valuesOf "timestamp" fields with
            | [payload], [] => report? payload none
            | [payload], [timestamp] => report? payload (some timestamp)
            | _, _ => none
          else some .unknown
      | _ => none
  | .array (.string type :: items) =>
      if type == syncPartialType then
        match items with
        | [payload] => report? payload none
        | [payload, timestamp] => report? payload (some timestamp)
        | _ => none
      else if items.isEmpty then some .unknown
      else none
  | _ => none

/-- The message that a text holds, if it is one. -/
def read? (text : String) : Option Message :=
  match Json.readAsWritten text with
  | .whole value _ => ofJson? value
  | .broken _ => none

end Message
end Fleet
