import Fleet.Codec.Record
import Fleet.Frame.Message
import Fleet.Json.Skim

namespace Fleet
namespace Http
namespace Body

/-!
# Bodies

A body that is no document at all and one that is a document of the wrong kind are turned away
differently.  What decides is the first thing wrong in the order of the text: a value that does not fit
counts although the text breaks off behind it, and a text that breaks off counts although a field is
missing from it.  Fields that a record does not have are passed over.
-/

/-- What a body comes to. -/
inductive Outcome (α : Type) where
  | value (value : α)
  /-- The body is not the text of a document. -/
  | malformed
  /-- The body is a document of the wrong kind. -/
  | unfit
  deriving DecidableEq

def limit : Nat := 2 * 1024 * 1024

/-- The characters of a body from a byte on.  Bytes that are no text end it with a character that no
document can contain. -/
def charsFrom (body : ByteArray) (place : Nat) : List Char :=
  if _inside : place < body.size then
    match body.utf8DecodeChar? place with
    | some c =>
        have _further := c.utf8Size_pos
        c :: charsFrom body (place + c.utf8Size)
    | none => [Char.ofNat 0]
  else []
termination_by body.size - place

/-- How a body with a fault is turned away.  A word of an enumeration that is not written as one is not
even looked at, nor is what an array has beyond the fields of a record. -/
def turnedAway {α : Type} : Fault → Outcome α
  | .notAWord => .malformed
  | .notOneWord => .malformed
  | .tooMany => .malformed
  | _ => .unfit

/-- How a body is turned away that breaks off after a value with a fault.  What is missing from the value
might have followed. -/
def brokenOff {α : Type} : Fault → Outcome α
  | .missing _ => .malformed
  | .tooFew => .malformed
  | fault => turnedAway fault

def ended {α : Type} (rest : List Char) (value : α) : Outcome α :=
  if (Json.skipSpace rest).isEmpty then .value value else .malformed

def readWhole {α : Type} (decode : Json → Except Fault α) (text : List Char) : Outcome α :=
  match Json.readFirst text with
  | .whole value rest =>
      match decode value with
      | .ok value => ended rest value
      | .error fault => turnedAway fault
  | .broken none => .malformed
  | .broken (some beginning) =>
      match decode beginning with
      | .ok _ => .malformed
      | .error fault => brokenOff fault

def slotOf? {α : Type} (record : Record α α) (key : String) : Option Slot :=
  record.slots.find? fun slot => slot.hasName key

/-- What fields already show to be wrong, whatever else follows. -/
def fault? {α : Type} (record : Record α α) (fields : List (String × Json)) : Option (Outcome α) :=
  match record.decode (.object fields) with
  | .ok _ => none
  | .error (.missing _) => none
  | .error fault => some (turnedAway fault)

mutual

/-- Read the fields of a record from the next key on, after those already read. -/
def readFields {α : Type} (record : Record α α) :
    (fuel : Nat) → (done : List (String × Json)) → List Char → Outcome α
  | 0, _, _ => .malformed
  | fuel + 1, done, text =>
      match Json.skipSpace text with
      | '"' :: rest =>
          match Json.readText [] rest with
          | none => .malformed
          | some (key, rest) =>
              match slotOf? record key with
              | none =>
                  match Json.skipSpace rest with
                  | ':' :: rest =>
                      match Json.skip rest with
                      | some rest => readMore record fuel done rest
                      | none => .malformed
                  | _ => .malformed
              | some slot =>
                  if done.any fun field => slot.hasName field.1 then .unfit
                  else
                    match Json.skipSpace rest with
                    | ':' :: rest =>
                        match Json.readFirst rest with
                        | .whole value rest =>
                            let fields := done ++ [(key, value)]
                            (fault? record fields).getD (readMore record fuel fields rest)
                        | .broken beginning =>
                            let fields := done ++ beginning.toList.map fun value => (key, value)
                            (fault? record fields).getD .malformed
                    | _ => .malformed
      | _ => .malformed

def readMore {α : Type} (record : Record α α) :
    (fuel : Nat) → (done : List (String × Json)) → List Char → Outcome α
  | 0, _, _ => .malformed
  | fuel + 1, done, text =>
      match Json.skipSpace text with
      | ',' :: rest => readFields record fuel done rest
      | '\x7d' :: rest =>
          match record.decode (.object done) with
          | .ok value => ended rest value
          | .error fault => turnedAway fault
      | _ => .malformed

end

def readRecord {α : Type} (record : Record α α) (body : ByteArray) : Outcome α :=
  let text := charsFrom body 0
  match Json.skipSpace text with
  | '\x7b' :: rest =>
      match Json.skipSpace rest with
      | '\x7d' :: _ => readMore record (text.length + 1) [] rest
      | _ => readFields record (text.length + 1) [] rest
  | _ => readWhole record.decode text

def readDocument (body : ByteArray) : Outcome Json :=
  match readWhole .ok (charsFrom body 0) with
  | .value value => .value value.sorted
  | .malformed => .malformed
  | .unfit => .unfit

end Body
end Http
end Fleet
