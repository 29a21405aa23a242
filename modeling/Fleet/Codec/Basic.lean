import Fleet.Json.Basic
import Fleet.Keyed

namespace Fleet

/-!
# Typed values in documents

A `Codec` says how the values of a type stand in a document: how one is written and which documents are
read as one.  Reading is strict.  Nothing is converted except that a whole number may stand where a
floating-point one is asked for, and the first thing wrong with a document is its `Fault`.
-/

/-- What is wrong with a document that does not read as a type. -/
inductive Fault where
  /-- A value of another kind than the one asked for. -/
  | wrongType
  /-- A whole number that the type does not have. -/
  | outOfRange
  /-- An array with too few items for a record. -/
  | tooFew
  /-- An array with more items than a record has fields. -/
  | tooMany
  /-- A text that is not one of the words of an enumeration. -/
  | unknownWord
  /-- A value that cannot name a word of an enumeration at all. -/
  | notAWord
  /-- An object that does not name exactly one word of an enumeration. -/
  | notOneWord
  /-- A value that fits none of several accepted forms. -/
  | noAlternative
  /-- A record without a field that it must have. -/
  | missing (field : String)
  /-- A record that gives a field twice, whether or not under one name. -/
  | repeated (field : String)
  deriving DecidableEq

def Fault.message : Fault → String
  | wrongType => "invalid type"
  | notAWord => "invalid type"
  | outOfRange => "invalid value"
  | notOneWord => "invalid value"
  | tooFew => "invalid length"
  | tooMany => "invalid length"
  | unknownWord => "unknown variant"
  | noAlternative => "data did not match any variant"
  | missing field => "missing field `" ++ field ++ "`"
  | repeated field => "duplicate field `" ++ field ++ "`"

/-- How the values of a type stand in a document. -/
structure Codec (α : Type) where
  encode : α → Json
  decode : Json → Except Fault α

namespace Codec

/-- Any document, as it is. -/
def document : Codec Json :=
  ⟨id, .ok⟩

def text : Codec String where
  encode := .string
  decode
    | .string value => .ok value
    | _ => .error .wrongType

def flag : Codec Bool where
  encode := .bool
  decode
    | .bool value => .ok value
    | _ => .error .wrongType

def wholeBetween {α : Type} (least greatest : Int) (toInt : α → Int) (ofInt : Int → α) :
    Codec α where
  encode value := .ofInt (toInt value)
  decode
    | .number (.whole n) => if least ≤ n ∧ n ≤ greatest then .ok (ofInt n) else .error .outOfRange
    | _ => .error .wrongType

def word16 : Codec UInt16 :=
  wholeBetween 0 65535 (fun n => Int.ofNat n.toNat) (fun n => UInt16.ofNat n.toNat)

def word32 : Codec UInt32 :=
  wholeBetween 0 4294967295 (fun n => Int.ofNat n.toNat) (fun n => UInt32.ofNat n.toNat)

def word64 : Codec UInt64 :=
  wholeBetween 0 18446744073709551615 (fun n => Int.ofNat n.toNat) (fun n => UInt64.ofNat n.toNat)

def signed64 : Codec Int :=
  wholeBetween (-9223372036854775808) 9223372036854775807 id id

/-- A floating-point number, which may be given as a whole one. -/
def real : Codec Binary64 where
  encode value := .number (.real value)
  decode
    | .number (.real value) => .ok value
    | .number (.whole n) => .ok (Binary64.ofInt n)
    | _ => .error .wrongType

/-- A list, read item by item up to the first that does not fit. -/
def list {α : Type} (item : Codec α) : Codec (List α) where
  encode items := .array (items.map item.encode)
  decode
    | .array items => items.mapM item.decode
    | _ => .error .wrongType

/-- Values under keys, read in the order in which they stand. -/
def keyed {α : Type} (value : Codec α) : Codec (Keyed α) where
  encode map := .object (map.entries.map fun entry => (entry.1, value.encode entry.2))
  decode
    | .object fields => do
        let entries ← fields.mapM fun field => do return (field.1, ← value.decode field.2)
        return Keyed.ofList entries
    | _ => .error .wrongType

/-- A value in whose place `null` may stand for a default. -/
def nullAs {α : Type} (default : α) (value : Codec α) : Codec α where
  encode := value.encode
  decode
    | .null => .ok default
    | given => value.decode given

/-- A value that may be absent, which is written as `null`. -/
def nullable {α : Type} (value : Codec α) : Codec (Option α) where
  encode
    | some given => value.encode given
    | none => .null
  decode
    | .null => .ok none
    | given => (value.decode given).map some

/-- One word of an enumeration.  A word may also be given as an object that holds `null` under it. -/
def word {α : Type} (words : List (String × α)) (name : α → String) : Codec α where
  encode value := .string (name value)
  decode
    | .string given =>
        match words.lookup given with
        | some value => .ok value
        | none => .error .unknownWord
    | .object [(given, content)] =>
        match words.lookup given, content with
        | some value, .null => .ok value
        | some _, _ => .error .wrongType
        | none, _ => .error .unknownWord
    | .object _ => .error .notOneWord
    | _ => .error .notAWord

def firstOf {α β γ : Type} (first : Codec α) (second : Codec β) (ofFirst : α → γ) (ofSecond : β → γ)
    (given : Json) : Except Fault γ :=
  match first.decode given with
  | .ok value => .ok (ofFirst value)
  | .error _ =>
      match second.decode given with
      | .ok value => .ok (ofSecond value)
      | .error _ => .error .noAlternative

end Codec
end Fleet
