import Fleet.Number.Binary64

namespace Fleet

/-!
# Documents

The values that agents send and that the service answers with.  Numbers keep the distinction that the
notation makes between a whole number and a floating-point one, since a whole-number field refuses `5.0`.
The fields of an object are listed as they stand; a reader that promises sorted and distinct keys says so.
-/

/-- A number of a document.  A whole number lies between the least signed and the greatest unsigned
word of 64 bits; every other number is floating-point. -/
inductive Json.Number where
  | whole (value : Int)
  | real (value : Binary64)
  deriving DecidableEq

/-- A document. -/
inductive Json where
  | null
  | bool (value : Bool)
  | number (value : Json.Number)
  | string (value : String)
  | array (items : List Json)
  | object (fields : List (String × Json))

namespace Json

instance : Inhabited Json := ⟨null⟩

def kind : Json → String
  | null => "null"
  | bool _ => "bool"
  | number _ => "number"
  | string _ => "string"
  | array _ => "array"
  | object _ => "object"

def ofInt (n : Int) : Json :=
  number (.whole n)

def ofNat (n : Nat) : Json :=
  number (.whole (Int.ofNat n))

def texts (items : List String) : Json :=
  array (items.map string)

/-- The first field of a name, when the value is an object that has one. -/
def field? (name : String) : Json → Option Json
  | object fields => (fields.find? fun field => field.1 == name).map Prod.snd
  | _ => none

end Json
end Fleet
