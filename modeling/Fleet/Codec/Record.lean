import Fleet.Codec.Basic

namespace Fleet

/-!
# Records

A record is described once, field by field, and the description serves for writing and for reading.  It
is put together like an ordinary function application: `mk <$> a <*> b` has the fields of `a` and then
those of `b`.

A record stands in a document as an object, or as an array of its fields in order.  An object is read
in the order in which its keys stand, and the fault reported is the first that one meets in this order;
that a field is missing shows only at the end.  So every field reports its fault together with the
place where it shows, and of two faults the earlier place wins.
-/

/-- The names under which a field may be given.  Reports use the first. -/
structure Slot where
  name : String
  aliases : List String := []

def Slot.hasName (slot : Slot) (key : String) : Bool :=
  key == slot.name || slot.aliases.contains key

/-- A fault, and the place among the keys or items of the document where it shows. -/
abbrev Misfit := Nat × Fault

/-- What a document gives for the fields of a record. -/
structure Given where
  /-- The values given for a field, with their places. -/
  found : Slot → List (Nat × Json)
  /-- What it means that a field is not given. -/
  absent : Slot → Misfit

/-- The description of a record, or of a part of one: how the fields of `σ` are written, and how a value
of `α` is read from them. -/
structure Record (σ α : Type) where
  slots : List Slot
  write : σ → List (String × Json)
  take : Given → Except Misfit α

/-- The value of a field, if it is given, and given once. -/
def Given.value? {α : Type} (given : Given) (slot : Slot) (decode : Json → Except Fault α) :
    Except Misfit (Option α) :=
  match given.found slot with
  | [] => .ok none
  | (place, value) :: more =>
      match decode value with
      | .error fault => .error (place, fault)
      | .ok value =>
          match more with
          | [] => .ok (some value)
          | (again, _) :: _ => .error (again, .repeated slot.name)

/-- Combine what two parts of a record say; of two misfits the one at the earlier place counts. -/
def Misfit.both {α β : Type} (first : Except Misfit (α → β)) (second : Except Misfit α) :
    Except Misfit β :=
  match first, second with
  | .ok f, .ok value => .ok (f value)
  | .ok _, .error misfit => .error misfit
  | .error misfit, .ok _ => .error misfit
  | .error left, .error right => .error (if right.1 < left.1 then right else left)

namespace Record

variable {σ α β : Type}

instance : Functor (Record σ) where
  map f r := ⟨r.slots, r.write, fun given => (r.take given).map f⟩

instance : Pure (Record σ) where
  pure value := ⟨[], fun _ => [], fun _ => .ok value⟩

instance : Seq (Record σ) where
  seq first second :=
    { slots := first.slots ++ (second ()).slots
      write := fun whole => first.write whole ++ (second ()).write whole
      take := fun given => Misfit.both (first.take given) ((second ()).take given) }

def required (slot : Slot) (get : σ → β) (codec : Codec β) : Record σ β where
  slots := [slot]
  write whole := [(slot.name, codec.encode (get whole))]
  take given :=
    match given.value? slot codec.decode with
    | .error misfit => .error misfit
    | .ok (some value) => .ok value
    | .ok none => .error (given.absent slot)

/-- A field with a default for when it is not given.  It is left out of the written form when `unwritten`
says so. -/
def defaulted (slot : Slot) (get : σ → β) (codec : Codec β) (default : β)
    (unwritten : β → Bool := fun _ => false) : Record σ β where
  slots := [slot]
  write whole := if unwritten (get whole) then [] else [(slot.name, codec.encode (get whole))]
  take given := (given.value? slot codec.decode).map fun value => value.getD default

/-- A field that may be absent; `null` says so too, and nothing is written for it. -/
def optional (slot : Slot) (get : σ → Option β) (codec : Codec β) : Record σ (Option β) :=
  defaulted slot get codec.nullable none (fun value => value.isNone)

/-- A field of a record that is only ever read, and has to be given. -/
def need (slot : Slot) (decode : Json → Except Fault β) : Record σ β where
  slots := [slot]
  write _ := []
  take given :=
    match given.value? slot decode with
    | .error misfit => .error misfit
    | .ok (some value) => .ok value
    | .ok none => .error (given.absent slot)

/-- A field of a record that is only ever read, and may be absent or `null`. -/
def may (slot : Slot) (decode : Json → Except Fault β) : Record σ (Option β) where
  slots := [slot]
  write _ := []
  take given :=
    (given.value? slot (Codec.nullable ⟨fun _ => .null, decode⟩).decode).map fun value =>
      value.getD none

/-- A part of the record that documents do not show; it has the same value in every record read. -/
def hidden (value : β) : Record σ β :=
  pure value

/-- What the fields of an object give: each key that names a slot, at its place. -/
def ofFields (fields : List (String × Json)) : Given where
  found slot :=
    fields.zipIdx.filterMap fun (field, place) =>
      if slot.hasName field.1 then some (place, field.2) else none
  absent slot := (fields.length, .missing slot.name)

/-- What the items of an array give: to every slot the item at its own place. -/
def ofItems (slots : List Slot) (items : List Json) : Given where
  found slot :=
    (slots.zip items).zipIdx.filterMap fun (item, place) =>
      if item.1.name == slot.name then some (place, item.2) else none
  absent _ := (items.length, .tooFew)

/-- Read a record.  `loose` lets an array have more items than the record has fields. -/
def decodeWith (loose : Bool) (record : Record σ α) : Json → Except Fault α
  | .object fields => (record.take (ofFields fields)).mapError Prod.snd
  | .array items => do
      let value ← (record.take (ofItems record.slots items)).mapError Prod.snd
      if !loose && record.slots.length < items.length then .error .tooMany else .ok value
  | _ => .error .wrongType

def decode (record : Record σ α) : Json → Except Fault α :=
  record.decodeWith false

def codec (record : Record α α) : Codec α where
  encode value := .object (record.write value)
  decode := record.decode

end Record
end Fleet
