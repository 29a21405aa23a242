import Fleet.Codec.Basic
import Fleet.Proofs.Keyed
import Fleet.Proofs.Results

namespace Fleet

/-!
# Values that are written and read again

A codec says two things, how a value is written and what is read, and nothing in it makes the two fit.  They fit where
every value is read as it was when it was written.  Such codecs are built from others, so this is a class, whose
instances go with the ways in which codecs are built.

There are two reasons for which a value may come back as another.  Something of it may not be written at all.  And it
may be written as `null`, where `null` says that there is no value.  The first is told by the value that is restored;
for the second the codecs are singled out which never write `null`.
-/

namespace Codec

variable {α : Type}

/-- What is read of a value that was written: the same value, but for what documents do not show. -/
class Restores (codec : Codec α) (value : α) (restored : outParam α) : Prop where
  decode_encode : codec.decode (codec.encode value) = .ok restored

/-- Every value that was written is read as it was. -/
class Faithful (codec : Codec α) : Prop where
  decode_encode : ∀ value, codec.decode (codec.encode value) = .ok value

/-- Every value that was written is read as it was, and none is written as `null`. -/
class Exact (codec : Codec α) : Prop extends codec.Faithful where
  encode_ne_null : ∀ value, codec.encode value ≠ .null

instance (codec : Codec α) [codec.Faithful] (value : α) : codec.Restores value value :=
  ⟨Faithful.decode_encode value⟩

/-! ## Simple values -/

instance : document.Faithful :=
  ⟨fun _ => rfl⟩

instance : text.Exact where
  decode_encode _ := rfl
  encode_ne_null _ := nofun

instance : flag.Exact where
  decode_encode _ := rfl
  encode_ne_null _ := nofun

instance : real.Exact where
  decode_encode _ := rfl
  encode_ne_null _ := nofun

theorem exact_wholeBetween {least greatest : Int} {toInt : α → Int} {ofInt : Int → α}
    (within : ∀ value, least ≤ toInt value ∧ toInt value ≤ greatest) (back : ∀ value, ofInt (toInt value) = value) :
    (wholeBetween least greatest toInt ofInt).Exact where
  decode_encode value := by
    change (if least ≤ toInt value ∧ toInt value ≤ greatest then _ else _) = _
    rw [if_pos (within value), back]
  encode_ne_null _ := nofun

instance : word16.Exact :=
  exact_wholeBetween (fun n => ⟨Int.natCast_nonneg _, Int.ofNat_le.2 (Nat.le_of_lt_succ n.toNat_lt)⟩)
    fun _ => UInt16.ofNat_toNat

instance : word32.Exact :=
  exact_wholeBetween (fun n => ⟨Int.natCast_nonneg _, Int.ofNat_le.2 (Nat.le_of_lt_succ n.toNat_lt)⟩)
    fun _ => UInt32.ofNat_toNat

instance : word64.Exact :=
  exact_wholeBetween (fun n => ⟨Int.natCast_nonneg _, Int.ofNat_le.2 (Nat.le_of_lt_succ n.toNat_lt)⟩)
    fun _ => UInt64.ofNat_toNat

/-- The words of an enumeration are told apart by their names. -/
theorem exact_word {words : List (String × α)} {name : α → String}
    (found : ∀ value, words.lookup (name value) = some value) : (word words name).Exact where
  decode_encode value := by
    unfold word
    simp only [found value]
  encode_ne_null _ := nofun

/-! ## Collections -/

theorem restores_list {codec : Codec α} {restored : α → α} {items : List α}
    (each : ∀ item ∈ items, codec.Restores item (restored item)) : codec.list.Restores items (items.map restored) :=
  ⟨mapM_of_each fun item member => (each item member).decode_encode⟩

/-- Entries that are read in the order of their keys are the entries of a collection already. -/
theorem restores_keyed {codec : Codec α} {restored : α → α} {map : Keyed α}
    (each : ∀ value ∈ map.values, codec.Restores value (restored value)) :
    codec.keyed.Restores map (map.mapValues restored) := by
  have entries : (map.entries.map fun entry => (entry.1, codec.encode entry.2)).mapM
      (fun field => do return (field.1, ← codec.decode field.2)) = Except.ok (map.mapValues restored).entries := by
    refine mapM_of_each fun entry member => ?_
    change (codec.decode (codec.encode entry.2) >>= fun value => .ok (entry.1, value)) = _
    rw [(each entry.2 (List.mem_map_of_mem member)).decode_encode]
    rfl
  constructor
  unfold keyed
  simp only [entries]
  exact congrArg Except.ok (Keyed.ofList_entries _)

instance (codec : Codec α) [codec.Faithful] : codec.list.Exact where
  decode_encode items := by
    have restores : codec.list.Restores items (items.map id) :=
      restores_list fun item _ => ⟨Faithful.decode_encode item⟩
    rw [restores.decode_encode, List.map_id]
  encode_ne_null _ := nofun

instance (codec : Codec α) [codec.Faithful] : codec.keyed.Exact where
  decode_encode map := by
    have restores : codec.keyed.Restores map (map.mapValues id) :=
      restores_keyed fun value _ => ⟨Faithful.decode_encode value⟩
    rw [restores.decode_encode]
    exact congrArg Except.ok (Keyed.ext (List.map_id _))
  encode_ne_null _ := nofun

/-! ## Values that may be absent -/

theorem decode_nullAs {codec : Codec α} {default : α} {given : Json} (present : given ≠ .null) :
    (codec.nullAs default).decode given = codec.decode given := by
  cases given with
  | null => exact absurd rfl present
  | _ => rfl

instance (codec : Codec α) (default : α) [exact : codec.Exact] : (codec.nullAs default).Exact where
  decode_encode value := (decode_nullAs (exact.encode_ne_null value)).trans (exact.decode_encode value)
  encode_ne_null := exact.encode_ne_null

theorem decode_nullable {codec : Codec α} {given : Json} (present : given ≠ .null) :
    codec.nullable.decode given = (codec.decode given).map some := by
  cases given with
  | null => exact absurd rfl present
  | _ => rfl

theorem restores_nullable {codec : Codec α} {value restored : α} (present : codec.encode value ≠ .null)
    (restores : codec.Restores value restored) : codec.nullable.Restores (some value) (some restored) := by
  constructor
  change codec.nullable.decode (codec.encode value) = _
  rw [decode_nullable present, restores.decode_encode]
  rfl

instance (codec : Codec α) [exact : codec.Exact] : codec.nullable.Faithful where
  decode_encode
    | none => rfl
    | some value => (restores_nullable (exact.encode_ne_null value) ⟨exact.decode_encode value⟩).decode_encode

end Codec
end Fleet
