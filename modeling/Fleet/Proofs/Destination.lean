import Fleet.Proofs.Domain
import Fleet.Proxy.Destination
import Mathlib.Data.List.TakeWhile

namespace Fleet
namespace Destination

/-!
# Two readings of a target

The target of a route is read twice.  A server block takes it apart into an address, a port and a path, while
the domains go by its text, which has to be that of an address, alone or with a port.  Both drop the same
scheme, the same blanks and the same slashes at the end, and then part: the first reading still finds host and
port before a path, within brackets, or in a port that is written with a plus sign or with zeros in front.

So the domains follow a route to the host and the port that its server block shows exactly when nothing else
is written in the target, which is what `Verbatim` says.
-/

/-- Whether a target says nothing but the host that a server block shows for it, alone or with the port in
plain decimal, a scheme, blanks around it and slashes at its end aside. -/
def Verbatim (route : Route) : Prop :=
  let parts := partsOf route.targetService
  let shown := (ofRoute route).2
  parts.path = [] ∧
    (parts.authority = shown.targetHost.toList ∨
      ∃ port, shown.targetPort = some port ∧
        parts.authority = shown.targetHost.toList ++ ':' :: (toString port.toNat).toList)

/-! ## What both readings have in common -/

/-- The text by which the domains go is that of the authority and the path. -/
theorem toList_normalizeTarget (target : String) :
    (Domain.normalizeTarget target).toList =
      Text.lowered ((partsOf target).authority ++ (partsOf target).path) := by
  unfold Domain.normalizeTarget partsOf
  rw [List.takeWhile_append_dropWhile, String.toList_ofList]
  cases Text.cutAround "://".toList (Text.trim target.toList) <;> rfl

/-- A path starts with a slash, so that there is none where there is no slash. -/
theorem path_eq_nil {target : String} (noSlash : '/' ∉ (partsOf target).authority ++ (partsOf target).path) :
    (partsOf target).path = [] := by
  unfold partsOf at noSlash ⊢
  rw [List.takeWhile_append_dropWhile] at noSlash
  refine List.dropWhile_eq_nil_iff.2 fun c member => ?_
  have other : c ≠ '/' := fun slash => noSlash (slash ▸ member)
  simp [other]

/-! ## Authorities -/

/-- An authority starts with a bracket that is closed somewhere. -/
def Bracketed (authority : List Char) : Prop :=
  ∃ inside, authority = '[' :: inside ∧ ']' ∈ inside

theorem splitAuthority_of_plain {authority : List Char} (plain : ¬ Bracketed authority) :
    splitAuthority authority =
      match Text.cutLast ':' authority with
      | none => (authority, none)
      | some (host, port) =>
          match Number.word16? port with
          | some port => (host, some port)
          | none => (authority, none) := by
  unfold splitAuthority
  extract_lets unbracketed
  split
  · rename_i inside
    have notClosed : ']' ∉ inside := fun closed => plain ⟨inside, rfl, closed⟩
    have unclosed := Text.cutFirst_eq_none_iff.2 notClosed
    generalize Text.cutFirst ']' inside = parts at unclosed ⊢
    subst unclosed
    rfl
  · rfl

theorem splitAuthority_of_bare {authority : List Char} (bare : authority.head? ≠ some '[') :
    splitAuthority authority =
      match Text.cutLast ':' authority with
      | none => (authority, none)
      | some (host, port) =>
          match Number.word16? port with
          | some port => (host, some port)
          | none => (authority, none) := by
  refine splitAuthority_of_plain fun ⟨inside, starts, _⟩ => bare ?_
  rw [starts]
  rfl

theorem splitAuthority_of_not_mem {authority : List Char} (bare : authority.head? ≠ some '[')
    (noColon : ':' ∉ authority) : splitAuthority authority = (authority, none) := by
  rw [splitAuthority_of_bare bare, Text.cutLast_eq_none_iff.2 noColon]

theorem splitAuthority_append {host : List Char} (port : UInt16)
    (bare : (host ++ ':' :: (toString port.toNat).toList).head? ≠ some '[') :
    splitAuthority (host ++ ':' :: (toString port.toNat).toList) = (host, some port) := by
  have reads := Number.word16?_toString port
  rw [splitAuthority_of_bare bare,
    Text.cutLast_append ':' host (Number.not_mem_of_word16? reads (by decide) (by decide))]
  simp only [reads]

theorem ofRoute_snd (route : Route) :
    (ofRoute route).2 =
      let authority := splitAuthority (partsOf route.targetService).authority
      ⟨String.ofList authority.1, authority.2.or route.targetPort, route.ssl⟩ := rfl

/-! ## Where the readings agree -/

/-- A target that reads as an address has no path, and is its own host. -/
theorem parts_of_address {target address : String} (plain : Domain.Plain address)
    (reads : Text.lowered ((partsOf target).authority ++ (partsOf target).path) = address.toList) :
    (partsOf target).path = [] ∧ Text.lowered (partsOf target).authority = address.toList ∧
      splitAuthority (partsOf target).authority = ((partsOf target).authority, none) := by
  have absent : ∀ mark, mark.toLower = mark → Domain.Foreign mark →
      mark ∉ (partsOf target).authority ++ (partsOf target).path := fun mark stable foreign =>
    Text.not_mem_of_lowered stable (reads ▸ plain.not_mem foreign)
  have noPath := path_eq_nil (absent '/' (by decide) ⟨by decide, by decide, by decide⟩)
  rw [noPath, List.append_nil] at reads absent
  refine ⟨noPath, reads, splitAuthority_of_not_mem ?_ ?_⟩
  · exact fun bracket => absent '[' (by decide) ⟨by decide, by decide, by decide⟩ (List.mem_of_head? bracket)
  · exact absent ':' (by decide) ⟨by decide, by decide, by decide⟩

/-- A target that reads as an address with a port has no path, and is taken apart into the two. -/
theorem parts_of_atPort {target address : String} {port : UInt16} (plain : Domain.Plain address)
    (reads : Text.lowered ((partsOf target).authority ++ (partsOf target).path) =
      (Domain.atPort address port).toList) :
    (partsOf target).path = [] ∧ ∃ host, Text.lowered host = address.toList ∧
      (partsOf target).authority = host ++ ':' :: (toString port.toNat).toList ∧
        splitAuthority (partsOf target).authority = (host, some port) := by
  have absent : ∀ mark, mark.toLower = mark → Domain.Foreign mark → mark ≠ ':' →
      mark ∉ (partsOf target).authority ++ (partsOf target).path := fun mark stable foreign noColon =>
    Text.not_mem_of_lowered stable (reads ▸ plain.not_mem_atPort port foreign noColon)
  have noPath := path_eq_nil (absent '/' (by decide) ⟨by decide, by decide, by decide⟩ (by decide))
  rw [noPath, List.append_nil] at reads absent
  rw [Domain.toList_atPort] at reads
  rcases List.map_eq_append_iff.1 reads with ⟨host, behind, split, hostReads, behindReads⟩
  rcases List.map_eq_cons_iff.1 behindReads with ⟨colon, digits, rfl, colonReads, digitsRead⟩
  obtain rfl : colon = ':' := Text.eq_of_toLower_eq colonReads (by decide)
  have digits_eq : digits = (toString port.toNat).toList := Text.eq_of_lowered_eq digitsRead fun c member =>
    Text.isLower_of_isDigit (Number.isDigit_of_mem_toString member)
  subst digits_eq
  refine ⟨noPath, host, hostReads, split, ?_⟩
  rw [split] at absent ⊢
  refine splitAuthority_append port fun bracket => ?_
  exact absent '[' (by decide) ⟨by decide, by decide, by decide⟩ (by decide) (List.mem_of_head? bracket)

/-- The domains follow a route to a port of a host exactly when the target is verbatim, and host and port are
those that a server block shows. -/
theorem leadsTo_iff {route : Route} {nodeIps : List String}
    (plain : ∀ address ∈ Domain.addresses nodeIps, Domain.Plain address) {port : UInt16} :
    Domain.LeadsTo route nodeIps port ↔
      Verbatim route ∧ (ofRoute route).2.targetPort = some port ∧
        Text.lowerCase (ofRoute route).2.targetHost ∈ Domain.addresses nodeIps := by
  have normal := toList_normalizeTarget route.targetService
  constructor
  · rintro ⟨address, known, withPort | ⟨_, alone, beside⟩⟩
    · rw [withPort] at normal
      rcases parts_of_atPort (plain address known) normal.symm with ⟨noPath, host, hostReads, split, parts⟩
      have shown : (ofRoute route).2 = ⟨String.ofList host, some port, route.ssl⟩ := by
        rw [ofRoute_snd]
        simp only [parts, Option.some_or]
      have sameHost : Text.lowerCase (String.ofList host) = address := by
        rw [Text.lowerCase, String.toList_ofList, hostReads, String.ofList_toList]
      refine ⟨⟨noPath, Or.inr ⟨port, ?_, ?_⟩⟩, ?_, ?_⟩
      · rw [shown]
      · rw [shown, String.toList_ofList, split]
      · rw [shown]
      · rw [shown, sameHost]
        exact known
    · rw [alone] at normal
      rcases parts_of_address (plain address known) normal.symm with ⟨noPath, hostReads, parts⟩
      have shown : (ofRoute route).2 =
          ⟨String.ofList (partsOf route.targetService).authority, some port, route.ssl⟩ := by
        rw [ofRoute_snd]
        simp only [parts, Option.none_or, beside]
      have sameHost : Text.lowerCase (String.ofList (partsOf route.targetService).authority) = address := by
        rw [Text.lowerCase, String.toList_ofList, hostReads, String.ofList_toList]
      refine ⟨⟨noPath, Or.inl ?_⟩, ?_, ?_⟩
      · rw [shown, String.toList_ofList]
      · rw [shown]
      · rw [shown, sameHost]
        exact known
  · rintro ⟨⟨noPath, alone | ⟨written, shownPort, withPort⟩⟩, portShown, known⟩
    · have reads : Text.lowered ((partsOf route.targetService).authority ++ (partsOf route.targetService).path) =
          (Text.lowerCase (ofRoute route).2.targetHost).toList := by
        rw [noPath, List.append_nil, alone, Text.lowerCase, String.toList_ofList]
      rcases parts_of_address (plain _ known) reads with ⟨_, _, parts⟩
      have beside : route.targetPort = some port := by
        rw [ofRoute_snd] at portShown
        simpa only [parts, Option.none_or] using portShown
      have named := String.toList_inj.1 (normal.trans reads)
      refine ⟨_, known, Or.inr ⟨?_, named, beside⟩⟩
      intro address digits split
      have colon : ':' ∈ (Text.lowerCase (ofRoute route).2.targetHost).toList := by
        rw [← named, split]
        exact List.mem_append_right address List.mem_cons_self
      exact absurd colon ((plain _ known).not_mem ⟨by decide, by decide, by decide⟩)
    · obtain rfl : written = port := Option.some.inj (shownPort.symm.trans portShown)
      refine ⟨_, known, Or.inl (String.toList_inj.1 ?_)⟩
      have digits : Text.lowered (':' :: (toString written.toNat).toList) = ':' :: (toString written.toNat).toList := by
        refine Text.lowered_eq_self (List.forall_mem_cons.2 ⟨by decide, fun c member => ?_⟩)
        exact Text.isUpper_of_isDigit (Number.isDigit_of_mem_toString member)
      rw [normal, noPath, List.append_nil, withPort, Text.lowered_append, digits, Domain.toList_atPort,
        Text.lowerCase, String.toList_ofList]

end Destination
end Fleet
