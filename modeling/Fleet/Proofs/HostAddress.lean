import Fleet.Port.Basic

namespace Fleet

/-!
# Resolving addresses more than once

An address that is written over a wildcard stays there when the ports are resolved again, for the same address
or for another one, unless it is spelled like a wildcard itself.  So what comes of resolving for one address
and then for another is what comes of resolving for a single one, and that is told here.
-/

namespace PortMapping

/-- A mapping at a node whose first address is given, if it has one. -/
def shownAt (address : Option String) (mapping : PortMapping) : PortMapping :=
  if isUnspecified mapping.hostIp then { mapping with hostIp := address.or mapping.hostIp } else mapping

/-- The address at which a wildcard is shown that was resolved for one address and then for another. -/
def held (first second : Option String) : Option String :=
  if isUnspecified first then second.or first else first

@[simp] theorem shownAt_none (mapping : PortMapping) : shownAt none mapping = mapping := by
  unfold shownAt
  split <;> rfl

@[simp] theorem held_none (address : Option String) : held none address = address :=
  Option.or_none

@[simp] theorem held_self (address : Option String) : held address address = address := by
  unfold held
  rw [Option.or_self, ite_self]

theorem resolveHostIps_eq (address : Option String) (ports : List PortMapping) :
    resolveHostIps address ports = ports.map (shownAt address) := by
  cases address with
  | none => exact ((List.map_congr_left fun mapping _ => shownAt_none mapping).trans (List.map_id' ports)).symm
  | some ip => rfl

theorem shownAt_shownAt (first second : Option String) (mapping : PortMapping) :
    shownAt second (shownAt first mapping) = shownAt (held first second) mapping := by
  cases first with
  | none => rw [shownAt_none, held_none]
  | some ip =>
      by_cases unspecified : isUnspecified mapping.hostIp = true
      · have resolved : ∀ address, shownAt address mapping =
            { mapping with hostIp := address.or mapping.hostIp } := fun _ => if_pos unspecified
        rw [resolved, resolved, Option.some_or]
        -- The first address is overwritten in turn if it is spelled like a wildcard.
        by_cases spelled : isUnspecified (some ip) = true
        · simp [shownAt, held, spelled]
        · simp [shownAt, held, spelled]
      · have kept : ∀ address, shownAt address mapping = mapping := fun _ => if_neg unspecified
        rw [kept, kept, kept]

/-- Resolving for one address and then for another is resolving for the one that is held. -/
theorem resolveHostIps_resolveHostIps (first second : Option String) (ports : List PortMapping) :
    resolveHostIps second (resolveHostIps first ports) = resolveHostIps (held first second) ports := by
  rw [resolveHostIps_eq, resolveHostIps_eq, resolveHostIps_eq, List.map_map]
  exact List.map_congr_left fun mapping _ => shownAt_shownAt first second mapping

theorem shownAt_eq_iff {first second : Option String} {mapping : PortMapping} :
    shownAt first mapping = shownAt second mapping ↔
      (isUnspecified mapping.hostIp = true → first.or mapping.hostIp = second.or mapping.hostIp) := by
  unfold shownAt
  constructor
  · intro same unspecified
    rw [if_pos unspecified, if_pos unspecified] at same
    exact congrArg hostIp same
  · intro sameAddress
    split
    · rename_i unspecified
      rw [sameAddress unspecified]
    · rfl

end PortMapping

end Fleet
