import Fleet.Node.Derivation
import Fleet.Proofs.Domain

namespace Fleet

/-!
# The addresses that a host reports

The addresses of a node are what is left of those that its host reports when everything but external
addresses of version 4 is taken away.  So an address is four numbers with points between them, and no
character of it has a meaning in a target: it is no colon, no slash and no bracket.
-/

namespace NetworkAddress

/-- An address of version 4 is made of digits and points. -/
theorem plain_of_isIpv4 {address : String} (four : isIpv4 address.toList = true) : Domain.Plain address := by
  unfold isIpv4 at four
  simp only [Bool.and_eq_true, List.all_eq_true] at four
  rcases four with ⟨four, octets⟩
  refine ⟨?_, ?_⟩
  · rintro rfl
    simp [Text.segments] at four
  · intro c member
    rcases @Text.mem_segments '.' c _ member with point | ⟨octet, octetMember, inside⟩
    · exact Or.inl point
    · have numeral := octets octet octetMember
      unfold isOctet at numeral
      split at numeral
      · rename_i reads
        exact Or.inr (Or.inl (Number.isDigit_of_natural? reads c inside))
      · cases numeral

end NetworkAddress

namespace Node

theorem plain_of_mem_addressesOf {resources : Option SystemResources} {address : String}
    (member : address ∈ addressesOf resources) : Domain.Plain address := by
  unfold addressesOf at member
  split at member
  · unfold SystemResources.externalAddresses at member
    split at member
    · cases member
    · rcases List.mem_map.1 (mem_distinct.1 member) with ⟨given, givenMember, rfl⟩
      have external := (List.mem_filter.1 givenMember).2
      unfold NetworkAddress.isExternalIpv4 at external
      exact NetworkAddress.plain_of_isIpv4 (Bool.and_eq_true_iff.1 external).2
  · cases member

/-- The addresses under which a host is reached contain nothing that has a meaning in a target. -/
theorem plain_of_mem_addresses {resources : Option SystemResources} {address : String}
    (member : address ∈ Domain.addresses (addressesOf resources)) : Domain.Plain address := by
  rcases List.mem_append.1 member with own | external
  · have each : ∀ own ∈ ["127.0.0.1", "localhost", "0.0.0.0"],
        own ≠ "" ∧ own.toList.all (fun c => c == '.' || c.isDigit || c.isLower) = true := by decide
    rcases each address own with ⟨inhabited, letters⟩
    exact ⟨inhabited, by simpa [or_assoc] using letters⟩
  · exact plain_of_mem_addressesOf external

end Node
end Fleet
