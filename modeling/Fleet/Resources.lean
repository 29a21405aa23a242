import Fleet.Codec.Record
import Fleet.Distinct
import Fleet.Number.Numeral
import Fleet.Text.Cut

namespace Fleet

/-!
# Resources of a host

Usage figures, and the addresses of the network interfaces, from which the addresses of the node
follow.  What an agent says about its operating system and disks is kept as it came.
-/

/-- An address of a network interface. -/
structure NetworkAddress where
  address : String
  family : String
  internal : Bool
  deriving DecidableEq

namespace NetworkAddress

def record : Record NetworkAddress NetworkAddress :=
  mk <$> .required ⟨"address", []⟩ address .text
    <*> .defaulted ⟨"family", []⟩ family .text ""
    <*> .defaulted ⟨"internal", []⟩ internal .flag false

def codec : Codec NetworkAddress :=
  record.codec

/-- A decimal number from 0 to 255 without leading zeros. -/
def isOctet (text : List Char) : Bool :=
  match Number.natural? 10 text with
  | some n => n < 256 && (text.head? != some '0' || text.length == 1)
  | none => false

def isIpv4 (text : List Char) : Bool :=
  let octets := Text.segments '.' text
  octets.length == 4 && octets.all isOctet

/-- Whether the address is one at which other hosts reach this one by IPv4. -/
def isExternalIpv4 (given : NetworkAddress) : Bool :=
  !given.internal && (Text.sameButCase given.family "ipv4" || given.family == "inet") &&
    isIpv4 given.address.toList

end NetworkAddress

/-- What an agent reports about its host as a whole. -/
structure SystemResources where
  cpuUsage : Binary64
  memoryUsage : UInt64
  totalMemory : UInt64
  diskUsage : Binary64
  os : Option Json
  /-- The addresses of every network interface. -/
  network : Option (Keyed (List NetworkAddress))
  disks : Option (List Json)

namespace SystemResources

def record : Record SystemResources SystemResources :=
  mk <$> .defaulted ⟨"cpuUsage", []⟩ cpuUsage .real .zero
    <*> .defaulted ⟨"memoryUsage", []⟩ memoryUsage .word64 0
    <*> .defaulted ⟨"totalMemory", []⟩ totalMemory .word64 0
    <*> .defaulted ⟨"diskUsage", []⟩ diskUsage .real .zero
    <*> .optional ⟨"os", []⟩ os .document
    <*> .optional ⟨"network", []⟩ network (.keyed (.list NetworkAddress.codec))
    <*> .optional ⟨"disks", []⟩ disks (.list .document)

def codec : Codec SystemResources :=
  record.codec

/-- The external addresses of a host, each once, its interfaces visited in the order of their names. -/
def externalAddresses (resources : SystemResources) : List String :=
  match resources.network with
  | none => []
  | some network =>
      distinct
        ((network.values.flatten.filter NetworkAddress.isExternalIpv4).map NetworkAddress.address)

end SystemResources
end Fleet
