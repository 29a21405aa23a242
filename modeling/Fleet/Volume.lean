import Fleet.Codec.Record

namespace Fleet

/-- A container that mounts a volume. -/
structure VolumeUser where
  id : String
  name : String
  deriving DecidableEq

namespace VolumeUser

def record : Record VolumeUser VolumeUser :=
  mk <$> .required ⟨"id", []⟩ id .text
    <*> .required ⟨"name", []⟩ name .text

def codec : Codec VolumeUser :=
  record.codec

end VolumeUser

/-- A storage volume of a node. -/
structure Volume where
  name : String
  driver : String
  mountpoint : String
  labels : Keyed String
  usedBy : List VolumeUser
  deriving DecidableEq

namespace Volume

/-- How a volume is written in documents.  Container engines spell the fields with capitals, and give
`null` for no labels and no users. -/
def record : Record Volume Volume :=
  mk <$> .required ⟨"name", ["Name"]⟩ name .text
    <*> .defaulted ⟨"driver", ["Driver"]⟩ driver .text ""
    <*> .defaulted ⟨"mountpoint", ["Mountpoint"]⟩ mountpoint .text ""
    <*> .defaulted ⟨"labels", ["Labels"]⟩ labels (.nullAs .empty (.keyed .text)) .empty
    <*> .defaulted ⟨"usedBy", ["UsedBy"]⟩ usedBy (.nullAs [] (.list VolumeUser.codec)) []

def codec : Codec Volume :=
  record.codec

end Volume
end Fleet
