import Fleet.Codec.Record

namespace Fleet

/-!
# Migrations

The moves of a bundle between nodes, one entry for each step taken, kept for audit.
-/

/-- How a step of a migration went. -/
inductive MigrationStatus where
  | pending
  | succeeded
  | failed
  deriving DecidableEq

namespace MigrationStatus

def word : MigrationStatus → String
  | pending => "pending"
  | succeeded => "succeeded"
  | failed => "failed"

def codec : Codec MigrationStatus :=
  .word ([pending, succeeded, failed].map fun status => (status.word, status)) word

end MigrationStatus

/-- A step of a migration. -/
structure MigrationEvent where
  /-- In milliseconds since the epoch; zero when the reporter left the time open. -/
  timestamp : UInt64
  bundleId : String
  action : String
  status : MigrationStatus
  message : Option String
  deriving DecidableEq

namespace MigrationEvent

def record : Record MigrationEvent MigrationEvent :=
  mk <$> .defaulted ⟨"timestamp", []⟩ timestamp .word64 0
    <*> .required ⟨"bundleId", []⟩ bundleId .text
    <*> .required ⟨"action", []⟩ action .text
    <*> .required ⟨"status", []⟩ status MigrationStatus.codec
    <*> .optional ⟨"message", []⟩ message .text

def codec : Codec MigrationEvent :=
  record.codec

end MigrationEvent
end Fleet
