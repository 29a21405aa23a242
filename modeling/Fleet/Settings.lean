import Fleet.Codec.Record
import Fleet.Store.Ingest
import Fleet.Toml.Reader

namespace Fleet

/-!
# Settings

The configuration of the service.  All settings but one have to be given, and a number that could not
work is refused with a message that names it.
-/

/-- The configuration. -/
structure Settings where
  port : UInt16
  host : String
  /-- How many migrations are kept for a node. -/
  migrationLogCapacity : UInt64
  /-- How many commands may wait for the worker. -/
  channelCapacity : UInt64
  /-- The time between two reports of the store's figures, in seconds. -/
  statsLogInterval : UInt64
  /-- How many snapshots are kept for listeners that are slow. -/
  broadcastCapacity : UInt64
  deriving DecidableEq

/-- What is wrong with a configuration. -/
inductive SettingsFault where
  /-- The file is none, or a setting is missing or of the wrong kind. -/
  | unreadable
  /-- The server has no port, or no host. -/
  | noPort
  | noHost
  /-- A number that must not be zero is. -/
  | zero (setting : String)
  deriving DecidableEq

/-- The words in which a fault is reported; there are none of our own for an unreadable file. -/
def SettingsFault.message? : SettingsFault → Option String
  | unreadable => none
  | noPort => some "server.port must be between 1 and 65535, got 0"
  | noHost => some "server.host must be non-empty"
  | zero setting => some (setting ++ " must be > 0, got 0")

namespace Settings

/-! ## Reading -/

/-- A table whose settings stand under their names, or in order without them.  What is not a setting does
not matter. -/
def tableOf {α : Type} (record : Record PUnit α) : Json → Except Fault α :=
  record.decodeWith true

def setting {α : Type} (name : String) (codec : Codec α) : Record PUnit α :=
  .need ⟨name, []⟩ codec.decode

def server : Record PUnit (UInt16 × String) :=
  Prod.mk <$> setting "port" .word16 <*> setting "host" .text

/-- The only setting with a default. -/
def log : Record PUnit UInt64 :=
  .defaulted ⟨"migration_log_capacity", []⟩ (fun _ => 0) .word64 (UInt64.ofNat Store.defaultCapacity)

def ingest : Record PUnit (UInt64 × UInt64) :=
  Prod.mk <$> setting "channel_capacity" .word64 <*> setting "stats_log_interval_secs" .word64

def publishing : Record PUnit UInt64 :=
  setting "broadcast_capacity" .word64

def ofTables (server : UInt16 × String) (log : UInt64) (ingest : UInt64 × UInt64)
    (publishing : UInt64) : Settings :=
  ⟨server.1, server.2, log, ingest.1, ingest.2, publishing⟩

def record : Record PUnit Settings :=
  ofTables <$> .need ⟨"server", []⟩ (tableOf server)
    <*> .defaulted ⟨"twin", []⟩ (fun _ => 0) ⟨fun _ => .null, tableOf log⟩
          (UInt64.ofNat Store.defaultCapacity)
    <*> .need ⟨"ingest", []⟩ (tableOf ingest)
    <*> .need ⟨"publishing", []⟩ (tableOf publishing)

/-! ## Checking -/

def fault? (settings : Settings) : Option SettingsFault :=
  if settings.port = 0 then some .noPort
  else if settings.host.isEmpty then some .noHost
  else if settings.migrationLogCapacity = 0 then some (.zero "twin.migration_log_capacity")
  else if settings.channelCapacity = 0 then some (.zero "ingest.channel_capacity")
  else if settings.statsLogInterval = 0 then some (.zero "ingest.stats_log_interval_secs")
  else if settings.broadcastCapacity = 0 then some (.zero "publishing.broadcast_capacity")
  else none

def load (file : String) : Except SettingsFault Settings :=
  match (Toml.read? file).map fun table => record.decode table.toJson with
  | some (.ok settings) =>
      match settings.fault? with
      | some fault => .error fault
      | none => .ok settings
  | _ => .error .unreadable

def effectiveChannelCapacity (settings : Settings) : Nat :=
  Fleet.channelCapacity settings.channelCapacity.toNat

end Settings
end Fleet
