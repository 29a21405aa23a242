import Fleet.Frame.Decoder
import Fleet.Store.Basic

namespace Fleet

/-!
# Taking in what agents send

Everything that agents send goes through one worker, which handles one command at a time.  For every node it
keeps the stream of bytes that has arrived so far; when a node disconnects, an unfinished frame is
forgotten, so that no frame is made of bytes from two connections.
-/

/-- What came of the frames of a chunk. -/
structure FrameReport where
  /-- The number of messages that were merged. -/
  applied : Nat
  /-- The number of messages of other types. -/
  ignored : Nat
  /-- The number of frames that hold no message, or were given up. -/
  rejected : Nat
  warnings : List ShapeWarning
  deriving DecidableEq

namespace FrameReport

def none : FrameReport :=
  ⟨0, 0, 0, []⟩

def fields (report : FrameReport) : List (String × Json) :=
  [("applied", .ofNat report.applied), ("ignored", .ofNat report.ignored),
    ("rejected", .ofNat report.rejected),
    ("warnings", .array (report.warnings.map ShapeWarning.encode))]

end FrameReport

namespace Store

def applyFrame (now : UInt64) (id : String) (done : Store × FrameReport) (frame : Decoder.Frame) :
    Store × FrameReport :=
  let (store, report) := done
  match frame with
  | .ok (.syncPartial payload _) =>
      let (store, warnings) := store.update now id payload
      (store, { report with applied := report.applied + 1, warnings := report.warnings ++ warnings })
  | .ok .unknown => (store, { report with ignored := report.ignored + 1 })
  | .error _ => (store, { report with rejected := report.rejected + 1 })

def applyFrames (store : Store) (now : UInt64) (id : String) (decoder : Decoder) :
    Store × FrameReport × Decoder :=
  let (frames, rest) := decoder.drain
  let (store, report) := frames.foldl (applyFrame now id) (store, .none)
  (store, report, rest)

end Store

/-- What an agent, or someone on its behalf, asks for. -/
inductive Command where
  /-- Merge a report into a node. -/
  | partialUpdate (node : String) (payload : Json)
  /-- Take in bytes of a node. -/
  | frames (node : String) (bytes : ByteArray)
  /-- Say whether a node is connected. -/
  | connection (node : String) (connected : Bool)

/-- What a command answers. -/
inductive Reply where
  | warnings (warnings : List ShapeWarning)
  | frames (report : FrameReport)
  | silent
  deriving DecidableEq

/-- The worker: the store, and the streams of the nodes. -/
structure Worker where
  store : Store
  decoders : Keyed Decoder

namespace Worker

def start (capacity : Nat) : Worker :=
  ⟨.empty capacity, .empty⟩

def decoder (worker : Worker) (id : String) : Decoder :=
  (worker.decoders.get? id).getD .start

def handle (worker : Worker) (now : UInt64) : Command → Worker × Reply
  | .partialUpdate id payload =>
      let (store, warnings) := worker.store.update now id payload
      ({ worker with store }, .warnings warnings)
  | .frames id bytes =>
      let decoder := (worker.decoder id).extend bytes
      let (store, report, rest) := worker.store.applyFrames now id decoder
      (⟨store, worker.decoders.insert id rest⟩, .frames report)
  | .connection id connected =>
      let decoders := if connected then worker.decoders else worker.decoders.erase id
      (⟨worker.store.setConnection id connected, decoders⟩, .silent)

end Worker

/-- How many commands may wait for the worker: as many as configured, but not too few. -/
def channelCapacity (configured : Nat) : Nat :=
  max configured 16

end Fleet
