import Fleet.Proofs.Frame.Chunks
import Fleet.Proofs.Store.Interleaving
import Fleet.Store.Ingest

namespace Fleet

variable {clock : UInt64 → UInt64 → Prop}

/-!
# The streams of agents do not meet

One worker handles the commands of all agents, with one store and one collection of streams.  Still each node
has them to itself: what comes of a command is decided by what the store holds of its node and by the stream
of its node, and it changes nothing else but the domains.  So an agent cannot tell whether others are there.

Nor can the bytes of others get into its frames, or those of its own earlier connections.  What is in a
stream is always the end of what was sent for the node since it was disconnected last, and a frame is taken
from there as a whole.
-/

namespace Store

/-- A node, if it is known, without what comes from the fleet and without the time of its last report. -/
def ownNode? (store : Store) (id : String) : Option Node :=
  (store.node? id).map fun node => node.withoutDomains.timeless

theorem ownNode?_eq (store : Store) (id : String) :
    store.ownNode? id = (store.cell id).node.map Node.timeless := by
  unfold ownNode? node? cell Snapshot.bare?
  rw [Option.map_map]
  rfl

/-! ## Applying frames -/

theorem cell_applyFrame_of_ne (now : UInt64) {id other : String} (different : id ≠ other)
    (done : Store × FrameReport) (frame : Decoder.Frame) :
    (applyFrame now id done frame).1.cell other = done.1.cell other := by
  rcases done with ⟨store, report⟩
  cases frame with
  | error fault => rfl
  | ok message =>
      cases message with
      | unknown => rfl
      | syncPartial payload timestamp =>
          have elsewhere : (Change.update id payload).node? ≠ some other :=
            fun same => different (Option.some.inj same)
          exact cell_apply_of_ne store now elsewhere

/-- Frames of a node leave the cells of other nodes as they are. -/
theorem cell_applyFrames_of_ne (now : UInt64) {id other : String} (different : id ≠ other)
    (frames : List Decoder.Frame) (done : Store × FrameReport) :
    (frames.foldl (applyFrame now id) done).1.cell other = done.1.cell other := by
  induction frames generalizing done with
  | nil => rfl
  | cons frame rest inductionHypothesis =>
      rw [List.foldl_cons, inductionHypothesis, cell_applyFrame_of_ne now different]

section Related

variable {related : Store → Store → Prop} {now later : UInt64} {id : String}

theorem exists_applyFrame_eq (keeps : ∀ left right payload, related left right →
      related (left.update now id payload).1 (right.update later id payload).1)
    {left right : Store} (alike : related left right) (report : FrameReport) (frame : Decoder.Frame) :
    ∃ nextLeft nextRight nextReport, related nextLeft nextRight ∧
      applyFrame now id (left, report) frame = (nextLeft, nextReport) ∧
      applyFrame later id (right, report) frame = (nextRight, nextReport) := by
  cases frame with
  | error fault => exact ⟨left, right, _, alike, rfl, rfl⟩
  | ok message =>
      cases message with
      | unknown => exact ⟨left, right, _, alike, rfl, rfl⟩
      | syncPartial payload timestamp => exact ⟨_, _, _, keeps left right payload alike, rfl, rfl⟩

/-- What updates of a node with one report at two times keep between two stores, frames of the node keep, and they
are reported alike. -/
theorem foldl_applyFrame_related (keeps : ∀ left right payload, related left right →
      related (left.update now id payload).1 (right.update later id payload).1)
    (frames : List Decoder.Frame) {left right : Store} (alike : related left right) (report : FrameReport) :
    related (frames.foldl (applyFrame now id) (left, report)).1 (frames.foldl (applyFrame later id) (right, report)).1 ∧
      (frames.foldl (applyFrame now id) (left, report)).2 =
        (frames.foldl (applyFrame later id) (right, report)).2 := by
  induction frames generalizing left right report with
  | nil =>
      rw [List.foldl_nil, List.foldl_nil]
      exact ⟨alike, rfl⟩
  | cons frame rest inductionHypothesis =>
      rcases exists_applyFrame_eq keeps alike report frame with ⟨_, _, nextReport, nextAlike, first, second⟩
      rw [List.foldl_cons, List.foldl_cons, first, second]
      exact inductionHypothesis nextAlike nextReport

end Related

/-- The same frames of a node do the same to matching cells, and are reported alike. -/
theorem cell_applyFrames (reflexive : ∀ time, clock time time) {now later : UInt64} (times : clock now later)
    {id : String} (frames : List Decoder.Frame) {left right : Store}
    (alike : (left.cell id).Matches clock (right.cell id)) (report : FrameReport) :
    ((frames.foldl (applyFrame now id) (left, report)).1.cell id).Matches clock
        ((frames.foldl (applyFrame later id) (right, report)).1.cell id) ∧
      (frames.foldl (applyFrame now id) (left, report)).2 =
        (frames.foldl (applyFrame later id) (right, report)).2 := by
  have keeps : ∀ (first second : Store) (payload : Json), (first.cell id).Matches clock (second.cell id) →
      ((first.update now id payload).1.cell id).Matches clock ((second.update later id payload).1.cell id) := by
    intro first second payload cells
    have own : (Change.update id payload).node? = some id := rfl
    exact (cell_apply reflexive times own cells).1
  exact foldl_applyFrame_related keeps frames alike report

end Store

/-- The node that a command is about. -/
def Command.node : Command → String
  | partialUpdate id _ => id
  | frames id _ => id
  | connection id _ => id

namespace Worker

/-! ## Strands -/

/-- What a worker holds of one node. -/
structure Strand where
  cell : Store.Cell
  decoder : Decoder

/-- What a worker holds under an id. -/
def strand (id : String) (worker : Worker) : Strand :=
  ⟨worker.store.cell id, worker.decoder id⟩

/-- Two strands that differ in nothing but times. -/
structure Strand.Matches (clock : UInt64 → UInt64 → Prop) (left right : Strand) : Prop where
  cell : left.cell.Matches clock right.cell
  decoder : left.decoder = right.decoder

/-- The frames that arrive with bytes of a node, and what stays of its stream. -/
def arrive (worker : Worker) (id : String) (bytes : ByteArray) : List Decoder.Frame × Decoder :=
  ((worker.decoder id).extend bytes).drain

/-- The store and the report after frames of a node. -/
def applied (worker : Worker) (now : UInt64) (id : String) (frames : List Decoder.Frame) :
    Store × FrameReport :=
  frames.foldl (Store.applyFrame now id) (worker.store, .none)

theorem handle_frames (worker : Worker) (now : UInt64) (id : String) (bytes : ByteArray) :
    worker.handle now (.frames id bytes) =
      (⟨(worker.applied now id (worker.arrive id bytes).1).1,
          worker.decoders.insert id (worker.arrive id bytes).2⟩,
        .frames (worker.applied now id (worker.arrive id bytes).1).2) := rfl

/-- The stream of its node after a command. -/
def streamAfter (worker : Worker) : Command → Decoder
  | .partialUpdate id _ => worker.decoder id
  | .frames id bytes => (worker.arrive id bytes).2
  | .connection id connected => if connected then worker.decoder id else .start

theorem decoder_handle (worker : Worker) (now : UInt64) (command : Command) (id : String) :
    (worker.handle now command).1.decoder id =
      if command.node = id then worker.streamAfter command else worker.decoder id := by
  cases command with
  | partialUpdate own payload =>
      change worker.decoder id = if own = id then worker.decoder own else worker.decoder id
      split
      · rename_i same
        rw [same]
      · rfl
  | frames own bytes =>
      change ((worker.decoders.insert own (worker.arrive own bytes).2).get? id).getD .start =
        if own = id then (worker.arrive own bytes).2 else worker.decoder id
      rw [Keyed.get?_insert]
      split <;> rfl
  | connection own connected =>
      cases connected with
      | true =>
          change worker.decoder id = if own = id then worker.decoder own else worker.decoder id
          split
          · rename_i same
            rw [same]
          · rfl
      | false =>
          change ((worker.decoders.erase own).get? id).getD .start =
            if own = id then Decoder.start else worker.decoder id
          rw [Keyed.get?_erase]
          split <;> rfl

theorem cell_handle_of_ne (worker : Worker) (now : UInt64) {command : Command} {id : String}
    (other : command.node ≠ id) : (worker.handle now command).1.store.cell id = worker.store.cell id := by
  cases command with
  | partialUpdate own payload =>
      have elsewhere : (Store.Change.update own payload).node? ≠ some id :=
        fun same => other (Option.some.inj same)
      exact Store.cell_apply_of_ne worker.store now elsewhere
  | frames own bytes => exact Store.cell_applyFrames_of_ne now other _ (worker.store, .none)
  | connection own connected =>
      have elsewhere : (Store.Change.setConnection own connected).node? ≠ some id :=
        fun same => other (Option.some.inj same)
      exact Store.cell_apply_of_ne worker.store now elsewhere

/-- A command does the same to matching strands of its node, and is answered alike. -/
theorem strand_handle (reflexive : ∀ time, clock time time) {left right : Worker} {now later : UInt64}
    (times : clock now later) (command : Command)
    (alike : (strand command.node left).Matches clock (strand command.node right)) :
    (strand command.node (left.handle now command).1).Matches clock
        (strand command.node (right.handle later command).1) ∧
      (left.handle now command).2 = (right.handle later command).2 := by
  rcases alike with ⟨cells, decoders⟩
  have sameStream : left.decoder command.node = right.decoder command.node := decoders
  have streams : (left.handle now command).1.decoder command.node =
      (right.handle later command).1.decoder command.node := by
    rw [decoder_handle, decoder_handle, if_pos rfl, if_pos rfl]
    cases command with
    | partialUpdate id payload => exact sameStream
    | frames id bytes => exact congrArg (fun stream => (Decoder.extend stream bytes).drain.2) sameStream
    | connection id connected =>
        exact congrArg (fun stream => if connected then stream else Decoder.start) sameStream
  cases command with
  | partialUpdate id payload =>
      have own : (Store.Change.update id payload).node? = some id := rfl
      exact ⟨⟨(Store.cell_apply reflexive times own cells).1, streams⟩, rfl⟩
  | frames id bytes =>
      have sameArrival : left.arrive id bytes = right.arrive id bytes :=
        congrArg (fun stream => (Decoder.extend stream bytes).drain) sameStream
      rcases Store.cell_applyFrames reflexive times (left.arrive id bytes).1 cells .none with ⟨finalCells, sameReport⟩
      refine ⟨⟨?_, streams⟩, ?_⟩
      · change (Store.cell (left.applied now id (left.arrive id bytes).1).1 id).Matches clock
          (Store.cell (right.applied later id (right.arrive id bytes).1).1 id)
        rw [← sameArrival]
        exact finalCells
      · rw [handle_frames, handle_frames, ← sameArrival]
        exact congrArg Reply.frames sameReport
  | connection id connected =>
      have own : (Store.Change.setConnection id connected).node? = some id := rfl
      exact ⟨⟨(Store.cell_apply reflexive times own cells).1, streams⟩, rfl⟩

theorem separated_handle (reflexive : ∀ time, clock time time) :
    Machine.Separated handle Command.node strand (fun _ => Strand.Matches clock) clock where
  elsewhere := by
    intro id worker now command other
    unfold strand
    rw [cell_handle_of_ne worker now other, decoder_handle, if_neg other]
  within := fun _ _ _ _ command times alike => strand_handle reflexive times command alike

/-! ## Sessions -/

/-- The bytes sent for a node since it was disconnected last, after one more command. -/
def sessionAfter (id : String) (session : List UInt8) : Command → List UInt8
  | .partialUpdate _ _ => session
  | .frames own bytes => if own = id then session ++ bytes.data.toList else session
  | .connection own connected => if own = id ∧ connected = false then [] else session

/-- The bytes sent for a node since it was disconnected last. -/
def session (id : String) (commands : List Command) : List UInt8 :=
  commands.foldl (sessionAfter id) []

/-- What is in the stream of a node is the end of a session. -/
structure Tracks (id : String) (sent : List UInt8) (worker : Worker) : Prop where
  sound : (worker.decoder id).Sound
  suffix : (worker.decoder id).bytes <:+ sent

/-- What is in a stream when bytes arrive is the end of the session with them. -/
theorem Tracks.extended {id : String} {sent : List UInt8} {worker : Worker}
    (tracks : Tracks id sent worker) (bytes : ByteArray) :
    ((worker.decoder id).extend bytes).bytes <:+ sent ++ bytes.data.toList := by
  rcases tracks.suffix with ⟨gone, split⟩
  rw [Decoder.bytes_extend]
  exact ⟨gone, by rw [← List.append_assoc, split]⟩

theorem Tracks.handle {id : String} {sent : List UInt8} {worker : Worker}
    (tracks : Tracks id sent worker) (now : UInt64) (command : Command) :
    Tracks id (sessionAfter id sent command) (worker.handle now command).1 := by
  by_cases here : command.node = id
  · subst here
    suffices stream : (worker.streamAfter command).Sound ∧
        (worker.streamAfter command).bytes <:+ sessionAfter command.node sent command by
      constructor
      · rw [decoder_handle, if_pos rfl]
        exact stream.1
      · rw [decoder_handle, if_pos rfl]
        exact stream.2
    cases command with
    | partialUpdate id payload => exact ⟨tracks.sound, tracks.suffix⟩
    | frames id bytes =>
        rcases (tracks.sound.extend bytes).drain with ⟨reads, lastSound⟩
        have joined : sessionAfter id sent (.frames id bytes) = sent ++ bytes.data.toList := if_pos rfl
        refine ⟨lastSound, ?_⟩
        change _ <:+ sessionAfter id sent (.frames id bytes)
        rw [joined]
        exact reads.suffix.trans (tracks.extended bytes)
    | connection id connected =>
        cases connected with
        | true =>
            have kept : sessionAfter id sent (.connection id true) = sent :=
              if_neg fun both => Bool.noConfusion both.2
            refine ⟨tracks.sound, ?_⟩
            change _ <:+ sessionAfter id sent (.connection id true)
            rw [kept]
            exact tracks.suffix
        | false => exact ⟨Decoder.sound_start, List.nil_suffix⟩
  · have sameSession : sessionAfter id sent command = sent := by
      cases command with
      | partialUpdate own payload => rfl
      | frames own bytes => exact if_neg here
      | connection own connected => exact if_neg fun both => here both.1
    constructor
    · rw [decoder_handle, if_neg here]
      exact tracks.sound
    · rw [decoder_handle, if_neg here, sameSession]
      exact tracks.suffix

/-- A run keeps the streams at the ends of the sessions. -/
theorem Tracks.run {id : String} {sent : List UInt8} {worker : Worker}
    (tracks : Tracks id sent worker) (history : List (UInt64 × Command)) :
    Tracks id ((history.map Prod.snd).foldl (sessionAfter id) sent)
      (Machine.run Worker.handle worker history).1 := by
  induction history generalizing sent worker with
  | nil => exact tracks
  | cons step rest inductionHypothesis =>
      rw [Machine.run_cons]
      exact inductionHypothesis (tracks.handle step.1 step.2)

/-- Whatever else a worker handles, a node is as if its own commands had been the only ones, and so are the
replies to them.  And when bytes of it arrive, the frames that are applied stand, each as a whole, in what was
sent for it since it was disconnected last. -/
theorem streams_isolated (store : Store) (id : String) {history solo : List (UInt64 × Command)}
    (sameCommands : solo.map Prod.snd = (Machine.stepsOf Command.node id history).map Prod.snd) :
    let together := Machine.run handle ⟨store, .empty⟩ history
    let alone := Machine.run handle ⟨store, .empty⟩ solo
    (Machine.notesOf Command.node id together.2 = alone.2 ∧
        together.1.store.ownNode? id = alone.1.store.ownNode? id) ∧
      ∀ now bytes,
        let arrived := (together.1.arrive id bytes).1
        (together.1.handle now (.frames id bytes)).1.store = (together.1.applied now id arrived).1 ∧
          (together.1.handle now (.frames id bytes)).2 = .frames (together.1.applied now id arrived).2 ∧
          ∀ message, .ok message ∈ arrived →
            ∃ body, 0 ∉ body ∧ body ++ [0] <:+: session id (history.map Prod.snd) ++ bytes.data.toList ∧
              Decoder.parse body = .ok message := by
  intro together alone
  have separated : Machine.Separated handle Command.node strand (fun _ => Strand.Matches fun _ _ => True)
      fun _ _ => True := separated_handle fun _ => trivial
  have alike : (strand id ⟨store, .empty⟩).Matches (fun _ _ => True) (strand id ⟨store, .empty⟩) :=
    ⟨Store.view_refl (fun _ => trivial) (some id) store, rfl⟩
  rcases separated.run_alone id sameCommands alike with ⟨finalAlike, sameReplies⟩
  refine ⟨⟨sameReplies, ?_⟩, ?_⟩
  · rw [Store.ownNode?_eq, Store.ownNode?_eq]
    exact map_eq_of_rel (fun _ _ nodes => nodes.timeless) finalAlike.cell.node
  · intro now bytes arrived
    have begins : Tracks id [] ⟨store, .empty⟩ := ⟨Decoder.sound_start, List.nil_suffix⟩
    have tracks : Tracks id (session id (history.map Prod.snd)) together.1 := begins.run history
    have reads := ((tracks.sound.extend bytes).drain).1
    refine ⟨rfl, rfl, ?_⟩
    intro message given
    rcases reads.message given with ⟨body, free, inside, parsed⟩
    exact ⟨body, free, inside.trans (tracks.extended bytes).isInfix, parsed⟩

/-- An agent that sends a frame in two chunks while another one connects and sends half a frame. -/
theorem streams_isolated_two_agents :
    let history : List (UInt64 × Command) :=
      [(1, .connection "a" true), (2, .connection "b" true), (3, .frames "a" ⟨#[123]⟩),
        (4, .frames "b" ⟨#[91]⟩), (5, .frames "a" ⟨#[125, 0]⟩)]
    let solo : List (UInt64 × Command) :=
      [(7, .connection "a" true), (8, .frames "a" ⟨#[123]⟩), (9, .frames "a" ⟨#[125, 0]⟩)]
    solo.map Prod.snd = (Machine.stepsOf Command.node "a" history).map Prod.snd ∧
      Machine.notesOf Command.node "a" (Machine.run handle (start 5) history).2 =
        (Machine.run handle (start 5) solo).2 := by
  intro history solo
  have sameCommands : solo.map Prod.snd = (Machine.stepsOf Command.node "a" history).map Prod.snd := rfl
  exact ⟨sameCommands, (streams_isolated (.empty 5) "a" sameCommands).1.1⟩

end Worker
end Fleet
