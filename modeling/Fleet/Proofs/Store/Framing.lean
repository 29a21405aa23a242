import Fleet.Proofs.Frame.Content
import Fleet.Proofs.Store.Streams
import Fleet.Proofs.Store.Times

namespace Fleet

/-!
# Frames are updates

An agent may send its reports one by one, or as frames in a stream of bytes that arrives in chunks.  To the
store it is the same: what the frames of a stream do is what updates with their reports do, one after the other.
Frames that hold no report come in between and change nothing, and no chunk ends so that a frame would be lost
or taken twice.  The answers to the chunks add up to the answers to the updates and to the number of frames of
each kind.

A chunk is applied at one time, and an update at a time of its own, so the two are compared but for times.
-/

namespace FrameReport

/-- What two reports come to together. -/
def plus (first second : FrameReport) : FrameReport where
  applied := first.applied + second.applied
  ignored := first.ignored + second.ignored
  rejected := first.rejected + second.rejected
  warnings := first.warnings ++ second.warnings

/-- What the reports on several chunks come to together. -/
def total (reports : List FrameReport) : FrameReport :=
  reports.foldr plus none

/-- The report on frames of certain kinds. -/
def tally (kinds : List Decoder.Kind) (warnings : List ShapeWarning) : FrameReport where
  applied := kinds.count .report
  ignored := kinds.count .other
  rejected := kinds.count .malformed
  warnings := warnings

theorem none_plus (report : FrameReport) : none.plus report = report := by
  simp [plus, none]

theorem plus_assoc (first second third : FrameReport) :
    (first.plus second).plus third = first.plus (second.plus third) := by
  simp [plus, Nat.add_assoc]

theorem tally_append (first second : List Decoder.Kind) (warnings more : List ShapeWarning) :
    tally (first ++ second) (warnings ++ more) = (tally first warnings).plus (tally second more) := by
  simp [tally, plus]

/-- Blank frames are not reported. -/
theorem tally_filter (kinds : List Decoder.Kind) (warnings : List ShapeWarning) :
    tally (kinds.filter fun kind => kind ≠ .blank) warnings = tally kinds warnings := by
  simp [tally, List.count_filter]

end FrameReport

namespace Store

/-- A frame does what an update with its report does, if it has one, and is counted with its kind. -/
theorem applyFrame_eq (now : UInt64) (id : String) (store : Store) (report : FrameReport) (frame : Decoder.Frame) :
    applyFrame now id (store, report) frame =
      ((updates id store ((Decoder.payload? frame).toList.map (Prod.mk now))).1,
        report.plus (.tally [Decoder.kind frame]
          (updates id store ((Decoder.payload? frame).toList.map (Prod.mk now))).2)) := by
  rcases frame with fault | ⟨payload, timestamp⟩ | _
  · simp [applyFrame, Decoder.payload?, Decoder.kind, updates, FrameReport.plus, FrameReport.tally]
  · simp [applyFrame, Decoder.payload?, Decoder.kind, updates, FrameReport.plus, FrameReport.tally]
  · simp [applyFrame, Decoder.payload?, Decoder.kind, updates, FrameReport.plus, FrameReport.tally]

/-- The frames of a chunk do what updates with their reports do, all at the time of the chunk. -/
theorem foldl_applyFrame (now : UInt64) (id : String) (frames : List Decoder.Frame) (store : Store)
    (report : FrameReport) :
    frames.foldl (applyFrame now id) (store, report) =
      ((updates id store ((frames.filterMap Decoder.payload?).map (Prod.mk now))).1,
        report.plus (.tally (frames.map Decoder.kind)
          (updates id store ((frames.filterMap Decoder.payload?).map (Prod.mk now))).2)) := by
  induction frames generalizing store report with
  | nil => simp [updates, FrameReport.plus, FrameReport.tally]
  | cons frame rest inductionHypothesis =>
      have payloads : (frame :: rest).filterMap Decoder.payload? =
          (Decoder.payload? frame).toList ++ rest.filterMap Decoder.payload? := by
        cases given : Decoder.payload? frame <;> simp [given]
      rw [List.foldl_cons, applyFrame_eq, inductionHypothesis, payloads, List.map_append, updates_append,
        List.map_cons, ← List.singleton_append, FrameReport.plus_assoc]
      exact congrArg (fun more => (_, report.plus more)) (FrameReport.tally_append _ _ _ _).symm

end Store

namespace Decoder

/-- A stream may be read apart at any place, if what is left of the first part is read with the second. -/
theorem framesOf_append_eq (first rest : List UInt8) :
    framesOf (first ++ rest) = framesOf first ++ framesOf (tailOf first ++ rest) := by
  rcases exists_whole_append_tailOf first with ⟨gone, whole, split, free⟩
  have alone : framesOf first = framesOf gone := by
    rw [split, framesOf_append whole, framesOf_of_not_mem free, List.append_nil]
  rw [alone, ← framesOf_append whole, ← List.append_assoc, ← split]

end Decoder

namespace Worker

/-- The commands with which the chunks of a stream are handed over. -/
def chunkCommands (id : String) (chunks : List (UInt64 × ByteArray)) : List (UInt64 × Command) :=
  chunks.map fun chunk => (chunk.1, .frames id chunk.2)

/-- The bytes of chunks, one after the other. -/
def sent (chunks : List (UInt64 × ByteArray)) : List UInt8 :=
  chunks.flatMap fun chunk => chunk.2.data.toList

/-- What the stream of a node has kept waits for its end. -/
structure Waits (id : String) (worker : Worker) : Prop where
  sound : (worker.decoder id).Sound
  free : 0 ∉ (worker.decoder id).bytes

/-- A chunk does what updates with the reports of its frames do, all at its own time. -/
theorem Waits.handle {worker : Worker} {id : String} (waits : Waits id worker) (now : UInt64) (chunk : ByteArray)
    (short : Decoder.Short ((worker.decoder id).bytes ++ chunk.data.toList)) :
    let bytes := (worker.decoder id).bytes ++ chunk.data.toList
    let frames := Decoder.framesOf bytes
    let after := worker.handle now (.frames id chunk)
    Waits id after.1 ∧ (after.1.decoder id).bytes = Decoder.tailOf bytes ∧
      ∃ calls, calls.map Prod.snd = frames.filterMap Decoder.payload? ∧
        after.1.store = (Store.updates id worker.store calls).1 ∧
        after.2 = .frames (.tally (frames.map Decoder.kind) (Store.updates id worker.store calls).2) := by
  intro bytes frames after
  have drained := (waits.sound.extend chunk).drain
  rw [Decoder.bytes_extend] at drained
  rcases drained.1.eq_of_short short with ⟨arrived, kept⟩
  have next : after.1.decoder id = (worker.arrive id chunk).2 :=
    (decoder_handle worker now (.frames id chunk) id).trans (if_pos rfl)
  have applied := Store.foldl_applyFrame now id (worker.arrive id chunk).1 worker.store .none
  rw [FrameReport.none_plus, show (worker.arrive id chunk).1 = _ from arrived] at applied
  have tail : (after.1.decoder id).bytes = Decoder.tailOf bytes := (congrArg Decoder.bytes next).trans kept
  refine ⟨⟨next ▸ drained.2, ?_⟩, tail, (frames.filterMap Decoder.payload?).map (Prod.mk now), ?_, ?_, ?_⟩
  · rcases Decoder.exists_whole_append_tailOf bytes with ⟨_, _, _, free⟩
    exact tail ▸ free
  · rw [List.map_map]
    exact List.map_id _
  · rw [show after = _ from handle_frames worker now id chunk, show (worker.arrive id chunk).1 = _ from arrived]
    exact congrArg Prod.fst applied
  · rw [show after = _ from handle_frames worker now id chunk, show (worker.arrive id chunk).1 = _ from arrived]
    exact congrArg (fun done : Store × FrameReport => Reply.frames done.2) applied

/-- The chunks of a stream do what updates with the reports of its frames do, each at the time of some chunk. -/
theorem Waits.run {worker : Worker} {id : String} (waits : Waits id worker) (chunks : List (UInt64 × ByteArray))
    (short : Decoder.Short ((worker.decoder id).bytes ++ sent chunks)) :
    let frames := Decoder.framesOf ((worker.decoder id).bytes ++ sent chunks)
    let framed := Machine.run Worker.handle worker (chunkCommands id chunks)
    ∃ calls reports, calls.map Prod.snd = frames.filterMap Decoder.payload? ∧
      framed.1.store = (Store.updates id worker.store calls).1 ∧
      framed.2.map Prod.snd = reports.map Reply.frames ∧
      FrameReport.total reports = .tally (frames.map Decoder.kind) (Store.updates id worker.store calls).2 := by
  induction chunks generalizing worker with
  | nil =>
      have nothing : Decoder.framesOf ((worker.decoder id).bytes ++ sent []) = [] := by
        rw [sent, List.flatMap_nil, List.append_nil]
        exact Decoder.framesOf_of_not_mem waits.free
      rw [nothing]
      exact ⟨[], [], rfl, rfl, rfl, rfl⟩
  | cons chunk rest inductionHypothesis =>
      rcases chunk with ⟨now, chunk⟩
      have joined : (worker.decoder id).bytes ++ sent ((now, chunk) :: rest) =
          (worker.decoder id).bytes ++ chunk.data.toList ++ sent rest := by
        rw [sent, List.flatMap_cons, List.append_assoc]
        rfl
      rw [joined] at short ⊢
      rcases waits.handle now chunk (short.part ⟨[], sent rest, rfl⟩) with
        ⟨nextWaits, kept, own, ownPayloads, stepStore, reply⟩
      have later : Decoder.Short (((worker.handle now (.frames id chunk)).1.decoder id).bytes ++ sent rest) := by
        rcases Decoder.exists_whole_append_tailOf ((worker.decoder id).bytes ++ chunk.data.toList) with
          ⟨gone, _, split, _⟩
        rw [kept]
        exact short.part ⟨gone, [], by rw [List.append_nil, ← List.append_assoc, ← split]⟩
      rcases inductionHypothesis nextWaits later with ⟨calls, reports, payloads, stores, replies, sum⟩
      rw [kept] at payloads sum
      rw [stepStore] at stores sum
      refine ⟨own ++ calls, _ :: reports, ?_, ?_, congrArg₂ List.cons reply replies, ?_⟩
      · rw [Decoder.framesOf_append_eq, List.filterMap_append, ← payloads, ← ownPayloads, List.map_append]
      · rw [Store.updates_append]
        exact stores
      · rw [Decoder.framesOf_append_eq (_ ++ chunk.data.toList), List.map_append, Store.updates_append]
        exact (congrArg (FrameReport.plus _) sum).trans (FrameReport.tally_append _ _ _ _).symm

/-- Frames in a stream, however it is cut into chunks, leave the store as updates with their reports would, but
for times.  The chunks are answered with reports, which together have the warnings of the updates and the numbers
of frames with a report, of frames with another message, and of frames that are neither a message nor blank. -/
theorem framed_as_updates {worker : Worker} {id : String} (fresh : worker.decoder id = .start)
    {bodies : List (List UInt8)} (sendable : ∀ body ∈ bodies, Decoder.Sendable body)
    {chunks : List (UInt64 × ByteArray)} (cut : sent chunks = Decoder.joined bodies)
    {calls : List (UInt64 × Json)} (payloads : calls.map Prod.snd = bodies.filterMap Decoder.payloadOf?) :
    let framed := Machine.run handle worker (chunkCommands id chunks)
    let updated := Store.updates id worker.store calls
    framed.1.store.Matches (fun _ _ => True) updated.1 ∧
      ∃ reports, framed.2.map Prod.snd = reports.map Reply.frames ∧
        FrameReport.total reports =
          { applied := (bodies.map Decoder.kindOf).count .report
            ignored := (bodies.map Decoder.kindOf).count .other
            rejected := (bodies.map Decoder.kindOf).count .malformed
            warnings := updated.2 } := by
  intro framed updated
  have held : (worker.decoder id).bytes ++ sent chunks = Decoder.joined bodies := by
    rw [fresh, cut]
    rfl
  have waits : Waits id worker := by
    constructor
    · exact fresh ▸ Decoder.sound_start
    · rw [fresh]
      exact List.not_mem_nil
  rcases waits.run chunks (held ▸ Decoder.short_joined sendable) with
    ⟨own, reports, ownPayloads, stores, replies, sum⟩
  rw [held, Decoder.payloads_framesOf, Decoder.segments_joined sendable] at ownPayloads
  rw [held, Decoder.kinds_framesOf, Decoder.segments_joined sendable, FrameReport.tally_filter] at sum
  have correspond : List.Forall₂ (Machine.Corresponds fun _ _ => True) own calls := by
    have same : List.Forall₂ (fun first second => first = second) (own.map Prod.snd) (calls.map Prod.snd) :=
      List.forall₂_eq_eq_eq ▸ ownPayloads.trans payloads.symm
    rw [List.forall₂_map_left_iff, List.forall₂_map_right_iff] at same
    exact same.imp fun _ _ equal => ⟨trivial, equal⟩
  rcases (Store.Matches.refl (fun _ => trivial) worker.store).updates (fun _ => trivial) id correspond with
    ⟨alike, sameWarnings⟩
  refine ⟨stores ▸ alike, reports, replies, ?_⟩
  rw [sum, sameWarnings]
  rfl

/-- A report, a blank frame, one that is no text, and a message of another type, in two chunks. -/
theorem framed_as_updates_four_frames :
    let ping : List UInt8 := "\x7b\"type\":\"PING\"\x7d".toUTF8.data.toList
    let bodies := [Decoder.padded 0, [32], [255], ping]
    let chunks : List (UInt64 × ByteArray) :=
      [(1, ⟨(Decoder.padded 0 ++ [0, 32]).toArray⟩), (2, ⟨([0, 255, 0] ++ ping ++ [0]).toArray⟩)]
    (start 5).decoder "n" = .start ∧ (∀ body ∈ bodies, Decoder.Sendable body) ∧
      sent chunks = Decoder.joined bodies ∧
      [((3 : UInt64), Json.object [])].map Prod.snd = bodies.filterMap Decoder.payloadOf? ∧
      ∃ reports, (Machine.run handle (start 5) (chunkCommands "n" chunks)).2.map Prod.snd =
          reports.map Reply.frames ∧
        FrameReport.total reports = ⟨1, 1, 1, []⟩ := by
  intro ping bodies chunks
  have fresh : (start 5).decoder "n" = .start := rfl
  have sendable : ∀ body ∈ bodies, Decoder.Sendable body := by
    have free : ∀ body ∈ bodies, 0 ∉ body := by decide +kernel +zetaReduce
    have fits : ∀ body ∈ bodies, body.length ≤ Decoder.limit := by decide +kernel +zetaReduce
    exact fun body member => ⟨free body member, fits body member⟩
  have cut : sent chunks = Decoder.joined bodies := by decide +kernel +zetaReduce
  have payloads : [((3 : UInt64), Json.object [])].map Prod.snd = bodies.filterMap Decoder.payloadOf? := by
    have report : Decoder.payloadOf? (Decoder.padded 0) = some (.object []) := by
      rw [Decoder.payloadOf?, if_neg (by decide +kernel), Decoder.parse_padded]
      rfl
    have others : ∀ body ∈ [[32], [255], ping], (Decoder.payloadOf? body).isNone := by
      decide +kernel +zetaReduce
    have none : [[32], [255], ping].filterMap Decoder.payloadOf? = [] :=
      List.filterMap_eq_nil_iff.2 fun body member => Option.isNone_iff_eq_none.1 (others body member)
    rw [List.filterMap_cons_some report, none]
    rfl
  have counted : (bodies.map Decoder.kindOf) = [.report, .blank, .malformed, .other] := by
    decide +kernel +zetaReduce
  rcases (framed_as_updates fresh sendable cut payloads).2 with ⟨reports, replies, total⟩
  refine ⟨fresh, sendable, cut, payloads, reports, replies, ?_⟩
  rw [total, counted]
  rfl

end Worker
end Fleet
