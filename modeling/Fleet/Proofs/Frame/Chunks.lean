import Fleet.Proofs.Frame.Buffer
import Mathlib.Data.List.Infix

namespace Fleet
namespace Decoder

/-!
# Frames do not depend on chunks

What a stream of bytes means is said without a decoder: its segments are what stands before each zero byte,
those of blanks are passed over, every other one is a message or is malformed, and what follows the last
zero byte is left over.  A decoder gives just these frames, however the stream is cut into chunks, and
whenever it is asked for frames in between.  All that goes beyond the segments is that a segment may be too
long to be kept; whether it is given up then depends on where the chunks end, so a stream with such a segment
is left out.

A decoder takes bytes away from the front of what has arrived, a whole number of segments at a time, and
gives the frames of what it takes.  This is kept by every single action, and segments may be read apart at
every zero byte, which puts the frames that were given together with those that are still in the buffer.
-/

/-! ## The meaning of a stream -/

/-- The frame that a segment is when it is not blank. -/
def parse (segment : List UInt8) : Frame :=
  match (String.fromUTF8? segment.toByteArray).bind Message.read? with
  | some message => .ok message
  | none => .error .malformed

/-- What stands before each zero byte. -/
def segments (stream : List UInt8) : List (List UInt8) :=
  (stream.splitOn 0).dropLast

/-- The frames of a stream. -/
def framesOf (stream : List UInt8) : List Frame :=
  ((segments stream).filter fun segment => !segment.all isBlankByte).map parse

/-- What follows the last zero byte. -/
def tailOf (stream : List UInt8) : List UInt8 :=
  (stream.splitOn 0).getLast (List.splitOn_ne_nil 0 stream)

/-- No run of bytes without a zero byte is too long to be kept. -/
def Short (stream : List UInt8) : Prop :=
  ∀ run, run <:+: stream → 0 ∉ run → run.length ≤ limit

/-- A number of segments with their ends. -/
inductive Whole : List UInt8 → Prop where
  | nothing : Whole []
  | ended (front : List UInt8) : Whole (front ++ [0])

theorem Short.part {stream part : List UInt8} (short : Short stream) (inside : part <:+: stream) :
    Short part :=
  fun run place free => short run (place.trans inside) free

theorem segments_of_not_mem {stream : List UInt8} (free : 0 ∉ stream) : segments stream = [] := by
  unfold segments
  rw [List.splitOn_eq_singleton free]
  rfl

theorem framesOf_of_not_mem {stream : List UInt8} (free : 0 ∉ stream) : framesOf stream = [] := by
  unfold framesOf
  rw [segments_of_not_mem free]
  rfl

theorem tailOf_of_not_mem {stream : List UInt8} (free : 0 ∉ stream) : tailOf stream = stream := by
  unfold tailOf
  simp only [List.splitOn_eq_singleton free, List.getLast_singleton]

theorem segments_append_zero (front rest : List UInt8) :
    segments (front ++ 0 :: rest) = front.splitOn 0 ++ segments rest := by
  unfold segments
  rw [List.splitOn_append_cons_self, List.dropLast_append_of_ne_nil (List.splitOn_ne_nil 0 rest)]

/-- A stream may be read apart at every zero byte. -/
theorem framesOf_append {gone : List UInt8} (whole : Whole gone) (rest : List UInt8) :
    framesOf (gone ++ rest) = framesOf gone ++ framesOf rest := by
  cases whole with
  | nothing => rfl
  | ended front =>
      unfold framesOf
      rw [List.append_assoc, List.singleton_append, segments_append_zero, segments_append_zero front [],
        segments_of_not_mem List.not_mem_nil, List.append_nil, List.filter_append, List.map_append]

theorem tailOf_append {gone : List UInt8} (whole : Whole gone) (rest : List UInt8) :
    tailOf (gone ++ rest) = tailOf rest := by
  cases whole with
  | nothing => rfl
  | ended front =>
      unfold tailOf
      simp only [List.append_assoc, List.singleton_append, List.splitOn_append_cons_self,
        List.getLast_append_of_ne_nil _ (List.splitOn_ne_nil 0 rest)]

theorem Whole.append {first second : List UInt8} (firstWhole : Whole first) (secondWhole : Whole second) :
    Whole (first ++ second) := by
  cases secondWhole with
  | nothing =>
      rw [List.append_nil]
      exact firstWhole
  | ended front =>
      rw [← List.append_assoc]
      exact .ended _

/-! ## One piece -/

theorem isBlankFrom_eq (bytes : ByteArray) (place : Nat) :
    isBlankFrom bytes place = (bytes.data.toList.drop place).all isBlankByte := by
  fun_induction isBlankFrom bytes place with
  | case1 place inside inductionHypothesis =>
      rw [List.drop_eq_getElem_cons inside, List.all_cons, inductionHypothesis]
      rfl
  | case2 place outside =>
      rw [List.drop_eq_nil_of_le (Nat.le_of_not_lt outside)]
      rfl

theorem toByteArray_toList (bytes : ByteArray) : bytes.data.toList.toByteArray = bytes := by
  apply ByteArray.ext
  rw [List.data_toByteArray, Array.toArray_toList]

/-- The frame of a body is what is read of its bytes, unless they are all blank. -/
theorem frame?_body_eq (body : ByteArray) :
    (Piece.body body).frame? =
      if body.data.toList.all isBlankByte then none else some (parse body.data.toList) := by
  rw [Piece.frame?, isBlankFrom_eq, List.drop_zero, parse, toByteArray_toList]
  cases (String.fromUTF8? body).bind Message.read? <;> rfl

/-- The frame of a body is that of the segment. -/
theorem frame?_body {body : ByteArray} (free : 0 ∉ body.data.toList) :
    (Piece.body body).frame?.toList = framesOf (body.data.toList ++ [0]) := by
  have segment : segments (body.data.toList ++ [0]) = [body.data.toList] := by
    rw [segments_append_zero, List.splitOn_eq_singleton free, segments_of_not_mem List.not_mem_nil]
    rfl
  unfold framesOf
  rw [frame?_body_eq, segment]
  cases blank : body.data.toList.all isBlankByte <;> simp [blank]

/-! ## Draining -/

/-- How a drained stream comes apart: the bytes that were kept, the frames that came out, and the bytes that
stay. -/
inductive Reads : List UInt8 → List Frame → List UInt8 → Prop where
  | waiting {bytes : List UInt8} : 0 ∉ bytes → bytes.length ≤ limit → Reads bytes [] bytes
  | body {body rest last : List UInt8} {frames : List Frame} :
      0 ∉ body → Reads rest frames last → Reads (body ++ 0 :: rest) (framesOf (body ++ [0]) ++ frames) last
  | surplus {bytes : List UInt8} :
      0 ∉ bytes → limit < bytes.length → Reads bytes [.error (.oversized bytes.length)] []

theorem drain_start : start.drain = ([], start.waiting) := by
  have cases := sound_start.cut
  generalize found : start.cut = cut at cases
  cases cases with
  | waiting _ _ _ => exact drain_of_cut_eq_none found
  | body body rest split _ _ =>
      exact absurd split.symm (List.append_ne_nil_of_right_ne_nil _ (List.cons_ne_nil _ _))
  | surplus rest _ tooLong _ => exact absurd tooLong (Nat.not_lt_zero limit)

theorem Sound.drain {decoder : Decoder} (sound : decoder.Sound) :
    Reads decoder.bytes decoder.drain.1 decoder.drain.2.bytes ∧ decoder.drain.2.Sound := by
  induction bound : decoder.buffered using Nat.strongRecOn generalizing decoder with
  | ind _ inductionHypothesis =>
      have cases := sound.cut
      generalize found : decoder.cut = cut at cases
      cases cases with
      | waiting free fits stillSound =>
          rw [drain_of_cut_eq_none found]
          exact ⟨.waiting free fits, stillSound⟩
      | body body rest split free restSound =>
          have smaller : rest.val.buffered < _ := Nat.lt_of_lt_of_eq rest.property bound
          rcases inductionHypothesis _ smaller restSound rfl with ⟨restReads, lastSound⟩
          rw [drain_of_cut_eq_some found, frame?_body free, split]
          exact ⟨.body free restReads, lastSound⟩
      | surplus rest free tooLong emptied =>
          rw [drain_of_cut_eq_some found, emptied, drain_start]
          exact ⟨.surplus free tooLong, sound_start⟩

/-- Of a stream without long runs, the frames come out and the tail stays. -/
theorem Reads.eq_of_short {bytes last : List UInt8} {frames : List Frame} (reads : Reads bytes frames last)
    (short : Short bytes) : frames = framesOf bytes ∧ last = tailOf bytes := by
  induction reads with
  | waiting free _ => exact ⟨(framesOf_of_not_mem free).symm, (tailOf_of_not_mem free).symm⟩
  | @body body rest last frames free _ inductionHypothesis =>
      have after : rest <:+: body ++ 0 :: rest := ⟨body ++ [0], [], by simp⟩
      rcases inductionHypothesis (short.part after) with ⟨sameFrames, sameTail⟩
      rw [List.append_cons body 0 rest, framesOf_append (.ended body), tailOf_append (.ended body),
        sameFrames]
      exact ⟨rfl, sameTail⟩
  | surplus free tooLong => exact absurd (short _ List.infix_rfl free) (Nat.not_le_of_lt tooLong)

/-- What stays in a stream is the end of what was in it. -/
theorem Reads.suffix {bytes last : List UInt8} {frames : List Frame} (reads : Reads bytes frames last) :
    last <:+ bytes := by
  induction reads with
  | waiting _ _ => exact List.suffix_rfl
  | @body body rest _ _ _ _ inductionHypothesis =>
      exact inductionHypothesis.trans ⟨body ++ [0], by simp⟩
  | surplus _ _ => exact List.nil_suffix

/-- Every message that comes out of a stream stands in it, from one zero byte to the next. -/
theorem Reads.message {bytes last : List UInt8} {frames : List Frame} (reads : Reads bytes frames last)
    {message : Message} (given : .ok message ∈ frames) :
    ∃ body, 0 ∉ body ∧ body ++ [0] <:+: bytes ∧ parse body = .ok message := by
  induction reads with
  | waiting _ _ => cases given
  | @body body rest last frames free _ inductionHypothesis =>
      rcases List.mem_append.1 given with here | later
      · rcases List.mem_map.1 here with ⟨segment, segmentMember, parsed⟩
        have segment_eq : segment = body := by
          have inSegments := (List.mem_filter.1 segmentMember).1
          rw [segments_append_zero, List.splitOn_eq_singleton free,
            segments_of_not_mem List.not_mem_nil] at inSegments
          exact List.mem_singleton.1 inSegments
        subst segment_eq
        exact ⟨segment, free, ⟨[], rest, by simp⟩, parsed⟩
      · rcases inductionHypothesis later with ⟨other, otherFree, inside, parsed⟩
        exact ⟨other, otherFree, inside.trans ⟨body ++ [0], [], by simp⟩, parsed⟩
  | surplus _ _ => cases List.mem_singleton.1 given

/-! ## Asking for the next frame -/

/-- The next frame is that of the segments that were taken away, of which all but the last are blank. -/
theorem Sound.next {decoder : Decoder} (sound : decoder.Sound) (short : Short decoder.bytes) :
    ∃ gone, Whole gone ∧ decoder.bytes = gone ++ decoder.next.2.bytes ∧
      framesOf gone = decoder.next.1.toList ∧ decoder.next.2.Sound := by
  induction bound : decoder.buffered using Nat.strongRecOn generalizing decoder with
  | ind _ inductionHypothesis =>
      have cases := sound.cut
      generalize found : decoder.cut = cut at cases
      cases cases with
      | waiting free fits stillSound =>
          rw [next_of_cut_eq_none found]
          exact ⟨[], .nothing, rfl, rfl, stillSound⟩
      | body body rest split free restSound =>
          have frames := frame?_body free
          rw [next_of_cut_eq_some found]
          cases given : (Piece.body body).frame? with
          | some frame =>
              rw [given] at frames
              refine ⟨body.data.toList ++ [0], .ended _, ?_, frames.symm, restSound⟩
              rw [split, ← List.append_cons]
          | none =>
              rw [given] at frames
              have smaller : rest.val.buffered < _ := Nat.lt_of_lt_of_eq rest.property bound
              have after : rest.val.bytes <:+: decoder.bytes := ⟨body.data.toList ++ [0], [], by simp [split]⟩
              rcases inductionHypothesis _ smaller restSound (short.part after) rfl with
                ⟨gone, whole, restSplit, restFrames, nextSound⟩
              refine ⟨body.data.toList ++ [0] ++ gone, (Whole.ended _).append whole, ?_, ?_, nextSound⟩
              · rw [split, List.append_assoc, ← restSplit, List.append_cons]
              · rw [framesOf_append (.ended _), ← frames, restFrames]
                rfl
      | surplus rest free tooLong _ =>
          exact absurd (short _ List.infix_rfl free) (Nat.not_le_of_lt tooLong)

/-! ## A message behind blanks -/

/-- A message with an empty report. -/
def emptyReport : String :=
  "\x7b\"type\":\"SYNC_PARTIAL\",\"payload\":\x7b\x7d\x7d"

/-- The message behind a number of blanks. -/
def padded (blanks : Nat) : List UInt8 :=
  List.replicate blanks 0x20 ++ emptyReport.toByteArray.data.toList

theorem toByteArray_padded (blanks : Nat) :
    (padded blanks).toByteArray = (String.ofList (List.replicate blanks ' ' ++ emptyReport.toList)).toByteArray := by
  have spaces : (List.replicate blanks ' ').utf8Encode = (List.replicate blanks (0x20 : UInt8)).toByteArray := by
    rw [List.utf8Encode, List.flatMap_replicate]
    exact congrArg List.toByteArray List.flatten_replicate_singleton
  rw [String.toByteArray_ofList, List.utf8Encode_append, spaces, String.utf8Encode_toList, padded,
    List.toByteArray_append, toByteArray_toList]

theorem readValue_blanks (arrange : List (String × Json) → List (String × Json)) (fuel depth blanks : Nat)
    (text : List Char) :
    Json.readValue arrange fuel depth (List.replicate blanks ' ' ++ text) =
      Json.readValue arrange fuel depth text := by
  have skip : Json.skipSpace (List.replicate blanks ' ' ++ text) = Json.skipSpace text := by
    induction blanks with
    | zero => rfl
    | succ blanks inductionHypothesis => exact inductionHypothesis
  cases fuel with
  | zero => simp only [Json.readValue]
  | succ fuel => simp only [Json.readValue, skip]

theorem readValue_emptyReport (fuel : Nat) :
    Json.readValue id (fuel + 6) Json.depthLimit emptyReport.toList =
      .whole (.object [("type", .string "SYNC_PARTIAL"), ("payload", .object [])]) [] := by
  have text : emptyReport.toList = ['{', '"', 't', 'y', 'p', 'e', '"', ':', '"', 'S', 'Y', 'N', 'C', '_', 'P', 'A',
      'R', 'T', 'I', 'A', 'L', '"', ',', '"', 'p', 'a', 'y', 'l', 'o', 'a', 'd', '"', ':', '{', '}', '}'] := by
    decide
  rw [text]
  simp [Json.readValue, Json.readFields, Json.skipSpace, Json.isSpace, Json.readText, Json.depthLimit]

theorem parse_padded (blanks : Nat) : parse (padded blanks) = .ok (.syncPartial (.object []) none) := by
  let text := String.ofList (List.replicate blanks ' ' ++ emptyReport.toList)
  have fuel : 2 * text.toList.length + 2 = 2 * blanks + 68 + 6 := by
    have length : emptyReport.toList.length = 36 := by decide
    rw [String.toList_ofList, List.length_append, List.length_replicate, length]
    omega
  have read : Json.readAsWritten text =
      .whole (.object [("type", .string "SYNC_PARTIAL"), ("payload", .object [])]) [] := by
    apply Json.readAsWritten_eq_whole
    rw [fuel, String.toList_ofList, readValue_blanks, readValue_emptyReport]
  have decoded : String.fromUTF8? text.toByteArray = some text := dif_pos text.isValidUTF8
  have message : Message.read? text = some (.syncPartial (.object []) none) := by
    rw [Message.read?, read]
    rfl
  rw [parse, toByteArray_padded, decoded, Option.bind_some, message]

theorem not_mem_padded (blanks : Nat) : 0 ∉ padded blanks := by
  intro zero
  rcases List.mem_append.1 zero with blank | letter
  · cases List.eq_of_mem_replicate blank
  · exact absurd letter (by decide)

theorem framesOf_padded (blanks : Nat) :
    framesOf (padded blanks ++ [0]) = [.ok (.syncPartial (.object []) none)] := by
  have solid : (padded blanks).all isBlankByte = false := by
    have letters : emptyReport.toByteArray.data.toList.all isBlankByte = false := by decide
    rw [padded, List.all_append, letters, Bool.and_false]
  unfold framesOf
  rw [segments_append_zero, List.splitOn_eq_singleton (not_mem_padded blanks), segments_of_not_mem List.not_mem_nil,
    List.append_nil, List.filter_cons_of_pos (by rw [solid]; rfl), List.filter_nil, List.map_singleton, parse_padded]

/-! ## Chunks -/

/-- What is done with a stream while it arrives. -/
inductive Action where
  /-- Take in a chunk. -/
  | extend (chunk : ByteArray)
  /-- Ask for the next frame. -/
  | next

/-- The bytes that actions take in. -/
def Action.sent : List Action → List UInt8
  | [] => []
  | .extend chunk :: rest => chunk.data.toList ++ sent rest
  | .next :: rest => sent rest

/-- Act on a stream, and collect the frames that come out. -/
def feed : Decoder → List Action → List Frame × Decoder
  | decoder, [] => ([], decoder)
  | decoder, .extend chunk :: rest => (decoder.extend chunk).feed rest
  | decoder, .next :: rest =>
      let (frame, after) := decoder.next
      let (frames, last) := after.feed rest
      (frame.toList ++ frames, last)

/-- Asking for frames until there is none ends, with the frames that came out and the stream after them. -/
inductive Drains : Decoder → List Frame → Decoder → Prop where
  | nothing {decoder last : Decoder} : decoder.next = (none, last) → Drains decoder [] last
  | frame {decoder rest last : Decoder} {frame : Frame} {frames : List Frame} :
      decoder.next = (some frame, rest) → Drains rest frames last → Drains decoder (frame :: frames) last

theorem Drains.unique {decoder last other : Decoder} {frames otherFrames : List Frame}
    (first : decoder.Drains frames last) (second : decoder.Drains otherFrames other) :
    frames = otherFrames ∧ last = other := by
  induction first generalizing otherFrames with
  | nothing empty =>
      cases second with
      | nothing otherEmpty => exact ⟨rfl, (Prod.mk.inj (empty.symm.trans otherEmpty)).2⟩
      | frame given _ => cases empty.symm.trans given
  | frame given _ inductionHypothesis =>
      cases second with
      | nothing empty => cases empty.symm.trans given
      | frame otherGiven rest =>
          cases given.symm.trans otherGiven
          rcases inductionHypothesis rest with ⟨rfl, rfl⟩
          exact ⟨rfl, rfl⟩

/-- A stream that is drained in one go gives what comes out of it frame by frame. -/
theorem drains_drain (decoder : Decoder) : decoder.Drains decoder.drain.1 decoder.drain.2 := by
  induction frames : decoder.drain.1 generalizing decoder with
  | nil =>
      cases asked : decoder.next with
      | mk answer rest =>
          cases answer with
          | none =>
              rw [drain_eq_next, asked]
              exact .nothing asked
          | some frame =>
              rw [drain_eq_next, asked] at frames
              cases frames
  | cons frame more inductionHypothesis =>
      cases asked : decoder.next with
      | mk answer rest =>
          cases answer with
          | none =>
              rw [drain_eq_next, asked] at frames
              cases frames
          | some given =>
              rw [drain_eq_next, asked] at frames ⊢
              obtain ⟨rfl, rfl⟩ := List.cons.inj frames
              exact .frame asked (inductionHypothesis rest rfl)

/-- All frames that come out of a stream that is drained in the end, and the stream after it. -/
def feedAll (actions : List Action) : List Frame × Decoder :=
  let (frames, last) := start.feed actions
  (frames ++ last.drain.1, last.drain.2)

/-- Actions take away a number of segments and give their frames. -/
theorem Sound.feed {decoder : Decoder} (sound : decoder.Sound) (actions : List Action)
    (short : Short (decoder.bytes ++ Action.sent actions)) :
    ∃ gone, Whole gone ∧ decoder.bytes ++ Action.sent actions = gone ++ (decoder.feed actions).2.bytes ∧
      framesOf gone = (decoder.feed actions).1 ∧ (decoder.feed actions).2.Sound := by
  induction actions generalizing decoder with
  | nil => exact ⟨[], .nothing, List.append_nil _, rfl, sound⟩
  | cons action rest inductionHypothesis =>
      cases action with
      | extend chunk =>
          have joined : decoder.bytes ++ Action.sent (.extend chunk :: rest) =
              (decoder.extend chunk).bytes ++ Action.sent rest := by
            rw [bytes_extend, List.append_assoc]
            rfl
          rw [joined] at short ⊢
          exact inductionHypothesis (sound.extend chunk) short
      | next =>
          rcases sound.next (short.part ⟨[], Action.sent rest, rfl⟩) with
            ⟨gone, whole, split, frames, nextSound⟩
          have later : decoder.next.2.bytes ++ Action.sent rest <:+:
              decoder.bytes ++ Action.sent (.next :: rest) := by
            rw [split]
            exact ⟨gone, [], by simp [Action.sent]⟩
          rcases inductionHypothesis nextSound (short.part later) with
            ⟨laterGone, laterWhole, laterSplit, laterFrames, lastSound⟩
          refine ⟨gone ++ laterGone, whole.append laterWhole, ?_, ?_, lastSound⟩
          · change decoder.bytes ++ Action.sent rest = _ ++ (decoder.next.2.feed rest).2.bytes
            rw [split, List.append_assoc, laterSplit, List.append_assoc]
          · rw [framesOf_append whole, frames, laterFrames]
            rfl

/-- However a stream is cut into chunks, and however often it is asked for frames in between, its frames come
out and its tail is left over; so another way of cutting it gives the same frames.  What comes out in the end comes
out by asking for frames until there is none, which ends. -/
theorem feedAll_eq (actions : List Action) (short : Short (Action.sent actions)) :
    (∀ drained last, (start.feed actions).2.Drains drained last ↔
      feedAll actions = ((start.feed actions).1 ++ drained, last)) ∧
      (feedAll actions).1 = framesOf (Action.sent actions) ∧
      (feedAll actions).2.bytes = tailOf (Action.sent actions) ∧
      ∀ other, Action.sent other = Action.sent actions → (feedAll other).1 = (feedAll actions).1 := by
  have meaning : ∀ actions, Short (Action.sent actions) →
      (feedAll actions).1 = framesOf (Action.sent actions) ∧
        (feedAll actions).2.bytes = tailOf (Action.sent actions) := by
    intro actions short
    rcases sound_start.feed actions short with ⟨gone, whole, split, frames, lastSound⟩
    rw [bytes_start, List.nil_append] at split
    have lastShort : Short (start.feed actions).2.bytes := short.part ⟨gone, [], by simp [split]⟩
    rcases lastSound.drain.1.eq_of_short lastShort with ⟨lastFrames, lastTail⟩
    rw [split, framesOf_append whole, tailOf_append whole, frames, ← lastFrames]
    exact ⟨rfl, lastTail⟩
  rcases meaning actions short with ⟨frames, tail⟩
  have asked : (start.feed actions).2.Drains (start.feed actions).2.drain.1 (feedAll actions).2 := drains_drain _
  refine ⟨fun drained last => ⟨fun drains => ?_, fun same => ?_⟩, frames, tail, ?_⟩
  · rcases drains.unique asked with ⟨rfl, rfl⟩
    rfl
  · rcases Prod.mk.inj same with ⟨sameFrames, rfl⟩
    exact List.append_cancel_left sameFrames ▸ asked
  · intro other sameBytes
    rw [(meaning other (sameBytes ▸ short)).1, frames, sameBytes]

/-- A malformed frame, a blank one, a message and an unfinished one, in chunks that end within them. -/
theorem feedAll_eq_four_segments :
    let actions : List Action :=
      [.extend ⟨#[255]⟩, .next, .extend ⟨([0, 32, 0] ++ (padded 1).take 9).toArray⟩, .next, .next,
        .extend ⟨((padded 1).drop 9 ++ [0, 91]).toArray⟩]
    Short (Action.sent actions) ∧
      (feedAll actions).1 = [.error .malformed, .ok (.syncPartial (.object []) none)] ∧
      (feedAll actions).2.bytes = [91] := by
  intro actions
  have sent : Action.sent actions = [255, 0, 32] ++ [0] ++ (padded 1 ++ [0] ++ [91]) := by decide +kernel +zetaReduce
  have short : Short (Action.sent actions) := by
    have fits : (Action.sent actions).length ≤ limit := by decide +kernel +zetaReduce
    exact fun run inside _ => Nat.le_trans inside.length_le fits
  have malformed : framesOf ([255, 0, 32] ++ [0]) = [.error .malformed] := rfl
  rcases feedAll_eq actions short with ⟨_, frames, tail, _⟩
  refine ⟨short, ?_, tail.trans ?_⟩
  · rw [frames, sent, framesOf_append (.ended _), framesOf_append (.ended _), malformed, framesOf_padded,
      framesOf_of_not_mem (by decide)]
    rfl
  · decide +kernel +zetaReduce

end Decoder
end Fleet
