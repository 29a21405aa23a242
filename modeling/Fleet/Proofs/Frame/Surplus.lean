import Fleet.Proofs.Frame.Chunks

namespace Fleet
namespace Decoder

/-!
# Frames that are given up

A stream that is drained after every chunk keeps the bytes after the last zero byte for the next one, unless
they are too many: then they are reported as one oversized frame and forgotten.  So what a frame comes to is
decided at the ends of the chunks.  If at none of them too many of its bytes were waiting for its end, the
frame is read, however long it is.  Otherwise the bytes that were waiting at the first such end are reported
and never read, neither as a message nor as a part of one.

What comes before a frame and what follows its end is read as if the frame were not there, because a zero byte
leaves nothing behind that a later frame could be mixed with.  Nothing is said about the bytes of a frame that
arrive after it was given up, but that a message which is made of them is made of nothing else.
-/

/-- Take in chunks, and take out all frames that have arrived after each of them. -/
def receive : Decoder → List (List UInt8) → List Frame × Decoder
  | decoder, [] => ([], decoder)
  | decoder, chunk :: rest =>
      let (frames, kept) := (decoder.extend chunk.toByteArray).drain
      let (more, last) := kept.receive rest
      (frames ++ more, last)

/-- The frames that come out of a stream that arrives in chunks. -/
def framesFrom (chunks : List (List UInt8)) : List Frame :=
  (start.receive chunks).1

/-! ## What a drained stream gives and keeps -/

/-- The report on bytes that wait for the end of their frame, if they are too many. -/
def surplusOf (waiting : List UInt8) : List Frame :=
  if limit < waiting.length then [.error (.oversized waiting.length)] else []

/-- What is kept of bytes that wait for the end of their frame. -/
def keptOf (waiting : List UInt8) : List UInt8 :=
  if limit < waiting.length then [] else waiting

theorem Reads.eq {bytes last : List UInt8} {frames : List Frame} (reads : Reads bytes frames last) :
    frames = framesOf bytes ++ surplusOf (tailOf bytes) ∧ last = keptOf (tailOf bytes) := by
  induction reads with
  | waiting free fits =>
      rw [framesOf_of_not_mem free, tailOf_of_not_mem free, surplusOf, keptOf, if_neg (Nat.not_lt_of_le fits),
        if_neg (Nat.not_lt_of_le fits)]
      exact ⟨rfl, rfl⟩
  | @body body rest last frames free _ inductionHypothesis =>
      rcases inductionHypothesis with ⟨sameFrames, sameTail⟩
      rw [List.append_cons body 0 rest, framesOf_append (.ended body), tailOf_append (.ended body),
        sameFrames, List.append_assoc]
      exact ⟨rfl, sameTail⟩
  | surplus free tooLong =>
      rw [framesOf_of_not_mem free, tailOf_of_not_mem free, surplusOf, keptOf, if_pos tooLong, if_pos tooLong]
      exact ⟨rfl, rfl⟩

/-- The frames of chunks that follow bytes which were kept, and the bytes that are kept in the end. -/
def readOn : List UInt8 → List (List UInt8) → List Frame × List UInt8
  | kept, [] => ([], kept)
  | kept, chunk :: rest =>
      let waiting := tailOf (kept ++ chunk)
      let (more, last) := readOn (keptOf waiting) rest
      (framesOf (kept ++ chunk) ++ surplusOf waiting ++ more, last)

theorem bytes_extend_toByteArray (decoder : Decoder) (chunk : List UInt8) :
    (decoder.extend chunk.toByteArray).bytes = decoder.bytes ++ chunk := by
  rw [bytes_extend, List.data_toByteArray]

/-- Of a stream nothing matters but the bytes that it keeps. -/
theorem Sound.receive {decoder : Decoder} (sound : decoder.Sound) (chunks : List (List UInt8)) :
    (decoder.receive chunks).1 = (readOn decoder.bytes chunks).1 ∧
      (decoder.receive chunks).2.bytes = (readOn decoder.bytes chunks).2 := by
  induction chunks generalizing decoder with
  | nil => exact ⟨rfl, rfl⟩
  | cons chunk rest inductionHypothesis =>
      rcases (sound.extend chunk.toByteArray).drain with ⟨reads, keptSound⟩
      rw [bytes_extend_toByteArray] at reads
      rcases reads.eq with ⟨frames, kept⟩
      rcases inductionHypothesis keptSound with ⟨more, last⟩
      rw [kept] at more last
      refine ⟨?_, last⟩
      change (decoder.extend chunk.toByteArray).drain.1 ++ _ = _ ++ _
      rw [frames, more]

theorem framesFrom_eq (chunks : List (List UInt8)) : framesFrom chunks = (readOn [] chunks).1 :=
  (sound_start.receive chunks).1

theorem readOn_append (kept : List UInt8) (first second : List (List UInt8)) :
    readOn kept (first ++ second) =
      ((readOn kept first).1 ++ (readOn (readOn kept first).2 second).1, (readOn (readOn kept first).2 second).2) := by
  induction first generalizing kept with
  | nil => rfl
  | cons chunk rest inductionHypothesis =>
      rw [List.cons_append, readOn, readOn, inductionHypothesis]
      simp only [List.append_assoc]

/-! ## Zero bytes leave nothing behind -/

theorem Whole.suffix {bytes last : List UInt8} (whole : Whole bytes) (inside : last <:+ bytes) : Whole last := by
  rcases inside with ⟨gone, split⟩
  rcases List.eq_nil_or_concat last with rfl | ⟨front, byte, rfl⟩
  · exact .nothing
  · cases whole with
    | nothing => simp at split
    | ended front =>
        rw [List.concat_eq_append, ← List.append_assoc] at split
        rw [List.concat_eq_append, (List.append_inj_right' split rfl : [byte] = [0])]
        exact .ended _

theorem Whole.eq_nil {bytes : List UInt8} (whole : Whole bytes) (free : 0 ∉ bytes) : bytes = [] := by
  cases whole with
  | nothing => rfl
  | ended front => exact absurd (List.mem_append_right front (List.mem_singleton.2 rfl)) free

theorem tailOf_of_whole {bytes : List UInt8} (whole : Whole bytes) : tailOf bytes = [] := by
  have tail := tailOf_append whole []
  rwa [List.append_nil, tailOf_of_not_mem List.not_mem_nil] at tail

/-- Every stream is a number of segments and its tail. -/
theorem exists_whole_append_tailOf (stream : List UInt8) :
    ∃ gone, Whole gone ∧ stream = gone ++ tailOf stream ∧ 0 ∉ tailOf stream := by
  induction stream with
  | nil => exact ⟨[], .nothing, rfl, List.not_mem_nil⟩
  | cons byte rest inductionHypothesis =>
      rcases inductionHypothesis with ⟨gone, whole, split, free⟩
      by_cases zero : byte = 0
      · have ended : Whole [byte] := zero ▸ Whole.ended []
        rw [← List.singleton_append, tailOf_append ended]
        refine ⟨[byte] ++ gone, ended.append whole, ?_, free⟩
        rw [List.append_assoc, ← split]
      -- Any other byte belongs to the tail only if no zero byte follows at all.
      · cases whole with
        | nothing =>
            have wholeFree : 0 ∉ byte :: rest := by
              rw [split, List.nil_append]
              exact List.not_mem_cons_of_ne_of_not_mem (Ne.symm zero) free
            rw [tailOf_of_not_mem wholeFree]
            exact ⟨[], .nothing, rfl, wholeFree⟩
        | ended front =>
            have ended : Whole (byte :: front ++ [0]) := .ended _
            have joined : byte :: rest = byte :: front ++ [0] ++ tailOf rest := by
              rw [List.cons_append, List.cons_append, ← split]
            rw [joined, tailOf_append ended, tailOf_of_not_mem free]
            exact ⟨_, ended, rfl, free⟩

theorem surplusOf_nil : surplusOf [] = [] :=
  if_neg (Nat.not_lt_zero limit)

theorem keptOf_nil : keptOf [] = [] :=
  ite_self []

theorem keptOf_suffix (waiting : List UInt8) : keptOf waiting <:+ waiting := by
  unfold keptOf
  split
  · exact List.nil_suffix
  · exact List.suffix_rfl

/-- What a drained stream keeps is the end of what was in it, and so is what it sees together with later bytes. -/
theorem keptOf_tailOf_append_suffix (stream later : List UInt8) :
    keptOf (tailOf stream) ++ later <:+ stream ++ later := by
  rcases exists_whole_append_tailOf stream with ⟨gone, _, split, _⟩
  exact List.suffix_append_self_iff.2 ((keptOf_suffix _).trans ⟨gone, split.symm⟩)

theorem readOn_singleton_of_whole {kept chunk : List UInt8} (whole : Whole (kept ++ chunk)) :
    readOn kept [chunk] = (framesOf (kept ++ chunk), []) := by
  simp only [readOn, tailOf_of_whole whole, surplusOf_nil, keptOf_nil, List.append_nil]

/-- To end a chunk after a zero byte changes nothing. -/
theorem readOn_cut {kept lead : List UInt8} (whole : Whole (kept ++ lead)) (chunk : List UInt8)
    (more : List (List UInt8)) :
    readOn kept ((lead ++ chunk) :: more) = readOn kept (lead :: chunk :: more) := by
  have alone := readOn_append kept [lead] (chunk :: more)
  rw [readOn_singleton_of_whole whole, List.singleton_append] at alone
  rw [alone, readOn, readOn, ← List.append_assoc, framesOf_append whole, tailOf_append whole]
  simp only [List.append_assoc, List.nil_append]

theorem not_mem_readOn_snd {kept : List UInt8} (free : 0 ∉ kept) (chunks : List (List UInt8)) :
    0 ∉ (readOn kept chunks).2 := by
  induction chunks generalizing kept with
  | nil => exact free
  | cons chunk rest inductionHypothesis =>
      rcases exists_whole_append_tailOf (kept ++ chunk) with ⟨_, _, _, tailFree⟩
      exact inductionHypothesis fun zero => tailFree ((keptOf_suffix _).subset zero)

theorem readOn_snd_suffix (kept : List UInt8) (chunks : List (List UInt8)) :
    (readOn kept chunks).2 <:+ kept ++ chunks.flatten := by
  induction chunks generalizing kept with
  | nil =>
      rw [List.flatten_nil, List.append_nil]
      exact List.suffix_rfl
  | cons chunk rest inductionHypothesis =>
      rw [List.flatten_cons, ← List.append_assoc]
      exact (inductionHypothesis _).trans (keptOf_tailOf_append_suffix _ _)

/-- Nothing is kept at the end of a frame, so what follows is read as if nothing had been before it. -/
theorem framesFrom_append {first : List (List UInt8)} (whole : Whole first.flatten) (second : List (List UInt8)) :
    framesFrom (first ++ second) = framesFrom first ++ framesFrom second := by
  have nothing : (readOn [] first).2 = [] :=
    (whole.suffix (readOn_snd_suffix [] first)).eq_nil (not_mem_readOn_snd List.not_mem_nil first)
  rw [framesFrom_eq, framesFrom_eq, framesFrom_eq, readOn_append, nothing]

/-! ## Bytes that wait for the end of their frame -/

/-- Bytes of a frame that are not too many are kept. -/
theorem readOn_of_fits {kept : List UInt8} {held : List (List UInt8)} (free : 0 ∉ kept ++ held.flatten)
    (fits : (kept ++ held.flatten).length ≤ limit) (more : List (List UInt8)) :
    readOn kept (held ++ more) = readOn (kept ++ held.flatten) more := by
  induction held generalizing kept with
  | nil => rw [List.flatten_nil, List.append_nil, List.nil_append]
  | cons piece rest inductionHypothesis =>
      rw [List.flatten_cons, ← List.append_assoc] at free fits ⊢
      have pieceFree : 0 ∉ kept ++ piece := fun zero => free (List.mem_append_left _ zero)
      have pieceFits : ¬limit < (kept ++ piece).length := by
        rw [List.length_append] at fits
        omega
      simp only [List.cons_append, readOn, tailOf_of_not_mem pieceFree, framesOf_of_not_mem pieceFree, surplusOf,
        keptOf, if_neg pieceFits, inductionHypothesis free fits, List.append_nil, List.nil_append]

/-- The first chunk with which they are too many puts an end to them. -/
theorem readOn_of_surplus {kept piece : List UInt8} (free : 0 ∉ kept ++ piece)
    (tooLong : limit < (kept ++ piece).length) (more : List (List UInt8)) :
    (readOn kept (piece :: more)).1 = .error (.oversized (kept ++ piece).length) :: (readOn [] more).1 := by
  simp only [readOn, tailOf_of_not_mem free, framesOf_of_not_mem free, surplusOf, keptOf, if_pos tooLong,
    List.nil_append, List.singleton_append]

/-- If too many bytes are held in the end, there is a first chunk with which they are too many. -/
theorem exists_first_surplus {held : List (List UInt8)} (tooLong : limit < held.flatten.length) :
    ∃ first piece second, held = first ++ piece :: second ∧ first.flatten.length ≤ limit ∧
      limit < (first.flatten ++ piece).length := by
  induction held using List.reverseRecOn with
  | nil => exact absurd tooLong (Nat.not_lt_zero limit)
  | append_singleton front piece inductionHypothesis =>
      rw [List.flatten_concat] at tooLong
      by_cases early : limit < front.flatten.length
      · rcases inductionHypothesis early with ⟨first, middle, second, split, fits, surplus⟩
        exact ⟨first, middle, second ++ [piece], by rw [split, List.append_assoc, List.cons_append], fits, surplus⟩
      · exact ⟨front, piece, [], rfl, Nat.le_of_not_lt early, tooLong⟩

/-! ## Messages -/

/-- Every message of a stream stands in it, from one zero byte to the next. -/
theorem exists_of_mem_framesOf {stream : List UInt8} {message : Message} (given : .ok message ∈ framesOf stream) :
    ∃ body, 0 ∉ body ∧ body ++ [0] <:+: stream ∧ parse body = .ok message := by
  have reads := (sound_of_unscanned stream.toByteArray).drain.1
  have same : bytes ⟨stream.toByteArray, 0⟩ = stream := congrArg Array.toList List.data_toByteArray
  rw [same] at reads
  refine reads.message ?_
  rw [reads.eq.1]
  exact List.mem_append_left _ given

theorem exists_of_mem_readOn {kept : List UInt8} {chunks : List (List UInt8)} {message : Message}
    (given : .ok message ∈ (readOn kept chunks).1) :
    ∃ body, 0 ∉ body ∧ body ++ [0] <:+: kept ++ chunks.flatten ∧ parse body = .ok message := by
  induction chunks generalizing kept with
  | nil => cases given
  | cons chunk rest inductionHypothesis =>
      rw [List.flatten_cons, ← List.append_assoc]
      rcases List.mem_append.1 given with now | later
      · have inFrames : .ok message ∈ framesOf (kept ++ chunk) := by
          refine (List.mem_append.1 now).resolve_right fun report => ?_
          unfold surplusOf at report
          split at report
          · cases List.mem_singleton.1 report
          · cases report
        rcases exists_of_mem_framesOf inFrames with ⟨body, free, inside, parsed⟩
        exact ⟨body, free, inside.trans (List.prefix_append _ _).isInfix, parsed⟩
      · rcases inductionHypothesis later with ⟨body, free, inside, parsed⟩
        exact ⟨body, free, inside.trans (keptOf_tailOf_append_suffix _ _).isInfix, parsed⟩

/-! ## A frame in chunks -/

/-- The chunks in which a frame arrives.  In the first of them it follows the end of what was sent before it; the
pieces that are held are what arrives before the chunk with its last bytes, its zero byte and what was sent next. -/
def chunksOf (lead : List UInt8) : List (List UInt8) → List UInt8 → List UInt8 → List (List UInt8)
  | [], last, rest => [lead ++ last ++ 0 :: rest]
  | piece :: held, last, rest => (lead ++ piece) :: chunksOf [] held last rest

/-- The end of a frame arrives with the first bytes or later. -/
theorem append_eq_append_zero_iff {chunk later frame tail : List UInt8} :
    chunk ++ later = frame ++ 0 :: tail ↔
      (∃ missing, frame = chunk ++ missing ∧ later = missing ++ 0 :: tail) ∨
        ∃ rest, chunk = frame ++ 0 :: rest ∧ tail = rest ++ later := by
  rw [List.append_eq_append_iff]
  constructor
  · rintro (early | ⟨arrived, chunk_eq, later_eq⟩)
    · exact .inl early
    · rcases List.cons_eq_append_iff.1 later_eq with ⟨rfl, alone⟩ | ⟨rest, rfl, tail_eq⟩
      · rw [List.append_nil] at chunk_eq
        exact .inl ⟨[], by rw [chunk_eq, List.append_nil], alone⟩
      · exact .inr ⟨rest, chunk_eq, tail_eq⟩
  · rintro (early | ⟨rest, chunk_eq, tail_eq⟩)
    · exact .inl early
    · exact .inr ⟨0 :: rest, chunk_eq, by rw [tail_eq, List.cons_append]⟩

/-- The chunks in which a frame arrives, after what the first of them begins with. -/
theorem exists_chunksOf_of_begun (lead : List UInt8) {chunk frame tail : List UInt8} {more : List (List UInt8)}
    (sent : chunk ++ more.flatten = frame ++ 0 :: tail) :
    ∃ held last rest after, (lead ++ chunk) :: more = chunksOf lead held last rest ++ after ∧
      held.flatten ++ last = frame ∧ (rest :: after).flatten = tail := by
  induction more generalizing lead chunk frame with
  | nil =>
      rw [List.flatten_nil, List.append_nil] at sent
      exact ⟨[], frame, tail, [], by simp [chunksOf, sent], rfl, by simp⟩
  | cons next more inductionHypothesis =>
      rcases append_eq_append_zero_iff.1 sent with ⟨missing, frame_eq, later⟩ | ⟨rest, chunk_eq, tail_eq⟩
      · rcases inductionHypothesis [] later with ⟨held, last, rest, after, chunks, parts, tail_eq⟩
        refine ⟨chunk :: held, last, rest, after, ?_, ?_, tail_eq⟩
        · rw [chunksOf, List.cons_append, ← chunks, List.nil_append]
        · rw [List.flatten_cons, List.append_assoc, parts, frame_eq]
      · refine ⟨[], frame, rest, next :: more, ?_, rfl, tail_eq.symm⟩
        rw [chunk_eq, chunksOf, List.append_assoc, List.singleton_append]

/-- Wherever a frame is in a stream and however the stream is cut, it arrives in such chunks. -/
theorem exists_chunksOf {chunks : List (List UInt8)} {front frame tail : List UInt8}
    (sent : chunks.flatten = front ++ frame ++ 0 :: tail) :
    ∃ before lead held last rest after, chunks = before ++ chunksOf lead held last rest ++ after ∧
      (before ++ [lead]).flatten = front ∧ held.flatten ++ last = frame ∧ (rest :: after).flatten = tail := by
  induction chunks generalizing front with
  | nil => simp at sent
  | cons chunk more inductionHypothesis =>
      rw [List.flatten_cons, List.append_assoc] at sent
      rcases List.append_eq_append_iff.1 sent with ⟨missing, front_eq, later⟩ | ⟨begun, chunk_eq, later⟩
      · rw [← List.append_assoc] at later
        rcases inductionHypothesis later with ⟨before, lead, held, last, rest, after, split, frontParts, parts⟩
        refine ⟨chunk :: before, lead, held, last, rest, after, ?_, ?_, parts⟩
        · rw [split]
          rfl
        · rw [List.cons_append, List.flatten_cons, frontParts, front_eq]
      · rcases exists_chunksOf_of_begun front later.symm with ⟨held, last, rest, after, split, parts⟩
        refine ⟨[], front, held, last, rest, after, ?_, ?_, parts⟩
        · rw [chunk_eq, split]
          rfl
        · simp

/-- To end a chunk where the frame begins changes nothing. -/
theorem readOn_chunksOf_lead {kept lead : List UInt8} (whole : Whole (kept ++ lead)) (held : List (List UInt8))
    (last rest : List UInt8) (after : List (List UInt8)) :
    readOn kept (chunksOf lead held last rest ++ after) =
      readOn kept (lead :: (chunksOf [] held last rest ++ after)) := by
  cases held with
  | nil =>
      rw [chunksOf, chunksOf, List.append_assoc, List.singleton_append, readOn_cut whole]
      rfl
  | cons piece held =>
      rw [chunksOf, chunksOf, List.cons_append, readOn_cut whole]
      rfl

/-- To end a chunk where the frame ends changes nothing. -/
theorem readOn_chunksOf_rest (kept : List UInt8) (held : List (List UInt8)) (last rest : List UInt8)
    (after : List (List UInt8)) :
    readOn kept (chunksOf [] held last rest ++ after) =
      readOn kept (held ++ (last ++ [0]) :: rest :: after) := by
  induction held generalizing kept with
  | nil =>
      have whole : Whole (kept ++ (last ++ [0])) := by
        rw [← List.append_assoc]
        exact .ended _
      rw [chunksOf, List.nil_append, List.singleton_append, List.nil_append, List.append_cons last 0 rest,
        readOn_cut whole]
  | cons piece held inductionHypothesis =>
      rw [chunksOf, List.nil_append, List.cons_append, List.cons_append, readOn, readOn, inductionHypothesis]

/-- What is made of a frame depends on nothing before it and on nothing after it, and nothing after it depends on
the frame. -/
theorem framesFrom_chunksOf {before : List (List UInt8)} {lead : List UInt8}
    (whole : Whole (before ++ [lead]).flatten) (held : List (List UInt8)) (last rest : List UInt8)
    (after : List (List UInt8)) :
    framesFrom (before ++ chunksOf lead held last rest ++ after) =
      framesFrom (before ++ [lead]) ++ framesFrom (held ++ [last ++ [0]]) ++ framesFrom (rest :: after) := by
  -- What is kept of the chunks before is the end of them, so it ends with the lead where a frame does.
  have leadWhole : Whole ((readOn [] before).2 ++ lead) := by
    rw [List.flatten_concat] at whole
    exact whole.suffix (List.suffix_append_self_iff.2 (readOn_snd_suffix [] before))
  have frameWhole : Whole (held ++ [last ++ [0]]).flatten := by
    rw [List.flatten_concat, ← List.append_assoc]
    exact .ended _
  have cut : framesFrom (before ++ chunksOf lead held last rest ++ after) =
      framesFrom ((before ++ [lead]) ++ ((held ++ [last ++ [0]]) ++ rest :: after)) := by
    rw [framesFrom_eq, framesFrom_eq, List.append_assoc, readOn_append, readOn_chunksOf_lead leadWhole, readOn,
      readOn_chunksOf_rest, ← readOn, ← readOn_append, List.append_cons, List.append_cons held]
  rw [cut, framesFrom_append whole, framesFrom_append frameWhole, List.append_assoc]

/-- A frame of which not too many bytes wait at the end of a chunk is read, however long it is. -/
theorem framesFrom_of_fits {held : List (List UInt8)} {last : List UInt8} (free : 0 ∉ held.flatten ++ last)
    (fits : held.flatten.length ≤ limit) :
    framesFrom (held ++ [last ++ [0]]) = framesOf (held.flatten ++ last ++ [0]) := by
  have heldFree : 0 ∉ [] ++ held.flatten := fun zero => free (List.mem_append_left last zero)
  have whole : Whole (held.flatten ++ (last ++ [0])) := by
    rw [← List.append_assoc]
    exact .ended _
  rw [framesFrom_eq, readOn_of_fits heldFree fits, List.nil_append, readOn_singleton_of_whole whole,
    List.append_assoc]

/-- Otherwise the bytes that wait at the first end of a chunk where they are too many are reported, and no message
is made of them. -/
theorem framesFrom_of_surplus {held : List (List UInt8)} {last : List UInt8} (free : 0 ∉ held.flatten ++ last)
    (tooLong : limit < held.flatten.length) :
    ∃ first piece second more, held = first ++ piece :: second ∧ first.flatten.length ≤ limit ∧
      limit < (first.flatten ++ piece).length ∧
      framesFrom (held ++ [last ++ [0]]) = .error (.oversized (first.flatten ++ piece).length) :: more ∧
      ∀ message, .ok message ∈ more →
        ∃ body, 0 ∉ body ∧ body ++ [0] <:+: second.flatten ++ last ++ [0] ∧ parse body = .ok message := by
  rcases exists_first_surplus tooLong with ⟨first, piece, second, rfl, fits, surplus⟩
  have pieceFree : 0 ∉ first.flatten ++ piece := by
    intro zero
    apply free
    rw [List.flatten_append, List.flatten_cons, ← List.append_assoc]
    exact List.mem_append_left _ (List.mem_append_left _ zero)
  have firstFree : 0 ∉ [] ++ first.flatten := fun zero => pieceFree (List.mem_append_left piece zero)
  refine ⟨first, piece, second, (readOn [] (second ++ [last ++ [0]])).1, rfl, fits, surplus, ?_, ?_⟩
  · rw [framesFrom_eq, List.append_assoc, readOn_of_fits firstFree fits, List.nil_append, List.cons_append,
      readOn_of_surplus pieceFree surplus]
  · intro message given
    have found := exists_of_mem_readOn given
    rwa [List.nil_append, List.flatten_concat, ← List.append_assoc] at found

/-! ## Long frames -/

/-- A frame comes out of a stream on its own, wherever it is and however the stream is cut.  If at no end of a
chunk too many of its bytes wait for its end, it is read, whatever its length.  If there is such an end of a chunk,
the bytes that wait at the first one are reported and never read. -/
theorem surplus_dropped {chunks : List (List UInt8)} {front frame tail : List UInt8}
    (sent : chunks.flatten = front ++ frame ++ 0 :: tail) (whole : Whole front) (free : 0 ∉ frame) :
    ∃ before lead held last rest after own, chunks = before ++ chunksOf lead held last rest ++ after ∧
      (before ++ [lead]).flatten = front ∧ held.flatten ++ last = frame ∧ (rest :: after).flatten = tail ∧
      framesFrom chunks = framesFrom (before ++ [lead]) ++ own ++ framesFrom (rest :: after) ∧
      (held.flatten.length ≤ limit → own = framesOf (frame ++ [0])) ∧
      (limit < held.flatten.length →
        ∃ first piece second more, held = first ++ piece :: second ∧ first.flatten.length ≤ limit ∧
          limit < (first.flatten ++ piece).length ∧
          own = .error (.oversized (first.flatten ++ piece).length) :: more ∧
          ∀ message, .ok message ∈ more →
            ∃ body, 0 ∉ body ∧ body ++ [0] <:+: second.flatten ++ last ++ [0] ∧ parse body = .ok message) := by
  rcases exists_chunksOf sent with ⟨before, lead, held, last, rest, after, rfl, rfl, rfl, rfl⟩
  exact ⟨before, lead, held, last, rest, after, framesFrom (held ++ [last ++ [0]]), rfl, rfl, rfl, rfl,
    framesFrom_chunksOf whole held last rest after, framesFrom_of_fits free, framesFrom_of_surplus free⟩

/-- Two digits between two other frames, in two chunks. -/
theorem surplus_dropped_two_digits :
    ([[255, 0, 49], [50, 0, 91, 0]] : List (List UInt8)).flatten = [255, 0] ++ [49, 50] ++ 0 :: [91, 0] ∧
      ∃ before after, before.flatten = [255, 0] ∧ after.flatten = [91, 0] ∧
        framesFrom [[255, 0, 49], [50, 0, 91, 0]] =
          framesFrom before ++ framesOf [49, 50, 0] ++ framesFrom after := by
  rcases @surplus_dropped [[255, 0, 49], [50, 0, 91, 0]] [255, 0] [49, 50] [91, 0] rfl (.ended [255]) (by decide) with
    ⟨before, lead, held, last, rest, after, own, _, frontParts, parts, tailParts, frames, read, _⟩
  refine ⟨rfl, before ++ [lead], rest :: after, frontParts, tailParts, ?_⟩
  have few : held.flatten.length ≤ 2 := by
    have length := congrArg List.length parts
    rw [List.length_append] at length
    exact Nat.le_trans (Nat.le_add_right _ _) (Nat.le_of_eq length)
  rw [frames, read (Nat.le_trans few (by decide))]
  rfl

/-- A message behind more blanks than may be kept.  If a chunk ends one blank before the limit, the frame is read
as a whole; if a chunk ends one blank behind it, the blanks are reported, and the message is read all the same. -/
theorem long_frame_read :
    0 ∉ padded (limit + 1) ∧ limit < (padded (limit + 1)).length ∧
      ([List.replicate limit 0x20, padded 1 ++ [0]] : List (List UInt8)).flatten = padded (limit + 1) ++ [0] ∧
      ([List.replicate (limit + 1) 0x20, padded 0 ++ [0]] : List (List UInt8)).flatten =
        padded (limit + 1) ++ [0] ∧
      framesFrom [List.replicate limit 0x20, padded 1 ++ [0]] = [.ok (.syncPartial (.object []) none)] ∧
      framesFrom [List.replicate (limit + 1) 0x20, padded 0 ++ [0]] =
        [.error (.oversized (limit + 1)), .ok (.syncPartial (.object []) none)] := by
  have early : List.replicate limit 0x20 ++ padded 1 = padded (limit + 1) := by
    rw [padded, padded, ← List.append_assoc, List.replicate_append_replicate]
  have late : List.replicate (limit + 1) 0x20 ++ padded 0 = padded (limit + 1) := rfl
  have surplus : limit < (List.replicate (limit + 1) (0x20 : UInt8)).length := by
    rw [List.length_replicate]
    exact Nat.lt_succ_self limit
  refine ⟨not_mem_padded _, ?_, ?_, ?_, ?_, ?_⟩
  · rw [padded, List.length_append]
    exact Nat.lt_of_lt_of_le surplus (Nat.le_add_right _ _)
  · rw [← early]
    simp
  · rw [← late]
    simp
  · have free : 0 ∉ [List.replicate limit 0x20].flatten ++ padded 1 := by
      rw [List.flatten_singleton, early]
      exact not_mem_padded _
    have frames := framesFrom_of_fits free (by simp)
    rwa [List.flatten_singleton, early, framesOf_padded] at frames
  · have free : 0 ∉ [] ++ List.replicate (limit + 1) (0x20 : UInt8) := by
      intro zero
      cases List.eq_of_mem_replicate zero
    have whole : Whole ([] ++ (padded 0 ++ [0])) := .ended _
    rw [framesFrom_eq, readOn_of_surplus free surplus, readOn_singleton_of_whole whole, List.nil_append,
      List.nil_append, framesOf_padded, List.length_replicate]

end Decoder
end Fleet
