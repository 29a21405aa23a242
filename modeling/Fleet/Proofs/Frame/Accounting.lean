import Fleet.Proofs.Frame.Chunks

namespace Fleet
namespace Decoder

/-!
# Every byte is taken once

Asking a stream for its next frame is a loop.  Each round searches the buffer behind the bytes that are known not to be
zero.  If it meets the end of a frame, the frame is taken from the front, and a blank one sends the loop round again.  If
it meets none, the bytes stay, or all of them are given up when they are too many.

The rounds are given here one by one, with what they take from the buffer.  A round for which more bytes are known than
there are is not given at all, as its search would begin outside the buffer; nor does a round look at the bytes that are
known, so a zero byte among them would go unnoticed.  That neither happens is what every operation keeps.  The loop ends
because each round but the last takes something.

No limit is set here on the bytes that arrive, and nothing is said about where the chunks end.
-/

/-- What is taken from the front of a buffer. -/
inductive Taken where
  /-- A frame that comes out. -/
  | frame (body : List UInt8)
  /-- A frame of nothing but blanks, which is passed over. -/
  | blank (body : List UInt8)
  /-- Bytes that are given up, since they are too many to wait for the end of their frame. -/
  | surplus (bytes : List UInt8)

namespace Taken

/-- The bytes that are taken; a frame is taken with its end. -/
def bytes : Taken → List UInt8
  | frame body => body ++ [0]
  | blank body => body ++ [0]
  | surplus bytes => bytes

/-- What comes out of the stream. -/
def frame? : Taken → Option Frame
  | frame body => some (parse body)
  | blank _ => none
  | surplus bytes => some (.error (.oversized bytes.length))

/-- Nothing is taken across the end of a frame, and only what may be passed over or given up is. -/
def Proper : Taken → Prop
  | frame body => 0 ∉ body ∧ body.all isBlankByte = false
  | blank body => 0 ∉ body ∧ body.all isBlankByte = true
  | surplus bytes => 0 ∉ bytes ∧ limit < bytes.length

end Taken

/-! ## The loop -/

/-- A search behind the known bytes comes to the end of the buffer. -/
structure Exhausts (decoder : Decoder) : Prop where
  inside : decoder.scanned ≤ decoder.bytes.length
  free : 0 ∉ decoder.bytes.drop decoder.scanned

/-- A search behind the known bytes meets the end of a frame, and nothing is known of the rest. -/
structure Meets (decoder : Decoder) (body : List UInt8) (rest : Decoder) : Prop where
  split : decoder.bytes = body ++ 0 :: rest.bytes
  inside : decoder.scanned ≤ body.length
  free : 0 ∉ body.drop decoder.scanned
  fresh : rest.scanned = 0

/-- Asking for the next frame ends, with what it takes, what it gives, and the stream after it. -/
inductive Yields : Decoder → List Taken → Option Frame → Decoder → Prop where
  | waiting {decoder : Decoder} :
      decoder.Exhausts → decoder.bytes.length ≤ limit → Yields decoder [] none decoder.waiting
  | surplus {decoder : Decoder} :
      decoder.Exhausts → limit < decoder.bytes.length →
      Yields decoder [.surplus decoder.bytes] (some (.error (.oversized decoder.bytes.length))) start
  | frame {decoder rest : Decoder} {body : List UInt8} :
      decoder.Meets body rest → body.all isBlankByte = false →
      Yields decoder [.frame body] (some (parse body)) rest
  | blank {decoder rest last : Decoder} {body : List UInt8} {taken : List Taken} {answer : Option Frame} :
      decoder.Meets body rest → body.all isBlankByte = true → Yields rest taken answer last →
      Yields decoder (.blank body :: taken) answer last

/-- Actions end, with what they take, the frames that come out, and the stream after them. -/
inductive Runs : Decoder → List Action → List Taken → List Frame → Decoder → Prop where
  | nothing {decoder : Decoder} : Runs decoder [] [] [] decoder
  | extend {decoder last : Decoder} {chunk : ByteArray} {rest : List Action} {taken : List Taken} {frames : List Frame} :
      Runs (decoder.extend chunk) rest taken frames last → Runs decoder (.extend chunk :: rest) taken frames last
  | next {decoder between last : Decoder} {answer : Option Frame} {rest : List Action} {taken more : List Taken}
      {frames : List Frame} :
      decoder.Yields taken answer between → Runs between rest more frames last →
      Runs decoder (.next :: rest) (taken ++ more) (answer.toList ++ frames) last

variable {decoder last : Decoder} {taken : List Taken} {answer : Option Frame}

/-! ## What is known of the buffer -/

theorem eq_of_bytes {other : Decoder} (sameBytes : decoder.bytes = other.bytes)
    (sameScanned : decoder.scanned = other.scanned) : decoder = other := by
  rcases decoder with ⟨⟨⟨kept⟩⟩, scanned⟩
  rcases other with ⟨⟨⟨otherKept⟩⟩, otherScanned⟩
  obtain rfl : kept = otherKept := sameBytes
  obtain rfl : scanned = otherScanned := sameScanned
  rfl

/-- What is known of a buffer is right when its known part is a part of it, and one without a zero byte. -/
theorem sound_iff : decoder.Sound ↔ decoder.scanned ≤ decoder.bytes.length ∧ 0 ∉ decoder.bytes.take decoder.scanned := by
  constructor
  · intro sound
    exact ⟨sound.scanned_le, sound.free.not_mem_take⟩
  · rintro ⟨inside, free⟩
    refine ⟨inside, fun place placeInside _ before zero => free ?_⟩
    have listed : decoder.bytes[place] = 0 := zero
    rw [← listed]
    exact List.mem_take_iff_getElem.2 ⟨place, lt_min before placeInside, rfl⟩

theorem Meets.sound {body : List UInt8} {rest : Decoder} (meets : decoder.Meets body rest) : rest.Sound := by
  rw [sound_iff, meets.fresh]
  exact ⟨Nat.zero_le _, List.not_mem_nil⟩

theorem Sound.not_mem_of_exhausts (sound : decoder.Sound) (exhausts : decoder.Exhausts) : 0 ∉ decoder.bytes := by
  rw [← List.take_append_drop decoder.scanned decoder.bytes, List.mem_append, not_or]
  exact ⟨(sound_iff.1 sound).2, exhausts.free⟩

theorem Sound.not_mem_of_meets {body : List UInt8} {rest : Decoder} (sound : decoder.Sound)
    (meets : decoder.Meets body rest) : 0 ∉ body := by
  have known := (sound_iff.1 sound).2
  rw [meets.split, List.take_append_of_le_length meets.inside] at known
  rw [← List.take_append_drop decoder.scanned body, List.mem_append, not_or]
  exact ⟨known, meets.free⟩

theorem exhausts_of_not_mem (sound : decoder.Sound) (free : 0 ∉ decoder.bytes) : decoder.Exhausts :=
  ⟨sound.scanned_le, fun zero => free (List.mem_of_mem_drop zero)⟩

/-- The first zero byte is met, as it is behind the known bytes. -/
theorem meets_of_split {body : List UInt8} {rest : Decoder} (sound : decoder.Sound)
    (split : decoder.bytes = body ++ 0 :: rest.bytes) (free : 0 ∉ body) (fresh : rest.scanned = 0) :
    decoder.Meets body rest := by
  refine ⟨split, ?_, fun zero => free (List.mem_of_mem_drop zero), fresh⟩
  have known := (sound_iff.1 sound).2
  by_contra short
  obtain ⟨beyond, scanned⟩ := Nat.exists_eq_add_of_lt (Nat.lt_of_not_le short)
  apply known
  rw [split, scanned, Nat.add_assoc, List.take_length_add_append, List.take_succ_cons]
  exact List.mem_append_right _ List.mem_cons_self

/-! ## One way through the loop -/

theorem Exhausts.not_meets {body : List UInt8} {rest : Decoder} (exhausts : decoder.Exhausts) :
    ¬decoder.Meets body rest := by
  intro meets
  apply exhausts.free
  rw [meets.split, List.drop_append_of_le_length meets.inside]
  exact List.mem_append_right _ List.mem_cons_self

theorem Meets.unique {body otherBody : List UInt8} {rest other : Decoder} (first : decoder.Meets body rest)
    (second : decoder.Meets otherBody other) : body = otherBody ∧ rest = other := by
  have searched : body.drop decoder.scanned ++ 0 :: rest.bytes = otherBody.drop decoder.scanned ++ 0 :: other.bytes := by
    rw [← List.drop_append_of_le_length first.inside, ← List.drop_append_of_le_length second.inside, ← first.split,
      ← second.split]
  have parts := congrArg (List.splitOn 0) searched
  rw [List.splitOn_append_cons_self_of_not_mem first.free, List.splitOn_append_cons_self_of_not_mem second.free] at parts
  rw [(List.cons.inj parts).1] at searched
  have sameBytes := (List.cons.inj (List.append_cancel_left searched)).2
  obtain rfl : rest = other := eq_of_bytes sameBytes (first.fresh.trans second.fresh.symm)
  exact ⟨List.append_cancel_right (first.split.symm.trans second.split), rfl⟩

theorem Yields.unique {other : List Taken} {otherAnswer : Option Frame} {otherLast : Decoder}
    (first : decoder.Yields taken answer last) (second : decoder.Yields other otherAnswer otherLast) :
    taken = other ∧ answer = otherAnswer ∧ last = otherLast := by
  induction first generalizing other with
  | waiting exhausts fits =>
      cases second with
      | waiting _ _ => exact ⟨rfl, rfl, rfl⟩
      | surplus _ tooLong => exact absurd fits (Nat.not_le_of_lt tooLong)
      | frame meets _ | blank meets _ _ => exact absurd meets exhausts.not_meets
  | surplus exhausts tooLong =>
      cases second with
      | waiting _ fits => exact absurd fits (Nat.not_le_of_lt tooLong)
      | surplus _ _ => exact ⟨rfl, rfl, rfl⟩
      | frame meets _ | blank meets _ _ => exact absurd meets exhausts.not_meets
  | frame meets solid =>
      cases second with
      | waiting exhausts _ | surplus exhausts _ => exact absurd meets exhausts.not_meets
      | frame otherMeets _ =>
          obtain ⟨rfl, rfl⟩ := meets.unique otherMeets
          exact ⟨rfl, rfl, rfl⟩
      | blank otherMeets blank _ =>
          obtain ⟨rfl, rfl⟩ := meets.unique otherMeets
          exact absurd (solid.symm.trans blank) Bool.false_ne_true
  | blank meets blank _ inductionHypothesis =>
      cases second with
      | waiting exhausts _ | surplus exhausts _ => exact absurd meets exhausts.not_meets
      | frame otherMeets solid =>
          obtain ⟨rfl, rfl⟩ := meets.unique otherMeets
          exact absurd (solid.symm.trans blank) Bool.false_ne_true
      | blank otherMeets _ rest =>
          obtain ⟨rfl, rfl⟩ := meets.unique otherMeets
          obtain ⟨rfl, same⟩ := inductionHypothesis rest
          exact ⟨rfl, same⟩

theorem Runs.unique {actions : List Action} {frames otherFrames : List Frame} {other : List Taken} {otherLast : Decoder}
    (first : decoder.Runs actions taken frames last) (second : decoder.Runs actions other otherFrames otherLast) :
    taken = other ∧ frames = otherFrames ∧ last = otherLast := by
  induction first generalizing other otherFrames with
  | nothing =>
      cases second
      exact ⟨rfl, rfl, rfl⟩
  | extend _ inductionHypothesis =>
      cases second with
      | extend rest => exact inductionHypothesis rest
  | next yields _ inductionHypothesis =>
      cases second with
      | next otherYields rest =>
          obtain ⟨rfl, rfl, rfl⟩ := yields.unique otherYields
          obtain ⟨rfl, rfl, rfl⟩ := inductionHypothesis rest
          exact ⟨rfl, rfl, rfl⟩

/-! ## What the loop takes -/

theorem Yields.bytes_eq (yields : decoder.Yields taken answer last) :
    decoder.bytes = taken.flatMap Taken.bytes ++ last.bytes := by
  induction yields with
  | waiting _ _ => rfl
  | @surplus decoder _ _ => simp [Taken.bytes]
  | frame meets _ => simp [Taken.bytes, meets.split]
  | blank meets _ _ inductionHypothesis => simp [Taken.bytes, meets.split, inductionHypothesis]

theorem Yields.frames_eq (yields : decoder.Yields taken answer last) :
    taken.filterMap Taken.frame? = answer.toList := by
  induction yields with
  | waiting _ _ | surplus _ _ | frame _ _ => rfl
  | blank _ _ _ inductionHypothesis => exact inductionHypothesis

theorem Yields.proper (yields : decoder.Yields taken answer last) (sound : decoder.Sound) :
    ∀ one ∈ taken, one.Proper := by
  induction yields with
  | waiting _ _ => exact fun one member => absurd member List.not_mem_nil
  | surplus exhausts tooLong => exact List.forall_mem_singleton.2 ⟨sound.not_mem_of_exhausts exhausts, tooLong⟩
  | frame meets solid => exact List.forall_mem_singleton.2 ⟨sound.not_mem_of_meets meets, solid⟩
  | blank meets blank _ inductionHypothesis =>
      exact List.forall_mem_cons.2 ⟨⟨sound.not_mem_of_meets meets, blank⟩, inductionHypothesis meets.sound⟩

theorem Yields.sound (yields : decoder.Yields taken answer last) (sound : decoder.Sound) : last.Sound := by
  induction yields with
  | @waiting decoder exhausts _ =>
      refine sound_iff.2 ⟨Nat.le_refl _, fun zero => ?_⟩
      exact sound.not_mem_of_exhausts exhausts (List.mem_of_mem_take zero)
  | surplus _ _ => exact sound_start
  | frame meets _ => exact meets.sound
  | blank meets _ _ inductionHypothesis => exact inductionHypothesis meets.sound

/-- When no frame comes out, the bytes that stay hold no end of a frame and are not too many. -/
theorem Yields.of_none (yields : decoder.Yields taken answer last) (sound : decoder.Sound) (nothing : answer = none) :
    0 ∉ last.bytes ∧ last.bytes.length ≤ limit := by
  induction yields with
  | waiting exhausts fits => exact ⟨sound.not_mem_of_exhausts exhausts, fits⟩
  | surplus _ _ | frame _ _ => cases nothing
  | blank meets _ _ inductionHypothesis => exact inductionHypothesis meets.sound nothing

/-! ## The loop ends -/

theorem scanned_of_cut {piece : Piece} {rest : { rest : Decoder // rest.buffered < decoder.buffered }}
    (found : decoder.cut = some (piece, rest)) : rest.val.scanned = 0 := by
  unfold cut at found
  split at found
  · cases found
    rfl
  · split at found
    · cases found
      rfl
    · cases found

/-- Asking for the next frame ends, and with the frame that is next. -/
theorem Sound.yields (sound : decoder.Sound) : ∃ taken, decoder.Yields taken decoder.next.1 decoder.next.2 := by
  induction bound : decoder.buffered using Nat.strongRecOn generalizing decoder with
  | ind _ inductionHypothesis =>
      have cases := sound.cut
      generalize found : decoder.cut = cut at cases
      cases cases with
      | waiting free fits _ =>
          rw [next_of_cut_eq_none found]
          exact ⟨[], .waiting (exhausts_of_not_mem sound free) fits⟩
      | body body rest split free restSound =>
          have meets := meets_of_split sound split free (scanned_of_cut found)
          rw [next_of_cut_eq_some found, frame?_body_eq]
          cases blank : body.data.toList.all isBlankByte with
          | true =>
              have smaller : rest.val.buffered < _ := Nat.lt_of_lt_of_eq rest.property bound
              rcases inductionHypothesis _ smaller restSound rfl with ⟨taken, yields⟩
              exact ⟨_, .blank meets blank yields⟩
          | false => exact ⟨_, .frame meets blank⟩
      | surplus rest free tooLong emptied =>
          rw [next_of_cut_eq_some found, emptied]
          exact ⟨_, .surplus (exhausts_of_not_mem sound free) tooLong⟩

/-! ## Actions -/

theorem Sound.runs (sound : decoder.Sound) (actions : List Action) :
    ∃ taken, decoder.Runs actions taken (decoder.feed actions).1 (decoder.feed actions).2 := by
  induction actions generalizing decoder with
  | nil => exact ⟨[], .nothing⟩
  | cons action rest inductionHypothesis =>
      cases action with
      | extend chunk =>
          rcases inductionHypothesis (sound.extend chunk) with ⟨taken, runs⟩
          exact ⟨taken, .extend runs⟩
      | next =>
          rcases sound.yields with ⟨taken, yields⟩
          rcases inductionHypothesis (yields.sound sound) with ⟨more, runs⟩
          exact ⟨taken ++ more, .next yields runs⟩

variable {actions : List Action} {frames : List Frame}

theorem Runs.bytes_eq (runs : decoder.Runs actions taken frames last) :
    decoder.bytes ++ Action.sent actions = taken.flatMap Taken.bytes ++ last.bytes := by
  induction runs with
  | nothing => exact List.append_nil _
  | extend _ inductionHypothesis => rw [← inductionHypothesis, bytes_extend, List.append_assoc, Action.sent]
  | next yields _ inductionHypothesis =>
      rw [yields.bytes_eq, List.flatMap_append, List.append_assoc, List.append_assoc, ← inductionHypothesis, Action.sent]

theorem Runs.frames_eq (runs : decoder.Runs actions taken frames last) : taken.filterMap Taken.frame? = frames := by
  induction runs with
  | nothing => rfl
  | extend _ inductionHypothesis => exact inductionHypothesis
  | next yields _ inductionHypothesis => rw [List.filterMap_append, yields.frames_eq, inductionHypothesis]

theorem Runs.proper (runs : decoder.Runs actions taken frames last) (sound : decoder.Sound) :
    ∀ one ∈ taken, one.Proper := by
  induction runs with
  | nothing => exact fun one member => absurd member List.not_mem_nil
  | extend _ inductionHypothesis => exact inductionHypothesis (sound.extend _)
  | next yields _ inductionHypothesis =>
      exact List.forall_mem_append.2 ⟨yields.proper sound, inductionHypothesis (yields.sound sound)⟩

theorem Runs.sound (runs : decoder.Runs actions taken frames last) (sound : decoder.Sound) : last.Sound := by
  induction runs with
  | nothing => exact sound
  | extend _ inductionHypothesis => exact inductionHypothesis (sound.extend _)
  | next yields _ inductionHypothesis => exact inductionHypothesis (yields.sound sound)

/-- Whatever bytes arrive in whatever chunks, and however often a frame is asked for, every loop ends, in one way.  What
was taken so far, followed by what is still kept, is what arrived.  Each part that was taken is a frame with its end that
came out, a frame of blanks with its end, or a number of bytes without an end that are too many, and the frames that came
out are those of the parts.  What is known of the bytes that are kept is right.  If no frame comes out when one is asked
for, the bytes that are kept hold no end of a frame, and are not too many. -/
theorem bytes_accounted (actions : List Action) :
    let decoder := (start.feed actions).2
    (∃ taken,
      (∀ other frames last, start.Runs actions other frames last ↔
        other = taken ∧ frames = (start.feed actions).1 ∧ last = decoder) ∧
      taken.flatMap Taken.bytes ++ decoder.bytes = Action.sent actions ∧
      (∀ one ∈ taken, one.Proper) ∧ (start.feed actions).1 = taken.filterMap Taken.frame?) ∧
      (decoder.scanned ≤ decoder.bytes.length ∧ 0 ∉ decoder.bytes.take decoder.scanned) ∧
      (decoder.next.1 = none → 0 ∉ decoder.next.2.bytes ∧ decoder.next.2.bytes.length ≤ limit) := by
  intro decoder
  rcases sound_start.runs actions with ⟨taken, runs⟩
  have sound : decoder.Sound := runs.sound sound_start
  refine ⟨⟨taken, fun other frames last => ⟨fun otherRuns => otherRuns.unique runs, ?_⟩, runs.bytes_eq.symm,
    runs.proper sound_start, runs.frames_eq.symm⟩, sound_iff.1 sound, fun nothing => ?_⟩
  · rintro ⟨rfl, rfl, rfl⟩
    exact runs
  · rcases sound.yields with ⟨_, yields⟩
    exact yields.of_none sound nothing

end Decoder
end Fleet
