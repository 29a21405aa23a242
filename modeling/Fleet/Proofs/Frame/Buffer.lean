import Fleet.Frame.Decoder

namespace Fleet
namespace Decoder

/-!
# The buffer of a stream

A stream remembers how many bytes of its buffer were searched for a zero byte in vain, and goes on searching
behind them.  That is sound as long as this part of the buffer holds no zero byte, which every operation
keeps: a chunk is appended behind it, a search that finds nothing extends it to the whole buffer, and
whatever takes bytes away from the front makes it empty.  So the piece that is cut off is always the one up
to the very first zero byte, and this is all that has to be known about how it is found.

Bytes are listed here, so that what is kept, what was taken away and what is still to come can be joined and
compared as lists.
-/

/-- The bytes kept, in order. -/
def bytes (decoder : Decoder) : List UInt8 :=
  decoder.buffer.data.toList

@[simp] theorem bytes_start : start.bytes = [] := rfl

@[simp] theorem bytes_extend (decoder : Decoder) (chunk : ByteArray) :
    (decoder.extend chunk).bytes = decoder.bytes ++ chunk.data.toList := by
  unfold bytes extend
  exact ByteArray.toList_data_append

/-! ## Searching -/

/-- There is no zero byte from one place up to another. -/
def ZeroFree (bytes : ByteArray) (first last : Nat) : Prop :=
  ∀ place, (inside : place < bytes.size) → first ≤ place → place < last → bytes[place] ≠ 0

theorem ZeroFree.cons {bytes : ByteArray} {first last : Nat} (inside : first < bytes.size)
    (nonzero : bytes[first] ≠ 0) (free : ZeroFree bytes (first + 1) last) : ZeroFree bytes first last := by
  intro place placeInside after before
  rcases Nat.eq_or_lt_of_le after with same | later
  · subst same
    exact nonzero
  · exact free place placeInside later before

theorem ZeroFree.append {bytes : ByteArray} {first middle last : Nat} (front : ZeroFree bytes first middle)
    (back : ZeroFree bytes middle last) : ZeroFree bytes first last := by
  intro place inside after before
  by_cases early : place < middle
  · exact front place inside after early
  · exact back place inside (Nat.le_of_not_lt early) before

/-- The place that a search finds holds the first zero byte from where it began. -/
theorem zeroFrom_eq_some {bytes : ByteArray} {first : Nat} {found : { found : Nat // found < bytes.size }}
    (search : zeroFrom bytes first = some found) :
    (∃ inside : found.val < bytes.size, bytes[found.val] = 0) ∧ ZeroFree bytes first found.val := by
  fun_induction zeroFrom bytes first with
  | case1 first inside zero =>
      obtain rfl := Option.some.inj search
      refine ⟨⟨inside, zero⟩, ?_⟩
      intro place _ after before
      exact absurd before (Nat.not_lt_of_le after)
  | case2 first inside nonzero inductionHypothesis =>
      rcases inductionHypothesis search with ⟨zero, free⟩
      exact ⟨zero, free.cons inside nonzero⟩
  | case3 first outside => cases search

theorem zeroFrom_eq_none {bytes : ByteArray} {first : Nat} (search : zeroFrom bytes first = none) :
    ZeroFree bytes first bytes.size := by
  fun_induction zeroFrom bytes first with
  | case1 first inside zero => cases search
  | case2 first inside nonzero inductionHypothesis =>
      exact (inductionHypothesis search).cons inside nonzero
  | case3 first outside =>
      intro place inside after _
      exact absurd (Nat.lt_of_le_of_lt after inside) outside

/-- A place before which there is no zero byte bounds a part of the list that has none. -/
theorem ZeroFree.not_mem_take {bytes : ByteArray} {last : Nat} (free : ZeroFree bytes 0 last) :
    0 ∉ bytes.data.toList.take last := by
  intro member
  rcases List.getElem_of_mem member with ⟨place, bound, zero⟩
  rw [List.length_take] at bound
  rw [List.getElem_take] at zero
  have inside : place < bytes.size := Nat.lt_of_lt_of_le bound (Nat.min_le_right _ _)
  refine free place inside (Nat.zero_le place) (Nat.lt_of_lt_of_le bound (Nat.min_le_left _ _)) ?_
  rw [ByteArray.getElem_eq_getElem_data, ← Array.getElem_toList]
  exact zero

/-- What is known of the searched part of the buffer is right. -/
structure Sound (decoder : Decoder) : Prop where
  scanned_le : decoder.scanned ≤ decoder.buffer.size
  free : ZeroFree decoder.buffer 0 decoder.scanned

theorem sound_of_unscanned (buffer : ByteArray) : Sound ⟨buffer, 0⟩ where
  scanned_le := Nat.zero_le _
  free := fun place _ _ before => absurd before (Nat.not_lt_zero place)

theorem sound_start : start.Sound :=
  sound_of_unscanned _

theorem Sound.extend {decoder : Decoder} (sound : decoder.Sound) (chunk : ByteArray) :
    (decoder.extend chunk).Sound where
  scanned_le := by
    change decoder.scanned ≤ (decoder.buffer ++ chunk).size
    rw [ByteArray.size_append]
    exact Nat.le_add_right_of_le sound.scanned_le
  free := by
    intro place inside after before
    have old : place < decoder.buffer.size := Nat.lt_of_lt_of_le before sound.scanned_le
    have inside : place < (decoder.buffer ++ chunk).size := inside
    have kept : (decoder.buffer ++ chunk)[place] = decoder.buffer[place] :=
      ByteArray.getElem_append_left old
    intro zero
    exact sound.free place old after before (kept.symm.trans zero)

/-! ## Cutting -/

/-- What cutting a piece off a stream may give. -/
inductive Cut (decoder : Decoder) :
    Option (Piece × { rest : Decoder // rest.buffered < decoder.buffered }) → Prop where
  /-- There is no end of a frame yet. -/
  | waiting : 0 ∉ decoder.bytes → decoder.bytes.length ≤ limit → decoder.waiting.Sound → Cut decoder none
  /-- The bytes up to the first zero byte are a frame. -/
  | body (body : ByteArray) (rest : { rest : Decoder // rest.buffered < decoder.buffered }) :
      decoder.bytes = body.data.toList ++ 0 :: rest.val.bytes → 0 ∉ body.data.toList → rest.val.Sound →
      Cut decoder (some (.body body, rest))
  /-- There is no end of a frame, and the bytes are too many. -/
  | surplus (rest : { rest : Decoder // rest.buffered < decoder.buffered }) :
      0 ∉ decoder.bytes → limit < decoder.bytes.length → rest.val = start →
      Cut decoder (some (.surplus decoder.bytes.length, rest))

theorem Sound.cut {decoder : Decoder} (sound : decoder.Sound) : Cut decoder decoder.cut := by
  unfold Decoder.cut
  split
  · rename_i found search
    rcases zeroFrom_eq_some search with ⟨⟨bound, zero⟩, free⟩
    have inside : found.val < decoder.bytes.length := bound
    have listed : decoder.bytes[found.val] = 0 := zero
    have front : (decoder.buffer.extract 0 found.val).data.toList = decoder.bytes.take found.val := by
      rw [ByteArray.data_extract, Array.toList_extract, List.extract_eq_take_drop]
      rfl
    have back : (decoder.buffer.extract (found.val + 1) decoder.buffer.size).data.toList =
        decoder.bytes.drop (found.val + 1) := by
      rw [ByteArray.data_extract, Array.toList_extract, List.extract_eq_take_drop]
      exact List.take_of_length_le (Nat.le_of_eq List.length_drop)
    apply Cut.body
    · change _ = _ ++ 0 :: (decoder.buffer.extract (found.val + 1) decoder.buffer.size).data.toList
      rw [front, back, ← listed, ← List.drop_eq_getElem_cons, List.take_append_drop]
    · rw [front]
      exact (sound.free.append free).not_mem_take
    · exact sound_of_unscanned _
  · rename_i search
    have free : ZeroFree decoder.buffer 0 decoder.buffer.size := sound.free.append (zeroFrom_eq_none search)
    have absent : 0 ∉ decoder.bytes := by
      rw [← List.take_length (l := decoder.bytes)]
      exact free.not_mem_take
    split
    · rename_i tooLong
      exact Cut.surplus _ absent tooLong rfl
    · rename_i fits
      exact Cut.waiting absent (Nat.le_of_not_lt fits) ⟨Nat.le_refl _, free⟩

end Decoder
end Fleet
