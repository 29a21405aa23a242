import Fleet.Frame.Message

namespace Fleet

/-!
# Frames in a stream of bytes

An agent sends its messages one after the other, each with a zero byte at its end.  The bytes arrive in
chunks of any size, so what follows the last zero byte is kept until the rest arrives.  The part of it that
is known to hold no zero byte is not searched again.  Frames that hold nothing but blanks are passed over.

A frame that goes on for too long without its end is given up.
-/

/-- What is wrong with a frame. -/
inductive FrameFault where
  /-- A frame that holds no message. -/
  | malformed
  /-- A frame that is given up after a number of bytes. -/
  | oversized (size : Nat)
  deriving DecidableEq

/-- The words in which an oversized frame is reported; there are none of our own for a malformed one. -/
def FrameFault.message? : FrameFault → Option String
  | malformed => none
  | oversized size =>
      some ("unterminated frame exceeds 16 MiB (" ++ toString size ++ " bytes buffered)")

/-- A stream of bytes up to now. -/
structure Decoder where
  /-- The bytes after the last frame. -/
  buffer : ByteArray
  /-- How many of them are known not to be zero. -/
  scanned : Nat

namespace Decoder

def start : Decoder :=
  ⟨ByteArray.empty, 0⟩

instance : Inhabited Decoder := ⟨start⟩

/-- How many bytes may be kept for a frame whose end has not arrived. -/
def limit : Nat := 16 * 1024 * 1024

def extend (decoder : Decoder) (chunk : ByteArray) : Decoder :=
  { decoder with buffer := decoder.buffer ++ chunk }

def buffered (decoder : Decoder) : Nat :=
  decoder.buffer.size

def zeroFrom (bytes : ByteArray) (place : Nat) : Option { found : Nat // found < bytes.size } :=
  if inside : place < bytes.size then
    if bytes[place] = 0 then some ⟨place, inside⟩ else zeroFrom bytes (place + 1)
  else none
termination_by bytes.size - place

def isBlankByte (byte : UInt8) : Bool :=
  byte == 0x20 || byte == 0x09 || byte == 0x0A || byte == 0x0C || byte == 0x0D

/-- Whether there are only blanks from a place on. -/
def isBlankFrom (bytes : ByteArray) (place : Nat) : Bool :=
  if inside : place < bytes.size then
    isBlankByte bytes[place] && isBlankFrom bytes (place + 1)
  else true
termination_by bytes.size - place

/-- What stands at the beginning of a stream. -/
inductive Piece where
  /-- The bytes of a frame, without its end. -/
  | body (bytes : ByteArray)
  /-- A number of bytes without an end of a frame that are given up. -/
  | surplus (size : Nat)

/-- The piece at the beginning of the buffer, if there is a whole one, and what follows it. -/
def cut (decoder : Decoder) : Option (Piece × { rest : Decoder // rest.buffered < decoder.buffered }) :=
  match zeroFrom decoder.buffer decoder.scanned with
  | some place =>
      let rest := decoder.buffer.extract (place.val + 1) decoder.buffer.size
      some (.body (decoder.buffer.extract 0 place.val), ⟨⟨rest, 0⟩, by
        have inside := place.property
        simp only [buffered, rest, ByteArray.size_extract]
        omega⟩)
  | none =>
      if tooLong : limit < decoder.buffer.size then
        some (.surplus decoder.buffer.size, ⟨start, by
          have empty : start.buffered = 0 := rfl
          rw [empty]
          exact Nat.lt_of_le_of_lt (Nat.zero_le _) tooLong⟩)
      else none

/-- The stream after a search that found no end of a frame. -/
def waiting (decoder : Decoder) : Decoder :=
  { decoder with scanned := decoder.buffer.size }

/-- What comes out of a stream: a message, or the fault of a frame. -/
abbrev Frame := Except FrameFault Message

/-- The frame that a piece is; a blank one is none. -/
def Piece.frame? : Piece → Option Frame
  | body bytes =>
      if isBlankFrom bytes 0 then none
      else
        match (String.fromUTF8? bytes).bind Message.read? with
        | some message => some (.ok message)
        | none => some (.error .malformed)
  | surplus size => some (.error (.oversized size))

/-- The next frame, if it has arrived, and the stream after it. -/
def next (decoder : Decoder) : Option Frame × Decoder :=
  match decoder.cut with
  | none => (none, decoder.waiting)
  | some (piece, rest) =>
      match piece.frame? with
      | some frame => (some frame, rest.val)
      | none => rest.val.next
termination_by decoder.buffered
decreasing_by exact rest.property

/-- All frames that have arrived, and the stream after them. -/
def drain (decoder : Decoder) : List Frame × Decoder :=
  match decoder.cut with
  | none => ([], decoder.waiting)
  | some (piece, rest) =>
      let (frames, last) := rest.val.drain
      (piece.frame?.toList ++ frames, last)
termination_by decoder.buffered
decreasing_by exact rest.property

/-- A stream without a whole piece gives nothing. -/
theorem drain_of_cut_eq_none {decoder : Decoder} (nothing : decoder.cut = none) :
    decoder.drain = ([], decoder.waiting) := by
  rw [drain]
  simp [nothing]

/-- What a stream gives is what its first piece gives, and then the rest. -/
theorem drain_of_cut_eq_some {decoder : Decoder} {piece : Piece}
    {rest : { rest : Decoder // rest.buffered < decoder.buffered }}
    (found : decoder.cut = some (piece, rest)) :
    decoder.drain = (piece.frame?.toList ++ rest.val.drain.1, rest.val.drain.2) := by
  rw [drain]
  simp [found]

theorem next_of_cut_eq_none {decoder : Decoder} (nothing : decoder.cut = none) :
    decoder.next = (none, decoder.waiting) := by
  rw [next]
  simp [nothing]

theorem next_of_cut_eq_some {decoder : Decoder} {piece : Piece}
    {rest : { rest : Decoder // rest.buffered < decoder.buffered }}
    (found : decoder.cut = some (piece, rest)) :
    decoder.next =
      match piece.frame? with
      | some frame => (some frame, rest.val)
      | none => rest.val.next := by
  rw [next]
  simp [found]

/-- Draining a stream is asking for frames until there is none. -/
theorem drain_eq_next (decoder : Decoder) :
    decoder.drain =
      match decoder.next with
      | (none, rest) => ([], rest)
      | (some frame, rest) => (frame :: rest.drain.1, rest.drain.2) := by
  induction bound : decoder.buffered using Nat.strongRecOn generalizing decoder with
  | ind _ inductionHypothesis =>
      cases found : decoder.cut with
      | none => rw [drain_of_cut_eq_none found, next_of_cut_eq_none found]
      | some cut =>
          obtain ⟨piece, rest⟩ := cut
          rw [drain_of_cut_eq_some found, next_of_cut_eq_some found]
          cases whole : piece.frame? with
          | some frame => rfl
          | none =>
              have smaller : rest.val.buffered < _ := Nat.lt_of_lt_of_eq rest.property bound
              exact inductionHypothesis _ smaller rest.val rfl

end Decoder
end Fleet
