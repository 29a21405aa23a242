import Fleet.Proofs.Frame.Surplus

namespace Fleet
namespace Decoder

/-!
# What is sent in frames

An agent that sends frames ends each of them with a zero byte, and what stands between two ends is a message
with a report, another message, a text that is no message, or nothing but blanks.  A stream of frames that can
be kept as a whole gives the frames that were sent, one for one and in their order, blank ones left out.
-/

/-- What stands in a frame. -/
inductive Kind where
  /-- A message with a report. -/
  | report
  /-- A message of another type. -/
  | other
  /-- A text that is no message. -/
  | malformed
  /-- Nothing but blanks. -/
  | blank
  deriving DecidableEq

def kind : Frame → Kind
  | .ok (.syncPartial _ _) => .report
  | .ok .unknown => .other
  | .error _ => .malformed

/-- The report of a frame, if it is a message with one. -/
def payload? : Frame → Option Json
  | .ok (.syncPartial payload _) => some payload
  | .ok .unknown => none
  | .error _ => none

/-- What stands in a frame of which the bytes are given. -/
def kindOf (body : List UInt8) : Kind :=
  if body.all isBlankByte then .blank else kind (parse body)

/-- The report that is sent in a frame of which the bytes are given. -/
def payloadOf? (body : List UInt8) : Option Json :=
  if body.all isBlankByte then none else payload? (parse body)

/-- Frames one after the other, each with its end. -/
def joined (bodies : List (List UInt8)) : List UInt8 :=
  bodies.flatMap fun body => body ++ [0]

/-- Bytes that can be sent as a frame: they hold no end of a frame, and are not too many to be kept. -/
structure Sendable (body : List UInt8) : Prop where
  free : 0 ∉ body
  fits : body.length ≤ limit

theorem joined_cons (body : List UInt8) (rest : List (List UInt8)) :
    joined (body :: rest) = body ++ 0 :: joined rest := by
  unfold joined
  rw [List.flatMap_cons, List.append_assoc, List.singleton_append]

/-- Nothing is read from a stream of frames but the frames that were sent. -/
theorem segments_joined {bodies : List (List UInt8)} (sendable : ∀ body ∈ bodies, Sendable body) :
    segments (joined bodies) = bodies := by
  induction bodies with
  | nil => exact segments_of_not_mem List.not_mem_nil
  | cons body rest inductionHypothesis =>
      have free := (sendable body List.mem_cons_self).free
      have others : ∀ other ∈ rest, Sendable other := fun other member =>
        sendable other (List.mem_cons_of_mem body member)
      rw [joined_cons, segments_append_zero, List.splitOn_eq_singleton free, inductionHypothesis others,
        List.singleton_append]

/-- Bytes without a zero byte do not reach from one frame into the next. -/
theorem infix_or_infix_of_append_zero {run front rest : List UInt8} (inside : run <:+: front ++ 0 :: rest)
    (free : 0 ∉ run) : run <:+: front ∨ run <:+: rest := by
  rcases inside with ⟨before, after, split⟩
  rcases append_eq_append_zero_iff.1 split with ⟨missing, front_eq, _⟩ | ⟨reached, run_eq, rest_eq⟩
  · exact .inl ⟨before, missing, front_eq.symm⟩
  · rcases append_eq_append_zero_iff.1 run_eq with ⟨begun, _, run_eq⟩ | ⟨skipped, _, reached_eq⟩
    · exact absurd (run_eq ▸ List.mem_append_right begun List.mem_cons_self) free
    · exact .inr ⟨skipped, after, by rw [rest_eq, reached_eq]⟩

/-- When every single frame can be kept, no frame of the stream is given up. -/
theorem short_joined {bodies : List (List UInt8)} (sendable : ∀ body ∈ bodies, Sendable body) :
    Short (joined bodies) := by
  induction bodies with
  | nil =>
      intro run inside _
      rw [List.eq_nil_of_infix_nil inside]
      exact Nat.zero_le limit
  | cons body rest inductionHypothesis =>
      intro run inside free
      rw [joined_cons] at inside
      rcases infix_or_infix_of_append_zero inside free with here | later
      · exact Nat.le_trans here.length_le (sendable body List.mem_cons_self).fits
      · exact inductionHypothesis (fun other member => sendable other (List.mem_cons_of_mem body member)) run
          later free

/-! ## What is read of it -/

theorem kinds_framesOf (stream : List UInt8) :
    (framesOf stream).map kind = ((segments stream).map kindOf).filter fun kind => kind ≠ .blank := by
  have solid : ∀ frame, kind frame ≠ .blank := by
    rintro (fault | ⟨payload, timestamp⟩ | _) <;> exact Kind.noConfusion
  unfold framesOf
  induction segments stream with
  | nil => rfl
  | cons body rest inductionHypothesis =>
      cases blank : body.all isBlankByte with
      | true => simp [kindOf, blank, inductionHypothesis]
      | false => simp [kindOf, blank, inductionHypothesis, solid]

theorem payloads_framesOf (stream : List UInt8) :
    (framesOf stream).filterMap payload? = (segments stream).filterMap payloadOf? := by
  unfold framesOf
  induction segments stream with
  | nil => rfl
  | cons body rest inductionHypothesis =>
      rw [List.filterMap_map] at inductionHypothesis ⊢
      cases blank : body.all isBlankByte with
      | true =>
          have nothing : payloadOf? body = none := if_pos blank
          rw [List.filter_cons_of_neg (by simp [blank]), List.filterMap_cons_none nothing, inductionHypothesis]
      | false =>
          have same : payloadOf? body = payload? (parse body) := if_neg (by simp [blank])
          rw [List.filter_cons_of_pos (by simp [blank]), List.filterMap_cons, List.filterMap_cons, same,
            inductionHypothesis]
          rfl

end Decoder
end Fleet
