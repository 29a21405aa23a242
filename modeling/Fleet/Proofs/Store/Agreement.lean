import Fleet.Proofs.Store.Streams

namespace Fleet

variable {clock : UInt64 → UInt64 → Prop}

/-!
# Stores that agree but for times

Two stores are told the same in the same order, but each at times of its own.  Then whatever is asked of them, the
answers differ in nothing but times.  It is enough that they agree in their parts, that is in each node without its
domains, in its log, and in the gateway: one step at a time this is kept, since the parts do not meet, and the rest of
the fleets follows from it because everything in them is derived.

A bundle is made of a node without a look at the time of its last report.
-/

namespace Bundle

theorem ofGroups_timeless (nodeName : String) (node : Node) (used : List String) (groups : List (List Member)) :
    ofGroups nodeName node.timeless used groups = ofGroups nodeName node used groups := by
  induction groups generalizing used with
  | nil => rfl
  | cons members rest inductionHypothesis => exact congrArg (_ :: ·) (inductionHypothesis _)

theorem ofNode_timeless (nodeName : String) (node : Node) : ofNode nodeName node.timeless = ofNode nodeName node :=
  ofGroups_timeless nodeName node [] _

end Bundle

namespace Store

/-- Two stores in which everything is derived, and of which the parts differ in nothing but times. -/
structure Agrees (clock : UInt64 → UInt64 → Prop) (left right : Store) : Prop where
  parts : ∀ own, PartMatches clock own (view own left) (view own right)
  leftSettled : left.fleet.Settled
  rightSettled : right.fleet.Settled

theorem agrees_empty (reflexive : ∀ time, clock time time) (capacity : Nat) :
    (empty capacity).Agrees clock (empty capacity) where
  parts := fun own => view_refl reflexive own (empty capacity)
  leftSettled := Snapshot.settled_empty
  rightSettled := Snapshot.settled_empty

variable {left right : Store}

/-! ## What is asked -/

theorem Agrees.fleet (agree : left.Agrees clock right) : left.fleet.Matches clock right.fleet :=
  agree.leftSettled.matches_of_bare agree.rightSettled (fun id => (agree.parts (some id)).node) (agree.parts none)

theorem Agrees.knows (agree : left.Agrees clock right) (id : String) : left.knows id = right.knows id := by
  rw [knows_eq, knows_eq]
  exact isSome_eq_of_rel (agree.parts (some id)).node

theorem Agrees.node? (agree : left.Agrees clock right) (id : String) :
    Option.Rel (Node.Matches clock) (left.node? id) (right.node? id) :=
  agree.fleet.nodes id

theorem Agrees.connection? (agree : left.Agrees clock right) (id : String) :
    left.connection? id = right.connection? id := by
  refine map_eq_of_rel (fun first second alike => ?_) (agree.node? id)
  change first.timeless.connected = second.timeless.connected
  rw [alike.timeless]

theorem Agrees.bundles? (agree : left.Agrees clock right) (id : String) : left.bundles? id = right.bundles? id := by
  refine map_eq_of_rel (fun first second alike => ?_) (agree.node? id)
  rw [← Bundle.ofNode_timeless id first, alike.timeless, Bundle.ofNode_timeless]

theorem Agrees.history? (agree : left.Agrees clock right) (id : String) :
    Option.Rel (List.Forall₂ (MigrationEvent.Matches clock)) (left.history? id) (right.history? id) :=
  Cell.Matches.history (agree.parts (some id))

/-! ## What is told -/

theorem Agrees.apply (reflexive : ∀ time, clock time time) (agree : left.Agrees clock right) {now later : UInt64}
    (times : clock now later) (change : Change) :
    (left.apply now change).1.Agrees clock (right.apply later change).1 ∧
      (left.apply now change).2 = (right.apply later change).2 := by
  rcases (separated_apply reflexive).all_related agree.parts times change with ⟨parts, sameAnswer⟩
  exact ⟨⟨parts, settled_apply agree.leftSettled now change, settled_apply agree.rightSettled later change⟩, sameAnswer⟩

/-- The frames in a stream do the same at other times, and are reported alike. -/
theorem Agrees.applyFrames (reflexive : ∀ time, clock time time) (agree : left.Agrees clock right)
    {now later : UInt64} (times : clock now later) (id : String) (decoder : Decoder) :
    (left.applyFrames now id decoder).1.Agrees clock (right.applyFrames later id decoder).1 ∧
      (left.applyFrames now id decoder).2 = (right.applyFrames later id decoder).2 := by
  have keeps : ∀ (first second : Store) (payload : Json), first.Agrees clock second →
      (first.update now id payload).1.Agrees clock (second.update later id payload).1 :=
    fun first second payload alike => (alike.apply reflexive times (.update id payload)).1
  rcases foldl_applyFrame_related keeps decoder.drain.1 agree .none with ⟨nextAgree, sameReport⟩
  exact ⟨nextAgree, congrArg (·, decoder.drain.2) sameReport⟩

end Store
end Fleet
