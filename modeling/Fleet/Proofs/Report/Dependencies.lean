import Fleet.Proofs.Codec.Records
import Fleet.Proofs.Report
import Fleet.Proofs.Unit.Dependencies

namespace Fleet

/-!
# Dependencies as agents list them

For every reason the entry of a service may give its dependencies, as a text or as several, and each text is a list
like those in unit files.  What is stored for the service are the units that these lists name.
-/

/-- The field in which an agent gives the dependencies for the reason. -/
def DependencyReason.field : DependencyReason → String
  | requires => "requires"
  | after => "after"
  | wants => "wants"
  | bindsTo => "bindsTo"

namespace Report

/-- A value is a list of dependencies, or holds one among others. -/
def HasList (value : Json) (list : String) : Prop :=
  value = .string list ∨ ∃ lists, value = .array lists ∧ .string list ∈ lists

/-- The entry of a service gives a list of dependencies for the reason. -/
def Lists (entry : Json) (reason : DependencyReason) (list : String) : Prop :=
  ∃ value ∈ Record.valuesFor serviceRecord.slots ⟨reason.field, []⟩ entry, HasList value list

theorem eq_map_string_of_mapM {items : List Json} {texts : List String}
    (read : items.mapM Codec.text.decode = .ok texts) : items = texts.map Json.string := by
  have reads := forall₂_of_mapM read
  clear read
  induction reads with
  | nil => rfl
  | @cons item text _ _ first _ inductionHypothesis =>
      rw [inductionHypothesis, List.map_cons]
      cases item with
      | string => cases first; rfl
      | _ => cases first

/-- What is read are the units that the lists name. -/
theorem mem_of_dependencies {value : Json} {units : List String} (read : dependencies value = .ok units)
    {unit : String} : unit ∈ units ↔ ∃ list, HasList value list ∧ Unit.Names list unit := by
  rcases exists_ok_of_map read with ⟨lists, given, rfl⟩
  have hasList : ∀ list, HasList value list ↔ list ∈ lists := by
    intro list
    unfold oneOrMany Codec.firstOf at given
    cases value with
    | string text =>
        cases given
        simp [HasList, eq_comm]
    | array items =>
        have noText : Codec.text.decode (.array items) = .error .wrongType := rfl
        rw [noText] at given
        dsimp only at given
        cases several : Codec.text.list.decode (.array items) with
        | error fault => rw [several] at given; cases given
        | ok texts =>
            rw [several] at given
            cases given
            simp [HasList, eq_map_string_of_mapM several]
    | _ => cases given
  simp only [List.mem_flatMap, Unit.mem_namesIn_iff, hasList]

theorem mem_of_take_may {σ : Type} {given : Given} {slot : Slot} {units : Option (List String)}
    (taken : (Record.may slot dependencies : Record σ (Option (List String))).take given = .ok units) {unit : String} :
    unit ∈ units.getD [] ↔
      ∃ value ∈ (given.found slot).map Prod.snd, ∃ list, HasList value list ∧ Unit.Names list unit := by
  rcases Record.cases_of_take_may taken with ⟨nothing, rfl⟩ | ⟨value, single, decoded⟩
  · simp [nothing]
  · simp only [single, List.mem_singleton, exists_eq_left]
    by_cases null : value = .null
    · subst null
      cases decoded
      simp [HasList]
    · rw [Codec.decode_nullable null] at decoded
      rcases exists_ok_of_map decoded with ⟨read, found, rfl⟩
      exact mem_of_dependencies found

/-- The dependencies of a service are taken from their own fields. -/
theorem exists_take_of_serviceRecord {given : Given} {service : Service}
    (taken : serviceRecord.take given = .ok service) (reason : DependencyReason) :
    ∃ units, (Record.may ⟨reason.field, []⟩ dependencies : Record PUnit (Option (List String))).take given = .ok units ∧
      reason.inService service = units.getD [] := by
  unfold serviceRecord at taken
  obtain ⟨_, pod, withBindsTo, _, rfl⟩ := Record.exists_ok_of_both taken
  obtain ⟨_, bindsTo, withWants, bindsToTaken, rfl⟩ := Record.exists_ok_of_both withBindsTo
  obtain ⟨_, wants, withAfter, wantsTaken, rfl⟩ := Record.exists_ok_of_both withWants
  obtain ⟨_, after, withRequires, afterTaken, rfl⟩ := Record.exists_ok_of_both withAfter
  obtain ⟨make, requires, others, requiresTaken, rfl⟩ := Record.exists_ok_of_both withRequires
  -- The fields before them have no part in the dependencies.
  have kept : ∀ requires after wants bindsTo pod,
      (make requires after wants bindsTo pod).requires = requires.getD [] ∧
        (make requires after wants bindsTo pod).after = after.getD [] ∧
        (make requires after wants bindsTo pod).wants = wants.getD [] ∧
        (make requires after wants bindsTo pod).bindsTo = bindsTo.getD [] := by
    apply Record.Gives.of_take ?_ others
    iterate 8 apply Record.gives_seq
    apply Record.gives_map
    intros
    exact ⟨rfl, rfl, rfl, rfl⟩
  rcases kept requires after wants bindsTo pod with ⟨requiresKept, afterKept, wantsKept, bindsToKept⟩
  cases reason with
  | requires => exact ⟨requires, requiresTaken, requiresKept⟩
  | after => exact ⟨after, afterTaken, afterKept⟩
  | wants => exact ⟨wants, wantsTaken, wantsKept⟩
  | bindsTo => exact ⟨bindsTo, bindsToTaken, bindsToKept⟩

/-- A service that is read depends on the units that the lists of its entry name. -/
theorem mem_inService_iff {entry : Json} {service : Service} (read : readService entry = .ok service)
    {reason : DependencyReason} {unit : String} :
    unit ∈ reason.inService service ↔ ∃ list, Lists entry reason list ∧ Unit.Names list unit := by
  rcases Record.exists_take_of_decode (decode_of_readService read) with ⟨given, taken, values⟩
  rcases exists_take_of_serviceRecord taken reason with ⟨units, unitsTaken, same⟩
  rw [same, mem_of_take_may unitsTaken, values]
  unfold Lists
  constructor
  · rintro ⟨value, member, list, hasList, names⟩
    exact ⟨list, ⟨value, member, hasList⟩, names⟩
  · rintro ⟨list, ⟨value, member, hasList⟩, names⟩
    exact ⟨value, member, list, hasList, names⟩

end Report
end Fleet
