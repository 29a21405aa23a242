import Fleet.Bundle.Member
import Fleet.Proofs.Unit.Assignments

namespace Fleet

/-!
# Dependencies as they are written

Units are listed by their names, in a text with commas or blanks between them, and the name of a service may go without
its ending.  Two texts that differ in this list the same unit.  In a unit file the texts are the values of a directive,
which may be given several times.
-/

namespace Unit

/-- A word of a list: it stands between commas, blanks and the ends of the list, and none of these is in it. -/
structure IsWord (list word : List Char) : Prop where
  solid : word ≠ []
  plain : ∀ c ∈ word, c ≠ ',' ∧ Text.isBlank c = false
  bounded : ∃ before after, list = before ++ word ++ after ∧ (∀ c ∈ before.getLast?, c = ',' ∨ Text.isBlank c = true) ∧
    ∀ c ∈ after.head?, c = ',' ∨ Text.isBlank c = true

/-- A word ends like the name of a unit. -/
def HasEnding (word : List Char) : Prop :=
  ∃ stem, ∃ ending ∈ suffixes, word = stem ++ '.' :: ending.toList

/-- A list names a unit: by a word that is its name, or its name without the ending of a service. -/
def Names (list unit : String) : Prop :=
  ∃ word, IsWord list.toList word ∧
    (HasEnding word ∧ unit.toList = word ∨ ¬ HasEnding word ∧ unit.toList = word ++ serviceEnding)

theorem isWord_iff {list word : List Char} :
    IsWord list word ↔ word ∈ Text.pieces (fun c => c == ',' || Text.isBlank c) list := by
  have separates : ∀ c, (c == ',' || Text.isBlank c) = true ↔ c = ',' ∨ Text.isBlank c = true := by simp
  have plain : ∀ c, (c == ',' || Text.isBlank c) = false ↔ c ≠ ',' ∧ Text.isBlank c = false := by simp
  rw [Text.pieces, List.mem_filter, Text.mem_splitOnP_iff]
  simp only [separates, plain, Bool.not_eq_true', List.isEmpty_eq_false_iff]
  constructor
  · rintro ⟨solid, plain, bounded⟩
    exact ⟨⟨plain, bounded⟩, solid⟩
  · rintro ⟨⟨plain, bounded⟩, solid⟩
    exact ⟨solid, plain, bounded⟩

theorem isComplete_iff {word : List Char} : isComplete word = true ↔ HasEnding word := by
  have noPoint : ∀ ending ∈ suffixes, '.' ∉ ending.toList := by decide
  unfold isComplete
  constructor
  · intro known
    cases cut : Text.cutLast '.' word with
    | none => rw [cut] at known; cases known
    | some parts =>
        rw [cut] at known
        refine ⟨parts.1, _, List.contains_iff_mem.1 known, ?_⟩
        rw [String.toList_ofList]
        exact (Text.cutLast_eq_some_iff.1 cut).1
  · rintro ⟨stem, ending, known, rfl⟩
    rw [Text.cutLast_append '.' stem (noPoint ending known)]
    dsimp only
    rw [String.ofList_toList]
    exact List.contains_iff_mem.2 known

theorem complete_eq_iff {word : List Char} {unit : String} :
    complete word = unit ↔
      HasEnding word ∧ unit.toList = word ∨ ¬ HasEnding word ∧ unit.toList = word ++ serviceEnding := by
  rw [complete, ← isComplete_iff, ← String.toList_inj, String.toList_ofList, eq_comm]
  cases isComplete word <;> simp

theorem mem_namesIn_iff {list unit : String} : unit ∈ namesIn list ↔ Names list unit := by
  rw [namesIn, List.mem_map]
  exact exists_congr fun word => and_congr isWord_iff.symm complete_eq_iff

end Unit

namespace DependencyReason

def directive : DependencyReason → Unit.Directive
  | requires => .requires
  | after => .after
  | wants => .wants
  | bindsTo => .bindsTo

/-- A unit file gives a list of dependencies, as a value of the directive for the reason. -/
def InFile (reason : DependencyReason) (content list : String) : Prop :=
  ∃ given, Unit.Gives (Text.segments '\n' content.toList) given ∧ ⟨"unit", reason.directive.key, list⟩ ∈ given

theorem mem_values_directive_iff {reason : DependencyReason} {given : List Unit.Assignment} {list : String} :
    list ∈ reason.directive.values given ↔ ⟨"unit", reason.directive.key, list⟩ ∈ given := by
  have inSection : reason.directive.headings = ["unit"] := by cases reason <;> rfl
  simp only [Unit.Directive.values, List.mem_map, List.mem_filter, Unit.Directive.takes, inSection, Bool.and_eq_true,
    List.contains_iff_mem, List.mem_singleton, beq_iff_eq]
  constructor
  · rintro ⟨⟨heading, key, value⟩, ⟨member, rfl, rfl⟩, rfl⟩
    exact member
  · exact fun member => ⟨_, ⟨member, rfl, rfl⟩, rfl⟩

theorem mem_inDirectives_iff {reason : DependencyReason} {content unit : String} :
    unit ∈ reason.inDirectives (Unit.Directives.parse content) ↔
      ∃ list, reason.InFile content list ∧ Unit.Names list unit := by
  have collected : reason.inDirectives (Unit.Directives.parse content) =
      (reason.directive.values (Unit.assignments content)).flatMap Unit.namesIn := by
    rw [Unit.Directives.parse, Unit.Directives.foldl_assign_eq_collected]
    cases reason <;> rfl
  rw [collected, List.mem_flatMap]
  refine exists_congr fun list => and_congr ?_ Unit.mem_namesIn_iff
  rw [mem_values_directive_iff, InFile]
  simp only [Unit.gives_iff, exists_eq_left']

end DependencyReason
end Fleet
