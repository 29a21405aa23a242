import Fleet.Proofs.Text
import Fleet.Unit.Directives

namespace Fleet
namespace Unit

/-!
# The type of a unit file and its sections

The sections of a unit file are opened by its header lines, and what is assigned in them is read with an eye to these
lines only.  The type of the file is found in another way, by looking for the names of sections in brackets anywhere in
the text.  A header has the name of its section in brackets, so what the headers announce is found, with one exception:
the name of an extended container section is not that of a plain one.  But a comment or a value may mention a section
as well, and then it counts as if the file had it.

So the type agrees with the sections exactly when the text is unmistakable: no section that would make a stronger type
is mentioned anywhere, and a container section is mentioned by its plain name.  Comments make no difference to what is
read of a file, unless it is by such a mention.
-/

/-! ## Lines that are read and lines that are not -/

def isComment (line : List Char) : Bool :=
  match Text.trim line with
  | '#' :: _ => true
  | ';' :: _ => true
  | _ => false

/-- The lines of a text that are no comments. -/
def plainLines (content : String) : List (List Char) :=
  (Text.segments '\n' content.toList).filter fun line => !isComment line

/-- The section that a line opens, if it is a header. -/
def Line.heading? : Line → Option String
  | .header name => some name
  | _ => none

/-- The sections that a unit file opens, in lower case and in their order. -/
def headings (content : String) : List String :=
  (linesOf content).filterMap Line.heading?

theorem read_of_isComment {line : List Char} (comment : isComment line = true) : Line.read line = .silent := by
  unfold isComment at comment
  unfold Line.read
  split at comment
  · rename_i trimmed
    simp only [trimmed]
  · rename_i trimmed
    simp only [trimmed]
  · cases comment

theorem assignmentsIn_plain (heading : String) (lines : List (List Char)) :
    assignmentsIn heading ((lines.filter fun line => !isComment line).map Line.read) =
      assignmentsIn heading (lines.map Line.read) := by
  induction lines generalizing heading with
  | nil => rfl
  | cons line rest inductionHypothesis =>
      cases comment : isComment line with
      | true =>
          rw [List.filter_cons_of_neg (by simp [comment]), List.map_cons, read_of_isComment comment]
          exact inductionHypothesis heading
      | false =>
          rw [List.filter_cons_of_pos (by simp [comment]), List.map_cons, List.map_cons]
          cases Line.read line with
          | silent => exact inductionHypothesis heading
          | header name => exact inductionHypothesis name
          | assignment key value => exact congrArg (List.cons _) (inductionHypothesis heading)

theorem assignments_eq_of_plainLines (content : String) :
    assignments content = assignmentsIn "" ((plainLines content).map Line.read) :=
  (assignmentsIn_plain "" _).symm

theorem headings_eq_of_plainLines (content : String) :
    headings content = ((plainLines content).map Line.read).filterMap Line.heading? := by
  unfold headings linesOf plainLines
  rw [List.filterMap_map, List.filterMap_map, List.filterMap_filter]
  refine List.filterMap_congr fun line _ => ?_
  cases comment : isComment line with
  | true => simp [read_of_isComment comment, Line.heading?]
  | false => simp

/-! ## Headers -/

theorem headerName?_eq_some_iff {line name : List Char} :
    headerName? line = some name ↔ line = '[' :: (name ++ [']']) := by
  unfold headerName?
  split
  · rename_i inside
    rw [Text.beforeEnd?, List.isSuffixOf?_eq_some_iff_append_eq, List.cons.injEq, and_iff_right rfl, eq_comm]
  · rename_i other
    constructor
    · exact nofun
    · exact fun header => absurd header (other _)

/-- A line that opens a section is its name in brackets, blanks around it and the case of letters aside. -/
theorem lowered_trim_of_header {line : List Char} {name : String} (opens : Line.read line = .header name) :
    Text.lowered (Text.trim line) = '[' :: (name.toList ++ [']']) := by
  unfold Line.read at opens
  dsimp only at opens
  split at opens
  · cases opens
  · cases opens
  · cases opens
  · split at opens
    · rename_i written found
      cases opens
      rw [headerName?_eq_some_iff.1 found, String.toList_ofList]
      simp [Text.lowered]
    · split at opens
      · cases opens
      · split at opens <;> cases opens

/-- The name of a section in brackets, as a text may have it anywhere, in whatever case. -/
def mentions (content name : String) : Bool :=
  Text.occursIn ('[' :: (name.toList ++ [']'])) (Text.lowered content.toList)

/-- A section that is opened is mentioned. -/
theorem mentions_of_mem_headings {content name : String} (opened : name ∈ headings content) :
    mentions content name = true := by
  rcases List.mem_filterMap.1 opened with ⟨read, listed, heading⟩
  rcases List.mem_map.1 listed with ⟨line, member, rfl⟩
  have opens : Line.read line = .header name := by
    cases said : Line.read line with
    | header other => rw [said] at heading; cases heading; rfl
    | silent => rw [said] at heading; cases heading
    | assignment key value => rw [said] at heading; cases heading
  have inText : Text.trim line <:+: content.toList :=
    (Text.infix_trim line).trans (Text.infix_of_mem_segments member)
  refine Text.occursIn_eq_true_iff.2 ?_
  rw [← lowered_trim_of_header opens]
  exact inText.map Char.toLower

/-! ## Types -/

namespace SourceType

/-- Of two types for which there is evidence the stronger one is taken. -/
def strength : SourceType → Nat
  | container => 4
  | pod => 3
  | kube => 2
  | service => 1
  | unknown => 0

/-- The strongest type for which there is evidence. -/
def strongest (evident : SourceType → Bool) : SourceType :=
  if evident container then container
  else if evident pod then pod
  else if evident kube then kube
  else if evident service then service
  else unknown

/-- There is nothing that has to be shown for an unknown type, so there is always a strongest one. -/
theorem strongest_eq_iff {evident : SourceType → Bool} (least : evident unknown = true) {type : SourceType} :
    strongest evident = type ↔
      evident type = true ∧ ∀ other : SourceType, type.strength < other.strength → evident other = false := by
  have each : ∀ Holds : SourceType → Prop, (∀ other, Holds other) ↔
      Holds container ∧ Holds pod ∧ Holds kube ∧ Holds service ∧ Holds unknown := fun Holds =>
    ⟨fun all => ⟨all _, all _, all _, all _, all _⟩, fun ⟨c, p, k, s, u⟩ other => by cases other <;> assumption⟩
  rw [each]
  unfold strongest
  split_ifs <;> cases type <;> simp_all [strength]

/-- A text has what marks a type, wherever it stands. -/
def marked (content : String) : SourceType → Bool
  | container => mentions content "container"
  | pod => mentions content "pod"
  | kube => mentions content "kube"
  | service => mentions content "unit" && mentions content "service"
  | unknown => true

/-- A text opens the sections that make a type. -/
def opened (content : String) : SourceType → Bool
  | container => (headings content).contains "container" || (headings content).contains "x-container"
  | pod => (headings content).contains "pod"
  | kube => (headings content).contains "kube"
  | service => (headings content).contains "unit" && (headings content).contains "service"
  | unknown => true

/-- The type that the sections of a text announce. -/
def announced (content : String) : SourceType :=
  strongest (opened content)

theorem detect_eq_strongest (content : String) : detect content = strongest (marked content) := rfl

/-- A text speaks of sections in such a way that its type can be told from it: no section of a stronger type than the
announced one is mentioned anywhere, and a container section is mentioned by its plain name. -/
structure Unmistakable (content : String) : Prop where
  noStronger : ∀ other : SourceType, (announced content).strength < other.strength → marked content other = false
  plainName : announced content = container → mentions content "container" = true

theorem opened_announced (content : String) : opened content (announced content) = true := by
  have least : opened content unknown = true := rfl
  exact ((strongest_eq_iff least).1 rfl).1

/-- What is opened is marked, but for the extended name of a container section. -/
theorem marked_of_opened {content : String} {type : SourceType} (opens : opened content type = true)
    (other : type ≠ container) : marked content type = true := by
  have mention : ∀ {name}, (headings content).contains name = true → mentions content name = true := fun found =>
    mentions_of_mem_headings (List.contains_iff_mem.1 found)
  cases type with
  | container => exact absurd rfl other
  | pod => exact mention opens
  | kube => exact mention opens
  | service =>
      rcases Bool.and_eq_true_iff.1 opens with ⟨unit, service⟩
      exact Bool.and_eq_true_iff.2 ⟨mention unit, mention service⟩
  | unknown => rfl

/-- The type that is detected is the one that is announced exactly in an unmistakable text. -/
theorem detect_eq_announced_iff (content : String) : detect content = announced content ↔ Unmistakable content := by
  rw [detect_eq_strongest, strongest_eq_iff rfl]
  constructor
  · rintro ⟨evident, noStronger⟩
    refine ⟨noStronger, fun isContainer => ?_⟩
    rw [isContainer] at evident
    exact evident
  · rintro ⟨noStronger, plainName⟩
    refine ⟨?_, noStronger⟩
    by_cases isContainer : announced content = container
    · rw [isContainer]
      exact plainName isContainer
    · exact marked_of_opened (opened_announced content) isContainer

theorem announced_congr {content other : String} (same : headings other = headings content) :
    announced other = announced content := by
  have opens : opened other = opened content := by
    funext type
    cases type <;> simp only [opened, same]
  unfold announced
  rw [opens]

end SourceType

/-! ## Directives -/

namespace Directives

/-- No assignment has anything to do with the type. -/
theorem foldl_assign_sourceType (assignments : List Assignment) (directives : Directives) (type : SourceType) :
    assignments.foldl assign { directives with sourceType := type } =
      { assignments.foldl assign directives with sourceType := type } := by
  induction assignments generalizing directives with
  | nil => rfl
  | cons assignment rest inductionHypothesis =>
      have assigned : assign { directives with sourceType := type } assignment =
          { assign directives assignment with sourceType := type } := by
        unfold assign
        cases Directive.of? assignment with
        | none => rfl
        | some directive => cases directive <;> rfl
      rw [List.foldl_cons, List.foldl_cons, assigned, inductionHypothesis]

/-- A unit file says what its assignments say, and its type is the one that is detected. -/
theorem parse_eq (content : String) : parse content =
    { (assignments content).foldl assign (silent .unknown) with sourceType := SourceType.detect content } :=
  foldl_assign_sourceType (assignments content) (silent .unknown) (SourceType.detect content)

theorem sourceType_parse (content : String) : (parse content).sourceType = SourceType.detect content := by
  rw [parse_eq]

theorem parse_congr {content other : String} (same : assignments other = assignments content) :
    parse other = { parse content with sourceType := (parse other).sourceType } := by
  rw [parse_eq other, parse_eq content, same]

/-- The type of a unit file is the one that its sections announce exactly if the text is unmistakable.  A text that
differs from it in comments only announces the same type and has the same directives apart from the type, and if the
one text is unmistakable, they have everything in common exactly if the other is too. -/
theorem sourceType_announced_iff (content : String) :
    ((parse content).sourceType = SourceType.announced content ↔ SourceType.Unmistakable content) ∧
      ∀ other, plainLines other = plainLines content →
        SourceType.announced other = SourceType.announced content ∧
          parse other = { parse content with sourceType := (parse other).sourceType } ∧
          (SourceType.Unmistakable content → (parse other = parse content ↔ SourceType.Unmistakable other)) := by
  refine ⟨?_, fun other sameLines => ?_⟩
  · rw [sourceType_parse]
    exact SourceType.detect_eq_announced_iff content
  · have sameHeadings : headings other = headings content := by
      rw [headings_eq_of_plainLines, headings_eq_of_plainLines, sameLines]
    have sameAssignments : assignments other = assignments content := by
      rw [assignments_eq_of_plainLines, assignments_eq_of_plainLines, sameLines]
    have sameType := SourceType.announced_congr sameHeadings
    have sameDirectives := parse_congr sameAssignments
    refine ⟨sameType, sameDirectives, fun unmistakable => ?_⟩
    rw [← SourceType.detect_eq_announced_iff] at unmistakable ⊢
    rw [sameType, ← unmistakable, ← sourceType_parse, ← sourceType_parse]
    exact ⟨congrArg sourceType, fun same => by rw [sameDirectives, same]⟩

/-- A container whose comments mention a pod and a kube file, which are weaker than a container, and the same unit
without the comments. -/
theorem sourceType_announced_iff_weaker_mentions :
    let commented := "; not a [Kube] file\n[Unit]\nAfter=db\n\n [CONTAINER] \r\n# see [Pod]\nPublishPort = 8080:80\n"
    let plain := "[Unit]\nAfter=db\n\n [CONTAINER] \r\nPublishPort = 8080:80\n"
    plainLines commented = plainLines plain ∧ SourceType.Unmistakable plain ∧ SourceType.Unmistakable commented ∧
      (parse plain).sourceType = .container ∧ (parse plain).publishPorts = ["8080:80"] ∧
      parse commented = parse plain := by
  intro commented plain
  have sameLines : plainLines commented = plainLines plain := by decide +kernel +zetaReduce
  have plainType : (parse plain).sourceType = SourceType.announced plain := by decide +kernel +zetaReduce
  have commentedType : (parse commented).sourceType = SourceType.announced commented := by decide +kernel +zetaReduce
  have unmistakable := (sourceType_announced_iff plain).1.1 plainType
  have commentedToo := (sourceType_announced_iff commented).1.1 commentedType
  have comments := ((sourceType_announced_iff plain).2 commented sameLines).2.2 unmistakable
  exact ⟨sameLines, unmistakable, commentedToo, by decide +kernel +zetaReduce, by decide +kernel +zetaReduce,
    comments.2 commentedToo⟩

/-- An extended container section, which is not found, and a comment, which is.  Without the comment the type is another
one, and still not the one that is announced. -/
theorem container_mistaken :
    let commented := "[X-Container]\n# not a [Kube] unit\nPublishPort=8080:80\n"
    let plain := "[X-Container]\nPublishPort=8080:80\n"
    plainLines commented = plainLines plain ∧
      SourceType.announced commented = .container ∧ SourceType.announced plain = .container ∧
      (parse commented).sourceType = .kube ∧ (parse plain).sourceType = .unknown := by
  intro commented plain
  refine ⟨?_, ?_, ?_, ?_, ?_⟩ <;> decide +kernel +zetaReduce

end Directives
end Unit
end Fleet
