import Fleet.Proofs.Unit.Headings

namespace Fleet
namespace Unit

/-!
# What a unit file gives

A unit file is read line by line, with the section that was opened last in mind.  What is read can be said without
that state.  A line assigns a value or not by itself, the section that it belongs to is that of the last header above
it, and the assignments of a text are those of its lines in their order.  What a text says is then a matter of its
assignments alone.  A directive that lists something has what all its assignments give, one after the other, and any
other directive has what the last of them gives.  Two texts with the same assignments differ in their type at most, for
which the text is searched as a whole.
-/

/-! ## Lines -/

/-- A line opens a section: it is its name in brackets, blanks around it and the case of letters aside. -/
def Opens (line : List Char) (heading : String) : Prop :=
  ∃ name, Text.trim line = '[' :: (name ++ [']']) ∧ heading.toList = Text.lowered name

/-- A line assigns a value to a key.  It is no comment and no header, and neither side of its first equals sign is
empty. -/
structure Assigns (line : List Char) (key value : String) : Prop where
  noComment : isComment line = false
  noHeader : ∀ heading, ¬ Opens line heading
  sides : ∃ before after, Text.trim line = before ++ '=' :: after ∧ '=' ∉ before ∧
    key.toList = Text.lowered (Text.trim before) ∧ value.toList = Text.trim after
  key : key ≠ ""
  value : value ≠ ""

/-- A line that is no comment is a header, an assignment or neither, and a blank line is neither. -/
theorem read_of_noComment {line : List Char} (noComment : isComment line = false) :
    Line.read line =
      match headerName? (Text.trim line) with
      | some name => .header (String.ofList (Text.lowered name))
      | none =>
          match Text.cutFirst '=' (Text.trim line) with
          | none => .silent
          | some (before, after) =>
              let key := Text.lowered (Text.trim before)
              let value := Text.trim after
              if key.isEmpty || value.isEmpty then .silent
              else .assignment (String.ofList key) (String.ofList value) := by
  unfold isComment at noComment
  unfold Line.read
  dsimp only
  split
  · rename_i blank
    rw [blank]
    rfl
  · rename_i comment
    rw [comment] at noComment
    cases noComment
  · rename_i comment
    rw [comment] at noComment
    cases noComment
  · rfl

theorem noComment_of_read {line : List Char} (speaks : Line.read line ≠ .silent) : isComment line = false :=
  Bool.eq_false_iff.2 fun comment => speaks (read_of_isComment comment)

theorem opens_iff {line : List Char} {heading : String} : Opens line heading ↔ Line.read line = .header heading := by
  constructor
  · rintro ⟨name, trimmed, lowered⟩
    have noComment : isComment line = false := by
      unfold isComment
      rw [trimmed]
      rfl
    rw [read_of_noComment noComment, headerName?_eq_some_iff.2 trimmed]
    dsimp only
    rw [← lowered, String.ofList_toList]
  · intro opens
    have noComment := noComment_of_read fun silent => nomatch silent.symm.trans opens
    rw [read_of_noComment noComment] at opens
    split at opens
    · rename_i name found
      cases opens
      exact ⟨name, headerName?_eq_some_iff.1 found, String.toList_ofList⟩
    · split at opens
      · cases opens
      · dsimp only at opens
        split at opens <;> cases opens

theorem assigns_iff {line : List Char} {key value : String} :
    Assigns line key value ↔ Line.read line = .assignment key value := by
  constructor
  · rintro ⟨noComment, noHeader, ⟨before, after, trimmed, absent, keyText, valueText⟩, someKey, someValue⟩
    have noName : headerName? (Text.trim line) = none := by
      refine Option.eq_none_iff_forall_ne_some.2 fun name found => ?_
      exact noHeader (String.ofList (Text.lowered name)) ⟨name, headerName?_eq_some_iff.1 found, String.toList_ofList⟩
    have solid : ¬ ((Text.lowered (Text.trim before)).isEmpty || (Text.trim after).isEmpty) = true := by
      rw [← keyText, ← valueText, Bool.or_eq_true, List.isEmpty_iff, List.isEmpty_iff, String.toList_eq_nil_iff,
        String.toList_eq_nil_iff]
      exact fun empty => empty.elim someKey someValue
    rw [read_of_noComment noComment, noName, Text.cutFirst_eq_some_iff.2 ⟨trimmed, absent⟩]
    dsimp only
    rw [if_neg solid, ← keyText, ← valueText, String.ofList_toList, String.ofList_toList]
  · intro assigns
    have noComment := noComment_of_read fun silent => nomatch silent.symm.trans assigns
    have noHeader : ∀ heading, ¬ Opens line heading := fun heading opens =>
      nomatch (opens_iff.1 opens).symm.trans assigns
    rw [read_of_noComment noComment] at assigns
    split at assigns
    · cases assigns
    · split at assigns
      · cases assigns
      · rename_i before after cut
        dsimp only at assigns
        split at assigns
        · cases assigns
        · rename_i solid
          cases assigns
          rw [Bool.or_eq_true, List.isEmpty_iff, List.isEmpty_iff, not_or] at solid
          rcases Text.cutFirst_eq_some_iff.1 cut with ⟨trimmed, absent⟩
          exact
            { noComment
              noHeader
              sides := ⟨before, after, trimmed, absent, String.toList_ofList, String.toList_ofList⟩
              key := fun empty => solid.1 (String.ofList_eq_empty_iff.1 empty)
              value := fun empty => solid.2 (String.ofList_eq_empty_iff.1 empty) }

/-! ## Sections -/

/-- The section below some lines is that of the last header among them, or none. -/
inductive Under : List (List Char) → String → Prop
  | top {above : List (List Char)} (plain : ∀ line ∈ above, ∀ heading, ¬ Opens line heading) : Under above ""
  | header {before after : List (List Char)} {line : List Char} {heading : String} (opens : Opens line heading)
      (last : ∀ other ∈ after, ∀ name, ¬ Opens other name) : Under (before ++ line :: after) heading

/-- The section that is open after some lines, if one was open before them. -/
def sectionAfter (heading : String) (lines : List Line) : String :=
  ((lines.filterMap Line.heading?).getLast?).getD heading

theorem heading?_eq_some_iff {line : List Char} {heading : String} :
    (Line.read line).heading? = some heading ↔ Opens line heading := by
  rw [opens_iff]
  cases Line.read line <;> simp [Line.heading?]

theorem filterMap_heading?_eq_nil {lines : List (List Char)} (plain : ∀ line ∈ lines, ∀ heading, ¬ Opens line heading) :
    (lines.map Line.read).filterMap Line.heading? = [] := by
  rw [List.filterMap_map, List.filterMap_eq_nil_iff]
  refine fun line member => Option.eq_none_iff_forall_ne_some.2 fun heading found => ?_
  exact plain line member heading (heading?_eq_some_iff.1 found)

theorem Under.eq {above : List (List Char)} {heading : String} (under : Under above heading) :
    sectionAfter "" (above.map Line.read) = heading := by
  unfold sectionAfter
  cases under with
  | top plain => rw [filterMap_heading?_eq_nil plain]; rfl
  | header opens last =>
      rw [List.map_append, List.filterMap_append, List.map_cons, List.filterMap_cons, heading?_eq_some_iff.2 opens]
      dsimp only
      rw [filterMap_heading?_eq_nil last, List.getLast?_append]
      rfl

theorem exists_under (above : List (List Char)) : ∃ heading, Under above heading := by
  induction above using List.reverseRecOn with
  | nil => exact ⟨"", .top nofun⟩
  | append_singleton lines line inductionHypothesis =>
      by_cases opens : ∃ heading, Opens line heading
      · rcases opens with ⟨heading, opens⟩
        exact ⟨heading, .header opens nofun⟩
      · have plain : ∀ other ∈ [line], ∀ heading, ¬ Opens other heading := fun other member heading given =>
          opens ⟨heading, List.mem_singleton.1 member ▸ given⟩
        rcases inductionHypothesis with ⟨heading, top | ⟨given, last⟩⟩
        · exact ⟨"", .top (List.forall_mem_append.2 ⟨top, plain⟩)⟩
        · rw [List.append_assoc]
          exact ⟨heading, .header given (List.forall_mem_append.2 ⟨last, plain⟩)⟩

/-! ## Texts -/

/-- The assignments of some lines, in their order.  Each has the section that its line stands under. -/
inductive Gives : List (List Char) → List Assignment → Prop
  | nothing : Gives [] []
  | assigns {lines : List (List Char)} {given : List Assignment} {line : List Char} {heading key value : String}
      (gives : Gives lines given) (under : Under lines heading) (assigns : Assigns line key value) :
      Gives (lines ++ [line]) (given ++ [⟨heading, key, value⟩])
  | silent {lines : List (List Char)} {given : List Assignment} {line : List Char} (gives : Gives lines given)
      (silent : ∀ key value, ¬ Assigns line key value) : Gives (lines ++ [line]) given

/-- The assignment that a line makes in a section. -/
def Line.assigned? (heading : String) : Line → Option Assignment
  | .assignment key value => some ⟨heading, key, value⟩
  | _ => none

theorem sectionAfter_cons (heading : String) (line : Line) (rest : List Line) :
    sectionAfter heading (line :: rest) = sectionAfter (line.heading?.getD heading) rest := by
  unfold sectionAfter
  cases opened : line.heading? with
  | none => rw [List.filterMap_cons_none opened]; rfl
  | some name =>
      rw [List.filterMap_cons_some opened, List.getLast?_cons]
      rfl

/-- The last line of a text is read in the section that the lines above it leave open. -/
theorem assignmentsIn_concat (heading : String) (lines : List Line) (line : Line) :
    assignmentsIn heading (lines ++ [line]) =
      assignmentsIn heading lines ++ (line.assigned? (sectionAfter heading lines)).toList := by
  induction lines generalizing heading with
  | nil => cases line <;> rfl
  | cons first rest inductionHypothesis =>
      rw [List.cons_append, sectionAfter_cons]
      cases first with
      | silent => exact inductionHypothesis heading
      | header name => exact inductionHypothesis name
      | assignment key value => exact congrArg (List.cons _) (inductionHypothesis heading)

theorem assigned?_of_silent {line : List Char} (silent : ∀ key value, ¬ Assigns line key value) (heading : String) :
    (Line.read line).assigned? heading = none := by
  cases read : Line.read line with
  | silent | header => rfl
  | assignment key value => exact absurd (assigns_iff.2 read) (silent key value)

theorem Gives.eq {lines : List (List Char)} {given : List Assignment} (gives : Gives lines given) :
    assignmentsIn "" (lines.map Line.read) = given := by
  induction gives with
  | nothing => rfl
  | assigns gives under assigns inductionHypothesis =>
      rw [List.map_append, List.map_singleton, assignmentsIn_concat, inductionHypothesis, under.eq,
        assigns_iff.1 assigns]
      rfl
  | silent gives silent inductionHypothesis =>
      rw [List.map_append, List.map_singleton, assignmentsIn_concat, inductionHypothesis, assigned?_of_silent silent]
      exact List.append_nil _

theorem exists_gives (lines : List (List Char)) : ∃ given, Gives lines given := by
  induction lines using List.reverseRecOn with
  | nil => exact ⟨[], .nothing⟩
  | append_singleton lines line inductionHypothesis =>
      rcases inductionHypothesis with ⟨given, gives⟩
      by_cases assigns : ∃ key value, Assigns line key value
      · rcases assigns with ⟨key, value, assigns⟩
        rcases exists_under lines with ⟨heading, under⟩
        exact ⟨_, .assigns gives under assigns⟩
      · push Not at assigns
        exact ⟨given, .silent gives assigns⟩

theorem gives_iff {content : String} {given : List Assignment} :
    Gives (Text.segments '\n' content.toList) given ↔ assignments content = given := by
  refine ⟨Gives.eq, fun same => ?_⟩
  rcases exists_gives (Text.segments '\n' content.toList) with ⟨other, gives⟩
  have found : assignments content = other := gives.eq
  rw [← same, found]
  exact gives

/-! ## Directives -/

namespace Directive

/-- In a list with distinct keys, what is found under a key is what the list has there. -/
theorem lookup_eq_some_iff_mem {α : Type} {list : List (String × α)} (distinct : (list.map Prod.fst).Nodup)
    {key : String} {value : α} : list.lookup key = some value ↔ (key, value) ∈ list := by
  induction list with
  | nil => simp
  | cons first rest inductionHypothesis =>
      rcases first with ⟨name, held⟩
      rw [List.map_cons, List.nodup_cons] at distinct
      rw [List.lookup_cons, List.mem_cons]
      by_cases same : key = name
      · subst same
        have absent : (key, value) ∉ rest := fun member => distinct.1 (List.mem_map.2 ⟨_, member, rfl⟩)
        simp [absent, eq_comm]
      · rw [beq_false_of_ne same]
        simp [same, inductionHypothesis distinct.2]

/-- The sections in which a directive counts. -/
def headings : Directive → List String
  | requires | after | wants | bindsTo | description => ["unit"]
  | containerName | pod => ["container", "x-container"]
  | network | publishPort => ["container", "x-container", "pod", "kube"]
  | yaml => ["kube"]

def key : Directive → String
  | requires => "requires"
  | after => "after"
  | wants => "wants"
  | bindsTo => "bindsto"
  | description => "description"
  | containerName => "containername"
  | pod => "pod"
  | network => "network"
  | publishPort => "publishport"
  | yaml => "yaml"

theorem distinct_ofSection (heading : String) : ((ofSection heading).map Prod.fst).Nodup := by
  unfold ofSection
  split_ifs <;> decide

theorem mem_ofSection_iff {heading key : String} {directive : Directive} :
    (key, directive) ∈ ofSection heading ↔ heading ∈ directive.headings ∧ key = directive.key := by
  unfold ofSection
  split_ifs with unit container pod kube
  · subst unit
    cases directive <;> simp [headings, Directive.key]
  · rcases container with rfl | rfl <;> cases directive <;> simp [headings, Directive.key]
  · subst pod
    cases directive <;> simp [headings, Directive.key]
  · subst kube
    cases directive <;> simp [headings, Directive.key]
  · rw [not_or] at container
    cases directive <;> simp [headings, unit, container, pod, kube]

/-- An assignment is one of a directive: it has the key of the directive and stands in a section where it counts. -/
def takes (directive : Directive) (assignment : Assignment) : Bool :=
  directive.headings.contains assignment.heading && assignment.key == directive.key

theorem takes_iff {directive : Directive} {assignment : Assignment} :
    directive.takes assignment = true ↔ of? assignment = some directive := by
  unfold takes of?
  rw [lookup_eq_some_iff_mem (distinct_ofSection _), mem_ofSection_iff, Bool.and_eq_true, List.contains_iff_mem,
    beq_iff_eq]

/-- The values that a directive is given, in their order. -/
def values (directive : Directive) (given : List Assignment) : List String :=
  (given.filter directive.takes).map Assignment.value

theorem values_concat (directive : Directive) (given : List Assignment) (assignment : Assignment) :
    directive.values (given ++ [assignment]) =
      directive.values given ++ if of? assignment = some directive then [assignment.value] else [] := by
  unfold values
  rw [List.filter_append, List.map_append]
  congr 1
  split
  · rename_i known
    rw [List.filter_cons_of_pos (takes_iff.2 known)]
    rfl
  · rename_i unknown
    rw [List.filter_cons_of_neg (unknown ∘ takes_iff.1)]
    rfl

end Directive

namespace Directives

/-- What some assignments say: a list has what is given for it, one after the other, and anything else has the last
value that is given. -/
def collected (type : SourceType) (given : List Assignment) : Directives :=
  { sourceType := type
    description := (Directive.description.values given).getLast?
    requires := (Directive.requires.values given).flatMap namesIn
    after := (Directive.after.values given).flatMap namesIn
    wants := (Directive.wants.values given).flatMap namesIn
    bindsTo := (Directive.bindsTo.values given).flatMap namesIn
    containerName := (Directive.containerName.values given).getLast?
    pod := (Directive.pod.values given).getLast?.map podName
    networks := Directive.network.values given
    publishPorts := Directive.publishPort.values given
    kubeYaml := (Directive.yaml.values given).getLast? }

theorem collected_concat (type : SourceType) (given : List Assignment) (assignment : Assignment) :
    collected type (given ++ [assignment]) = assign (collected type given) assignment := by
  unfold assign
  cases known : Directive.of? assignment with
  | none => simp [collected, Directive.values_concat, known]
  | some directive => cases directive <;> simp [collected, Directive.values_concat, known, apply]

theorem foldl_assign_eq_collected (type : SourceType) (given : List Assignment) :
    given.foldl assign (silent type) = collected type given := by
  induction given using List.reverseRecOn with
  | nil => rfl
  | append_singleton given assignment inductionHypothesis =>
      rw [List.foldl_concat, inductionHypothesis, collected_concat]

/-- The assignments of a text are determined by what its lines say, and its directives are what these assignments give.
Texts with the same assignments have everything in common but the type. -/
theorem parse_collected (content : String) :
    ∃ given, (∀ other, Gives (Text.segments '\n' content.toList) other ↔ other = given) ∧
      parse content = collected (SourceType.detect content) given ∧
      ∀ text : String, Gives (Text.segments '\n' text.toList) given →
        parse text = { parse content with sourceType := (parse text).sourceType } := by
  refine ⟨assignments content, fun other => gives_iff.trans eq_comm, ?_, fun text gives => ?_⟩
  · exact foldl_assign_eq_collected _ _
  · exact parse_congr (gives_iff.1 gives)

/-- An unkempt text and a tidy one with the same assignments.  Only the comment of the former shows a type. -/
theorem parse_collected_unkempt :
    let unkempt :=
      "[UNIT]\r\n ; not [Container]\nafter = db\r\n\nAfter=net,x.target\n [X-Container] \nPod=\nPOD=a=b.pod\n"
    let tidy := "[unit]\nafter=db\nafter=net,x.target\n[x-container]\npod=a=b.pod"
    parse unkempt = { parse tidy with sourceType := .container } ∧ (parse tidy).sourceType = .unknown ∧
      (parse tidy).after = ["db.service", "net.service", "x.target"] ∧ (parse tidy).pod = some "a=b" := by
  intro unkempt tidy
  have sameAssignments : assignments unkempt = assignments tidy := by decide +kernel +zetaReduce
  have type : (parse unkempt).sourceType = .container := by decide +kernel +zetaReduce
  rcases parse_collected tidy with ⟨given, unique, -, others⟩
  have tidyGives := unique (assignments tidy)
  have same := others unkempt (gives_iff.2 (sameAssignments.trans (tidyGives.1 (gives_iff.2 rfl))))
  rw [type] at same
  exact ⟨same, by decide +kernel +zetaReduce, by decide +kernel +zetaReduce, by decide +kernel +zetaReduce⟩

end Directives

end Unit
end Fleet
