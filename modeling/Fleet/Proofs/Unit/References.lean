import Fleet.Proofs.Keyed
import Fleet.Proofs.Text
import Fleet.Unit.Files

namespace Fleet
namespace Unit

/-!
# The file that a reference means

A unit file refers to another file by a path, which is followed from the folder that the unit file is in.  Only if
there is no file at the place where it leads, the first file counts whose path ends with the reference, wherever it is.

Places are said here without their notation, by the names that lead to them (`Place`), so that following one path after
another is following the two paths put together.  The folder of a unit file is what its path has up to the last slash.
If there is no slash, the reference is not followed from where the unit file is, but from the root.  A file beside the
unit file is then missed, and what is taken for it is the file of that path in the root, or any other file whose path
ends so.
-/

/-! ## Places -/

/-- A place among the files: the names on the way to it, from the root or from wherever paths are taken from. -/
structure Place where
  rooted : Bool
  names : List (List Char)
  deriving DecidableEq

namespace Place

def start : Place :=
  ⟨false, []⟩

def root : Place :=
  ⟨true, []⟩

/-- A step of a path: an empty one and `.` stay where they are, `..` goes back, and anything else is a name to go to. -/
def step (names : List (List Char)) (segment : List Char) : List (List Char) :=
  if segment = [] ∨ segment = ['.'] then names
  else if segment = ['.', '.'] then names.dropLast
  else names ++ [segment]

/-- The place to which a path leads.  One that begins with a slash begins at the root, wherever it is followed from. -/
def follow (place : Place) (path : List Char) : Place :=
  let origin := if path.head? = some '/' then root else place
  ⟨origin.rooted, (Text.segments '/' path).foldl step origin.names⟩

def joined (place : Place) : List Char :=
  ['/'].intercalate place.names

/-- The path of a place, in its shortest form. -/
def path (place : Place) : List Char :=
  if place.rooted then '/' :: place.joined else place.joined

theorem follow_rooted (place : Place) {path : List Char} (rooted : path.head? = some '/') :
    place.follow path = root.follow path := by
  unfold follow
  rw [if_pos rooted, if_pos rooted]

theorem follow_relative (place : Place) {path : List Char} (relative : path.head? ≠ some '/') :
    place.follow path = ⟨place.rooted, (Text.segments '/' path).foldl step place.names⟩ := by
  unfold follow
  rw [if_neg relative]

theorem path_start {path : List Char} (relative : path.head? ≠ some '/') :
    (start.follow path).path = (start.follow path).joined := by
  rw [follow_relative _ relative]
  rfl

theorem path_root {path : List Char} (relative : path.head? ≠ some '/') :
    (root.follow path).path = '/' :: (start.follow path).joined := by
  rw [follow_relative _ relative, follow_relative _ relative]
  rfl

/-- To follow two paths one after the other is to follow the first one with the second one behind it. -/
theorem follow_append (place : Place) (folder : List Char) {path : List Char} (relative : path.head? ≠ some '/') :
    place.follow (folder ++ '/' :: path) = (place.follow (folder ++ ['/'])).follow path := by
  have sameHead : (folder ++ '/' :: path).head? = (folder ++ ['/']).head? := by
    cases folder <;> rfl
  have split (rest : List Char) : Text.segments '/' (folder ++ '/' :: rest) =
      Text.segments '/' folder ++ Text.segments '/' rest := List.splitOn_append_cons_self folder rest
  rw [follow_relative _ relative]
  unfold follow
  dsimp only
  rw [sameHead, split, split, List.foldl_append, List.foldl_append]
  rfl

example : (start.follow "/srv/app/".toList).follow "./../x//pod.yml".toList =
    ⟨true, ["srv".toList, "x".toList, "pod.yml".toList]⟩ := by decide +kernel

theorem collapse_eq (done segments : List (List Char)) :
    collapse done segments = segments.foldl step done.reverse := by
  induction segments generalizing done with
  | nil => rfl
  | cons segment rest inductionHypothesis =>
      simp only [collapse, List.foldl_cons, step, List.isEmpty_iff]
      split
      · exact inductionHypothesis done
      · split
        · rw [inductionHypothesis, ← List.dropLast_reverse]
        · rw [inductionHypothesis, List.reverse_cons]

theorem toList_normalizePath (path : String) : (normalizePath path).toList = (start.follow path.toList).path := by
  unfold normalizePath Place.path follow joined
  dsimp only
  rw [String.toList_ofList, collapse_eq]
  split <;> rfl

/-- Names on the way to a place are texts between slashes. -/
theorem solid_foldl_step {names segments : List (List Char)} (solid : ∀ name ∈ names, name ≠ [] ∧ '/' ∉ name)
    (free : ∀ segment ∈ segments, '/' ∉ segment) : ∀ name ∈ segments.foldl step names, name ≠ [] ∧ '/' ∉ name := by
  induction segments generalizing names with
  | nil => exact solid
  | cons segment rest inductionHypothesis =>
      refine inductionHypothesis ?_ fun other member => free other (List.mem_cons_of_mem _ member)
      unfold step
      split
      · exact solid
      · rename_i visible
        split
        · exact fun name member => solid name (List.dropLast_subset _ member)
        · refine List.forall_mem_append.2 ⟨solid, fun name member => ?_⟩
          rw [List.mem_singleton.1 member]
          exact ⟨fun empty => visible (Or.inl empty), free segment List.mem_cons_self⟩

/-- The joined names do not begin with a slash. -/
theorem head?_joined_start (path : List Char) : (start.follow path).joined.head? ≠ some '/' := by
  have solid : ∀ name ∈ (start.follow path).names, name ≠ [] ∧ '/' ∉ name := by
    refine solid_foldl_step ?_ fun segment => Text.not_mem_of_mem_segments
    split <;> exact nofun
  unfold joined
  cases names : (start.follow path).names with
  | nil => exact nofun
  | cons name others =>
      rw [names] at solid
      rcases solid name List.mem_cons_self with ⟨nonempty, noSlash⟩
      cases name with
      | nil => exact absurd rfl nonempty
      | cons c rest =>
          intro slash
          have first : c = '/' := by
            cases others <;> simpa [List.intercalate_cons_cons] using slash
          exact noSlash (first ▸ List.mem_cons_self)

theorem stripStart_path_start (path : List Char) :
    Text.stripStart '/' (start.follow path).path = (start.follow path).joined := by
  have plain : Text.stripStart '/' (start.follow path).joined = (start.follow path).joined := by
    have noSlash := head?_joined_start path
    unfold Text.stripStart
    cases joined : (start.follow path).joined with
    | nil => rfl
    | cons c rest =>
        rw [joined] at noSlash
        rw [List.dropWhile_cons_of_neg]
        exact fun slash => noSlash (congrArg some (beq_iff_eq.1 slash))
  unfold Place.path
  split
  · rw [Text.stripStart, List.dropWhile_cons_of_pos (by rfl)]
    exact plain
  · exact plain

end Place

/-! ## Files -/

/-- The folder that a file is in: its path up to the last slash, or nothing. -/
def folder (path : List Char) : List Char :=
  (path.reverse.dropWhile (· != '/')).reverse

/-- A path ends with another one, if not in the middle of a name. -/
def EndsAt (ending path : List Char) : Prop :=
  path = ending ∨ '/' :: ending <:+ path

/-- The file that is meant by a reference, which leads to a place and is the ending of paths: the one at the place, or
the first with the ending if there is none. -/
inductive Means (files : Files) (place ending : List Char) : Option WatchedFile → Prop
  | there {file : WatchedFile} (first : files.First (fun other => other.path.toList = place) file) :
      Means files place ending (some file)
  | elsewhere {file : WatchedFile} (absent : ∀ other ∈ files.values, other.path.toList ≠ place)
      (first : files.First (fun other => EndsAt ending other.path.toList) file) : Means files place ending (some file)
  | nowhere (absent : ∀ other ∈ files.values, other.path.toList ≠ place)
      (unmatched : ∀ other ∈ files.values, ¬ EndsAt ending other.path.toList) : Means files place ending none

/-- No file at a place is preceded by one at another place whose path has the same ending. -/
def Foremost (files : Files) (ending place : List Char) : Prop :=
  ∀ file ∈ files.values, file.path.toList = place →
    ∃ first, files.First (fun other => EndsAt ending other.path.toList) first ∧ first.path.toList = place

theorem folder_of_cutLast {path before after : List Char} (cut : Text.cutLast '/' path = some (before, after)) :
    folder path = before ++ ['/'] := by
  rcases Text.cutLast_eq_some_iff.1 cut with ⟨rfl, noSlash⟩
  have plain : ∀ c ∈ after.reverse, (c != '/') = true := fun c member =>
    bne_iff_ne.2 fun slash => noSlash (slash ▸ List.mem_reverse.1 member)
  unfold folder
  rw [List.reverse_append, List.reverse_cons, List.append_assoc, List.dropWhile_append_of_pos plain,
    List.singleton_append, List.dropWhile_cons_of_neg (by decide), List.reverse_cons, List.reverse_reverse]

theorem folder_of_not_mem {path : List Char} (noSlash : '/' ∉ path) : folder path = [] := by
  unfold folder
  rw [List.reverse_eq_nil_iff, List.dropWhile_eq_nil_iff]
  exact fun c member => bne_iff_ne.2 fun slash => noSlash (slash ▸ List.mem_reverse.1 member)

/-- The place from which the references of a unit file are followed: its folder, or the root if there is no slash. -/
def origin (unitPath : List Char) : Place :=
  if folder unitPath = [] then Place.root else Place.start.follow (folder unitPath)

theorem toList_direct (unitPath reference : String) :
    (if reference.toList.head? = some '/' then normalizePath reference
      else normalizePath (directory unitPath ++ "/" ++ reference)).toList =
        ((origin unitPath.toList).follow reference.toList).path := by
  split
  · rename_i rooted
    rw [Place.toList_normalizePath, Place.follow_rooted Place.start rooted, Place.follow_rooted (origin _) rooted]
  · rename_i relative
    have joins : (directory unitPath ++ "/" ++ reference).toList =
        (directory unitPath).toList ++ '/' :: reference.toList := by
      simp
    rw [Place.toList_normalizePath, joins, Place.follow_append _ _ relative]
    unfold directory origin
    cases cut : Text.cutLast '/' unitPath.toList with
    | none =>
        rw [folder_of_not_mem (Text.cutLast_eq_none_iff.1 cut), if_pos rfl]
        rfl
    | some parts =>
        rw [folder_of_cutLast cut, if_neg (by simp)]
        dsimp only
        rw [String.toList_ofList]

/-! ## What is found -/

section Finding

variable {files : Files} {place other ending : List Char} {resolved : Option WatchedFile}

theorem Files.find?_eq_some_iff {fits : String → Bool} {file : WatchedFile} :
    files.find? fits = some file ↔ files.First (fun held => fits held.path = true) file :=
  Keyed.find?_values_eq_some_iff

theorem Files.find?_eq_none_iff {fits : String → Bool} :
    files.find? fits = none ↔ ∀ file ∈ files.values, ¬ fits file.path = true :=
  List.find?_eq_none

theorem endsAt_iff {path : List Char} :
    (path == ending || (Text.beforeEnd? ('/' :: ending) path).isSome) = true ↔ EndsAt ending path := by
  rw [Bool.or_eq_true, beq_iff_eq, Option.isSome_iff_exists]
  simp only [Text.beforeEnd?, List.isSuffixOf?_eq_some_iff_append_eq]
  rfl

theorem means_resolveYaml (files : Files) (unitPath reference : String) :
    Means files ((origin unitPath.toList).follow reference.toList).path (Place.start.follow reference.toList).joined
      (resolveYaml files unitPath reference) := by
  unfold resolveYaml
  extract_lets direct suffix
  have directPath : direct.toList = ((origin unitPath.toList).follow reference.toList).path :=
    toList_direct unitPath reference
  have suffixPath : suffix = (Place.start.follow reference.toList).joined := by
    rw [← Place.stripStart_path_start, ← Place.toList_normalizePath]
  rw [← directPath, ← suffixPath]
  have atDirect (path : String) : (path == direct) = true ↔ path.toList = direct.toList := by
    rw [beq_iff_eq, String.toList_inj]
  cases found : files.find? fun path => path == direct with
  | some file =>
      have first := Files.find?_eq_some_iff.1 found
      simp only [atDirect] at first
      exact .there first
  | none =>
      have absent := Files.find?_eq_none_iff.1 found
      simp only [atDirect] at absent
      dsimp only
      cases ends : files.find? _ with
      | some file =>
          have first := Files.find?_eq_some_iff.1 ends
          simp only [endsAt_iff] at first
          exact .elsewhere absent first
      | none =>
          have unmatched := Files.find?_eq_none_iff.1 ends
          simp only [endsAt_iff] at unmatched
          exact .nowhere absent unmatched

/-- If the same is meant whichever of two places a reference leads to, a file at one of them is the first with the
ending. -/
theorem Means.foremost (different : place ≠ other) (means : Means files place ending resolved)
    (otherMeans : Means files other ending resolved) : Foremost files ending place := by
  intro file member atPlace
  cases means with
  | nowhere absent _ => exact absurd atPlace (absent file member)
  | elsewhere absent _ => exact absurd atPlace (absent file member)
  | there first =>
      cases otherMeans with
      | there otherFirst => exact absurd (first.fits.symm.trans otherFirst.fits) different
      | elsewhere _ otherFirst => exact ⟨_, otherFirst, first.fits⟩

/-- What is meant if a reference leads to one place is also meant if it leads to another one, provided that the files at
both are the first with the ending. -/
theorem Means.move (ends : EndsAt ending place) (otherEnds : EndsAt ending other) (different : place ≠ other)
    (means : Means files place ending resolved) (foremost : Foremost files ending place)
    (otherForemost : Foremost files ending other) : Means files other ending resolved := by
  have narrow {target : List Char} (targetEnds : EndsAt ending target) (held : WatchedFile)
      (atTarget : held.path.toList = target) : EndsAt ending held.path.toList := atTarget ▸ targetEnds
  cases means with
  | there first =>
      rcases foremost _ first.mem_values first.fits with ⟨leading, leads, atPlace⟩
      obtain rfl := first.unique (leads.narrow atPlace (narrow ends))
      refine .elsewhere (fun file member atOther => ?_) leads
      rcases otherForemost file member atOther with ⟨otherLeading, otherLeads, atOtherPlace⟩
      rw [leads.unique otherLeads] at atPlace
      exact different (atPlace.symm.trans atOtherPlace)
  | elsewhere absent first =>
      by_cases present : ∃ file ∈ files.values, file.path.toList = other
      · rcases present with ⟨file, member, atOther⟩
        rcases otherForemost file member atOther with ⟨leading, leads, atOtherPlace⟩
        obtain rfl := first.unique leads
        exact .there (leads.narrow atOtherPlace (narrow otherEnds))
      · push Not at present
        exact .elsewhere present first
  | nowhere absent unmatched =>
      exact .nowhere (fun file member atOther => unmatched file member (narrow otherEnds file atOther)) unmatched

end Finding

/-- A reference means the file beside the unit file, or else the first one with its ending.  That file is found whenever
the path of the unit file has a folder or the reference begins at the root.  Else it is found exactly if a file beside
the unit file, and one of the same path in the root, is the first one with the ending. -/
theorem resolves_meant_iff (files : Files) (unitPath reference : String) :
    let ending := (Place.start.follow reference.toList).joined
    Means files ((Place.start.follow (folder unitPath.toList)).follow reference.toList).path ending
        (resolveYaml files unitPath reference) ↔
      folder unitPath.toList ≠ [] ∨ reference.toList.head? = some '/' ∨
        Foremost files ending ending ∧ Foremost files ending ('/' :: ending) := by
  intro ending
  have means := means_resolveYaml files unitPath reference
  unfold origin at means
  by_cases inFolder : folder unitPath.toList = []
  · by_cases rooted : reference.toList.head? = some '/'
    · rw [Place.follow_rooted _ rooted] at means ⊢
      exact iff_of_true means (Or.inr (Or.inl rooted))
    · have beside : ((Place.start.follow (folder unitPath.toList)).follow reference.toList).path = ending := by
        rw [inFolder]
        exact Place.path_start rooted
      have different : ending ≠ '/' :: ending := (List.cons_ne_self _ _).symm
      have ends : EndsAt ending ending := Or.inl rfl
      have rootEnds : EndsAt ending ('/' :: ending) := Or.inr (List.suffix_refl _)
      rw [if_pos inFolder, Place.path_root rooted] at means
      rw [beside, or_iff_right (not_not.2 inFolder), or_iff_right rooted]
      constructor
      · exact fun found => ⟨found.foremost different means, means.foremost different.symm found⟩
      · exact fun ⟨foremost, rootForemost⟩ => means.move rootEnds ends different.symm rootForemost foremost
  · rw [if_neg inFolder] at means
    exact iff_of_true means (Or.inl inFolder)

/-- A unit file without a folder.  The file beside it is there, and one that is not is taken for it. -/
theorem file_beside_unit_missed :
    let named (path : String) : String × WatchedFile := (path, ⟨path, "", .zero⟩)
    let files : Files := .ofList [named "a/pod.yml", named "pod.yml"]
    let beside := (Place.start.follow (folder "app.kube".toList)).follow "pod.yml".toList
    (∃ file ∈ files.values, file.path.toList = beside.path) ∧
      (resolveYaml files "app.kube" "pod.yml").map WatchedFile.path = some "a/pod.yml" ∧
      "a/pod.yml".toList ≠ beside.path := by
  decide +kernel

end Unit
end Fleet
