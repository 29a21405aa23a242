import Fleet.Proofs.Destination

namespace Fleet
namespace Destination

/-!
# The URL and the address that is shown with it

A server block gets the target of a route in two forms: as a URL to forward to, and as a host and a port.  The URL has
the authority as it stands in the target, with the port beside the target behind it if there is none in it.  Host and
port are those of the authority before that.  So the two forms agree if the authority of the URL names the host and the
port that are shown.

What an authority names is said here from how it is put together (`Names`), and so is which parts a text has (`Forms`).
There is one kind of authority for which the two forms can differ.  Behind an address in brackets there may be something
that is no port and does not count, and a port that is put behind that does not count either.
-/

variable {authority host address tail : List Char} {port : UInt16} {named : Option UInt16}

/-! ## Authorities -/

/-- A text is a port with a colon in front of it. -/
def PortText (text : List Char) (port : UInt16) : Prop :=
  ∃ digits, text = ':' :: digits ∧ Number.Writes digits port

/-- An authority, and the host and the port that it names.  An address in brackets ends at the first closing one, and
what is behind it does not belong to the host even if it is no port. -/
inductive Names : List Char → List Char → Option UInt16 → Prop
  | bracketedPort {address tail : List Char} {port : UInt16} (closed : ']' ∉ address) (portText : PortText tail port) :
      Names ('[' :: (address ++ ']' :: tail)) address (some port)
  | bracketed {address tail : List Char} (closed : ']' ∉ address) (noPort : ∀ port, ¬ PortText tail port) :
      Names ('[' :: (address ++ ']' :: tail)) address none
  | hostPort {host tail : List Char} {port : UInt16} (plain : ¬ Bracketed (host ++ tail))
      (portText : PortText tail port) : Names (host ++ tail) host (some port)
  | host {host : List Char} (plain : ¬ Bracketed host)
      (noPort : ∀ front tail port, host = front ++ tail → ¬ PortText tail port) : Names host host none

/-- An address in brackets, with something behind it that is no port. -/
def Trailed (authority : List Char) : Prop :=
  ∃ address tail, authority = '[' :: (address ++ ']' :: tail) ∧ ']' ∉ address ∧ tail ≠ [] ∧ ∀ port, ¬ PortText tail port

/-- The port that is written behind an address in brackets. -/
def portBehind? (tail : List Char) : Option UInt16 :=
  match tail with
  | ':' :: digits => Number.word16? digits
  | _ => none

theorem portBehind?_eq_some_iff : portBehind? tail = some port ↔ PortText tail port := by
  unfold portBehind?
  constructor
  · intro reads
    split at reads
    · exact ⟨_, rfl, Number.word16?_eq_some_iff.1 reads⟩
    · cases reads
  · rintro ⟨digits, rfl, writes⟩
    exact Number.word16?_eq_some_iff.2 writes

theorem portBehind?_eq_none_iff : portBehind? tail = none ↔ ∀ port, ¬ PortText tail port := by
  rw [Option.eq_none_iff_forall_ne_some]
  exact forall_congr' fun _ => not_congr portBehind?_eq_some_iff

theorem splitAuthority_of_brackets (closed : ']' ∉ address) :
    splitAuthority ('[' :: (address ++ ']' :: tail)) = (address, portBehind? tail) := by
  unfold splitAuthority portBehind?
  extract_lets unbracketed
  simp only [Text.cutFirst_append closed]
  cases tail with
  | nil => rfl
  | cons c digits =>
      by_cases colon : c = ':'
      · subst colon
        rfl
      · split <;> simp_all

/-- An authority with a port behind it that is not within brackets. -/
theorem splitAuthority_of_port (plain : ¬ Bracketed (host ++ tail)) (portText : PortText tail port) :
    splitAuthority (host ++ tail) = (host, some port) := by
  rcases portText with ⟨digits, rfl, writes⟩
  have reads := Number.word16?_eq_some_iff.2 writes
  have noColon : ':' ∉ digits := Number.not_mem_of_word16? reads (by decide) (by decide)
  rw [splitAuthority_of_plain plain, Text.cutLast_append ':' host noColon]
  simp only [reads]

theorem splitAuthority_of_noPort (plain : ¬ Bracketed host)
    (noPort : ∀ front tail port, host = front ++ tail → ¬ PortText tail port) : splitAuthority host = (host, none) := by
  rw [splitAuthority_of_plain plain]
  cases cut : Text.cutLast ':' host with
  | none => rfl
  | some parts =>
      have noWord : Number.word16? parts.2 = none := by
        refine Option.eq_none_iff_forall_ne_some.2 fun port reads => ?_
        exact noPort parts.1 (':' :: parts.2) port (Text.eq_of_cutLast cut) ⟨_, rfl, Number.word16?_eq_some_iff.1 reads⟩
      simp only [noWord]

theorem Names.splitAuthority_eq (names : Names authority host named) : splitAuthority authority = (host, named) := by
  cases names with
  | bracketedPort closed portText => rw [splitAuthority_of_brackets closed, portBehind?_eq_some_iff.2 portText]
  | bracketed closed noPort => rw [splitAuthority_of_brackets closed, portBehind?_eq_none_iff.2 noPort]
  | hostPort plain portText => exact splitAuthority_of_port plain portText
  | host plain noPort => exact splitAuthority_of_noPort plain noPort

theorem exists_names (authority : List Char) : ∃ host named, Names authority host named := by
  by_cases bracketed : Bracketed authority
  · rcases bracketed with ⟨inside, rfl, closed⟩
    rcases List.eq_append_cons_of_mem closed with ⟨address, tail, rfl, first⟩
    by_cases portText : ∃ port, PortText tail port
    · rcases portText with ⟨port, portText⟩
      exact ⟨address, some port, .bracketedPort first portText⟩
    · exact ⟨address, none, .bracketed first (not_exists.1 portText)⟩
  · by_cases noPort : ∀ front tail port, authority = front ++ tail → ¬ PortText tail port
    · exact ⟨authority, none, .host bracketed noPort⟩
    · push Not at noPort
      rcases noPort with ⟨front, tail, port, rfl, portText⟩
      exact ⟨front, some port, .hostPort bracketed portText⟩

/-- Every authority names one host and at most one port, and they are found by taking it apart. -/
theorem splitAuthority_eq_iff : splitAuthority authority = (host, named) ↔ Names authority host named := by
  refine ⟨fun split => ?_, Names.splitAuthority_eq⟩
  rcases exists_names authority with ⟨other, otherPort, names⟩
  cases split.symm.trans names.splitAuthority_eq
  exact names

/-! ## A port that is put behind an authority -/

/-- An authority with the port beside it put behind it if it names none itself: the host that is shown, the whole, and
the port that is shown. -/
inductive Completes (authority : List Char) : Option UInt16 → List Char → List Char → Option UInt16 → Prop
  | own {beside : Option UInt16} {host : List Char} {port : UInt16} (names : Names authority host (some port)) :
      Completes authority beside host authority (some port)
  | added {host : List Char} {port : UInt16} (names : Names authority host none) :
      Completes authority (some port) host (authority ++ ':' :: (toString port.toNat).toList) (some port)
  | neither {host : List Char} (names : Names authority host none) : Completes authority none host authority none

theorem portText_toString (port : UInt16) : PortText (':' :: (toString port.toNat).toList) port :=
  ⟨_, rfl, Number.word16?_eq_some_iff.1 (Number.word16?_toString port)⟩

/-- A port does not close a bracket. -/
theorem not_bracketed_append (plain : ¬ Bracketed host) (portText : PortText tail port) :
    ¬ Bracketed (host ++ tail) := by
  rcases portText with ⟨digits, rfl, writes⟩
  rintro ⟨inside, starts, closed⟩
  cases host with
  | nil => cases starts
  | cons c rest =>
      rcases List.cons.inj starts with ⟨rfl, rfl⟩
      rcases List.mem_append.1 closed with before | behind
      · exact plain ⟨rest, rfl, before⟩
      · rcases List.mem_cons.1 behind with colon | inDigits
        · cases colon
        · exact Number.not_mem_of_word16? (Number.word16?_eq_some_iff.2 writes) (by decide) (by decide) inDigits

/-- A port that is put behind an authority without one is found there again, unless something stands in between. -/
theorem Names.append (names : Names authority host none) (untrailed : ¬ Trailed authority)
    (portText : PortText tail port) : Names (authority ++ tail) host (some port) := by
  cases names with
  | @bracketed _ behind closed noPort =>
      have nothing : behind = [] := by
        by_contra something
        exact untrailed ⟨host, behind, rfl, closed, something, noPort⟩
      subst nothing
      have whole : '[' :: (host ++ [']']) ++ tail = '[' :: (host ++ ']' :: tail) := by simp
      rw [whole]
      exact .bracketedPort closed portText
  | host plain noPort => exact .hostPort (not_bracketed_append plain portText) portText

/-- Behind an address in brackets with something else behind it, a port does not count. -/
theorem not_names_append (trailed : Trailed authority) (portText : PortText tail port) :
    ¬ Names (authority ++ tail) host (some port) := by
  rcases trailed with ⟨address, behind, rfl, closed, something, _⟩
  rcases portText with ⟨digits, rfl, _⟩
  intro names
  have whole : '[' :: (address ++ ']' :: behind) ++ ':' :: digits =
      '[' :: (address ++ ']' :: (behind ++ ':' :: digits)) := by simp
  have split := names.splitAuthority_eq
  rw [whole, splitAuthority_of_brackets closed, Prod.mk.injEq, portBehind?_eq_some_iff] at split
  rcases split.2 with ⟨written, starts, writes⟩
  cases behind with
  | nil => exact something rfl
  | cons c rest =>
      rcases List.cons.inj starts with ⟨_, rfl⟩
      have colon : ':' ∈ rest ++ ':' :: digits := List.mem_append_right rest List.mem_cons_self
      exact Number.not_mem_of_word16? (Number.word16?_eq_some_iff.2 writes) (by decide) (by decide) colon

/-- The whole names what is shown, with one exception. -/
theorem Completes.names_iff {beside : Option UInt16} {whole : List Char}
    (completes : Completes authority beside host whole named) :
    Names whole host named ↔ ¬ (Trailed authority ∧ beside.isSome = true) := by
  cases completes with
  | @own beside host port names =>
      refine iff_of_true names fun ⟨⟨address, tail, trailed, closed, _, noPort⟩, _⟩ => ?_
      have split := names.splitAuthority_eq
      rw [trailed, splitAuthority_of_brackets closed, portBehind?_eq_none_iff.2 noPort] at split
      cases split
  | @added host port names =>
      constructor
      · exact fun again exception => not_names_append exception.1 (portText_toString port) again
      · exact fun plain => names.append (fun trailed => plain ⟨trailed, rfl⟩) (portText_toString port)
  | neither names => exact iff_of_true names fun ⟨_, given⟩ => nomatch given

/-! ## Whole targets -/

/-- A text with the scheme that it starts with, or without one, and the rest of it. -/
inductive Schemed : List Char → List Char → List Char → Prop
  | given {scheme rest : List Char} (first : ¬ "://".toList <:+: scheme ++ ":/".toList) :
      Schemed (scheme ++ ("://".toList ++ rest)) scheme rest
  | default {text : List Char} (noScheme : ¬ "://".toList <:+: text) : Schemed text "http".toList text

/-- A text has the given parts, and slashes behind them that do not count. -/
structure Forms (text : List Char) (parts : Parts) : Prop where
  whole : ∃ slashes, Schemed text parts.scheme (parts.authority ++ parts.path ++ slashes) ∧ ∀ c ∈ slashes, c = '/'
  authority : '/' ∉ parts.authority
  path : parts.path = [] ∨ parts.path.head? = some '/'
  noTrailing : parts.path.getLast? ≠ some '/'

/-- A scheme ends before the first occurrence of its mark, also where it is not written in the text. -/
theorem Schemed.first {text scheme rest : List Char} (schemed : Schemed text scheme rest) :
    ¬ "://".toList <:+: scheme ++ ":/".toList := by
  cases schemed with
  | given first => exact first
  | default => decide

theorem schemed_iff {text scheme rest : List Char} :
    (Text.cutAround "://".toList text).getD ("http".toList, text) = (scheme, rest) ↔ Schemed text scheme rest := by
  have mark : ("://".toList : List Char) ≠ [] := by decide
  have start : ("://".toList : List Char).dropLast = ":/".toList := by decide
  have absent : Text.cutAround "://".toList text = none ↔ ¬ "://".toList <:+: text := by
    rw [← Text.occursIn_eq_true_iff, Text.occursIn, Bool.not_eq_true, Option.isSome_eq_false_iff,
      Option.isNone_iff_eq_none]
  constructor
  · intro cut
    cases found : Text.cutAround "://".toList text with
    | none =>
        rw [found] at cut
        cases cut
        exact .default (absent.1 found)
    | some both =>
        rw [found] at cut
        cases cut
        rcases (Text.cutAround_eq_some_iff mark).1 found with ⟨rfl, first⟩
        exact .given (start ▸ first)
  · rintro (first | noScheme)
    · rw [(Text.cutAround_eq_some_iff mark).2 ⟨rfl, start ▸ first⟩]
      rfl
    · rw [absent.2 noScheme]
      rfl

/-- The parts of a text, with the blanks around it if there are any. -/
def partsIn (text : List Char) : Parts :=
  let (scheme, rest) := (Text.cutAround "://".toList text).getD ("http".toList, text)
  let rest := Text.stripEnd '/' rest
  ⟨scheme, rest.takeWhile fun c => c != '/', rest.dropWhile fun c => c != '/'⟩

theorem forms_partsIn (text : List Char) : Forms text (partsIn text) := by
  rcases cut : (Text.cutAround "://".toList text).getD ("http".toList, text) with ⟨scheme, rest⟩
  have schemed := schemed_iff.1 cut
  have parts : partsIn text = ⟨scheme, (Text.stripEnd '/' rest).takeWhile fun c => c != '/',
      (Text.stripEnd '/' rest).dropWhile fun c => c != '/'⟩ := by
    unfold partsIn
    rw [cut]
  rw [parts]
  refine ⟨?_, ?_, ?_, ?_⟩
  · rcases Text.exists_eq_stripEnd_append '/' rest with ⟨slashes, whole, each⟩
    refine ⟨slashes, ?_, each⟩
    rw [List.takeWhile_append_dropWhile, ← whole]
    exact schemed
  · intro slash
    simpa using List.mem_takeWhile_imp slash
  · cases path : (Text.stripEnd '/' rest).dropWhile fun c => c != '/' with
    | nil => exact Or.inl rfl
    | cons c more =>
        have slash := List.head?_dropWhile_not (fun c => c != '/') (Text.stripEnd '/' rest)
        rw [path] at slash
        right
        simpa using slash
  · intro last
    refine Text.getLast?_stripEnd '/' rest ?_
    rw [← List.takeWhile_append_dropWhile (p := fun c => c != '/') (l := Text.stripEnd '/' rest), List.getLast?_append,
      last, Option.some_or]

theorem Forms.eq_partsIn {text : List Char} {parts : Parts} (forms : Forms text parts) : parts = partsIn text := by
  rcases forms with ⟨⟨slashes, schemed, each⟩, noSlash, starts, noTrailing⟩
  rcases parts with ⟨scheme, authority, path⟩
  dsimp only at *
  have ends : (authority ++ path).getLast? ≠ some '/' := by
    rw [List.getLast?_append]
    intro last
    rcases Option.or_eq_some_iff.1 last with inPath | ⟨_, inAuthority⟩
    · exact noTrailing inPath
    · exact noSlash (List.mem_of_getLast? inAuthority)
  have plain : ∀ c ∈ authority, (c != '/') = true := fun c member =>
    bne_iff_ne.2 fun slash => noSlash (slash ▸ member)
  have cutPath : path.takeWhile (fun c => c != '/') = [] ∧ path.dropWhile (fun c => c != '/') = path := by
    cases path with
    | nil => exact ⟨rfl, rfl⟩
    | cons c rest =>
        obtain rfl : c = '/' := by simpa using starts
        exact ⟨rfl, rfl⟩
  unfold partsIn
  rw [schemed_iff.2 schemed]
  dsimp only
  rw [Text.stripEnd_append ends each, List.takeWhile_append_of_pos plain, List.dropWhile_append_of_pos plain,
    cutPath.1, cutPath.2, List.append_nil]

/-- Every text has its parts in one way. -/
theorem forms_iff {text : List Char} {parts : Parts} : Forms text parts ↔ parts = partsIn text :=
  ⟨Forms.eq_partsIn, fun same => same ▸ forms_partsIn text⟩

theorem forms_partsOf (target : String) : Forms (Text.trim target.toList) (partsOf target) :=
  forms_partsIn (Text.trim target.toList)

/-- A text that is put together of the scheme and the path of another one and an authority has these parts. -/
theorem Forms.exchange {text : List Char} {parts : Parts} (forms : Forms text parts) (noSlash : '/' ∉ authority) :
    Forms (parts.scheme ++ ("://".toList ++ (authority ++ parts.path))) ⟨parts.scheme, authority, parts.path⟩ where
  whole := by
    rcases forms.whole with ⟨_, schemed, _⟩
    refine ⟨[], ?_, nofun⟩
    rw [List.append_nil]
    exact .given schemed.first
  authority := noSlash
  path := forms.path
  noTrailing := forms.noTrailing

/-! ## Routes -/

/-- What is put behind an authority: the port beside it, if there is none in it. -/
def addition (named beside : Option UInt16) : List Char :=
  match named, beside with
  | none, some port => ':' :: (toString port.toNat).toList
  | _, _ => []

theorem ofRoute_eq {route : Route} (split : splitAuthority (partsOf route.targetService).authority = (host, named)) :
    ofRoute route =
      let parts := partsOf route.targetService
      (String.ofList (parts.scheme ++ "://".toList ++ parts.authority ++ addition named route.targetPort ++ parts.path),
        ⟨String.ofList host, named.or route.targetPort, route.ssl⟩) := by
  unfold ofRoute
  dsimp only
  rw [split]
  rfl

/-- The URL has the authority of the target in it, completed by the port of the route. -/
theorem exists_completes (route : Route) :
    let parts := partsOf route.targetService
    let shown := (ofRoute route).2
    ∃ whole, Completes parts.authority route.targetPort shown.targetHost.toList whole shown.targetPort ∧
      (ofRoute route).1.toList = parts.scheme ++ ("://".toList ++ (whole ++ parts.path)) := by
  intro parts shown
  rcases split : splitAuthority parts.authority with ⟨host, named⟩
  have names := splitAuthority_eq_iff.1 split
  unfold shown
  rw [ofRoute_eq split]
  dsimp only
  rw [String.toList_ofList, String.toList_ofList]
  cases named with
  | some port => exact ⟨_, .own names, by simp [addition, parts]⟩
  | none =>
      cases route.targetPort with
      | some port => exact ⟨_, .added names, by simp [addition, parts]⟩
      | none => exact ⟨_, .neither names, by simp [addition, parts]⟩

theorem Completes.not_mem {beside : Option UInt16} {whole : List Char}
    (completes : Completes authority beside host whole named) (noSlash : '/' ∉ authority) : '/' ∉ whole := by
  cases completes with
  | own | neither => exact noSlash
  | added names =>
      refine List.not_mem_append noSlash fun inPort => ?_
      rcases List.mem_cons.1 inPort with colon | digit
      · cases colon
      · cases Number.isDigit_of_mem_toString digit

/-- The URL of a route has the scheme and the path of its target, and between them the authority of the target, to which
the port of the route is added exactly if it names none itself.  What the URL has there names the host and the port that
are shown with it, unless a port is added behind an address in brackets with something else behind it. -/
theorem forwards_to_shown (route : Route) :
    let url := (ofRoute route).1.toList
    let shown := (ofRoute route).2
    ∃ parts, (∀ other, Forms (Text.trim route.targetService.toList) other ↔ other = parts) ∧
      ∃ whole, Completes parts.authority route.targetPort shown.targetHost.toList whole shown.targetPort ∧
        url = parts.scheme ++ ("://".toList ++ (whole ++ parts.path)) ∧
        (∀ other, Forms url other ↔ other = ⟨parts.scheme, whole, parts.path⟩) ∧
        (Names whole shown.targetHost.toList shown.targetPort ↔
          ¬ (Trailed parts.authority ∧ route.targetPort.isSome = true)) := by
  intro url shown
  have forms := forms_partsOf route.targetService
  rcases exists_completes route with ⟨whole, completes, written⟩
  have urlForms := forms.exchange (completes.not_mem forms.authority)
  rw [← written] at urlForms
  refine ⟨partsOf route.targetService, fun other => ?_, whole, completes, written, fun other => ?_, completes.names_iff⟩
  · rw [forms_iff, ← forms.eq_partsIn]
  · rw [forms_iff, ← urlForms.eq_partsIn]

end Destination
end Fleet
