import Civm.Foundation.Lines
import Civm.Runner.Units

/-! # Collisions of installed runners

What `DetectCollisions` says about units as systemd names them: the flattened
name of a repository does not tell where its owner ends. -/

namespace Civm.Runner

/-! ## Listings -/

/-- The marks that may stand in front of a unit. -/
def isMark (char : Char) : Bool := ['●', '○', ' '].contains char

/-- A row of `systemctl list-units --type=service 'actions.runner.*'`. -/
structure Row where
  lead : List Char
  unit : String
  rest : List Char
  loadState : List Char
  activeState : List Char
  subState : List Char
  description : List (List Char)
  marks : ∀ char ∈ lead, isMark char = true
  service : ∃ body, unit = "actions.runner." ++ body ++ ".service"
  solid : ∀ char ∈ unit.toList, Text.isSpace char = false
  apart : ∃ space more, rest = space :: more ∧ Text.isSpace space = true
  words : Text.fields rest = loadState :: activeState :: subState :: description
  oneLine : '\n' ∉ rest

namespace Row

variable (row : Row)

def line : List Char := row.lead ++ row.unit.toList ++ row.rest

/-- What is read of a row. -/
def status : Status where
  unitName := row.unit
  repo := (parseRunnerUnit row.unit).1
  name := (parseRunnerUnit row.unit).2
  loadState := String.ofList row.loadState
  activeState := String.ofList row.activeState
  subState := String.ofList row.subState

theorem unit_toList : ∃ tail, row.unit.toList = 'a' :: tail := by
  rcases row.service with ⟨body, named⟩
  rw [named]
  exact ⟨"ctions.runner.".toList ++ body.toList ++ ".service".toList, by simp⟩

theorem rest_remains : row.rest.rdropWhile Text.isSpace ≠ [] := by
  intro blank
  have words := Text.fields_rdropWhile row.rest
  rw [blank, row.words] at words
  cases words

theorem trimmed_line : (Text.trimSpace (String.ofList row.line)).toList.dropWhile isMark =
    row.unit.toList ++ row.rest.rdropWhile Text.isSpace := by
  rcases row.unit_toList with ⟨tail, begins⟩
  have ends := row.rest_remains
  have left : row.line.dropWhile Text.isSpace =
    row.lead.dropWhile Text.isSpace ++ row.unit.toList ++ row.rest := by
    rw [line, List.append_assoc, List.dropWhile_append, List.append_assoc]
    split
    case isTrue blank =>
      rw [List.isEmpty_iff.mp blank, begins]
      rfl
    case isFalse => rfl
  have marks : ∀ char ∈ row.lead.dropWhile Text.isSpace, isMark char = true :=
    fun char member => row.marks char ((List.dropWhile_sublist _).subset member)
  rw [Text.trimSpace_ofList, String.toList_ofList, left, Text.rdropWhile_append _ ends,
    List.append_assoc, List.dropWhile_append_of_pos marks, begins]
  rfl

theorem fields_trimmed : Text.fields (row.unit.toList ++ row.rest.rdropWhile Text.isSpace) =
    row.unit.toList :: row.loadState :: row.activeState :: row.subState :: row.description := by
  have present : row.unit.toList ≠ [] := by
    rcases row.unit_toList with ⟨tail, begins⟩
    simp [begins]
  have words := Text.fields_rdropWhile row.rest
  have start := List.rdropWhile_prefix Text.isSpace row.rest
  rcases row.apart with ⟨space, more, rest, white⟩
  cases trimmed : row.rest.rdropWhile Text.isSpace with
  | nil => exact absurd trimmed row.rest_remains
  | cons first others =>
    rw [trimmed, rest, List.cons_prefix_cons] at start
    rw [trimmed, row.words] at words
    rw [start.1] at words ⊢
    rw [Text.fields_word_append row.solid present white, words]

theorem parseLine_line : parseLine (String.ofList row.line) = some row.status := by
  have read : Text.fields ((Text.trimSpace (String.ofList row.line)).toList.dropWhile isMark) =
    row.unit.toList :: row.loadState :: row.activeState :: row.subState :: row.description := by
    rw [row.trimmed_line, row.fields_trimmed]
  unfold isMark at read
  rw [parseLine, read]
  simp [status]

end Row

/-- The output of `systemctl`: one line for each row. -/
def listing (rows : List Row) : List Char := rows.flatMap fun row => row.line ++ ['\n']

theorem Row.newline_not_mem (row : Row) : '\n' ∉ row.line := by
  rw [line, List.mem_append, List.mem_append, not_or, not_or]
  refine ⟨⟨fun member => ?_, fun member => ?_⟩, row.oneLine⟩
  · cases row.marks _ member
  · cases row.solid _ member

theorem listing_splitOn (rows : List Row) :
    (listing rows).splitOn '\n' = rows.map Row.line ++ [[]] := by
  have texts : listing rows = (rows.map Row.line).flatMap (· ++ ['\n']) := by
    rw [listing, List.flatMap_map]
  rw [texts]
  refine Text.splitOn_texts fun text member => ?_
  rcases List.mem_map.mp member with ⟨row, _, rfl⟩
  exact row.newline_not_mem

theorem parseSystemctlList_listing (rows : List Row) :
    parseSystemctlList (String.ofList (listing rows)) = rows.map Row.status := by
  have read : (fun row : Row => parseLine (String.ofList row.line)) = fun row => some row.status :=
    funext Row.parseLine_line
  have blank : parseLine (String.ofList []) = none := rfl
  rw [parseSystemctlList, String.toList_ofList, listing_splitOn, List.filterMap_append,
    List.filterMap_map]
  simp [read, blank]

/-! ## The names of units -/

def orgUnit (org name : String) : String :=
  "actions.runner." ++ (org ++ "." ++ (name ++ "-org")) ++ ".service"

def repoUnit (org repo name : String) : String :=
  "actions.runner." ++ (org ++ "-" ++ repo ++ "." ++ name) ++ ".service"

/-- The login of an organization: letters, digits, and hyphens between them. -/
structure Login (org : String) : Prop where
  present : org ≠ ""
  chars : ∀ char ∈ org.toList, char.isAlphanum = true ∨ char = '-'
  inner : org.toList.head? ≠ some '-' ∧ org.toList.getLast? ≠ some '-'

section Parsing

variable {body : String} {segment name owner repo : List Char}

theorem parseRunnerUnit_service (body : String) :
    parseRunnerUnit ("actions.runner." ++ body ++ ".service") =
      match Text.cutLast '.' body.toList with
      | none => (body, "")
      | some (segment, name) =>
          match Text.cut '-' segment with
          | none => (String.ofList segment, String.ofList name)
          | some (owner, repo) => (String.ofList (owner ++ '/' :: repo), String.ofList name) := by
  rw [parseRunnerUnit, String.append_assoc, Text.hasPrefix_append, Text.trimPrefix_append,
    Text.trimSuffix_append]
  rw [if_neg (Bool.not_true ▸ Bool.false_ne_true)]
  dsimp only
  cases Text.cutLast '.' body.toList with
  | none => exact congrArg (·, "") String.ofList_toList
  | some parts => rfl

theorem parseRunnerUnit_plain (split : body.toList = segment ++ '.' :: name) (noDot : '.' ∉ name)
    (noDash : '-' ∉ segment) : parseRunnerUnit ("actions.runner." ++ body ++ ".service") =
      (String.ofList segment, String.ofList name) := by
  rw [parseRunnerUnit_service, split, Text.cutLast_append noDot]
  dsimp only
  rw [Text.cut_eq_none.mpr noDash]

theorem parseRunnerUnit_dashed (split : body.toList = owner ++ '-' :: repo ++ '.' :: name)
    (noDot : '.' ∉ name) (noDash : '-' ∉ owner) :
    parseRunnerUnit ("actions.runner." ++ body ++ ".service") =
      (String.ofList (owner ++ '/' :: repo), String.ofList name) := by
  rw [parseRunnerUnit_service, split, Text.cutLast_append noDot]
  dsimp only
  rw [Text.cut_append noDash]

end Parsing

/-! ## Runners of organizations -/

/-- The unit is taken for a runner of the organization. -/
def Row.serves (org : String) (row : Row) : Bool :=
  !isGateRunner row.status && isOrgRunner row.status && row.status.repo = org

theorem hasSuffix_iff {value ending : String} :
    Text.hasSuffix value ending = true ↔ ∃ start, value = start ++ ending := by
  rw [Text.hasSuffix, List.isSuffixOf_iff_suffix]
  constructor
  · rintro ⟨start, equal⟩
    exact ⟨String.ofList start, String.toList_inj.mp (by simpa using equal.symm)⟩
  · rintro ⟨start, rfl⟩
    exact ⟨start.toList, by simp⟩

theorem org_ne_gate (name : String) : Text.hasSuffix (name ++ "-org") "-gate" = false := by
  rw [Bool.eq_false_iff, ne_eq, hasSuffix_iff]
  rintro ⟨start, equal⟩
  have last := congrArg (fun value : String => value.toList.getLast?) equal
  simp at last

theorem orgUnit_body (org name : String) :
    (org ++ "." ++ (name ++ "-org")).toList = org.toList ++ '.' :: (name ++ "-org").toList := by
  simp

theorem Row.serves_iff {row : Row} {org : String} (present : org ≠ "") (noSlash : '/' ∉ org.toList)
    (noDash : '-' ∉ org.toList) :
    row.serves org = true ↔ ∃ name, '.' ∉ name.toList ∧ row.unit = orgUnit org name := by
  constructor
  · intro serves
    rcases row.service with ⟨body, named⟩
    simp only [Row.serves, isGateRunner, isOrgRunner, Row.status, named, parseRunnerUnit_service,
      Bool.and_eq_true, decide_eq_true_eq] at serves
    cases found : Text.cutLast '.' body.toList with
    | none =>
      rw [found] at serves
      cases serves.1.2.1.1
    | some pieces =>
      rcases pieces with ⟨segment, name⟩
      rcases Text.eq_of_cutLast found with ⟨split, noDot⟩
      rw [found] at serves
      cases dash : Text.cut '-' segment with
      | some parts => simp [dash] at serves
      | none =>
        simp only [dash] at serves
        rcases hasSuffix_iff.mp serves.1.2.1.1 with ⟨start, ends⟩
        have noDot' : '.' ∉ start.toList := by
          have chars := congrArg String.toList ends
          rw [String.toList_ofList, String.toList_append] at chars
          intro member
          exact noDot (chars ▸ List.mem_append_left _ member)
        refine ⟨start, noDot', ?_⟩
        have whole : body = org ++ "." ++ (start ++ "-org") := by
          rw [← serves.2, ← ends]
          exact String.toList_inj.mp (by simp [split])
        rw [named, whole, orgUnit]
  · rintro ⟨name, noDot, named⟩
    have noDot' : '.' ∉ (name ++ "-org").toList := by simp [noDot]
    have parsed := parseRunnerUnit_plain (orgUnit_body org name) noDot' noDash
    rw [String.ofList_toList, String.ofList_toList] at parsed
    have suffix := Text.hasSuffix_append name "-org"
    simp [Row.serves, isGateRunner, isOrgRunner, Row.status, named, orgUnit, parsed, org_ne_gate,
      present, noSlash, suffix]

theorem orgUnit_inj {org org' name name' : String} (noDot : '.' ∉ org.toList)
    (noDot' : '.' ∉ org'.toList) (same : orgUnit org name = orgUnit org' name') :
    org = org' ∧ name = name' := by
  rw [orgUnit, orgUnit, String.append_left_inj, String.append_right_inj] at same
  have pieces := congrArg (fun body : String => Text.cut '.' body.toList) same
  simp only [orgUnit_body, Text.cut_append noDot, Text.cut_append noDot', Option.some.injEq,
    Prod.mk.injEq, String.toList_inj, String.append_left_inj] at pieces
  exact pieces

/-! ## Runners of repositories -/

/-- What is taken for the owner of a repository of the organization. -/
def ownerPart (org : String) : String := String.ofList (org.toList.takeWhile (· ≠ '-'))

namespace Login

variable {org : String}

theorem noDot (login : Login org) : '.' ∉ org.toList := by
  intro member
  rcases login.chars _ member with alphanum | dash
  · cases alphanum
  · cases dash

theorem noSlash (login : Login org) : '/' ∉ org.toList := by
  intro member
  rcases login.chars _ member with alphanum | dash
  · cases alphanum
  · cases dash

theorem ownerPart_sublist (org : String) : (ownerPart org).toList.Sublist org.toList := by
  rw [ownerPart, String.toList_ofList]
  exact List.takeWhile_sublist _

theorem ownerPart_noDash (org : String) : '-' ∉ (ownerPart org).toList := by
  rw [ownerPart, String.toList_ofList]
  intro member
  simpa using List.mem_takeWhile_imp member

theorem ownerPart_present (login : Login org) : ownerPart org ≠ "" := by
  intro blank
  have chars := congrArg String.toList blank
  rw [ownerPart, String.toList_ofList] at chars
  cases letters : org.toList with
  | nil => exact login.present (String.toList_inj.mp letters)
  | cons first rest =>
    rw [letters] at chars
    have dash : first = '-' := by simpa using List.takeWhile_eq_nil_iff.mp chars
    exact login.inner.1 (by rw [letters, dash, List.head?_cons])

theorem ownerPart_eq_iff : ownerPart org = org ↔ '-' ∉ org.toList := by
  rw [← String.toList_inj, ownerPart, String.toList_ofList, List.takeWhile_eq_self_iff]
  constructor
  · intro letters member
    simpa using letters '-' member
  · intro absent char member
    simpa using fun dash : char = '-' => absent (dash ▸ member)

theorem dashed (org : String) (more : List Char) :
    ∃ rest, org.toList ++ '-' :: more = (ownerPart org).toList ++ '-' :: rest := by
  by_cases dash : '-' ∈ org.toList
  · rcases List.append_of_mem dash with ⟨before, after, letters⟩
    have cut := @Text.cut_eq_none '-' org.toList
    cases found : Text.cut '-' org.toList with
    | none => exact absurd dash (cut.mp found)
    | some pieces =>
      rcases pieces with ⟨owner, rest⟩
      rcases Text.eq_of_cut found with ⟨letters, absent⟩
      refine ⟨rest ++ '-' :: more, ?_⟩
      have owner_eq : (ownerPart org).toList = owner := by
        rw [ownerPart, String.toList_ofList, letters, List.takeWhile_append_of_pos]
        · simp
        · intro char member
          simpa using fun same : char = '-' => absent (same ▸ member)
      rw [owner_eq, letters]
      simp
  · exact ⟨more, by rw [ownerPart_eq_iff.mpr dash]⟩

end Login

theorem parseRunnerUnit_repoUnit (org repo name : String) : ∃ more ending,
    parseRunnerUnit (repoUnit org repo name) =
      (String.ofList ((ownerPart org).toList ++ '/' :: more), String.ofList ending) ∧
    ending <:+ name.toList := by
  have noDash := Login.ownerPart_noDash org
  cases found : Text.cutLast '.' name.toList with
  | none =>
    rcases Login.dashed org repo.toList with ⟨rest, split⟩
    refine ⟨rest, name.toList, ?_, List.suffix_rfl⟩
    refine parseRunnerUnit_dashed ?_ (Text.cutLast_eq_none.mp found) noDash
    rw [← split]
    simp
  | some pieces =>
    rcases pieces with ⟨before, ending⟩
    rcases Text.eq_of_cutLast found with ⟨letters, noDot⟩
    rcases Login.dashed org (repo.toList ++ '.' :: before) with ⟨rest, split⟩
    refine ⟨rest, ending, ?_, before ++ ['.'], by simp [letters]⟩
    refine parseRunnerUnit_dashed ?_ noDot noDash
    rw [← split]
    simp [letters]

theorem Row.repo_status {row : Row} {org repo name : String} (login : Login org)
    (named : row.unit = repoUnit org repo name) (plain : Text.hasSuffix name "-gate" = false) :
    isGateRunner row.status = false ∧ isOrgRunner row.status = false ∧
      repoOwner row.status = ownerPart org := by
  rcases parseRunnerUnit_repoUnit org repo name with ⟨more, ending, parsed, ends⟩
  have noSlash : '/' ∉ (ownerPart org).toList :=
    fun member => login.noSlash ((Login.ownerPart_sublist org).subset member)
  refine ⟨?_, ?_, ?_⟩
  · have gate : Text.hasSuffix (String.ofList ending) "-gate" = false := by
      have ends : (String.ofList ending).toList <:+ name.toList := by simpa using ends
      rw [Bool.eq_false_iff, ne_eq, Text.hasSuffix, List.isSuffixOf_iff_suffix] at plain ⊢
      exact fun gate => plain (gate.trans ends)
    simp only [isGateRunner, Row.status, named, parsed]
    exact gate
  · simp [isOrgRunner, Row.status, named, parsed]
  · simp only [repoOwner, Row.status, named, parsed, String.toList_ofList,
      Text.cut_append noSlash, String.ofList_toList]

/-! ## What is reported -/

/-- The collision of the two units is reported for the listed rows. -/
def Reported (rows : List Row) (repoUnit orgUnit : String) : Prop :=
  ∃ collision ∈ detectCollisions (parseSystemctlList (String.ofList (listing rows))),
    collision.repoUnit = repoUnit ∧ collision.orgUnit = orgUnit

theorem collisionOf_repoUnit {units : List Status} {status : Status} {collision : Collision}
    (collides : collisionOf units status = some collision) :
    collision.repoUnit = status.unitName := by
  rw [collisionOf] at collides
  split at collides
  case isTrue => cases collides
  case isFalse =>
    rcases Option.map_eq_some_iff.mp collides with ⟨org, _, rfl⟩
    rfl

theorem reported_iff {rows : List Row} {org repo name unit : String} (login : Login org)
    (plain : Text.hasSuffix name "-gate" = false)
    (listed : ∃ row ∈ rows, row.unit = repoUnit org repo name) :
    Reported rows (repoUnit org repo name) unit ↔
      ∃ row, rows.find? (Row.serves (ownerPart org)) = some row ∧ row.unit = unit := by
  have orgRunner : orgRunnerOf (rows.map Row.status) (ownerPart org) =
    (rows.find? (Row.serves (ownerPart org))).map Row.status := by
    rw [orgRunnerOf, List.find?_map]
    rfl
  have collides : ∀ row : Row, row.unit = repoUnit org repo name →
    (collisionOf (rows.map Row.status) row.status).map Collision.orgUnit =
      (rows.find? (Row.serves (ownerPart org))).map Row.unit := by
    intro row named
    rcases row.repo_status login named plain with ⟨gate, orgs, owner⟩
    rw [collisionOf, owner, gate, orgs, if_neg (by simpa using login.ownerPart_present), orgRunner,
      Option.map_map, Option.map_map]
    rfl
  rw [Reported, parseSystemctlList_listing, detectCollisions]
  simp only [List.mem_mergeSort, List.mem_filterMap, List.mem_map]
  constructor
  · rintro ⟨collision, ⟨status, ⟨row, member, rfl⟩, found⟩, same, rfl⟩
    rw [collisionOf_repoUnit found] at same
    have orgUnit := collides row same
    rw [found, Option.map_some] at orgUnit
    rcases Option.map_eq_some_iff.mp orgUnit.symm with ⟨orgRow, first, equal⟩
    exact ⟨orgRow, first, equal⟩
  · rintro ⟨orgRow, first, rfl⟩
    rcases listed with ⟨row, member, named⟩
    have orgUnit := collides row named
    rw [first, Option.map_some] at orgUnit
    rcases Option.map_eq_some_iff.mp orgUnit with ⟨collision, found, equal⟩
    exact ⟨collision, ⟨row.status, ⟨row, member, rfl⟩, found⟩,
      (collisionOf_repoUnit found).trans named, equal⟩

/-- No runner of the organization is listed before this one. -/
def Foremost (rows : List Row) (org name : String) : Prop :=
  ∃ before row after, rows = before ++ row :: after ∧ row.unit = orgUnit org name ∧
    ∀ other ∈ before, ∀ name', '.' ∉ name'.toList → other.unit ≠ orgUnit org name'

theorem Row.serves_owner_iff {org : String} (login : Login org) (row : Row) :
    row.serves (ownerPart org) = true ↔
      ∃ name, '.' ∉ name.toList ∧ row.unit = orgUnit (ownerPart org) name :=
  serves_iff login.ownerPart_present
    (fun member => login.noSlash ((Login.ownerPart_sublist org).subset member))
    (Login.ownerPart_noDash org)

theorem find_serves_iff {rows : List Row} {org name : String} (login : Login org) :
    (∃ row, rows.find? (Row.serves (ownerPart org)) = some row ∧ row.unit = orgUnit org name) ↔
      '-' ∉ org.toList ∧ '.' ∉ name.toList ∧ Foremost rows org name := by
  have ownerDot : '.' ∉ (ownerPart org).toList :=
    fun member => login.noDot ((Login.ownerPart_sublist org).subset member)
  constructor
  · rintro ⟨row, found, named⟩
    rcases List.find?_eq_some_iff_append.mp found with ⟨serves, before, after, split, others⟩
    rcases (row.serves_owner_iff login).mp serves with ⟨other, noDot, named'⟩
    obtain ⟨owner, rfl⟩ := orgUnit_inj login.noDot ownerDot (named.symm.trans named')
    refine ⟨Login.ownerPart_eq_iff.mp owner.symm, noDot, before, row, after, split, named, ?_⟩
    intro earlier member other noDot' same
    have serves' := (earlier.serves_owner_iff login).mpr ⟨other, noDot', owner ▸ same⟩
    simpa [serves'] using others earlier member
  · rintro ⟨noDash, noDot, before, row, after, split, named, others⟩
    have owner := Login.ownerPart_eq_iff.mpr noDash
    refine ⟨row, List.find?_eq_some_iff_append.mpr ⟨?_, before, after, split, ?_⟩, named⟩
    · exact (row.serves_owner_iff login).mpr ⟨name, noDot, by rw [owner, named]⟩
    · intro earlier member
      rw [Bool.not_eq_true', Bool.eq_false_iff, ne_eq, earlier.serves_owner_iff login]
      rintro ⟨other, noDot', same⟩
      exact others earlier member other noDot' (by rw [same, owner])

/-- A runner of a repository is reported together with the runner of its
organization exactly if the login has no hyphen, the name of that runner has no
dot and it is the first of its organization. It is not reported at all exactly if
there is no runner for what comes before the first hyphen of the login. -/
theorem collisions_of_listed_units {rows : List Row} {org repo name name' : String}
    (login : Login org) (plain : Text.hasSuffix name' "-gate" = false)
    (listed : ∃ row ∈ rows, row.unit = repoUnit org repo name') :
    (Reported rows (repoUnit org repo name') (orgUnit org name) ↔
      '-' ∉ org.toList ∧ '.' ∉ name.toList ∧ Foremost rows org name) ∧
    ((∀ unit, ¬Reported rows (repoUnit org repo name') unit) ↔
      ∀ row ∈ rows, ∀ other, '.' ∉ other.toList → row.unit ≠ orgUnit (ownerPart org) other) := by
  simp only [reported_iff login plain listed]
  refine ⟨find_serves_iff login, ?_⟩
  constructor
  · intro silent row member other noDot named
    have serves := (row.serves_owner_iff login).mpr ⟨other, noDot, named⟩
    rcases Option.isSome_iff_exists.mp (List.find?_isSome.mpr ⟨row, member, serves⟩) with
      ⟨first, found⟩
    exact silent first.unit ⟨first, found, rfl⟩
  · rintro absent unit ⟨row, found, _⟩
    have serves := (row.serves_owner_iff login).mp (List.find?_some found)
    rcases serves with ⟨other, noDot, named⟩
    exact absent row (List.mem_of_find?_eq_some found) other noDot named

namespace Sample

def row (body : String)
    (solid : ("actions.runner." ++ body ++ ".service").toList.all (!Text.isSpace ·) = true) :
    Row where
  lead := "  ".toList
  unit := "actions.runner." ++ body ++ ".service"
  rest := " loaded active running GitHub".toList
  loadState := "loaded".toList
  activeState := "active".toList
  subState := "running".toList
  description := ["GitHub".toList]
  marks := List.all_eq_true.mp rfl
  service := ⟨body, rfl⟩
  solid char member := (Bool.not_eq_true' _).mp (List.all_eq_true.mp solid char member)
  apart := ⟨' ', "loaded active running GitHub".toList, rfl, rfl⟩
  words := by decide +kernel
  oneLine := by decide

def hyphenated : List Row := [
  row ("my-org" ++ "." ++ ("civm" ++ "-org")) (by decide +kernel),
  row ("my-org" ++ "-" ++ "app" ++ "." ++ "civm-app") (by decide +kernel)]

def unhyphenated : List Row := [
  row ("acme" ++ "." ++ ("civm" ++ "-org")) (by decide +kernel),
  row ("acme" ++ "-" ++ "app" ++ "." ++ "civm-app") (by decide +kernel)]

theorem login_of_all {org : String} (present : org ≠ "")
    (chars : org.toList.all (fun char => char.isAlphanum || char = '-') = true)
    (inner : org.toList.head? ≠ some '-' ∧ org.toList.getLast? ≠ some '-') : Login org where
  present := present
  chars := by simpa using chars
  inner := inner

theorem hyphenated_login : Login "my-org" := login_of_all (by decide) (by decide) (by decide)

theorem unhyphenated_login : Login "acme" := login_of_all (by decide) (by decide) (by decide)

end Sample

/-- With a hyphen in the login the runner of the repository is not reported. -/
theorem hyphenated_collision_is_missed :
    (∃ row ∈ Sample.hyphenated, row.unit = orgUnit "my-org" "civm") ∧
      (∃ row ∈ Sample.hyphenated, row.unit = repoUnit "my-org" "app" "civm-app") ∧
      ∀ unit, ¬Reported Sample.hyphenated (repoUnit "my-org" "app" "civm-app") unit := by
  have listed : ∃ row ∈ Sample.hyphenated, row.unit = repoUnit "my-org" "app" "civm-app" :=
    ⟨_, .tail _ (.head _), rfl⟩
  refine ⟨⟨_, .head _, rfl⟩, listed, fun unit reported => ?_⟩
  rcases (reported_iff Sample.hyphenated_login (by decide) listed).mp reported with ⟨row, found, _⟩
  have silent : Sample.hyphenated.find? (Row.serves (ownerPart "my-org")) = none := by
    decide +kernel
  cases silent.symm.trans found

theorem unhyphenated_collision_is_reported :
    Reported Sample.unhyphenated (repoUnit "acme" "app" "civm-app") (orgUnit "acme" "civm") := by
  refine (collisions_of_listed_units Sample.unhyphenated_login (by decide)
    ⟨_, .tail _ (.head _), rfl⟩).1.mpr ⟨by decide, by decide, [], _, _, rfl, rfl, nofun⟩

end Civm.Runner
