import Civm.DetectChanges.Detect

/-! # Which changes are seen

What git prints of a change, and when the detector lets the full CI run for it. -/

namespace Civm.DetectChanges

/-! ## The output of git -/

/-- One entry of a diff. -/
inductive Change
  | added (path : String)
  | copied (source path : String)
  | modified (path : String)
  | renamed (source path : String)
  | typeChanged (path : String)
  | deleted (path : String)
  deriving DecidableEq

namespace Change

def paths : Change → List String
  | .added path => [path]
  | .copied source path => [source, path]
  | .modified path => [path]
  | .renamed source path => [source, path]
  | .typeChanged path => [path]
  | .deleted path => [path]

/-- The name that is printed with `--diff-filter=ACMR --name-only`. -/
def selected : Change → List String
  | .added path => [path]
  | .copied _ path => [path]
  | .modified path => [path]
  | .renamed _ path => [path]
  | .typeChanged _ => []
  | .deleted _ => []

/-- The names that `diff-tree` prints. It does not look for renames and copies. -/
def plain : Change → List String
  | .copied _ path => [path]
  | change => change.paths

end Change

def octal (byte : Nat) : List Char :=
  [byte / 64, byte / 8 % 8, byte % 8].map fun digit => Char.ofNat (48 + digit)

def quoteByte (byte : Nat) : List Char :=
  match byte with
  | 7 => ['\\', 'a']
  | 8 => ['\\', 'b']
  | 9 => ['\\', 't']
  | 10 => ['\\', 'n']
  | 11 => ['\\', 'v']
  | 12 => ['\\', 'f']
  | 13 => ['\\', 'r']
  | 34 => ['\\', '"']
  | 92 => ['\\', '\\']
  | byte => if 32 ≤ byte ∧ byte < 127 then [Char.ofNat byte] else '\\' :: octal byte

def isPlain (char : Char) : Bool :=
  32 ≤ char.toNat && char.toNat < 127 && char ≠ '"' && char ≠ '\\'

/-- A path as git prints it. -/
def quotePath (path : String) : String :=
  if path.toList.all isPlain then path
  else
    let bytes := path.toList.flatMap String.utf8EncodeChar
    String.ofList ('"' :: bytes.flatMap (fun byte => quoteByte byte.toNat) ++ ['"'])

def names (paths : List String) : String :=
  String.ofList ((paths.map fun path => (quotePath path).toList).flatMap (· ++ ['\n']))

theorem newline_not_mem_quoteByte : ∀ byte < 256, '\n' ∉ quoteByte byte := by
  decide +kernel

theorem newline_not_mem_quotePath (path : String) : '\n' ∉ (quotePath path).toList := by
  unfold quotePath
  split
  case isTrue plain =>
    intro member
    have newline := List.all_eq_true.mp plain _ member
    revert newline
    decide
  case isFalse =>
    simp only [String.toList_ofList, List.mem_append, List.mem_cons, List.mem_flatMap, not_or]
    refine ⟨⟨by decide, ?_⟩, by decide⟩
    rintro ⟨byte, _, member⟩
    exact newline_not_mem_quoteByte byte.toNat byte.toNat_lt member

/-- A printed path as the detector reads it. -/
def shown (path : String) : String := trim (quotePath path)

theorem splitLines_names (paths : List String) :
    splitLines (trim (names paths)) = (paths.map shown).filter (· ≠ "") := by
  have oneLine : ∀ text ∈ paths.map fun path => (quotePath path).toList, '\n' ∉ text := by
    intro text member
    rcases List.mem_map.mp member with ⟨path, _, rfl⟩
    exact newline_not_mem_quotePath path
  rw [splitLines, trim, String.toList_ofList, Text.trimmedLines_trim, names, String.toList_ofList,
    Text.trimmedLines_texts oneLine, List.map_map]
  have same : ∀ path, (shown path ≠ "") = (Text.trim isBlank (quotePath path).toList ≠ []) := by
    intro path
    simp [shown, trim]
  simp only [List.filter_map, List.map_map, Function.comp_def, same]
  rfl

/-! ## The commits -/

/-- The commits of a checkout: those that are there, their diffs, and the number of
parents and the changes of a single commit. -/
structure Repository where
  available : String → Bool
  between : Comparison → List Change
  parents : String → Nat
  commit : String → List Change

namespace Repository

variable (repository : Repository)

/-- Without further options `diff-tree` prints nothing for merges and root
commits. -/
def git : Git where
  hasObject := repository.available
  diff comparison := .ok (names ((repository.between comparison).flatMap Change.selected))
  diffTree head := .ok (names
    (if repository.parents head = 1 then (repository.commit head).flatMap Change.plain else []))

/-- The diff that a range stands for: between its base and its head, or the one of
its head if it has no base. -/
def diff (range : Range) : List Change :=
  let head := range.head.getD ""
  let base := range.base.getD ""
  if isCommit range.base then
    if range.mode = .pullRequest then repository.between (.mergeBase base head)
    else repository.between (.direct base head)
  else repository.commit head

/-- The paths of the diff that git prints. -/
def printed (range : Range) : List String :=
  if isCommit range.base then (repository.diff range).flatMap Change.selected
  else if repository.parents (range.head.getD "") = 1 then
    (repository.diff range).flatMap Change.plain
  else []

/-- The commits of a range are there. -/
structure Has (range : Range) : Prop where
  resolved : truthy range.head = true
  head : repository.available (range.head.getD "") = true
  base : isCommit range.base = true → repository.available (range.base.getD "") = true

/-- A path that is not documentation is touched. -/
def TouchesCode (range : Range) : Prop :=
  ∃ change ∈ repository.diff range, ∃ path ∈ change.paths, isDocsFile path = false

/-- A path for which the full CI is run is printed. -/
def PrintsCode (range : Range) : Prop :=
  ∃ path ∈ repository.printed range, shown path ≠ "" ∧
    (isDocsFile (normalizePath (shown path)) = false ∨
      forcesFullCI (normalizePath (shown path)) = true)

end Repository

variable {repository : Repository} {range : Range} {environment : Environment}

/-- What the detector reads of a range. -/
def Repository.lines (repository : Repository) (range : Range) : List String :=
  ((repository.printed range).map shown).filter (· ≠ "")

theorem changedFilesForRange_has (unforced : range.forceAll = false) (has : repository.Has range) :
    changedFilesForRange repository.git range = .ok (repository.lines range) := by
  have present : repository.git.hasObject (range.head.getD "") = true := has.head
  unfold changedFilesForRange Repository.lines Repository.printed Repository.diff
  dsimp only
  rw [unforced, has.resolved, present]
  cases commit : isCommit range.base with
  | true =>
    have based : repository.git.hasObject (range.base.getD "") = true := has.base commit
    rw [based]
    by_cases mode : range.mode = .pullRequest
    · rw [if_pos mode, if_pos mode]
      exact congrArg Except.ok (splitLines_names _)
    · rw [if_neg mode, if_neg mode]
      exact congrArg Except.ok (splitLines_names _)
  | false => exact congrArg Except.ok (splitLines_names _)

theorem changedFilesForRange_ok (resolved : truthy range.head = true)
    (head : repository.available (range.head.getD "") = true) :
    ∃ files, changedFilesForRange repository.git range = .ok files := by
  have present : repository.git.hasObject (range.head.getD "") = true := head
  unfold changedFilesForRange
  dsimp only
  rw [resolved, present]
  cases range.forceAll with
  | true => exact ⟨_, rfl⟩
  | false =>
    simp only [Bool.false_eq_true, if_false, Bool.not_true]
    split
    · split <;> exact ⟨_, rfl⟩
    · split
      · exact ⟨_, rfl⟩
      · split <;> exact ⟨_, rfl⟩

/-! ## The outputs -/

/-- A file for which the full CI is run. -/
def isCode (file : String) : Bool :=
  !isDocsFile (normalizePath file) || forcesFullCI (normalizePath file)

/-- Every name has a value, and the one of the full CI is known. -/
def Values (filterNames : List String) (full : Bool) (evaluations : List (String × Bool)) : Prop :=
  ∃ value : String → Bool, evaluations = filterNames.map (fun name => (name, value name)) ∧
    value "full" = full

theorem evaluateFilter_full (files : List String) :
    evaluateFilter (files.map normalizePath) "full" = .ok (files.any isCode) := by
  have composed : isCode = (fun file => !isDocsFile file || forcesFullCI file) ∘ normalizePath := by
    funext file
    rw [isCode, Function.comp_apply]
  rw [evaluateFilter, if_pos rfl, List.any_map, composed]

theorem evaluateFilter_docs (files : List String) :
    evaluateFilter (files.map normalizePath) "docs" =
      .ok ((files.map normalizePath).any isDocsFile) := by
  have listed : filters.lookup "docs" = some docsPatterns := by decide +kernel
  rw [evaluateFilter, if_neg (by decide), listed]
  rfl

theorem evaluateFilters_known {filterNames : List String}
    (known : ∀ name ∈ filterNames, name = "full" ∨ name = "docs") (files : List String) :
    ∃ evaluations, evaluateFilters files filterNames = .ok evaluations ∧
      Values filterNames (files.any isCode) evaluations := by
  generalize docs : (files.map normalizePath).any isDocsFile = hasDocs
  have evaluated : ∀ name ∈ filterNames, evaluateFilter (files.map normalizePath) name =
    .ok (if name = "full" then files.any isCode else hasDocs) := by
    intro name member
    rcases known name member with rfl | rfl
    · rw [if_pos rfl, evaluateFilter_full]
    · rw [if_neg (by decide), evaluateFilter_docs, docs]
  refine ⟨filterNames.map fun name => (name, if name = "full" then files.any isCode else hasDocs),
    ?_, _, rfl, if_pos rfl⟩
  unfold evaluateFilters
  dsimp only
  clear known
  induction filterNames with
  | nil => rfl
  | cons name rest induction =>
    rw [List.mapM_cons, induction fun other later => evaluated other (List.mem_cons_of_mem _ later),
      evaluated name List.mem_cons_self]
    rfl

theorem evaluateRange_known {filterNames : List String}
    (known : ∀ name ∈ filterNames, name = "full" ∨ name = "docs") (forceAll : Bool)
    (files : List String) :
    ∃ evaluations, evaluateRange forceAll files filterNames = .ok evaluations ∧
      Values filterNames (forceAll || files.any isCode) evaluations := by
  cases forceAll with
  | true => exact ⟨_, rfl, fun _ => true, rfl, rfl⟩
  | false => exact evaluateFilters_known known files

theorem get_full {filterNames : List String} {full : Bool} {evaluations prEvaluations : List (String × Bool)}
    (asked : "full" ∈ filterNames) (values : Values filterNames full evaluations)
    (mode count prCount : String) :
    Outputs.get (evaluations.map (fun (key, value) => (key, boolText value)) ++
      prEvaluations.map (fun (key, value) => ("pr_" ++ key, boolText value)) ++
      [("change_mode", mode), ("changed_count", count), ("pr_changed_count", prCount)]) "full" =
      some (boolText full) := by
  rcases values with ⟨value, rfl, rfl⟩
  have others : (prEvaluations.map fun (key, value) => ("pr_" ++ key, boolText value)).reverse.lookup
    "full" = none := by
    rw [List.lookup_eq_none_iff]
    intro entry member
    rcases List.mem_map.mp (List.mem_reverse.mp member) with ⟨⟨key, value⟩, _, rfl⟩
    simp [← String.toList_inj]
  have found : ((filterNames.map fun name => (name, value name)).map
    fun (key, value) => (key, boolText value)).reverse.lookup "full" = some (boolText (value "full")) := by
    rw [List.map_map, ← List.map_reverse]
    exact List.lookup_graph _ (List.mem_reverse.mpr asked)
  unfold Outputs.get
  rw [List.reverse_append, List.reverse_append, List.lookup_append, List.lookup_append, others, found]
  rfl

theorem main_full {git : Git} {files : List String}
    (asked : "full" ∈ environment.filterNames)
    (known : ∀ name ∈ environment.filterNames, name = "full" ∨ name = "docs")
    (current : changedFilesForRange git environment.ranges.current = .ok files)
    (pullRequest : ∀ range ∈ environment.ranges.pullRequest,
      ∃ prFiles, changedFilesForRange git range = .ok prFiles) :
    ∃ outputs, main git environment = .ok outputs ∧ outputs.get "full" =
      some (boolText (shouldEvaluateAllFilters environment.ranges.current files ||
        files.any isCode)) := by
  have named : environment.filterNames ≠ [] := List.ne_nil_of_mem asked
  have pulled : ∃ prFiles, environment.ranges.pullRequest.elim (.ok files)
    (changedFilesForRange git) = .ok prFiles := by
    cases pull : environment.ranges.pullRequest with
    | none => exact ⟨files, rfl⟩
    | some range => exact pullRequest range pull
  rcases pulled with ⟨prFiles, pulls⟩
  rcases evaluateRange_known known
    (shouldEvaluateAllFilters environment.ranges.current files) files with
    ⟨evaluations, evaluates, values⟩
  rcases evaluateRange_known known (shouldEvaluateAllFilters environment.ranges.current files ||
    environment.ranges.pullRequest.elim (shouldEvaluateAllFilters environment.ranges.current files)
      fun range => shouldEvaluateAllFilters range prFiles) prFiles with
    ⟨prEvaluations, prEvaluates, _⟩
  unfold main
  dsimp only
  rw [if_neg named, current]
  simp only [bind, Except.bind, evaluates, pulls, prEvaluates]
  exact ⟨_, rfl, get_full asked values _ _ _⟩

/-! ## The full CI -/

theorem isCode_iff (file : String) : isCode file = true ↔
    (isDocsFile (normalizePath file) = false ∨ forcesFullCI (normalizePath file) = true) := by
  simp only [isCode, Bool.or_eq_true, Bool.not_eq_true']

theorem any_lines_iff : (repository.lines range).any isCode = true ↔ repository.PrintsCode range := by
  simp only [Repository.lines, Repository.PrintsCode, List.any_eq_true, List.mem_filter,
    List.mem_map, isCode_iff, decide_eq_true_eq]
  grind

theorem any_of_sentinel {files : List String} (member : fullChangeSentinel ∈ files) :
    files.any isCode = true := by
  have sentinel : isCode fullChangeSentinel = true := by decide +kernel
  exact List.any_eq_true.mpr ⟨_, member, sentinel⟩

theorem evaluatesAll_or_any (range : Range) (files : List String) :
    (shouldEvaluateAllFilters range files || files.any isCode) =
      (range.forceAll || files.any isCode) := by
  unfold shouldEvaluateAllFilters
  by_cases member : fullChangeSentinel ∈ files
  · rw [any_of_sentinel member, Bool.or_true, Bool.or_true]
  · rw [show files.contains fullChangeSentinel = false by simpa using member, Bool.or_false]

theorem pullRequest_head {eventName : String} {payload : Payload} {githubSHA : Option String}
    (member : range ∈ (resolveComparisonRanges eventName payload githubSHA).pullRequest) :
    (resolveComparisonRanges eventName payload githubSHA).current.forceAll = false ∧
      range.head = (resolveComparisonRanges eventName payload githubSHA).current.head := by
  unfold resolveComparisonRanges at *
  dsimp only at *
  by_cases event : eventName = "pull_request"
  · rw [if_neg (not_not.mpr event)] at *
    cases member
    rw [event, resolveRange, if_neg (by decide), if_pos rfl]
    dsimp only
    split <;> exact ⟨rfl, rfl⟩
  · rw [if_pos event] at member
    cases member

theorem current_files
    (has : range.forceAll = true ∨ repository.Has range) :
    ∃ files, changedFilesForRange repository.git range = .ok files ∧
      ((range.forceAll || files.any isCode) = true ↔
        range.forceAll = true ∨ repository.PrintsCode range) := by
  cases forced : range.forceAll with
  | true => exact ⟨[fullChangeSentinel], by rw [changedFilesForRange, if_pos forced]; rfl, by simp⟩
  | false =>
    rcases has with forces | has
    · exact absurd (forced.symm.trans forces) (by decide)
    · exact ⟨_, changedFilesForRange_has forced has, by
        rw [Bool.false_or, any_lines_iff]
        simp⟩

theorem boolText_eq_true {value : Bool} : boolText value = "true" ↔ value = true := by
  cases value <;> decide

namespace Sample

def pullRequest : Environment where
  filterNames := ["full"]
  eventName := some "pull_request"
  payload :=
    { action := some "opened", pullRequestBase := some "main", pullRequestHead := some "topic" }
  sha := none

def checkout (change : Change) : Repository where
  available _ := true
  between _ := [change]
  parents _ := 1
  commit _ := [change]

theorem checkout_has (change : Change) : (checkout change).Has pullRequest.ranges.current where
  resolved := by decide +kernel
  head := rfl
  base _ := rfl

end Sample

end Civm.DetectChanges
