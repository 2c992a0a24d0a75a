import Civm.Foundation.Lines

/-! # The change detector of the CI

`detect-changes.mjs` asks git for the files of a change and decides whether the
full CI has to run. -/

namespace Civm.DetectChanges

def zeroSHA : String := "0000000000000000000000000000000000000000"

def fullChangeSentinel : String := "__full_change_detection__"

def docsPatterns : List String :=
  ["**/*.md", "**/*.mdx", "**/*.mdc", "AGENTS.md", "CLAUDE.md", "CODEX.md", "MEMORY.md",
    "conversa.md", ".claude/**", ".cursor/**", ".jules/**", ".windsurf/**", "docs/**", "runbooks/**",
    "templates/**/*.md"]

def filters : List (String × List String) := [("docs", docsPatterns)]

/-! ## Lines -/

/-- White space of `String.prototype.trim`. -/
def isBlank (char : Char) : Bool :=
  (9 ≤ char.toNat && char.toNat ≤ 13) || (0x2000 ≤ char.toNat && char.toNat ≤ 0x200a) ||
    [0x20, 0xa0, 0x1680, 0x2028, 0x2029, 0x202f, 0x205f, 0x3000, 0xfeff].contains char.toNat

def trim (value : String) : String := String.ofList (Text.trim isBlank value.toList)

/-- The lines of a text. A carriage return before a newline is trimmed with its
line. -/
def splitLines (value : String) : List String :=
  (Text.trimmedLines isBlank value.toList).map String.ofList

/-! ## Paths -/

def normalizePath (filePath : String) : String :=
  Text.trimPrefix (String.ofList (filePath.toList.map fun char => if char = '\\' then '/' else char))
    "./"

/-- What stands before and after the first occurrence of a text. -/
def cutText (separator : List Char) : List Char → Option (List Char × List Char)
  | [] => if separator = [] then some ([], []) else none
  | char :: rest =>
    if separator.isPrefixOf (char :: rest) then
      some ([], (char :: rest).drop separator.length)
    else (cutText separator rest).map fun (before, after) => (char :: before, after)

/-- The first two pieces of `split`. -/
def splitTwo (value separator : String) : String × String :=
  match cutText separator.toList value.toList with
  | none => (value, "undefined")
  | some (first, rest) =>
    match cutText separator.toList rest with
    | none => (String.ofList first, String.ofList rest)
    | some (second, _) => (String.ofList first, String.ofList second)

def matchesPattern (filePath pattern : String) : Bool :=
  let file := normalizePath filePath
  let normalizedPattern := normalizePath pattern
  if normalizedPattern = "**" then true
  else if Text.contains normalizedPattern "/**/*." then
    let (first, last) := splitTwo normalizedPattern "/**/*"
    Text.hasPrefix file (first ++ "/") && Text.hasSuffix file last
  else if Text.hasPrefix normalizedPattern "**/*." then
    Text.hasSuffix file (Text.trimPrefix normalizedPattern "**/*")
  else if Text.hasSuffix normalizedPattern "/**" then
    let first := Text.trimSuffix normalizedPattern "/**"
    file = first || Text.hasPrefix file (first ++ "/")
  else file = normalizedPattern

def isDocsFile (filePath : String) : Bool := docsPatterns.any (matchesPattern filePath)

/-- Whether `\d` is matched where the pattern has a `0`, and the same character
elsewhere. -/
def matchesDigits : List Char → List Char → Bool
  | [], [] => true
  | expected :: pattern, char :: rest =>
    (if expected = '0' then char.isDigit else char = expected) && matchesDigits pattern rest
  | _, _ => false

/-- `LIVE_GENERATION_ROLLOUT`. -/
def forcesFullCI (filePath : String) : Bool :=
  matchesDigits "runbooks/GENERATION-CLEAN-BOUNDARY-ROLLOUT-0000-00-00.md".toList
    (normalizePath filePath).toList

/-! ## Filters -/

def evaluateFilter (normalizedFiles : List String) (filterName : String) : Except String Bool :=
  if filterName = "full" then
    .ok (normalizedFiles.any fun file => !isDocsFile file || forcesFullCI file)
  else
    match filters.lookup filterName with
    | none => .error ("Unknown change filter: " ++ filterName)
    | some patterns =>
      .ok (normalizedFiles.any fun file => patterns.any fun pattern => matchesPattern file pattern)

def evaluateFilters (files filterNames : List String) : Except String (List (String × Bool)) :=
  let normalizedFiles := files.map normalizePath
  filterNames.mapM fun filterName => do
    let value ← evaluateFilter normalizedFiles filterName
    return (filterName, value)

/-! ## Ranges -/

inductive Mode
  | workflowDispatch
  | incremental
  | pullRequest
  | singleCommit
  deriving DecidableEq

def Mode.text : Mode → String
  | .workflowDispatch => "workflow_dispatch"
  | .incremental => "incremental"
  | .pullRequest => "pull_request"
  | .singleCommit => "single_commit"

structure Range where
  forceAll : Bool := false
  base : Option String := none
  fallbackBase : Option String := none
  head : Option String := none
  mode : Mode

structure Payload where
  action : Option String := none
  before : Option String := none
  after : Option String := none
  pullRequestBase : Option String := none
  pullRequestHead : Option String := none

/-- A value that counts as true. -/
def truthy : Option String → Bool
  | none => false
  | some value => value ≠ ""

/-- `value && value !== ZERO_SHA`. -/
def isCommit (value : Option String) : Bool := truthy value && value ≠ some zeroSHA

def resolveRange (eventName : String) (payload : Payload) (githubSHA : Option String) : Range :=
  if eventName = "workflow_dispatch" then { forceAll := true, mode := .workflowDispatch }
  else if eventName = "pull_request" then
    let head := payload.pullRequestHead.or githubSHA
    if payload.action = some "synchronize" ∧ isCommit payload.before then
      { base := payload.before, fallbackBase := payload.pullRequestBase, head := head,
        mode := .incremental }
    else { base := payload.pullRequestBase, head := head, mode := .pullRequest }
  else if eventName = "push" then
    { base := payload.before, head := payload.after.or githubSHA,
      mode := if isCommit payload.before then .incremental else .singleCommit }
  else { head := githubSHA, mode := .singleCommit }

structure ComparisonRanges where
  current : Range
  pullRequest : Option Range

def resolveComparisonRanges (eventName : String) (payload : Payload) (githubSHA : Option String) :
    ComparisonRanges :=
  let current := resolveRange eventName payload githubSHA
  if eventName ≠ "pull_request" then ⟨current, none⟩
  else
    ⟨current, some { base := payload.pullRequestBase, head := payload.pullRequestHead.or githubSHA,
                     mode := .pullRequest }⟩

/-! ## Changed files -/

/-- What two commits are compared by: `base head`, or `base...head`. -/
inductive Comparison
  | direct (base head : String)
  | mergeBase (base head : String)
  deriving DecidableEq

/-- The commands of git that are run: `cat-file -e`, `diff --name-only
--diff-filter=ACMR` and `diff-tree --no-commit-id --name-only -r`. -/
structure Git where
  hasObject : String → Bool
  diff : Comparison → Except String String
  diffTree : String → Except String String

def runGit (output : Except String String) : Except String String := output.map trim

def changedFilesForRange (git : Git) (range : Range) : Except String (List String) := do
  if range.forceAll then return [fullChangeSentinel]
  else if !truthy range.head then
    throw "Unable to resolve head SHA for change detection"
  else
    let head := range.head.getD ""
    let base := range.base.getD ""
    if !git.hasObject head then
      throw ("Head commit is not available in checkout: " ++ head)
    else if isCommit range.base && !git.hasObject base then
      let fallbackBase := range.fallbackBase.getD ""
      if !truthy range.fallbackBase || !git.hasObject fallbackBase then return [fullChangeSentinel]
      else return splitLines (← runGit (git.diff (.mergeBase fallbackBase head)))
    else if !isCommit range.base then return splitLines (← runGit (git.diffTree head))
    else if range.mode = .pullRequest then
      return splitLines (← runGit (git.diff (.mergeBase base head)))
    else return splitLines (← runGit (git.diff (.direct base head)))

def shouldEvaluateAllFilters (range : Range) (changedFiles : List String) : Bool :=
  range.forceAll || changedFiles.contains fullChangeSentinel

/-! ## The outputs -/

structure Environment where
  filterNames : List String
  eventName : Option String
  payload : Payload
  sha : Option String

/-- The outputs in order. Of outputs with the same key the last one counts. -/
abbrev Outputs := List (String × String)

def Outputs.get (outputs : Outputs) (key : String) : Option String := outputs.reverse.lookup key

def boolText (value : Bool) : String := if value then "true" else "false"

def Environment.ranges (environment : Environment) : ComparisonRanges :=
  resolveComparisonRanges (environment.eventName.getD "push") environment.payload environment.sha

/-- The filters of a range. -/
def evaluateRange (forceAll : Bool) (changedFiles filterNames : List String) :
    Except String (List (String × Bool)) :=
  if forceAll then .ok (filterNames.map fun name => (name, true))
  else evaluateFilters changedFiles filterNames

def main (git : Git) (environment : Environment) : Except String Outputs := do
  let filterNames := environment.filterNames
  if filterNames = [] then
    throw "Usage: node tools/ci/detect-changes.mjs <full|docs>..."
  else
    let ranges := environment.ranges
    let changedFiles ← changedFilesForRange git ranges.current
    let currentForceAll := shouldEvaluateAllFilters ranges.current changedFiles
    let evaluations ← evaluateRange currentForceAll changedFiles filterNames
    let prChangedFiles ← ranges.pullRequest.elim (.ok changedFiles) (changedFilesForRange git)
    let prForceAll := ranges.pullRequest.elim currentForceAll
      fun range => shouldEvaluateAllFilters range prChangedFiles
    let prEvaluations ← evaluateRange (currentForceAll || prForceAll) prChangedFiles filterNames
    return evaluations.map (fun (key, value) => (key, boolText value)) ++
      prEvaluations.map (fun (key, value) => ("pr_" ++ key, boolText value)) ++
      [("change_mode", ranges.current.mode.text), ("changed_count", toString changedFiles.length),
        ("pr_changed_count", toString prChangedFiles.length)]

end Civm.DetectChanges
