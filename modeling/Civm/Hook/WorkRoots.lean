import Civm.Cleanup.SafeDelete
import Civm.Foundation.Glob

/-! # The work roots of a job

Which `_work` directories a job hook derives from its environment, and the
guard that keeps deletions to their direct children. -/

namespace Civm.Hook

open Cleanup (Guard absolute)

inductive Event
  | jobStarted
  | jobCompleted
  | unsupported (name : String)
  deriving DecidableEq

structure Options where
  event : Event
  execute : Bool
  preCleanupPct : Int
  minFreeGB : Int
  workRoot : String
  /-- `$RUNNER_TEMP`, `$GITHUB_WORKSPACE` and `$GITHUB_REPOSITORY`. -/
  runnerTemp : String
  gitHubWorkspace : String
  repository : String

def workRootGlob : String := "/home/*/actions-runner*/_work"

def safeWorkRoot (root : String) : Bool :=
  let clean := Text.clean root
  Text.isAbs clean && Glob.matchPath workRootGlob clean

def workChildGuard : Guard := fun path =>
  let clean := Text.clean path
  let parent := Text.dir clean
  if ¬safeWorkRoot parent then some ("parent " ++ parent ++ " is not a safe _work root")
  else if Text.base clean = "" then some (clean ++ " is not a direct child of a _work root")
  else none

/-- `add` in `workRoots`. -/
def addRoot (roots : List String) (root : String) : List String :=
  let root := Text.clean (Text.trimSpace root)
  if safeWorkRoot root ∧ root ∉ roots then roots ++ [root] else roots

def workRoots (opts : Options) : List String :=
  let fromOption := if opts.workRoot ≠ "" then addRoot [] opts.workRoot else []
  let fromTemp :=
    if opts.runnerTemp ≠ "" then addRoot fromOption (Text.dir opts.runnerTemp) else fromOption
  let fromWorkspace :=
    if opts.gitHubWorkspace ≠ "" then
      addRoot fromTemp (Text.dir (Text.dir opts.gitHubWorkspace))
    else fromTemp
  fromWorkspace.mergeSort

/-- The pieces of a cleaned absolute path. -/
def pieces (path : String) : Path :=
  (Text.cleanPieces true (Text.splitPath path.toList) []).reverse

def relPieces : Path → Path → Path
  | first :: base, name :: target =>
    if first = name then relPieces base target
    else (first :: base).map (fun _ => "..".toList) ++ name :: target
  | base, target => base.map (fun _ => "..".toList) ++ target

/-- The pieces of `filepath.Rel` from an absolute base; no pieces stand for
`.`, and `none` is its error. -/
def rel (base target : String) : Option Path :=
  if Text.isAbs target then some (relPieces (pieces base) (pieces target)) else none

/-- The name directly under `root` below which the workspace is. -/
def activeWorkspaceEntry (root workspace : String) : Option (List Char) :=
  if Text.trimSpace workspace = "" then none
  else match rel root workspace with
    | none => none
    | some [] => none
    | some (name :: _) => if name = "..".toList ∨ name = [] then none else some name

/-! ## The shape of a work root -/

theorem clean_eq_absolute {path : String} (rooted : Text.isAbs path = true) :
    Text.clean path = absolute (pieces path) := by
  rw [Text.clean, Text.cleanChars_of_rooted (of_decide_eq_true rooted)]
  rfl

theorem plain_pieces (path : String) : ∀ name ∈ pieces path, Text.Plain name :=
  Text.plain_of_clean path.toList

/-- The pieces of `/home/<user>/actions-runner<suffix>/_work`. -/
def workPieces (user suffix : List Char) : Path :=
  ["home".toList, user, "actions-runner".toList ++ suffix, "_work".toList]

theorem toList_absolute_workPieces (user suffix : List Char) :
    (absolute (workPieces user suffix)).toList =
      "/home/".toList ++ (user ++ ("/actions-runner".toList ++ (suffix ++ "/_work".toList))) := by
  simp [absolute, workPieces, Text.rootedChars, Text.joinPath]

theorem safeWorkRoot_iff {root : String} :
    safeWorkRoot root = true ↔
      ∃ user suffix, '/' ∉ user ∧ '/' ∉ suffix ∧
        Text.clean root = absolute (workPieces user suffix) := by
  have pattern : Glob.ofString workRootGlob =
    ["/home/".toList, "/actions-runner".toList, "/_work".toList] := by decide
  simp only [safeWorkRoot, Glob.matchPath, pattern, Bool.and_eq_true, Glob.accepts_cons,
    Glob.accepts_singleton, decide_eq_true_eq]
  constructor
  · rintro ⟨_, user, _, equal, clear, suffix, _, rfl, clear', rfl⟩
    refine ⟨user, suffix, fun slash => clear _ slash rfl, fun slash => clear' _ slash rfl, ?_⟩
    apply String.ext
    rw [equal, toList_absolute_workPieces]
  · rintro ⟨user, suffix, clear, clear', equal⟩
    rw [equal, toList_absolute_workPieces]
    refine ⟨by simp [Text.isAbs, toList_absolute_workPieces], user, _, rfl, ?_, suffix, _, rfl,
      ?_, rfl⟩
    · rintro char member rfl
      exact clear member
    · rintro char member rfl
      exact clear' member

theorem isAbs_of_safeWorkRoot {root : String} (safe : safeWorkRoot root = true) :
    Text.isAbs root = true := by
  simp only [safeWorkRoot, Bool.and_eq_true] at safe
  exact Text.isAbs_of_isAbs_clean safe.1

theorem absolute_injective {first second : Path} (nonempty : first ≠ []) (nonempty' : second ≠ [])
    (clear : ∀ name ∈ first, '/' ∉ name) (clear' : ∀ name ∈ second, '/' ∉ name)
    (equal : absolute first = absolute second) : first = second := by
  have same : Text.joinPath first = Text.joinPath second :=
    (List.cons.inj (String.ofList_injective equal)).2
  rw [← Text.splitPath_joinPath nonempty clear, same, Text.splitPath_joinPath nonempty' clear']

theorem noSlash_workPieces {user suffix : List Char} (clear : '/' ∉ user) (clear' : '/' ∉ suffix) :
    ∀ name ∈ workPieces user suffix, '/' ∉ name := by
  simp [workPieces, clear, clear']

theorem isAbs_of_isAbs_dir {path : String} (absolute : Text.isAbs (Text.dir path) = true) :
    Text.isAbs path = true := by
  have leads := of_decide_eq_true (Text.isAbs_of_isAbs_clean absolute)
  rw [String.toList_ofList, List.head?_reverse] at leads
  have ends : path.toList.reverse.getLast? = some '/' := by
    rw [← List.takeWhile_append_dropWhile (p := (· ≠ '/')) (l := path.toList.reverse),
      List.getLast?_append, leads]
    rfl
  rw [List.getLast?_reverse] at ends
  exact decide_eq_true ends

/-- The guard accepts the direct children of work roots. -/
theorem workChildGuard_iff {path : String} :
    workChildGuard path = none ↔
      Text.isAbs path = true ∧ ∃ user suffix name,
        pieces path = workPieces user suffix ++ [name] := by
  constructor
  · intro accepted
    unfold workChildGuard at accepted
    dsimp only at accepted
    split at accepted
    · cases accepted
    · rename_i safe
      have safe := not_not.mp safe
      have rooted := Text.isAbs_of_isAbs_clean (isAbs_of_isAbs_dir (isAbs_of_safeWorkRoot safe))
      refine ⟨rooted, ?_⟩
      have plain := plain_pieces path
      rw [clean_eq_absolute rooted] at safe
      rcases List.eq_nil_or_concat (pieces path) with empty | ⟨above, last, split⟩
      · rw [empty] at safe
        exact absurd safe (by decide)
      · rw [List.concat_eq_append] at split
        rw [split] at safe plain
        have abovePlain : ∀ name ∈ above, Text.Plain name := fun name member =>
          plain name (List.mem_append_left _ member)
        rw [absolute, Text.dir_rootedChars abovePlain (plain last (by simp)).noSlash] at safe
        rcases safeWorkRoot_iff.mp safe with ⟨user, suffix, clear, clear', equal⟩
        change Text.clean (absolute above) = _ at equal
        rw [Cleanup.clean_absolute abovePlain] at equal
        have nonempty : above ≠ [] := by
          rintro rfl
          have short := congrArg (fun text => text.toList.length) equal
          rw [toList_absolute_workPieces] at short
          simp [absolute, Text.rootedChars, Text.joinPath] at short
        have same := absolute_injective nonempty (List.cons_ne_nil _ _)
          (fun name member => (abovePlain name member).noSlash)
          (noSlash_workPieces clear clear') equal
        exact ⟨user, suffix, last, split.trans (congrArg (· ++ [last]) same)⟩
  · rintro ⟨rooted, user, suffix, name, split⟩
    have plain := plain_pieces path
    rw [split] at plain
    have abovePlain : ∀ name ∈ workPieces user suffix, Text.Plain name := fun name member =>
      plain name (List.mem_append_left _ member)
    have parent : Text.dir (Text.clean path) = absolute (workPieces user suffix) := by
      rw [clean_eq_absolute rooted, split, absolute,
        Text.dir_rootedChars abovePlain (plain name (by simp)).noSlash]
      rfl
    have safe : safeWorkRoot (Text.dir (Text.clean path)) = true := by
      rw [parent, safeWorkRoot_iff]
      refine ⟨user, suffix, (abovePlain user (by simp [workPieces])).noSlash, ?_,
        Cleanup.clean_absolute abovePlain⟩
      have clear := (abovePlain ("actions-runner".toList ++ suffix) (by simp [workPieces])).noSlash
      exact fun slash => clear (List.mem_append_right _ slash)
    have named : Text.base (Text.clean path) ≠ "" := by
      rw [clean_eq_absolute rooted, split, Text.base, Cleanup.toList_absolute,
        Text.baseChars_rootedChars plain]
      intro empty
      exact (plain name (by simp)).nonempty (by simpa using congrArg String.toList empty)
    simp [workChildGuard, safe, named]

end Civm.Hook
