import Civm.Foundation.Play
import Civm.Hook.Planning

/-! # What the job hook touches

Every path the hook deletes, chowns or creates is judged in the file tree as it
is when the hook gets there: by the entry that it really is, all links
followed. -/

namespace Civm.Hook

open Cleanup (Machine Error absolute resolveSafeTarget)

/-- Strictly inside a root derived from the job's environment. -/
def Inside (opts : Options) (machine : Machine) (entry : Path) : Prop :=
  ∃ root ∈ workRoots opts, ∃ real rest, machine.resolve root = .real real ∧ rest ≠ [] ∧
    entry = real ++ rest

/-- The names directly under a root that have to survive. -/
def Kept (opts : Options) (machine : Machine) (real : Path) (name : List Char) : Prop :=
  name = "_tool".toList ∨ name = "_actions".toList ∨
    opts.event = .jobStarted ∧ (name = "_temp".toList ∨
      ∃ workspace, machine.resolve opts.gitHubWorkspace = .real workspace ∧
        real ++ [name] <+: workspace)

/-- Deleting the entry takes nothing along that has to survive. -/
def Spares (opts : Options) (machine : Machine) (entry : Path) : Prop :=
  ∀ root ∈ workRoots opts, ∀ real, machine.resolve root = .real real →
    ∀ name, Kept opts machine real name → ¬entry <+: real ++ [name]

/-- Inside a derived root, or a directory on the way to it, the root
included. -/
def LeadsTo (opts : Options) (machine : Machine) (entry : Path) : Prop :=
  ∃ root ∈ workRoots opts, ∃ real missing, makes machine root = some (real, missing) ∧
    (real ++ missing <+: entry ∨ entry <+: real ++ missing)

/-- What the hook promises for a call, in the machine that it is made on. -/
def Confined (opts : Options) (machine : Machine) : Call → Prop
  | .remove path => ∀ entry, Targets machine path entry →
    Inside opts machine entry ∧ Spares opts machine entry
  | .chown path => ∀ entry, Targets machine path entry → Inside opts machine entry
  | .mkdirAll path => ∀ entry, Creates machine path entry → LeadsTo opts machine entry
  | _ => True

/-! ## When the promise is kept -/

/-- No derived root and, when the job starts, not the workspace is really
inside the entry. -/
def Vacant (opts : Options) (machine : Machine) (entry : Path) : Prop :=
  (∀ root ∈ workRoots opts, ∀ real, machine.resolve root = .real real → ¬entry <+: real) ∧
  (opts.event = .jobStarted →
    ∀ workspace, machine.resolve opts.gitHubWorkspace = .real workspace → ¬entry <+: workspace)

/-- A link that is followed leads to an entry inside a derived root whose
deletion takes nothing along, and a child of the root that is deleted itself is
vacant. -/
def Calm (opts : Options) (machine : Machine) : Call → Prop
  | .remove path => ∀ entry, Targets machine path entry →
    (machine.locate path ≠ .real entry →
      Inside opts machine entry ∧ Spares opts machine entry) ∧
    (machine.locate path = .real entry → Vacant opts machine entry)
  | .chown path => ∀ entry, Targets machine path entry →
    machine.locate path ≠ .real entry → Inside opts machine entry
  | .mkdirAll path => ∀ real missing, makes machine path = some (real, missing) → missing ≠ [] →
    LeadsTo opts machine (real ++ missing)
  | _ => True

theorem join_absolute {path : Path} {name : List Char} (nonempty : path ≠ [])
    (plain : ∀ name ∈ path, Text.Plain name) (plainName : Text.Plain name) :
    Text.join (absolute path) (String.ofList name) = absolute (path ++ [name]) := by
  have all : ∀ other ∈ path ++ [name], Text.Plain other := fun other member =>
    (List.mem_append.mp member).elim (plain other) fun here => List.mem_singleton.mp here ▸ plainName
  have text : absolute path ++ "/" ++ String.ofList name = absolute (path ++ [name]) := by
    apply String.ext
    simp [Cleanup.toList_absolute, Text.rootedChars_append nonempty (List.cons_ne_nil name []),
      Text.joinPath]
  rw [Text.join, text, Cleanup.clean_absolute all]

theorem locate_child {machine : Machine} {root : String} {name : List Char} {entry : Path}
    (shaped : Shaped root) (plain : Text.Plain name)
    (located : machine.locate (Text.join root (String.ofList name)) = .real entry) :
    ∃ real, machine.resolve root = .real real ∧ entry = real ++ [name] := by
  rcases shaped with ⟨user, suffix, rfl, plainRoot⟩
  have nonempty : workPieces user suffix ≠ [] := List.cons_ne_nil _ _
  have all : ∀ other ∈ workPieces user suffix ++ [name], Text.Plain other := fun other member =>
    (List.mem_append.mp member).elim (plainRoot other) fun here => List.mem_singleton.mp here ▸ plain
  rw [join_absolute nonempty plainRoot plain, Cleanup.locate_absolute (by simp) all] at located
  rw [Cleanup.resolve_absolute nonempty plainRoot]
  simp only [FileTree.locate, List.getLast?_concat, List.dropLast_concat, plain.nonempty,
    plain.notDot, plain.notDotDot, or_self, if_false] at located
  cases resolved : machine.tree.resolve Machine.maxLinks [] (workPieces user suffix) with
  | notExist | failed message => simp [resolved] at located
  | real real =>
    simp only [resolved, FileTree.Resolution.real.injEq] at located
    exact ⟨real, rfl, located.symm⟩

section

variable {opts : Options} {machine : Machine} {root : String} {name : List Char} {real : Path}

theorem inside_child (derived : root ∈ workRoots opts)
    (resolved : machine.resolve root = .real real) : Inside opts machine (real ++ [name]) :=
  ⟨root, derived, real, [name], resolved, List.cons_ne_nil _ _, rfl⟩

/-- Deleting a child that is not passed over by its name takes nothing along
exactly if it is vacant. -/
theorem spares_child_iff (derived : root ∈ workRoots opts)
    (resolved : machine.resolve root = .real real) (notTool : name ≠ "_tool".toList)
    (notActions : name ≠ "_actions".toList)
    (notTemp : opts.event = .jobStarted → name ≠ "_temp".toList) :
    Spares opts machine (real ++ [name]) ↔ Vacant opts machine (real ++ [name]) := by
  constructor
  · intro spares
    constructor
    · intro other derived' real' resolved' inside
      exact spares other derived' real' resolved' _ (.inl rfl)
        (inside.trans (List.prefix_append _ _))
    · intro started workspace found inside
      exact spares root derived real resolved name
        (.inr (.inr ⟨started, .inr ⟨workspace, found, inside⟩⟩)) List.prefix_rfl
  · rintro ⟨noRoot, noWorkspace⟩ other derived' real' resolved' kept isKept covers
    rcases List.prefix_concat_iff.mp covers with same | inside
    · rcases List.append_inj' same rfl with ⟨rfl, names⟩
      cases names
      rcases isKept with tool | actions | ⟨started, temp | ⟨workspace, found, inside⟩⟩
      · exact notTool tool
      · exact notActions actions
      · exact notTemp started temp
      · exact noWorkspace started workspace found inside
    · exact noRoot other derived' real' resolved' inside

theorem leadsTo_of_prefix {entry longer : Path} (leads : LeadsTo opts machine longer)
    (shorter : entry <+: longer) : LeadsTo opts machine entry := by
  rcases leads with ⟨root, derived, real, missing, made, inside | above⟩
  · refine ⟨root, derived, real, missing, made, ?_⟩
    exact List.prefix_or_prefix_of_prefix inside shorter
  · exact ⟨root, derived, real, missing, made, .inr (shorter.trans above)⟩

end

namespace Sample

open Cleanup (Info)

def info : Info where
  modTime := 0
  uid := 1000
  size := 1

def runner (entry : FileTree Info) : FileTree Info :=
  .directory info [("_work".toList, .directory info [("checkout".toList, entry)])]

def tree (entry : FileTree Info) : FileTree Info :=
  .directory info [("home".toList, .directory info [("ci".toList, .directory info [
    ("actions-runner-1".toList, runner entry),
    ("actions-runner-2".toList, runner (.directory info []))])])]

def machine (entry : FileTree Info) (checks : (tree entry).check = true) : Machine where
  tree := tree entry
  wellFormed := FileTree.wellFormed_of_check _ checks
  rooted := rfl
  workingDirectory := []
  home := "/home/ci"
  uid := 1000
  glob _ := none

def linked : Machine :=
  machine (.link info "/home/ci/actions-runner-2/_work/checkout".toList) (by decide)

def plain : Machine := machine (.directory info []) (by decide)

def opts : Options where
  event := .jobCompleted
  execute := true
  preCleanupPct := 75
  minFreeGB := 58
  workRoot := ""
  runnerTemp := "/home/ci/actions-runner-1/_work/_temp"
  gitHubWorkspace := ""
  repository := ""

def root : String := "/home/ci/actions-runner-1/_work"

def checkoutPath : String := "/home/ci/actions-runner-1/_work/checkout"

def siblingPath : String := "/home/ci/actions-runner-2/_work/checkout"

def trace : List (Civm.Event Answer) :=
  [⟨.diskUsedPct, some 10⟩, ⟨.hostDisk, false⟩, ⟨.readDir root, .entries ["checkout".toList]⟩]

theorem roots : workRoots opts = [root] := by decide +kernel

theorem reaches {entry : FileTree Info} (checks : (tree entry).check = true)
    (resolved : (machine entry checks).resolve root = .real (pieces root)) :
    Reaches fileSystem (run opts) [] (machine entry checks) trace (machine entry checks)
      (.remove checkoutPath) := by
  have safe : safeWorkRoot root = true := by decide +kernel
  have listed : fileSystem.permits (machine entry checks) (.readDir root)
    (.entries ["checkout".toList]) :=
    ⟨pieces root, info, [("checkout".toList, entry)], resolved, rfl, List.Perm.refl _⟩
  refine Reaches.answered (some 10) trivial (Reaches.answered false trivial ?_)
  change Reaches fileSystem (cleanRoots opts false (workRoots opts)) _ _ _ _ _
  rw [roots]
  unfold cleanRoots cleanWorkRoot
  simp only [safe]
  exact Reaches.answered _ listed .here

theorem resolves_plain : plain.resolve root = .real (pieces root) := by decide +kernel

theorem resolves_linked : linked.resolve root = .real (pieces root) := by decide +kernel

end Sample

end Civm.Hook
