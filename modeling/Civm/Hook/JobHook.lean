import Civm.Foundation.Program
import Civm.Hook.WorkRoots

/-! # The job hook on its work roots

`hook.Run` with everything it deletes, chowns or creates under a work root. The
steps on docker, on the caches in `$HOME` and on the log are left out, and so
are the exit code and the decision. -/

namespace Civm.Hook

open Cleanup (Machine Error Handed Removals absolute resolveSafeTarget)

inductive Listing
  | entries (names : List (List Char))
  | notExist
  | failed (error : Error)

inductive Call
  | diskUsedPct
  | hostDisk
  | diskFreeGB
  | readDir (root : String)
  /-- `SafeWorkDeleteFn` and `SafeWorkChownFn`. -/
  | remove (path : String)
  | chown (path : String)
  | mkdirAll (path : String)

/-- The answers. A call that acts on the file system also tells what machine it
leaves behind. -/
abbrev Answer : Call → Type
  | .diskUsedPct => Option Int
  | .hostDisk => Bool
  | .diskFreeGB => Option Int
  | .readDir _ => Listing
  | .remove _ => Option Error × Machine
  | .chown _ => Option Error × Machine
  | .mkdirAll _ => Option Error × Machine

abbrev Script := Program Answer

abbrev perform (call : Call) : Script (Answer call) := Program.perform call

structure Action where
  name : String
  path : String
  executed : Bool
  warning : Option Error
  error : Option Error

def Action.named (name path : String) (executed : Bool) : Action where
  name := name
  path := path
  executed := executed
  warning := none
  error := none

/-- The entries directly under a root that are left alone. -/
def skips (preserveActiveWorkspace : Bool) (active : Option (List Char)) (name : List Char) :
    Bool :=
  name = "_tool".toList || name = "_actions".toList ||
    (preserveActiveWorkspace && name = "_temp".toList) || active = some name

/-- The loop of `cleanWorkRoot`. It ends with the first entry that cannot be
deleted. -/
def cleanEntries (opts : Options) (root : String) (skip : List Char → Bool) :
    List (List Char) → Action → Script Action
  | [], action => return action
  | name :: rest, action => do
    if skip name then cleanEntries opts root skip rest action
    else if opts.execute then
      match (← perform (.remove (Text.join root (String.ofList name)))).1 with
      | some error => return { action with error := some error }
      | none => cleanEntries opts root skip rest action
    else cleanEntries opts root skip rest action

def cleanWorkRoot (opts : Options) (root : String) (preserveActiveWorkspace : Bool) :
    Script Action := do
  let action := Action.named "work_root" root opts.execute
  if ¬safeWorkRoot root then return { action with error := some (.text "unsafe work root") }
  else
    let active :=
      if preserveActiveWorkspace then activeWorkspaceEntry root opts.gitHubWorkspace else none
    match ← perform (.readDir root) with
    | .notExist => return action
    | .failed error => return { action with error := some error }
    | .entries names =>
      cleanEntries opts root (skips preserveActiveWorkspace active) names action

/-- The two directories of the stub below a root. -/
def stubParts (opts : Options) (root : String) : List Char × List Char :=
  let repo := (Text.trimSpace opts.repository).toList
  let parts :=
    if repo = [] ∧ Text.trimSpace opts.gitHubWorkspace ≠ "" then
      match rel root opts.gitHubWorkspace with
      | some (first :: rest) =>
        if "..".toList.isPrefixOf first then [[]] else first :: rest
      | _ => [[]]
    else Text.splitPath repo
  match parts with
  | owner :: name :: _ =>
    if owner = [] ∨ name = [] then ("workspace".toList, "job".toList) else (owner, name)
  | _ => ("workspace".toList, "job".toList)

/-- `filepath.Join(root, parts[0], parts[1])`. -/
def stubPath (opts : Options) (root : String) : String :=
  let (owner, name) := stubParts opts root
  Text.join root (String.ofList owner ++ "/" ++ String.ofList name)

def ensureWorkspaceStub (opts : Options) (root : String) : Script Action := do
  let action := Action.named "workspace_stub" root opts.execute
  if ¬safeWorkRoot root then return { action with error := some (.text "unsafe work root") }
  else
    let action := { action with path := stubPath opts root }
    if opts.execute then
      let error := (← perform (.mkdirAll (stubPath opts root))).1
      return { action with error := error }
    else return action

/-- The part of `cleanup` that goes over the roots. -/
def cleanRoots (opts : Options) (purgeCaches : Bool) : List String → Script (List Action)
  | [] => return []
  | root :: rest => do
    let cleaned ← cleanWorkRoot opts root purgeCaches
    let stub ← ensureWorkspaceStub opts root
    return cleaned :: stub :: (← cleanRoots opts purgeCaches rest)

def cleanup (opts : Options) (purgeCaches : Bool) : Script (List Action) :=
  cleanRoots opts purgeCaches (workRoots opts)

/-- The loop of `reclaimWorkspaceOwnership`. -/
def reclaimRoots (opts : Options) : List String → Script (List Action)
  | [] => return []
  | root :: rest =>
    match activeWorkspaceEntry root opts.gitHubWorkspace with
    | none => reclaimRoots opts rest
    | some entry => do
      let path := Text.join root (String.ofList entry)
      let warning := (← perform (.chown path)).1
      return { Action.named "workspace_chown" path true with warning := warning } ::
        (← reclaimRoots opts rest)

def reclaimWorkspaceOwnership (opts : Options) : Script (List Action) :=
  if opts.execute then reclaimRoots opts (workRoots opts) else return []

def run (opts : Options) : Script (List Action) := do
  match ← perform .diskUsedPct with
  | none => return []
  | some used =>
    match opts.event with
    | .jobStarted => do
      let wantsCleanup ← perform .hostDisk
      let reclaimed ← reclaimWorkspaceOwnership opts
      let free ← perform .diskFreeGB
      if opts.preCleanupPct ≤ used ∨ wantsCleanup ∨ free.any (· < opts.minFreeGB) then
        return reclaimed ++ (← cleanup opts true)
      else return reclaimed
    | .jobCompleted => do
      let _ ← perform .hostDisk
      cleanup opts false
    | .unsupported _ => return []

/-- The calls a run may make on the file system. -/
inductive Planned (opts : Options) : Call → Prop
  | diskUsedPct : Planned opts .diskUsedPct
  | hostDisk : Planned opts .hostDisk
  | diskFreeGB : Planned opts .diskFreeGB
  | readDir {root} : root ∈ workRoots opts → Planned opts (.readDir root)
  | remove {root name} : root ∈ workRoots opts → Text.Plain name →
    name ≠ "_tool".toList → name ≠ "_actions".toList →
    (opts.event = .jobStarted →
      name ≠ "_temp".toList ∧ activeWorkspaceEntry root opts.gitHubWorkspace ≠ some name) →
    Planned opts (.remove (Text.join root (String.ofList name)))
  | chown {root entry} : root ∈ workRoots opts →
    activeWorkspaceEntry root opts.gitHubWorkspace = some entry →
    Planned opts (.chown (Text.join root (String.ofList entry)))
  | stub {root} : root ∈ workRoots opts → Planned opts (.mkdirAll (stubPath opts root))

end Civm.Hook
