import Mathlib.Algebra.Ring.Int.Defs
import Civm.Cleanup.SafeDelete

/-! # The cleanup of old files

`cleanup.Run` with its three sweeps over old entries: the temporary directory,
the work directories of the runners and the codespaces. The steps that hand no
path to the guarded deletion (docker, apt, cache trimming) are left out. -/

namespace Civm.Cleanup

def defaultTmpDir : String := "/tmp"

def defaultWorkDir : String := "/home/runner/_work"

def defaultCodespaceDir : String := "/home/runner/codespace"

structure Options where
  execute : Bool
  workDir : String
  tmpDir : String
  codespaceDir : String
  tmpThreshold : Int
  workThreshold : Int
  codespaceThreshold : Int
  skipIdleGuard : Bool
  emergencyBypassIdle : Bool
  now : Int

/-- `Action`, one step's result. -/
structure Action where
  name : String
  path : String
  bytesFound : Int
  bytesFreed : Int
  executed : Bool
  err : Option Error

def Action.named (name path : String) : Action where
  name := name
  path := path
  bytesFound := 0
  bytesFreed := 0
  executed := false
  err := none

/-- What the cleanup learns while it runs. -/
structure Conditions extends Removals where
  /-- Whether a docker-heavy job is known to hold the lock. -/
  lockActive : Bool
  lockHolder : String
  /-- The error of the idle check at the start, and of the one before the
  deletions of a sweep over a root. -/
  busy : Option Error
  busyBefore : String → String → Option Error

/-! ## Roots -/

def cleanDir (path field : String) : Except Error String :=
  let clean := Text.clean path
  if path.toList.all Text.isSpace then .error (.text (field ++ " obrigatorio"))
  else if path.toList.contains '\x00' then .error (.text (field ++ " contem byte NUL"))
  else if clean = "." then .error (.text (field ++ " nao pode ser diretorio atual"))
  else .ok clean

def validateCleanupRoot (home root : String) : Except Error String :=
  match cleanDir root "cleanup root" with
  | .error error => .error error
  | .ok clean =>
    if ¬Text.isAbs clean then .ok clean
    else if clean = defaultTmpDir then .ok clean
    else if clean = "/" ∨ clean = "/home" ∨ clean = "/root" then
      .error (.text ("cleanup root perigoso: " ++ clean))
    else if home ≠ "" ∧ clean = Text.clean home then
      .error (.text ("cleanup root nao pode ser home inteiro: " ++ clean))
    else if Text.hasPrefix clean "/home/" ∧ oneSlashInside clean then
      .error (.text ("cleanup root nao pode ser home inteiro: " ++ clean))
    else .ok clean

def cleanupChildGuard (home : String) : Guard := fun path =>
  let clean := Text.clean path
  match validateCleanupRoot home (Text.dir clean) with
  | .error _ => some ("parent " ++ Text.dir clean ++ " is not a valid cleanup root")
  | .ok _ =>
    if Text.base clean = "" then some (clean ++ " is not a direct child of a cleanup root")
    else none

def workCleanupRoots (machine : Machine) (opts : Options) : List String :=
  if Text.clean opts.workDir ≠ Text.clean defaultWorkDir then [opts.workDir]
  else match machine.glob "/home/*/actions-runner-*/_work" with
    | none | some [] => [opts.workDir]
    | some found => found.mergeSort

def codespaceCleanupRoots (machine : Machine) (opts : Options) : List String :=
  if Text.clean opts.codespaceDir ≠ Text.clean defaultCodespaceDir then [opts.codespaceDir]
  else match machine.glob "/home/*/codespace" with
    | none | some [] => []
    | some found => found.mergeSort

/-! ## One sweep -/

mutual

def treeSize : FileTree Info → Int
  | .directory _ entries => entriesSize entries
  | .file info => info.size
  | .link info _ => info.size

def entriesSize : List (List Char × FileTree Info) → Int
  | [] => 0
  | (_, node) :: rest => treeSize node + entriesSize rest

end

structure Candidate where
  path : String
  size : Int
  node : FileTree Info

def twoHours : Int := 7200000000000

def isStale (opts : Options) (threshold : Int) (info : Info) : Bool :=
  ¬(opts.now - threshold < info.modTime) && ¬(opts.now - info.modTime < twoHours)

/-- Whether a path below the root, given by its pieces, starts in a protected
cache directory. -/
def isProtectedWorkCacheDir (relative : Path) : Bool :=
  relative.head? = some "_actions".toList || relative.head? = some "_tool".toList

/-- The callback of the walk, for an entry given by its pieces below the root. -/
def visit (opts : Options) (name : String) (threshold : Int) (relative : Path)
    (node : FileTree Info) : FileTree.Verdict :=
  if relative = [] then .enter
  else if name = "work_old" ∧ isProtectedWorkCacheDir relative then .skip
  else if isStale opts threshold node.info then .take
  else .enter

/-- The entries below a cleaned root that are to be deleted. -/
def candidates (machine : Machine) (opts : Options) (name root : String) (threshold : Int) :
    List Candidate :=
  match machine.lstat root with
  | .found node =>
    (node.collect (visit opts name threshold) []).map fun taken =>
      { path := root ++ "/" ++ String.ofList (Text.joinPath taken.1)
        size := treeSize taken.2
        node := taken.2 }
  | _ => []

/-- A path handed to a removal, with the root that is being swept. -/
structure Reached where
  root : String
  handed : Handed

structure Swept where
  action : Action
  reached : List Reached

def ensureIdle (opts : Options) (answer : Option Error) : Option Error :=
  if opts.skipIdleGuard ∨ ¬opts.execute then none else answer

def deleteAll (machine : Machine) (removals : Removals) (root : String) :
    List Candidate → Swept → Swept
  | [], swept => { swept with action := { swept.action with executed := true } }
  | candidate :: rest, swept =>
    let (result, handed) := remove machine removals (cleanupChildGuard machine.home) candidate.path
    let reached := swept.reached ++ handed.map (Reached.mk root)
    match result.err with
    | none =>
      deleteAll machine removals root rest
        ⟨{ swept.action with bytesFreed := swept.action.bytesFreed + candidate.size }, reached⟩
    | some error =>
      if error.is .unsafePath then deleteAll machine removals root rest ⟨swept.action, reached⟩
      else
        deleteAll machine removals root rest
          ⟨{ swept.action with err := swept.action.err <|> some error }, reached⟩

def scanAndMaybeDelete (machine : Machine) (conditions : Conditions) (opts : Options)
    (name root : String) (threshold : Int) : Swept :=
  match validateCleanupRoot machine.home root with
  | .error error => ⟨{ Action.named name root with err := some error }, []⟩
  | .ok cleanRoot =>
    let found := candidates machine opts name cleanRoot threshold
    let action := { Action.named name cleanRoot with
      bytesFound := (found.map Candidate.size).sum }
    if ¬opts.execute then ⟨action, []⟩
    else
      let busy :=
        if opts.emergencyBypassIdle then none
        else ensureIdle opts (conditions.busyBefore name root)
      match busy with
      | some error => ⟨{ action with err := some error }, []⟩
      | none => deleteAll machine conditions.toRemovals cleanRoot found ⟨action, []⟩

/-! ## The run -/

/-- Adds one root's part to the sweep over several roots. -/
def Swept.add (total part : Swept) : Swept :=
  ⟨{ total.action with
    bytesFound := total.action.bytesFound + part.action.bytesFound
    bytesFreed := total.action.bytesFreed + part.action.bytesFreed
    executed := total.action.executed || part.action.executed
    err := total.action.err <|> part.action.err },
    total.reached ++ part.reached⟩

/-- The sweep over a list of roots, as for work directories and codespaces. -/
def scanRoots (machine : Machine) (conditions : Conditions) (opts : Options) (name : String)
    (threshold : Int) : List String → Swept
  | [root] => scanAndMaybeDelete machine conditions opts name root threshold
  | roots =>
    (roots.map fun root => scanAndMaybeDelete machine conditions opts name root threshold).foldl
      Swept.add ⟨Action.named name (", ".intercalate roots), []⟩

def scanTmpAndMaybeDelete (machine : Machine) (conditions : Conditions) (opts : Options) : Swept :=
  scanAndMaybeDelete machine conditions opts "tmp_old" opts.tmpDir opts.tmpThreshold

def scanWorkAndMaybeDelete (machine : Machine) (conditions : Conditions) (opts : Options) :
    Swept :=
  scanRoots machine conditions opts "work_old" opts.workThreshold (workCleanupRoots machine opts)

def scanCodespaceAndMaybeDelete (machine : Machine) (conditions : Conditions) (opts : Options) :
    Swept :=
  match codespaceCleanupRoots machine opts with
  | [] => ⟨Action.named "codespace_stale" "(nenhum /home/*/codespace)", []⟩
  | roots => scanRoots machine conditions opts "codespace_stale" opts.codespaceThreshold roots

def run (machine : Machine) (conditions : Conditions) (opts : Options) : List Swept :=
  if opts.execute ∧ conditions.lockActive then
    [⟨Action.named "deferred-by-docker-heavy-lock" conditions.lockHolder, []⟩]
  else match ensureIdle opts conditions.busy with
    | some _ =>
      if opts.emergencyBypassIdle then
        [scanTmpAndMaybeDelete machine conditions opts,
          ⟨Action.named "emergency-bypass-idle" "(disk emergency: safe reclaim while busy)", []⟩]
      else [⟨Action.named "deferred-by-host-busy" "(runner/build activity)", []⟩]
    | none =>
      [scanTmpAndMaybeDelete machine conditions opts,
        scanWorkAndMaybeDelete machine conditions opts,
        scanCodespaceAndMaybeDelete machine conditions opts]

end Civm.Cleanup
