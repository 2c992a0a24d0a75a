import Mathlib.Algebra.Group.Int.Defs
import Mathlib.Data.List.Sort
import Civm.Foundation.FileTree
import Civm.Foundation.Program

/-! # Trimming a cache

`cachetrim`: the budgets of the caches below the home directories, and the trim of one
cache to its budget. Times are nanoseconds, and the zero time is 0. A path below a cache
is given by its pieces. -/

namespace Civm.CacheTrim

/-- A size budget of one cache directory. -/
structure Cap where
  path : String
  maxBytes : Int
  minProtect : Int
  packageDepth : Int
  wipeWhole : Bool
  deriving DecidableEq

/-- An error. Callers look for `fs.ErrNotExist` in it. -/
structure Failure where
  text : String
  notExist : Bool

structure FileInfo where
  size : Nat
  modTime : Int

/-- What `filepath.WalkDir` hands to its function. -/
inductive Visit
  | failed (failure : Failure)
  | directory
  | file (path : Path) (info : Except Failure FileInfo)

inductive Call
  | glob (pattern : String)
  /-- Whether there is a directory. -/
  | stat (path : String)
  | walkDir (root : String)
  | removeAll (root : String) (path : Path)

abbrev Answer : Call → Type
  | .glob _ => List String
  | .stat _ => Bool
  | .walkDir _ => List Visit
  | .removeAll _ _ => Option Failure

abbrev Script := Program Answer

abbrev perform (call : Call) : Script (Answer call) := Program.perform call

/-! ## The budgets -/

def existingDirs : List String → List String → Script (List String)
  | [], out => return out
  | path :: rest, out => do
    let clean := Text.clean path
    if clean ∈ out then existingDirs rest out
    else if ← perform (.stat clean) then existingDirs rest (out ++ [clean])
    else existingDirs rest out

/-- The caches that share one budget. -/
structure Family where
  maxGB : Int
  packageDepth : Int
  wipeWhole : Bool
  glob : String
  extraSubs : List String

/-- A sub-path may be a pattern. -/
def extraDir (home sub : String) : Script (List String) :=
  if sub.toList.any ("*?[".toList.contains ·) then perform (.glob (Text.join home sub))
  else return [Text.join home sub]

def extraDirs (home : String) : List String → Script (List String)
  | [] => return []
  | sub :: rest => do
    let here ← extraDir home sub
    return here ++ (← extraDirs home rest)

def familyDirs (family : Family) : List String → Script (List String)
  | [] => return []
  | home :: rest =>
    if home = "" then familyDirs family rest
    else do
      let named ← perform (.glob (Text.join home family.glob))
      let extra ← extraDirs home family.extraSubs
      return named ++ extra ++ (← familyDirs family rest)

def giB : Int := 2 ^ 30

def protect : Int := 24 * 3600000000000

/-- `family` in `Caps`: the budget is divided among the directories. -/
def familyCaps (homes : List String) (family : Family) : Script (List Cap) := do
  let dirs ← existingDirs (← familyDirs family homes) []
  return dirs.map fun dir => {
    path := dir, maxBytes := max 1 (family.maxGB * giB / dirs.length), minProtect := protect
    packageDepth := family.packageDepth, wipeWhole := family.wipeWhole }

def goBuild : Family := ⟨12, 0, true, ".cache/go-build*", []⟩
def yarn : Family := ⟨12, 2, false, ".cache/yarn*", [".yarn-berry-*", ".yarn/cache"]⟩
def golangciLint : Family := ⟨2, 0, true, ".cache/golangci-lint*", []⟩
def playwright : Family := ⟨2, 0, true, ".cache/ms-playwright", []⟩

/-- The caches that every home has at a fixed place. -/
def fixedCaps (home : String) : List Cap :=
  if home = "" then []
  else [
    ⟨Text.join home ".npm/_cacache", 3 * giB, protect, 0, false⟩,
    ⟨Text.join home ".pnpm-store", 5 * giB, protect, 0, false⟩]

def caps (homes : List String) : Script (List Cap) := do
  let goBuildCaps ← familyCaps homes goBuild
  let yarnCaps ← familyCaps homes yarn
  let golangciLintCaps ← familyCaps homes golangciLint
  let playwrightCaps ← familyCaps homes playwright
  return goBuildCaps ++ yarnCaps ++ golangciLintCaps ++ playwrightCaps ++ homes.flatMap fixedCaps

/-! ## The units of a trim -/

/-- A file, or a package with all its files. -/
structure CacheEntry where
  path : Path
  size : Int
  mtime : Int
  deriving DecidableEq

/-- The directory of the package a file belongs to, if it is in one. -/
def packageRoot (cap : Cap) (path : Path) : Option Path :=
  if cap.packageDepth ≤ 0 then none
  else if path.length ≤ cap.packageDepth then none
  else some (path.take cap.packageDepth.toNat)

/-- The package is as new as its newest file. -/
def CacheEntry.grow (entry : CacheEntry) (info : FileInfo) : CacheEntry where
  path := entry.path
  size := entry.size + info.size
  mtime := if info.modTime > entry.mtime then info.modTime else entry.mtime

def addToPackage (root : Path) (info : FileInfo) : List CacheEntry → List CacheEntry
  | [] => [CacheEntry.grow ⟨root, 0, 0⟩ info]
  | entry :: rest =>
    if entry.path = root then entry.grow info :: rest
    else entry :: addToPackage root info rest

structure Collected where
  files : List CacheEntry
  packages : List CacheEntry
  total : Int

def Collected.add (cap : Cap) (found : Collected) (path : Path) (info : FileInfo) : Collected :=
  match packageRoot cap path with
  | some root => {
    files := found.files, packages := addToPackage root info found.packages
    total := found.total + info.size }
  | none => {
    files := found.files ++ [⟨path, info.size, info.modTime⟩], packages := found.packages
    total := found.total + info.size }

/-- The walk of `collectUnits`. -/
def collect (cap : Cap) : List Visit → Collected → Except Failure Collected
  | [], found => .ok found
  | .failed failure :: _, _ => .error failure
  | .directory :: rest, found => collect cap rest found
  | .file path (.ok info) :: rest, found => collect cap rest (found.add cap path info)
  | .file _ (.error failure) :: rest, found =>
    if failure.notExist then collect cap rest found else .error failure

def collectUnits (cap : Cap) : Script (Except Failure (List CacheEntry × Int)) := do
  match collect cap (← perform (.walkDir cap.path)) ⟨[], [], 0⟩ with
  | .error failure => return .error failure
  | .ok found => return .ok (found.files ++ found.packages, found.total)

/-! ## The trim -/

structure Options where
  execute : Bool
  now : Int
  inFlightFloor : Int
  /-- `$HOME`. -/
  home : String

structure Result where
  path : String
  bytesFound : Int := 0
  bytesFreed : Int := 0
  executed : Bool
  error : Option Failure := none
  skippedInFlight : Bool := false

variable (opts : Options) (cap : Cap)

def isUnsafe : Bool :=
  Text.trimSpace cap.path = "" || cap.path = "/" || cap.path = opts.home

def isInFlight (entries : List CacheEntry) : Bool :=
  0 < opts.inFlightFloor && entries.any fun entry => opts.now - opts.inFlightFloor < entry.mtime

def remove (path : Path) : Script (Option Failure) :=
  if opts.execute then perform (.removeAll cap.path path) else return none

/-- The units to trim and their total size, or the result if there is nothing more to
do. -/
def trimGuards : Script (Except Result (List CacheEntry × Int)) := do
  let result : Result := { path := cap.path, executed := opts.execute }
  if isUnsafe opts cap then
    return .error { result with error := some ⟨"unsafe cache path", false⟩ }
  else
    match ← collectUnits cap with
    | .error failure =>
      return .error (if failure.notExist then result else { result with error := some failure })
    | .ok (entries, total) =>
      let result := { result with bytesFound := total }
      if total ≤ cap.maxBytes then return .error result
      else if isInFlight opts entries then return .error { result with skippedInFlight := true }
      else if cap.wipeWhole then
        match ← remove opts cap [] with
        | some failure =>
          if failure.notExist then return .error { result with bytesFreed := total }
          else return .error { result with error := some failure }
        | none => return .error { result with bytesFreed := total }
      else return .ok (entries, total)

structure Trimmed where
  /-- The units, each with whether it has been removed. -/
  entries : List (CacheEntry × Bool)
  freed : Int
  error : Option Failure

def Trimmed.after (unit : CacheEntry × Bool) (trimmed : Trimmed) : Trimmed :=
  { trimmed with entries := unit :: trimmed.entries }

def isProtected (allowProtected : Bool) (entry : CacheEntry) : Bool :=
  !allowProtected && 0 < cap.minProtect && opts.now - cap.minProtect < entry.mtime

def trimEntries (target : Int) (allowProtected : Bool) :
    List (CacheEntry × Bool) → Int → Script Trimmed
  | [], freed => return ⟨[], freed, none⟩
  | (entry, removed) :: rest, freed =>
    if freed ≥ target then return ⟨(entry, removed) :: rest, freed, none⟩
    else if removed || isProtected opts cap allowProtected entry then do
      return (← trimEntries target allowProtected rest freed).after (entry, removed)
    else do
      match ← remove opts cap entry.path with
      | some failure =>
        if failure.notExist then
          return (← trimEntries target allowProtected rest freed).after (entry, true)
        else return ⟨(entry, removed) :: rest, freed, some failure⟩
      | none =>
        return (← trimEntries target allowProtected rest (freed + entry.size)).after
          (entry, true)

/-- `sort.Slice` by the time of modification. -/
def byAge (entries : List CacheEntry) : List CacheEntry :=
  entries.insertionSort fun first second => first.mtime ≤ second.mtime

def trimByAge : Script Result := do
  match ← trimGuards opts cap with
  | .error result => return result
  | .ok (entries, total) =>
    let result : Result := { path := cap.path, bytesFound := total, executed := opts.execute }
    let target := total - cap.maxBytes
    let units := (byAge entries).map fun entry => (entry, false)
    let first ← trimEntries opts cap target false units 0
    if first.error.isSome ∨ first.freed ≥ target then
      return { result with bytesFreed := first.freed, error := first.error }
    else
      let second ← trimEntries opts cap target true first.entries first.freed
      return { result with bytesFreed := second.freed, error := second.error }

end Civm.CacheTrim
