import Civm.Foundation.FileTree
import Civm.Foundation.GoError

/-! # Guarded deletion

`safedelete.Remove`: the fixed checks of a path, the caller's guard, the
re-check of the resolved target, and the removal with its escalation to the
privileged wrapper. Every path that is handed to a removal is recorded. -/

namespace Civm.Cleanup

inductive Sentinel
  | unsafePath
  deriving DecidableEq

abbrev Error := GoError Sentinel Empty

/-- What is recorded of a directory entry. Times are in nanoseconds. -/
structure Info where
  modTime : Int
  uid : Nat
  size : Int

/-- The machine a cleanup runs on. Its file tree does not change meanwhile. -/
structure Machine where
  tree : FileTree Info
  wellFormed : tree.WellFormed
  rooted : tree.isDirectory = true
  workingDirectory : Path
  /-- `$HOME`, empty if unset. -/
  home : String
  /-- `os.Getuid`. -/
  uid : Nat
  /-- `filepath.Glob`; `none` is its error. -/
  glob : String → Option (List String)

inductive Stat
  | found (node : FileTree Info)
  | notExist
  | failed (message : String)

namespace Machine

/-- The links `filepath.EvalSymlinks` follows before it gives up. -/
def maxLinks : Nat := 255

def start (machine : Machine) (path : String) : Path :=
  if Text.isAbs path then [] else machine.workingDirectory

/-- The real path of `path`, all links followed. -/
def resolve (machine : Machine) (path : String) : FileTree.Resolution :=
  machine.tree.resolve maxLinks (machine.start path) (Text.splitPath path.toList)

/-- The directory entry at `path`, a link at its end not followed. -/
def locate (machine : Machine) (path : String) : FileTree.Resolution :=
  machine.tree.locate maxLinks (machine.start path) (Text.splitPath path.toList)

def lstat (machine : Machine) (path : String) : Stat :=
  match machine.locate path with
  | .real real =>
    match machine.tree.lookup real with
    | some node => .found node
    | none => .notExist
  | .notExist => .notExist
  | .failed message => .failed message

end Machine

def absolute (path : Path) : String := String.ofList (Text.rootedChars path)

theorem toList_absolute (path : Path) : (absolute path).toList = Text.rootedChars path :=
  String.toList_ofList

theorem isAbs_absolute (path : Path) : Text.isAbs (absolute path) = true := by
  simp [Text.isAbs, toList_absolute, Text.rootedChars]

section

variable {machine : Machine} {path : Path}

theorem resolve_absolute (nonempty : path ≠ []) (plain : ∀ name ∈ path, Text.Plain name) :
    machine.resolve (absolute path) = machine.tree.resolve Machine.maxLinks [] path := by
  simp only [Machine.resolve, Machine.start, isAbs_absolute, if_true, toList_absolute,
    Text.splitPath_rootedChars nonempty plain, FileTree.resolve_nil_cons]

theorem locate_absolute (nonempty : path ≠ []) (plain : ∀ name ∈ path, Text.Plain name) :
    machine.locate (absolute path) = machine.tree.locate Machine.maxLinks [] path := by
  simp only [Machine.locate, Machine.start, isAbs_absolute, if_true, toList_absolute,
    Text.splitPath_rootedChars nonempty plain, FileTree.locate_nil_cons _ _ _ nonempty]

theorem clean_absolute (plain : ∀ name ∈ path, Text.Plain name) :
    Text.clean (absolute path) = absolute path := by
  rw [Text.clean, toList_absolute, Text.cleanChars_rootedChars plain]
  rfl

end

theorem Machine.top (machine : Machine) : machine.tree.Real [] := by
  refine ⟨List.forall_mem_nil _, machine.tree, rfl, ?_⟩
  have rooted := machine.rooted
  cases tree : machine.tree with
  | directory info entries => rfl
  | file info | link info target => simp [tree, FileTree.isDirectory] at rooted

theorem Machine.real_of_resolve {machine : Machine} {path : String} {real : Path}
    (rooted : Text.isAbs path = true) (resolved : machine.resolve path = .real real) :
    machine.tree.Real real := by
  unfold Machine.resolve Machine.start at resolved
  rw [if_pos rooted] at resolved
  exact machine.top.of_resolve machine.top (fun _ => Text.noSlash_of_mem_splitPath) resolved

theorem Machine.locate_of_resolve {machine : Machine} {path : String} {real : Path}
    (rooted : Text.isAbs path = true) (resolved : machine.resolve path = .real real)
    (nonempty : real ≠ []) : machine.locate (absolute real) = .real real := by
  have isReal := machine.real_of_resolve rooted resolved
  rw [locate_absolute nonempty isReal.plain]
  exact isReal.locate _

def refuse (detail : String) : Error := .because .unsafePath detail

/-- `strings.Count(strings.Trim(path, "/"), "/") == 1`. -/
def oneSlashInside (path : String) : Bool :=
  let stripped := ((path.toList.dropWhile (· = '/')).reverse.dropWhile (· = '/')).reverse
  stripped.count '/' = 1

def isBareHome (path : String) : Bool :=
  Text.hasPrefix path "/home/" && oneSlashInside path

def validateFixed (home path : String) : Except Error String :=
  let clean := Text.clean path
  if path.toList.all Text.isSpace then .error (refuse "empty path")
  else if path.toList.contains '\x00' then .error (refuse "path contains NUL")
  else if ¬Text.isAbs clean then .error (refuse ("path not absolute: " ++ clean))
  else if clean = "/" then .error (refuse "refusing to delete root")
  else if home ≠ "" ∧ clean = Text.clean home then
    .error (refuse ("refusing to delete $HOME: " ++ clean))
  else if isBareHome clean then
    .error (refuse ("refusing to delete a bare home dir: " ++ clean))
  else .ok clean

/-- A caller's guard: `none` accepts the path. -/
abbrev Guard := String → Option String

/-- The part of `resolveAndAffirmOwner` after the links have been followed. -/
def affirmOwner (machine : Machine) (real : String) : Except Error String :=
  match machine.lstat real with
  | .notExist => .ok real
  | .failed message => .error (refuse ("cannot lstat " ++ real ++ ": " ++ message))
  | .found node =>
    if node.info.uid ≠ machine.uid ∧ node.info.uid ≠ 0 then
      .error (refuse (real ++ " owned by another user"))
    else .ok real

def resolveAndAffirmOwner (machine : Machine) (guard : Guard) (clean : String) :
    Except Error String :=
  match machine.resolve clean with
  | .notExist => .ok clean
  | .failed message => .error (refuse ("cannot resolve " ++ clean ++ ": " ++ message))
  | .real path =>
    let real := absolute path
    if real = clean then affirmOwner machine real
    else match validateFixed machine.home real with
      | .error error => .error error
      | .ok _ =>
        match guard real with
        | some reason =>
          .error (refuse ("resolved target " ++ real ++ " escapes the validated tree: " ++
            reason))
        | none => affirmOwner machine real

def resolveSafeTarget (machine : Machine) (guard : Guard) (path : String) :
    Except Error String :=
  match validateFixed machine.home path with
  | .error error => .error error
  | .ok clean =>
    match guard clean with
    | some reason => .error (refuse ("guard rejected " ++ clean ++ ": " ++ reason))
    | none => resolveAndAffirmOwner machine guard clean

theorem validateFixed_ok {home path clean : String} (valid : validateFixed home path = .ok clean) :
    clean = Text.clean path ∧ Text.isAbs path = true ∧ clean ≠ "/" := by
  unfold validateFixed at valid
  dsimp only at valid
  repeat' split at valid
  all_goals cases valid
  rename_i _ _ absolute notTop _ _
  exact ⟨rfl, Text.isAbs_of_isAbs_clean (not_not.mp absolute), notTop⟩

theorem affirmOwner_ok {machine : Machine} {real target : String}
    (affirmed : affirmOwner machine real = .ok target) : target = real := by
  unfold affirmOwner at affirmed
  repeat' split at affirmed
  all_goals cases affirmed
  all_goals rfl

/-- What the checks let through is the path itself, if it leads nowhere, or
the real path it leads to, and never the root directory. -/
theorem resolveSafeTarget_ok {machine : Machine} {guard : Guard} {path target : String}
    (safe : resolveSafeTarget machine guard path = .ok target) :
    Text.isAbs path = true ∧ target ≠ "/" ∧
      (machine.resolve (Text.clean path) = .notExist ∧ target = Text.clean path ∨
        ∃ real, machine.resolve (Text.clean path) = .real real ∧ target = absolute real) := by
  unfold resolveSafeTarget at safe
  split at safe
  · cases safe
  · rename_i clean valid
    rcases validateFixed_ok valid with ⟨rfl, isAbs, notTop⟩
    refine ⟨isAbs, ?_⟩
    split at safe
    · cases safe
    · unfold resolveAndAffirmOwner at safe
      split at safe
      · rename_i missing
        cases safe
        exact ⟨notTop, .inl ⟨missing, rfl⟩⟩
      · cases safe
      · rename_i real resolved
        dsimp only at safe
        split at safe
        · rename_i same
          rw [affirmOwner_ok safe]
          exact ⟨same ▸ notTop, .inr ⟨real, resolved, rfl⟩⟩
        · split at safe
          · cases safe
          · rename_i validReal
            rcases validateFixed_ok validReal with ⟨rfl, _, notTopReal⟩
            split at safe
            · cases safe
            · rw [affirmOwner_ok safe]
              refine ⟨?_, .inr ⟨real, resolved, rfl⟩⟩
              rintro top
              rw [top] at notTopReal
              exact notTopReal (by decide)

/-! ## Removal -/

inductive Operation
  | removeAll
  | chown
  | rm
  deriving DecidableEq

/-- A path that was handed to `RemoveAll` or to the privileged wrapper. -/
structure Handed where
  operation : Operation
  path : String
  deriving DecidableEq

inductive Removed
  | ok
  | permission (error : Error)
  | failed (error : Error)

/-- How removals and wrapper invocations turn out. -/
structure Removals where
  removeAll : String → Removed
  /-- The second attempt, after the wrapper's `chown`. -/
  retry : String → Removed
  wrapper : Operation → String → Option Error

structure Result where
  escalated : Bool
  err : Option Error

def runRm (removals : Removals) (chownError : Option Error) (target : String) :
    Result × List Handed :=
  (⟨true, (removals.wrapper .rm target).map fun error =>
    match chownError with
    | some _ => .wrap "chown failed and rm failed: " error ""
    | none => .wrap "wrapper rm failed: " error ""⟩, [⟨.rm, target⟩])

def escalate (removals : Removals) (target : String) : Result × List Handed :=
  match removals.wrapper .chown target with
  | some error =>
    let (result, handed) := runRm removals (some error) target
    (result, ⟨.chown, target⟩ :: handed)
  | none =>
    match removals.retry target with
    | .ok => (⟨true, none⟩, [⟨.chown, target⟩, ⟨.removeAll, target⟩])
    | _ =>
      let (result, handed) := runRm removals none target
      (result, ⟨.chown, target⟩ :: ⟨.removeAll, target⟩ :: handed)

def remove (machine : Machine) (removals : Removals) (guard : Guard) (path : String) :
    Result × List Handed :=
  match resolveSafeTarget machine guard path with
  | .error error => (⟨false, some error⟩, [])
  | .ok target =>
    match removals.removeAll target with
    | .ok => (⟨false, none⟩, [⟨.removeAll, target⟩])
    | .failed error => (⟨false, some error⟩, [⟨.removeAll, target⟩])
    | .permission _ =>
      let (result, handed) := escalate removals target
      (result, ⟨.removeAll, target⟩ :: handed)

/-- Whatever is handed on is the target that passed every check. -/
theorem mem_remove {machine : Machine} {removals : Removals} {guard : Guard} {path : String}
    {handed : Handed} (member : handed ∈ (remove machine removals guard path).2) :
    resolveSafeTarget machine guard path = .ok handed.path := by
  unfold remove at member
  split at member
  · cases member
  · rename_i target safe
    have same : handed.path = target := by
      split at member
      · cases List.mem_singleton.mp member
        rfl
      · cases List.mem_singleton.mp member
        rfl
      · rcases List.mem_cons.mp member with rfl | member
        · rfl
        · unfold escalate runRm at member
          split at member
          · simp only [List.mem_cons, List.not_mem_nil, or_false] at member
            rcases member with rfl | rfl <;> rfl
          · split at member
            · simp only [List.mem_cons, List.not_mem_nil, or_false] at member
              rcases member with rfl | rfl <;> rfl
            · simp only [List.mem_cons, List.not_mem_nil, or_false] at member
              rcases member with rfl | rfl | rfl <;> rfl
    rw [safe, same]

theorem removeAll_mem_remove {machine : Machine} {guard : Guard} {path target : String}
    (removals : Removals) (safe : resolveSafeTarget machine guard path = .ok target) :
    ⟨.removeAll, target⟩ ∈ (remove machine removals guard path).2 := by
  unfold remove
  rw [safe]
  dsimp only
  split <;> exact List.mem_cons_self

end Civm.Cleanup
