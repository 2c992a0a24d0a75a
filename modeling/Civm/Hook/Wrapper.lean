import Mathlib.Data.List.TakeWhile
import Civm.Hook.WorkRoots

/-! # The root-side check of `civm-safedelete`

`validate_path` of the wrapper that root runs for the guarded deletion, and how
far it enforces the scope of `workChildGuard`. A star of the shell's `case`
covers separators, one of `filepath.Match` does not. -/

namespace Civm.Hook.Wrapper

open Cleanup (Machine absolute)

/-- The class `[:print:]` of the shell, which looks at bytes. -/
def isPrint (char : Char) : Bool := 0x20 ≤ char.toNat && char.toNat ≤ 0x7e

/-- `$(...)`: the output of a command without its trailing newlines. -/
def captured (output : List Char) : List Char := (output.reverse.dropWhile (· = '\n')).reverse

/-- The checks of the argument, before it is resolved; `none` passes. -/
def refusesArgument (home path : String) : Option String :=
  if path = "" then some "empty path"
  else if path.toList.any fun char => !isPrint char then some "path contains non-printable byte"
  else if ¬Glob.matchCase "/*" path.toList then some ("path not absolute: " ++ path)
  else if path = "/" then some "refusing to delete root"
  else if home ≠ "" ∧ path = home then some ("refusing to delete $HOME: " ++ path)
  else if path = "/root" then some ("refusing to delete root home: " ++ path)
  else if Glob.matchCase "/home/*/*" path.toList then none
  else if Glob.matchCase "/home/*" path.toList then
    some ("refusing to delete a bare home dir: " ++ path)
  else none

def workPatterns : List String :=
  ["/home/*/actions-runner*/_work/*", "/home/*/actions-runner*/_work",
    "/srv/ci/actions-runner*/_work/*", "/srv/ci/actions-runner*/_work"]

def parentPatterns : List String := ["*/../*", "*/..", "../*"]

/-- The checks of the resolved target; `none` passes. -/
def refusesTarget (real : List Char) : Option String :=
  if ¬workPatterns.any fun pattern => Glob.matchCase pattern real then
    some ("resolved target escapes a runner _work tree: " ++ String.ofList real)
  else if parentPatterns.any fun pattern => Glob.matchCase pattern real then
    some ("resolved target contains ..: " ++ String.ofList real)
  else none

/-- `validate_path`, with the wrapper's own `$HOME`. -/
def validatePath (machine : Machine) (home path : String) : Except String (List Char) :=
  match refusesArgument home path with
  | some message => .error message
  | none =>
    match machine.resolve path with
    | .real path =>
      let real := captured (absolute path).toList
      match refusesTarget real with
      | some message => .error message
      | none => .ok real
    | _ => .error ("cannot resolve (realpath -e): " ++ path)

/-! ## Work directories, as the two layers read them -/

/-- What the patterns of the wrapper take for a `_work` directory. -/
def LooksLikeWorkRoot (directory : List Char) : Prop :=
  ∃ suffix,
    (∃ user, directory =
      "/home/".toList ++ (user ++ ("/actions-runner".toList ++ (suffix ++ "/_work".toList)))) ∨
    directory = "/srv/ci/actions-runner".toList ++ (suffix ++ "/_work".toList)

/-- A `_work` directory directly inside a runner's own directory. -/
def IsWorkRoot (directory : List Char) : Prop :=
  ∃ suffix, '/' ∉ suffix ∧
    ((∃ user, '/' ∉ user ∧ directory =
      "/home/".toList ++ (user ++ ("/actions-runner".toList ++ (suffix ++ "/_work".toList)))) ∨
    directory = "/srv/ci/actions-runner".toList ++ (suffix ++ "/_work".toList))

/-- Strictly below a work directory. -/
def Below (real : List Char) : Prop :=
  ∃ directory rest, IsWorkRoot directory ∧ rest ≠ [] ∧ real = directory ++ '/' :: rest

/-- A work directory itself, or what only looks as if it were below one. -/
def LookAlike (real : List Char) : Prop :=
  (∃ directory, LooksLikeWorkRoot directory ∧
    (real = directory ∨ ∃ rest, real = directory ++ '/' :: rest)) ∧
  ¬∃ directory rest, IsWorkRoot directory ∧ real = directory ++ '/' :: rest

theorem matchCase_any (real : List Char) :
    (workPatterns.any fun pattern => Glob.matchCase pattern real) = true ↔
      ∃ directory, LooksLikeWorkRoot directory ∧
        (real = directory ∨ ∃ rest, real = directory ++ '/' :: rest) := by
  have inHome : Glob.ofString "/home/*/actions-runner*/_work" =
    ["/home/".toList, "/actions-runner".toList, "/_work".toList] := by decide
  have belowHome : Glob.ofString "/home/*/actions-runner*/_work/*" =
    ["/home/".toList, "/actions-runner".toList, "/_work/".toList, []] := by decide
  have inShared : Glob.ofString "/srv/ci/actions-runner*/_work" =
    ["/srv/ci/actions-runner".toList, "/_work".toList] := by decide
  have belowShared : Glob.ofString "/srv/ci/actions-runner*/_work/*" =
    ["/srv/ci/actions-runner".toList, "/_work/".toList, []] := by decide
  have slash : "/_work/".toList = "/_work".toList ++ ['/'] := by decide
  simp only [workPatterns, List.any_cons, List.any_nil, Bool.or_false, Bool.or_eq_true,
    Glob.matchCase, inHome, belowHome, inShared, belowShared, Glob.accepts_cons,
    Glob.accepts_singleton, implies_true, true_and, LooksLikeWorkRoot]
  constructor
  · rintro (⟨user, _, rfl, suffix, _, rfl, rest, _, rfl, rfl⟩ | ⟨user, _, rfl, suffix, _, rfl, rfl⟩ |
      ⟨suffix, _, rfl, rest, _, rfl, rfl⟩ | ⟨suffix, _, rfl, rfl⟩)
    · exact ⟨_, ⟨suffix, .inl ⟨user, rfl⟩⟩, .inr ⟨rest, by simp [slash]⟩⟩
    · exact ⟨_, ⟨suffix, .inl ⟨user, rfl⟩⟩, .inl rfl⟩
    · exact ⟨_, ⟨suffix, .inr rfl⟩, .inr ⟨rest, by simp [slash]⟩⟩
    · exact ⟨_, ⟨suffix, .inr rfl⟩, .inl rfl⟩
  · rintro ⟨_, ⟨suffix, ⟨user, rfl⟩ | rfl⟩, rfl | ⟨rest, rfl⟩⟩
    · exact .inr (.inl ⟨user, _, rfl, suffix, _, rfl, rfl⟩)
    · refine .inl ⟨user, _, ?_, suffix, _, rfl, rest, [], rfl, rfl⟩
      simp [slash]
    · exact .inr (.inr (.inr ⟨suffix, _, rfl, rfl⟩))
    · refine .inr (.inr (.inl ⟨suffix, _, ?_, rest, [], rfl, rfl⟩))
      simp [slash]

theorem IsWorkRoot.looksLike {directory : List Char} (isRoot : IsWorkRoot directory) :
    LooksLikeWorkRoot directory := by
  rcases isRoot with ⟨suffix, _, ⟨user, _, equal⟩ | equal⟩
  · exact ⟨suffix, .inl ⟨user, equal⟩⟩
  · exact ⟨suffix, .inr equal⟩

theorem exists_captured (output : List Char) :
    ∃ newlines, output = captured output ++ newlines ∧ ∀ char ∈ newlines, char = '\n' := by
  refine ⟨(output.reverse.takeWhile (· = '\n')).reverse, ?_, ?_⟩
  · rw [captured, ← List.reverse_append, List.takeWhile_append_dropWhile, List.reverse_reverse]
  · intro char member
    simpa using List.mem_takeWhile_imp (List.mem_reverse.mp member)

theorem captured_append_slash (first second : List Char) :
    captured (first ++ '/' :: second) = first ++ '/' :: captured second := by
  unfold captured
  rw [List.reverse_append, List.reverse_cons, List.append_assoc, List.singleton_append,
    List.dropWhile_append]
  split
  · rename_i empty
    simp [List.isEmpty_iff.mp empty]
  · simp

/-! ## What the checks let through -/

/-- The last name of a resolved path may become `..` when newlines are dropped. -/
def EndsInParent (real : List Char) : Prop := "/..".toList <:+ real

theorem parentPatterns_iff {path : Path} (nonempty : path ≠ [])
    (plain : ∀ name ∈ path, Text.Plain name) :
    (parentPatterns.any fun pattern =>
        Glob.matchCase pattern (captured (absolute path).toList)) = true ↔
      EndsInParent (captured (absolute path).toList) := by
  have inside : Glob.ofString "*/../*" = [[], "/../".toList, []] := by decide
  have ending : Glob.ofString "*/.." = [[], "/..".toList] := by decide
  have leading : Glob.ofString "../*" = ["../".toList, []] := by decide
  rcases exists_captured (absolute path).toList with ⟨newlines, whole, _⟩
  simp only [parentPatterns, List.any_cons, List.any_nil, Bool.or_false, Bool.or_eq_true,
    Glob.matchCase, inside, ending, leading, Glob.accepts_cons, Glob.accepts_singleton,
    implies_true, true_and, EndsInParent]
  constructor
  · rintro (⟨above, _, real, below, _, rfl, rfl⟩ | ⟨above, _, real, rfl⟩ | ⟨below, _, real, rfl⟩)
    · -- A piece `..` in the middle is none of a resolved path.
      rw [real, Cleanup.toList_absolute] at whole
      have split := Text.splitPath_rootedChars nonempty plain
      have dots : ['.', '.'] ∈ Text.splitPath (Text.rootedChars path) := by
        rw [whole]
        have shape : [] ++ (above ++ ("/../".toList ++ (below ++ []))) ++ newlines =
          above ++ '/' :: (['.', '.'] ++ '/' :: (below ++ newlines)) := by
          simp
        rw [shape, Text.splitPath_append, Text.splitPath_append]
        simp [Text.splitPath]
      rw [split] at dots
      rcases List.mem_cons.mp dots with impossible | member
      · cases impossible
      · exact absurd rfl (plain _ member).notDotDot
    · exact ⟨above, by rw [real]; rfl⟩
    · rw [real, Cleanup.toList_absolute] at whole
      cases whole
  · rintro ⟨above, real⟩
    exact .inr (.inl ⟨above, _, real.symm, rfl⟩)

theorem refusesTarget_iff {path : Path} (nonempty : path ≠ [])
    (plain : ∀ name ∈ path, Text.Plain name) :
    refusesTarget (captured (absolute path).toList) = none ↔
      (∃ directory, LooksLikeWorkRoot directory ∧
        (captured (absolute path).toList = directory ∨
          ∃ rest, captured (absolute path).toList = directory ++ '/' :: rest)) ∧
      ¬EndsInParent (captured (absolute path).toList) := by
  rw [← matchCase_any, ← parentPatterns_iff nonempty plain]
  unfold refusesTarget
  split
  · rename_i outside
    exact ⟨nofun, fun accepted => absurd accepted.1 outside⟩
  · rename_i inside
    split
    · rename_i parent
      exact ⟨nofun, fun accepted => absurd parent accepted.2⟩
    · rename_i clear
      exact ⟨fun _ => ⟨not_not.mp inside, clear⟩, fun _ => rfl⟩

theorem isAbs_of_argument {home path : String} (passes : refusesArgument home path = none) :
    Text.isAbs path = true := by
  have pattern : Glob.ofString "/*" = [['/'], []] := by decide
  unfold refusesArgument at passes
  split at passes
  · cases passes
  · split at passes
    · cases passes
    · split at passes
      · cases passes
      · rename_i rooted
        have rooted := not_not.mp rooted
        simp only [Glob.matchCase, pattern, Glob.accepts_cons, Glob.accepts_singleton] at rooted
        rcases rooted with ⟨rest, _, text, _⟩
        simp [Text.isAbs, text]

theorem home_of_argument {home path : String} (passes : refusesArgument home path = none) :
    path ≠ home := by
  rintro rfl
  unfold refusesArgument at passes
  split at passes
  · cases passes
  · rename_i nonempty
    simp only [ne_eq, nonempty, not_false_eq_true, and_self, if_true] at passes
    repeat' split at passes
    all_goals cases passes

theorem argument_of_guard {home path : String} (printable : path.toList.all isPrint = true)
    (guarded : workChildGuard path = none) (notHome : path ≠ home) :
    refusesArgument home path = none := by
  have rooted := (workChildGuard_iff.mp guarded).1
  have absolute : Glob.matchCase "/*" path.toList = true := by
    have pattern : Glob.ofString "/*" = [['/'], []] := by decide
    have leads := of_decide_eq_true rooted
    cases text : path.toList with
    | nil => simp [text] at leads
    | cons char rest =>
      simp only [text, List.head?_cons, Option.some.injEq] at leads
      subst leads
      simp only [Glob.matchCase, pattern, Glob.accepts_cons, Glob.accepts_singleton]
      exact ⟨rest, [], by simp, by simp, rfl⟩
  have deep : Glob.matchCase "/home/*" path.toList = true →
    Glob.matchCase "/home/*/*" path.toList = true := by
    have single : Glob.ofString "/home/*" = ["/home/".toList, []] := by decide
    have double : Glob.ofString "/home/*/*" = ["/home/".toList, ['/'], []] := by decide
    simp only [Glob.matchCase, single, double, Glob.accepts_cons, Glob.accepts_singleton,
      implies_true, true_and]
    rintro ⟨rest, _, text, rfl⟩
    rcases (workChildGuard_iff.mp guarded).2 with ⟨user, suffix, name, split⟩
    by_cases slash : '/' ∈ rest
    · rcases List.append_of_mem slash with ⟨first, second, rfl⟩
      exact ⟨first, _, by simpa using text, second, [], by simp, rfl⟩
    · -- Without another separator there are too few pieces for a work root.
      have few : Text.splitPath path.toList = [[], "home".toList, rest] := by
        have shape : path.toList = [] ++ '/' :: ("home".toList ++ '/' :: rest) := by
          rw [text]
          simp
        rw [shape, Text.splitPath_append, Text.splitPath_append, Text.splitPath_of_noSlash slash]
        rfl
      have bound := Text.length_cleanPieces_le true (Text.splitPath path.toList) []
      rw [← List.length_reverse] at bound
      change (pieces path).length ≤ _ at bound
      rw [split, few] at bound
      simp [workPieces] at bound
  have notTop : path ≠ "/" := by
    rintro rfl
    exact absurd guarded (by decide)
  have notRoot : path ≠ "/root" := by
    rintro rfl
    exact absurd guarded (by decide)
  have nonempty : path ≠ "" := by
    rintro rfl
    cases rooted
  have clean : (path.toList.any fun char => !isPrint char) = false := by
    rw [← Bool.not_eq_true, List.any_eq_true]
    rintro ⟨char, member, hidden⟩
    rw [List.all_eq_true.mp printable char member] at hidden
    cases hidden
  unfold refusesArgument
  rw [if_neg nonempty, if_neg (by simp [clean]), if_neg (by simp [absolute]), if_neg notTop,
    if_neg (fun both => notHome both.2), if_neg notRoot]
  split
  · rfl
  · rename_i shallow
    exact if_neg fun bare => shallow (deep bare)

theorem getLast?_absolute {path : Path} (nonempty : path ≠ [])
    (plain : ∀ name ∈ path, Text.Plain name) : (absolute path).toList.getLast? ≠ some '/' := by
  rcases List.eq_nil_or_concat path with empty | ⟨above, last, rfl⟩
  · exact absurd empty nonempty
  · rw [List.concat_eq_append] at plain ⊢
    have lastPlain := plain last (by simp)
    rw [Cleanup.toList_absolute, Text.getLast?_rootedChars above lastPlain.nonempty]
    intro slash
    exact lastPlain.noSlash (List.mem_of_getLast? slash)

theorem below_of_captured {path : Path} (nonempty : path ≠ [])
    (plain : ∀ name ∈ path, Text.Plain name) {directory rest : List Char}
    (isRoot : IsWorkRoot directory)
    (real : captured (absolute path).toList = directory ++ '/' :: rest) :
    Below (absolute path).toList := by
  rcases exists_captured (absolute path).toList with ⟨newlines, whole, _⟩
  rw [real] at whole
  refine ⟨directory, rest ++ newlines, isRoot, ?_, by rw [whole]; simp⟩
  intro empty
  apply getLast?_absolute nonempty plain
  rw [whole, List.append_assoc, List.cons_append, empty]
  simp

theorem captured_of_below {real : List Char} (below : Below real) :
    ∃ directory rest, IsWorkRoot directory ∧ captured real = directory ++ '/' :: rest := by
  rcases below with ⟨directory, rest, isRoot, _, rfl⟩
  exact ⟨directory, captured rest, isRoot, captured_append_slash _ _⟩

theorem below_of_guard {real : List Char} {path : Path} (plain : ∀ name ∈ path, Text.Plain name)
    (equal : real = (absolute path).toList) (guarded : workChildGuard (absolute path) = none) :
    Below real := by
  rcases (workChildGuard_iff.mp guarded).2 with ⟨user, suffix, name, split⟩
  have same : path = workPieces user suffix ++ [name] := by
    rw [← split, pieces, Cleanup.toList_absolute, Text.cleanPieces_splitPath_rootedChars plain,
      List.reverse_reverse]
  subst same
  have clear := (plain user (by simp [workPieces])).noSlash
  have clear' := (plain ("actions-runner".toList ++ suffix) (by simp [workPieces])).noSlash
  refine ⟨(absolute (workPieces user suffix)).toList, name,
    ⟨suffix, fun slash => clear' (List.mem_append_right _ slash), .inl ⟨user, clear, ?_⟩⟩,
    (plain name (by simp)).nonempty, ?_⟩
  · exact toList_absolute_workPieces user suffix
  · have above : workPieces user suffix ≠ [] := List.cons_ne_nil _ _
    rw [equal, Cleanup.toList_absolute, Cleanup.toList_absolute,
      Text.rootedChars_append above (List.cons_ne_nil _ _)]
    rfl

theorem validatePath_ok {machine : Machine} {home path : String} :
    (∃ target, validatePath machine home path = .ok target) ↔
      refusesArgument home path = none ∧ ∃ real, machine.resolve path = .real real ∧
        refusesTarget (captured (absolute real).toList) = none := by
  unfold validatePath
  cases argument : refusesArgument home path with
  | some message => simp
  | none =>
    cases resolved : machine.resolve path with
    | notExist | failed message => simp
    | real real =>
      cases target : refusesTarget (captured (absolute real).toList) with
      | some message | none => simp [target]

theorem nonempty_of_below {path : Path} (inside : ∃ directory, LooksLikeWorkRoot directory ∧
    (captured (absolute path).toList = directory ∨
      ∃ rest, captured (absolute path).toList = directory ++ '/' :: rest)) : path ≠ [] := by
  rintro rfl
  rw [← matchCase_any] at inside
  exact absurd inside (by decide)

/-- The wrapper accepts only what is strictly below a runner's work directory,
and all that the guard of the hook accepts, exactly for the arguments whose
real path is no look-alike and that are not `$HOME` nor end in a `..` followed
by newlines. -/
theorem wrapper_scope_iff (machine : Machine) (home path : String) :
    ((∀ target, validatePath machine home path = .ok target →
        ∃ real, machine.resolve path = .real real ∧ Below (absolute real).toList) ∧
      ∀ real, machine.resolve path = .real real → path.toList.all isPrint = true →
        workChildGuard path = none → workChildGuard (absolute real) = none →
        ∃ target, validatePath machine home path = .ok target) ↔
    ∀ real, machine.resolve path = .real real →
      (refusesArgument home path = none → LookAlike (captured (absolute real).toList) →
        EndsInParent (captured (absolute real).toList)) ∧
      (path.toList.all isPrint = true → workChildGuard path = none →
        workChildGuard (absolute real) = none →
        path ≠ home ∧ ¬EndsInParent (captured (absolute real).toList)) := by
  constructor
  · rintro ⟨sound, complete⟩ real resolved
    constructor
    · rintro passes ⟨inside, notBelow⟩
      by_contra clear
      have plain := (machine.real_of_resolve (isAbs_of_argument passes) resolved).plain
      have accepted := (refusesTarget_iff (nonempty_of_below inside) plain).mpr ⟨inside, clear⟩
      rcases validatePath_ok.mpr ⟨passes, real, resolved, accepted⟩ with ⟨target, valid⟩
      rcases sound target valid with ⟨_, same, below⟩
      cases resolved.symm.trans same
      exact notBelow (captured_of_below below)
    · intro printable guarded guardedReal
      rcases validatePath_ok.mp (complete real resolved printable guarded guardedReal) with
        ⟨passes, _, same, accepted⟩
      cases resolved.symm.trans same
      have plain := (machine.real_of_resolve (isAbs_of_argument passes) resolved).plain
      rcases captured_of_below (below_of_guard plain rfl guardedReal) with
        ⟨directory, rest, isRoot, shape⟩
      have nonempty := nonempty_of_below ⟨directory, isRoot.looksLike, .inr ⟨rest, shape⟩⟩
      exact ⟨home_of_argument passes, ((refusesTarget_iff nonempty plain).mp accepted).2⟩
  · intro condition
    constructor
    · intro target valid
      rcases validatePath_ok.mp ⟨target, valid⟩ with ⟨passes, real, resolved, accepted⟩
      have plain := (machine.real_of_resolve (isAbs_of_argument passes) resolved).plain
      have nonempty : real ≠ [] := by
        rintro rfl
        exact absurd accepted (by decide)
      rcases (refusesTarget_iff nonempty plain).mp accepted with ⟨inside, clear⟩
      refine ⟨real, resolved, ?_⟩
      by_contra notBelow
      refine clear ((condition real resolved).1 passes ⟨inside, ?_⟩)
      rintro ⟨directory, rest, isRoot, shape⟩
      exact notBelow (below_of_captured nonempty plain isRoot shape)
    · intro real resolved printable guarded guardedReal
      rcases (condition real resolved).2 printable guarded guardedReal with ⟨notHome, clear⟩
      have plain := (machine.real_of_resolve (workChildGuard_iff.mp guarded).1 resolved).plain
      rcases captured_of_below (below_of_guard plain rfl guardedReal) with
        ⟨directory, rest, isRoot, shape⟩
      have inside : ∃ directory, LooksLikeWorkRoot directory ∧
        (captured (absolute real).toList = directory ∨
          ∃ rest, captured (absolute real).toList = directory ++ '/' :: rest) :=
        ⟨directory, isRoot.looksLike, .inr ⟨rest, shape⟩⟩
      exact validatePath_ok.mpr ⟨argument_of_guard printable guarded notHome, real, resolved,
        (refusesTarget_iff (nonempty_of_below inside) plain).mpr ⟨inside, clear⟩⟩

theorem splitPath_of_below {real : List Char} (below : Below real) :
    ∃ first second suffix rest, Text.splitPath real =
      [] :: first :: second :: ("actions-runner".toList ++ suffix) :: rest := by
  rcases below with ⟨_, rest, ⟨suffix, clear, ⟨user, clear', rfl⟩ | rfl⟩, _, rfl⟩
  · have shape : "/home/".toList ++ (user ++ ("/actions-runner".toList ++
      (suffix ++ "/_work".toList))) ++ '/' :: rest =
      [] ++ '/' :: ("home".toList ++ '/' :: (user ++ '/' ::
        (("actions-runner".toList ++ suffix) ++ '/' :: ("_work".toList ++ '/' :: rest)))) := by
      simp
    have clear : '/' ∉ "actions-runner".toList ++ suffix := by simp [clear]
    rw [shape, Text.splitPath_append, Text.splitPath_append, Text.splitPath_append,
      Text.splitPath_append, Text.splitPath_of_noSlash clear', Text.splitPath_of_noSlash clear]
    exact ⟨_, _, _, _, rfl⟩
  · have shape : "/srv/ci/actions-runner".toList ++ (suffix ++ "/_work".toList) ++ '/' :: rest =
      [] ++ '/' :: ("srv".toList ++ '/' :: ("ci".toList ++ '/' ::
        (("actions-runner".toList ++ suffix) ++ '/' :: ("_work".toList ++ '/' :: rest)))) := by
      simp
    have clear : '/' ∉ "actions-runner".toList ++ suffix := by simp [clear]
    rw [shape, Text.splitPath_append, Text.splitPath_append, Text.splitPath_append,
      Text.splitPath_append, Text.splitPath_of_noSlash clear]
    exact ⟨_, _, _, _, rfl⟩

namespace Sample

open Cleanup (Info)

def info : Info where
  modTime := 0
  uid := 1000
  size := 1

def tree : FileTree Info :=
  .directory info [("home".toList, .directory info [("ci".toList, .directory info [
    ("notes".toList, .directory info [("actions-runner-old".toList, .directory info [
      ("backup".toList, .directory info [("_work".toList, .directory info [
        ("kept".toList, .file info)])])])])])])]

def machine : Machine where
  tree := tree
  wellFormed := FileTree.wellFormed_of_check _ (by decide)
  rooted := rfl
  workingDirectory := []
  home := "/root"
  uid := 0
  glob _ := none

def kept : String := "/home/ci/notes/actions-runner-old/backup/_work/kept"

end Sample

/-- The wrapper accepts a file that is in no runner's work directory. -/
theorem wrapper_accepts_a_look_alike :
    validatePath Sample.machine "/root" Sample.kept = .ok Sample.kept.toList ∧
      ∃ real, Sample.machine.resolve Sample.kept = .real real ∧
        (absolute real).toList = Sample.kept.toList ∧ ¬Below (absolute real).toList := by
  refine ⟨by decide +kernel, pieces Sample.kept, by decide +kernel, by decide +kernel, ?_⟩
  intro below
  rcases splitPath_of_below below with ⟨first, second, suffix, rest, split⟩
  have known : (Text.splitPath (absolute (pieces Sample.kept)).toList).take 4 =
    [[], "home".toList, "ci".toList, "notes".toList] := by decide +kernel
  rw [split] at known
  have third := congrArg (fun names => (names.getD 3 []).head?) known
  simp at third

end Civm.Hook.Wrapper
