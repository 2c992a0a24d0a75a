import Civm.Hook.JobHook

/-! # The calls of the job hook

The file system the hook runs on, and which calls the hook makes there: on
direct children of derived roots, named by the listing or by the environment. -/

namespace Civm.Hook

open Cleanup (Machine Error absolute resolveSafeTarget)

/-! ## The file system -/

inductive Kind
  | file
  | link (target : List Char)
  | directory

def kindOf {Info : Type} : FileTree Info → Kind
  | .file _ => .file
  | .link _ target => .link target
  | .directory _ _ => .directory

def kindAt (machine : Machine) (entry : Path) : Option Kind :=
  (machine.tree.lookup entry).map kindOf

/-- Where `os.MkdirAll` starts to create directories: the deepest directory
that exists on the way, given by its real path, and the names still missing
below it. There is none if something else is in the way. The pieces on the way
come last piece first. -/
def makesFrom (machine : Machine) : Path → Path → Option (Path × Path)
  | above, missing =>
    match machine.tree.resolve Machine.maxLinks [] above.reverse with
    | .real real =>
      match machine.tree.lookup real with
      | some (.directory _ _) =>
        match missing with
        | [] => some (real, [])
        | name :: rest =>
          if machine.tree.lookup (real ++ [name]) = none then some (real, name :: rest)
          else none
      | _ => none
    | _ =>
      match above with
      | [] => none
      | name :: above => makesFrom machine above (name :: missing)
termination_by structural above => above

def makes (machine : Machine) (path : String) : Option (Path × Path) :=
  makesFrom machine (pieces path).reverse []

/-- A directory that `os.MkdirAll` creates. -/
def Creates (machine : Machine) (path : String) (entry : Path) : Prop :=
  ∃ real missing names, makes machine path = some (real, missing) ∧ names ≠ [] ∧
    names <+: missing ∧ entry = real ++ names

/-- The entry that a guarded deletion or chown of `path` acts on. -/
def Targets (machine : Machine) (path : String) (entry : Path) : Prop :=
  ∃ target, resolveSafeTarget machine workChildGuard path = .ok target ∧
    machine.locate target = .real entry

/-- Nothing differs but at the `touched` entries. -/
structure Unchanged (before after : Machine) (touched : Path → Prop) : Prop where
  home : after.home = before.home
  uid : after.uid = before.uid
  workingDirectory : after.workingDirectory = before.workingDirectory
  kinds : ∀ entry, ¬touched entry → kindAt after entry = kindAt before entry

def fileSystem : Outside Answer Machine where
  permits machine call := match call with
    | .diskUsedPct => fun _ => True
    | .hostDisk => fun _ => True
    | .diskFreeGB => fun _ => True
    | .readDir root => fun
      | .entries names => ∃ real info entries, machine.resolve root = .real real ∧
        machine.tree.lookup real = some (.directory info entries) ∧
        names.Perm (entries.map Prod.fst)
      | .notExist => machine.resolve root = .notExist
      | .failed _ => True
    | .remove path => fun (error, after) =>
      (∃ removals, error = (Cleanup.remove machine removals workChildGuard path).1.err) ∧
      Unchanged machine after (fun entry => ∃ above, Targets machine path above ∧ above <+: entry) ∧
      ∀ entry kind, kindAt after entry = some kind → kindAt machine entry = some kind
    | .chown _ => fun (_, after) => Unchanged machine after fun _ => False
    | .mkdirAll path => fun (_, after) => Unchanged machine after (Creates machine path)
  after machine call answer := match call, answer with
    | .remove _, (_, after) => after
    | .chown _, (_, after) => after
    | .mkdirAll _, (_, after) => after
    | _, _ => machine

/-! ## The calls of a run -/

/-- A clean path of the expected shape. -/
def Shaped (root : String) : Prop :=
  ∃ user suffix, root = absolute (workPieces user suffix) ∧
    ∀ name ∈ workPieces user suffix, Text.Plain name

theorem shaped_of_safeWorkRoot {root : String} (safe : safeWorkRoot (Text.clean root) = true) :
    Shaped (Text.clean root) := by
  have rooted := Text.isAbs_of_isAbs_clean (isAbs_of_safeWorkRoot safe)
  rcases safeWorkRoot_iff.mp safe with ⟨user, suffix, clear, clear', equal⟩
  rw [Text.clean_clean rooted] at equal
  refine ⟨user, suffix, equal, ?_⟩
  have plain := plain_pieces root
  have same : pieces root = workPieces user suffix := by
    rw [clean_eq_absolute rooted] at equal
    refine absolute_injective ?_ (List.cons_ne_nil _ _)
      (fun name member => (plain name member).noSlash) (noSlash_workPieces clear clear') equal
    intro empty
    have short := congrArg (fun text => text.toList.length) equal
    rw [empty, toList_absolute_workPieces] at short
    simp [absolute, Text.rootedChars, Text.joinPath] at short
  rw [← same]
  exact plain

theorem shaped_addRoot {roots : List String} (given : String)
    (shaped : ∀ root ∈ roots, Shaped root) : ∀ root ∈ addRoot roots given, Shaped root := by
  unfold addRoot
  dsimp only
  split
  · rename_i added
    intro root member
    rcases List.mem_append.mp member with before | here
    · exact shaped root before
    · rw [List.mem_singleton.mp here]
      exact shaped_of_safeWorkRoot added.1
  · exact shaped

theorem shaped_of_mem_workRoots {opts : Options} {root : String} (member : root ∈ workRoots opts) :
    Shaped root := by
  have extend : ∀ {roots : List String} (given : String) (present : Prop) [Decidable present],
    (∀ root ∈ roots, Shaped root) →
    ∀ root ∈ (if present then addRoot roots given else roots), Shaped root := by
    intro roots given present _ shaped
    split
    · exact shaped_addRoot given shaped
    · exact shaped
  have none : ∀ root ∈ ([] : List String), Shaped root := List.forall_mem_nil _
  exact extend _ _ (extend _ _ (extend _ _ none)) root (List.mem_mergeSort.mp member)

theorem mem_relPieces {base target : Path} {name : List Char}
    (member : name ∈ relPieces base target) : name = "..".toList ∨ name ∈ target := by
  fun_induction relPieces base target with
  | case1 first base target induction =>
    exact (induction member).imp id (List.mem_cons_of_mem _)
  | case2 first base other target different =>
    rcases List.mem_append.mp member with up | down
    · rcases List.mem_map.mp up with ⟨_, _, rfl⟩
      exact .inl rfl
    · exact .inr down
  | case3 base target _ =>
    rcases List.mem_append.mp member with up | down
    · rcases List.mem_map.mp up with ⟨_, _, rfl⟩
      exact .inl rfl
    · exact .inr down

theorem plain_activeWorkspaceEntry {root workspace : String} {entry : List Char}
    (active : activeWorkspaceEntry root workspace = some entry) : Text.Plain entry := by
  unfold activeWorkspaceEntry at active
  split at active
  · cases active
  · split at active
    · cases active
    · cases active
    · rename_i name rest found
      split at active
      · cases active
      · rename_i kept
        cases active
        unfold rel at found
        split at found
        · rcases mem_relPieces (Option.some.inj found ▸ List.mem_cons_self) with up | inside
          · exact absurd (.inl up) kept
          · exact plain_pieces workspace _ inside
        · cases found

/-- The contract that every call is a planned one. -/
def planned (opts : Options) : Contract Answer Machine where
  keeps _ _ := True
  allows _ _ call := Planned opts call
  progress := False

section

variable {opts : Options} {trace : List (Civm.Event Answer)} {machine : Machine}

theorem perform_satisfies {call : Call} {next : Answer call → Script α}
    {post : α → List (Civm.Event Answer) → Machine → Prop} (allowed : Planned opts call)
    (continues : ∀ answer, fileSystem.permits machine call answer →
      (next answer).Satisfies fileSystem (planned opts) post (trace ++ [⟨call, answer⟩])
        (fileSystem.after machine call answer)) :
    (perform call >>= next).Satisfies fileSystem (planned opts) post trace machine :=
  ⟨trivial, allowed, False.elim, continues⟩

theorem cleanEntries_satisfies {root : String} {skip : List Char → Bool} {names : Path}
    (allowed : ∀ name ∈ names, skip name = false →
      Planned opts (.remove (Text.join root (String.ofList name)))) (action : Action) :
    (cleanEntries opts root skip names action).Satisfies fileSystem (planned opts)
      (fun _ _ _ => True) trace machine := by
  induction names generalizing trace machine with
  | nil => trivial
  | cons name rest induction =>
    have others := fun {trace machine} => @induction trace machine
      fun other member => allowed other (List.mem_cons_of_mem _ member)
    unfold cleanEntries
    split
    · exact others
    · rename_i kept
      split
      · refine perform_satisfies (allowed name List.mem_cons_self (by simpa using kept)) ?_
        intro answer _
        split
        · trivial
        · exact others
      · exact others

theorem cleanWorkRoot_satisfies {root : String} {preserve : Bool} (derived : root ∈ workRoots opts)
    (preserves : opts.event = .jobStarted → preserve = true) :
    (cleanWorkRoot opts root preserve).Satisfies fileSystem (planned opts)
      (fun _ _ _ => True) trace machine := by
  unfold cleanWorkRoot
  dsimp only
  split
  · trivial
  · refine perform_satisfies (.readDir derived) ?_
    intro listing permitted
    cases listing with
    | notExist | failed error => trivial
    | entries names =>
      rcases permitted with ⟨real, info, entries, _, found, listed⟩
      refine cleanEntries_satisfies ?_ _
      intro name member kept
      have plain : Text.Plain name := by
        cases machine.wellFormed.lookup found with
        | directory plain _ _ =>
          rcases List.mem_map.mp (listed.mem_iff.mp member) with ⟨entry, inside, rfl⟩
          exact plain entry inside
      simp only [skips, Bool.or_eq_false_iff, decide_eq_false_iff_not] at kept
      refine .remove derived plain kept.1.1.1 kept.1.1.2 fun started => ?_
      rw [preserves started, Bool.true_and, decide_eq_false_iff_not] at kept
      exact ⟨kept.1.2, by simpa using kept.2⟩

theorem ensureWorkspaceStub_satisfies {root : String} (derived : root ∈ workRoots opts) :
    (ensureWorkspaceStub opts root).Satisfies fileSystem (planned opts)
      (fun _ _ _ => True) trace machine := by
  unfold ensureWorkspaceStub
  dsimp only
  split
  · trivial
  · split
    · exact perform_satisfies (.stub derived) fun _ _ => trivial
    · trivial

theorem cleanRoots_satisfies {roots : List String} {preserve : Bool}
    (derived : ∀ root ∈ roots, root ∈ workRoots opts)
    (preserves : opts.event = .jobStarted → preserve = true) :
    (cleanRoots opts preserve roots).Satisfies fileSystem (planned opts)
      (fun _ _ _ => True) trace machine := by
  induction roots generalizing trace machine with
  | nil => trivial
  | cons root rest induction =>
    have here := derived root List.mem_cons_self
    unfold cleanRoots
    rw [Program.satisfies_bind]
    refine (cleanWorkRoot_satisfies here preserves).mono fun _ _ _ _ => ?_
    rw [Program.satisfies_bind]
    refine (ensureWorkspaceStub_satisfies here).mono fun _ _ _ _ => ?_
    rw [Program.satisfies_bind]
    exact (induction fun other member => derived other (List.mem_cons_of_mem _ member)).mono
      fun _ _ _ _ => trivial

theorem reclaimRoots_satisfies {roots : List String}
    (derived : ∀ root ∈ roots, root ∈ workRoots opts) :
    (reclaimRoots opts roots).Satisfies fileSystem (planned opts)
      (fun _ _ _ => True) trace machine := by
  induction roots generalizing trace machine with
  | nil => trivial
  | cons root rest induction =>
    have others := fun {trace machine} => @induction trace machine
      fun other member => derived other (List.mem_cons_of_mem _ member)
    unfold reclaimRoots
    split
    · exact others
    · rename_i entry active
      refine perform_satisfies (.chown (derived root List.mem_cons_self) active) fun _ _ => ?_
      rw [Program.satisfies_bind]
      exact others.mono fun _ _ _ _ => trivial

theorem reclaimWorkspaceOwnership_satisfies :
    (reclaimWorkspaceOwnership opts).Satisfies fileSystem (planned opts)
      (fun _ _ _ => True) trace machine := by
  unfold reclaimWorkspaceOwnership
  split
  · exact reclaimRoots_satisfies fun _ member => member
  · trivial

theorem run_satisfies : (run opts).Satisfies fileSystem (planned opts)
    (fun _ _ _ => True) trace machine := by
  have all : ∀ root ∈ workRoots opts, root ∈ workRoots opts := fun _ member => member
  refine perform_satisfies .diskUsedPct fun used _ => ?_
  split
  · trivial
  · split
    · refine perform_satisfies .hostDisk fun _ _ => ?_
      rw [Program.satisfies_bind]
      refine reclaimWorkspaceOwnership_satisfies.mono fun _ _ _ _ => ?_
      refine perform_satisfies .diskFreeGB fun _ _ => ?_
      split
      · rw [Program.satisfies_bind]
        exact (cleanRoots_satisfies all fun _ => rfl).mono fun _ _ _ _ => trivial
      · trivial
    · rename_i completed
      refine perform_satisfies .hostDisk fun _ _ => cleanRoots_satisfies all ?_
      rw [completed]
      nofun
    · trivial

end

end Civm.Hook
