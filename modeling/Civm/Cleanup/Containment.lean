import Civm.Cleanup.Sweep

/-! # Where the sweeps delete

Every path a sweep hands to a removal names an entry strictly inside the root
being swept, as long as no stale link leads the deletion elsewhere. -/

namespace Civm.Cleanup

/-- The entry at `target` is strictly inside the directory `root` leads to. -/
def Machine.Contains (machine : Machine) (root target : String) : Prop :=
  ∃ realRoot rest, rest ≠ [] ∧ machine.resolve root = .real realRoot ∧
    machine.locate target = .real (realRoot ++ rest)

/-! ## What a run hands on -/

theorem mem_deleteAll {machine : Machine} {removals : Removals} {root : String}
    {found : List Candidate} {swept : Swept} {reached : Reached} :
    reached ∈ (deleteAll machine removals root found swept).reached ↔
      reached ∈ swept.reached ∨ ∃ candidate ∈ found,
        ∃ handed ∈ (remove machine removals (cleanupChildGuard machine.home) candidate.path).2,
          reached = ⟨root, handed⟩ := by
  induction found generalizing swept with
  | nil => simp [deleteAll]
  | cons candidate rest induction =>
    unfold deleteAll
    have step : ∀ action : Action,
      reached ∈ (deleteAll machine removals root rest ⟨action, swept.reached ++
        (remove machine removals (cleanupChildGuard machine.home) candidate.path).2.map
          (Reached.mk root)⟩).reached ↔
      reached ∈ swept.reached ∨ ∃ other ∈ candidate :: rest,
        ∃ handed ∈ (remove machine removals (cleanupChildGuard machine.home) other.path).2,
          reached = ⟨root, handed⟩ := by
      intro action
      rw [induction]
      simp only [List.mem_append, List.mem_map, List.exists_mem_cons_iff, or_assoc]
      simp only [eq_comm]
    dsimp only
    split
    · exact step _
    · split
      · exact step _
      · exact step _

theorem mem_scanAndMaybeDelete {machine : Machine} {conditions : Conditions} {opts : Options}
    {name root : String} {threshold : Int} {reached : Reached}
    (member : reached ∈ (scanAndMaybeDelete machine conditions opts name root threshold).reached) :
    validateCleanupRoot machine.home root = .ok reached.root ∧
      ∃ candidate ∈ candidates machine opts name reached.root threshold,
        resolveSafeTarget machine (cleanupChildGuard machine.home) candidate.path =
          .ok reached.handed.path := by
  unfold scanAndMaybeDelete at member
  split at member
  · cases member
  · rename_i cleanRoot valid
    dsimp only at member
    split at member
    · cases member
    · split at member
      · cases member
      · rcases mem_deleteAll.mp member with impossible | ⟨candidate, found, handed, given, rfl⟩
        · cases impossible
        · exact ⟨valid, candidate, found, mem_remove given⟩

/-- Nothing keeps the cleanup from deleting. -/
def Conditions.calm : Conditions where
  removeAll _ := .ok
  retry _ := .ok
  wrapper _ _ := none
  lockActive := false
  lockHolder := ""
  busy := none
  busyBefore _ _ := none

theorem scanAndMaybeDelete_calm {machine : Machine} {opts : Options} {name root cleanRoot : String}
    {threshold : Int} {candidate : Candidate} {target : String} (executes : opts.execute = true)
    (valid : validateCleanupRoot machine.home root = .ok cleanRoot)
    (found : candidate ∈ candidates machine opts name cleanRoot threshold)
    (safe : resolveSafeTarget machine (cleanupChildGuard machine.home) candidate.path = .ok target) :
    ⟨cleanRoot, .removeAll, target⟩ ∈
      (scanAndMaybeDelete machine .calm opts name root threshold).reached := by
  have idle : ensureIdle opts none = none := by
    unfold ensureIdle
    split <;> rfl
  unfold scanAndMaybeDelete
  rw [valid]
  dsimp only
  rw [if_neg (by simp [executes])]
  have free : (if opts.emergencyBypassIdle then none
    else ensureIdle opts (Conditions.calm.busyBefore name root)) = none := by
    split
    · rfl
    · exact idle
  rw [free]
  exact mem_deleteAll.mpr (.inr ⟨candidate, found, _,
    removeAll_mem_remove Conditions.calm.toRemovals safe, rfl⟩)

structure Sweep where
  name : String
  root : String
  threshold : Int

/-- The sweeps of an undisturbed run. -/
def sweeps (machine : Machine) (opts : Options) : List Sweep :=
  ⟨"tmp_old", opts.tmpDir, opts.tmpThreshold⟩ ::
    ((workCleanupRoots machine opts).map fun root => ⟨"work_old", root, opts.workThreshold⟩) ++
    (codespaceCleanupRoots machine opts).map fun root =>
      ⟨"codespace_stale", root, opts.codespaceThreshold⟩

def Sweep.scan (machine : Machine) (conditions : Conditions) (opts : Options) (sweep : Sweep) :
    Swept :=
  scanAndMaybeDelete machine conditions opts sweep.name sweep.root sweep.threshold

theorem mem_foldl_add {parts : List Swept} {start : Swept} {reached : Reached} :
    reached ∈ (parts.foldl Swept.add start).reached ↔
      reached ∈ start.reached ∨ ∃ part ∈ parts, reached ∈ part.reached := by
  induction parts generalizing start with
  | nil => simp
  | cons part rest induction =>
    rw [List.foldl_cons, induction]
    simp [Swept.add, or_assoc]

theorem mem_scanRoots {machine : Machine} {conditions : Conditions} {opts : Options}
    {name : String} {threshold : Int} {roots : List String} {reached : Reached} :
    reached ∈ (scanRoots machine conditions opts name threshold roots).reached ↔
      ∃ root ∈ roots, reached ∈
        (scanAndMaybeDelete machine conditions opts name root threshold).reached := by
  unfold scanRoots
  split
  · simp
  · rw [mem_foldl_add]
    simp

theorem mem_scanCodespace {machine : Machine} {conditions : Conditions} {opts : Options}
    {reached : Reached} :
    reached ∈ (scanCodespaceAndMaybeDelete machine conditions opts).reached ↔
      ∃ root ∈ codespaceCleanupRoots machine opts, reached ∈
        (scanAndMaybeDelete machine conditions opts "codespace_stale" root
          opts.codespaceThreshold).reached := by
  unfold scanCodespaceAndMaybeDelete
  split
  · rename_i none
    simp [none]
  · exact mem_scanRoots

theorem mem_sweeps {machine : Machine} {conditions : Conditions} {opts : Options}
    {reached : Reached} :
    (∃ sweep ∈ sweeps machine opts, reached ∈ (sweep.scan machine conditions opts).reached) ↔
      reached ∈ (scanTmpAndMaybeDelete machine conditions opts).reached ∨
      reached ∈ (scanWorkAndMaybeDelete machine conditions opts).reached ∨
      reached ∈ (scanCodespaceAndMaybeDelete machine conditions opts).reached := by
  rw [mem_scanCodespace, scanWorkAndMaybeDelete, mem_scanRoots]
  simp [sweeps, Sweep.scan, scanTmpAndMaybeDelete, or_and_right, exists_or]

theorem mem_run {machine : Machine} {conditions : Conditions} {opts : Options} {swept : Swept}
    {reached : Reached} (part : swept ∈ run machine conditions opts)
    (member : reached ∈ swept.reached) :
    ∃ sweep ∈ sweeps machine opts, reached ∈ (sweep.scan machine conditions opts).reached := by
  rw [mem_sweeps]
  unfold run at part
  split at part
  · cases List.mem_singleton.mp part
    cases member
  · split at part
    · split at part
      · simp only [List.mem_cons, List.not_mem_nil, or_false] at part
        rcases part with rfl | rfl
        · exact .inl member
        · cases member
      · cases List.mem_singleton.mp part
        cases member
    · simp only [List.mem_cons, List.not_mem_nil, or_false] at part
      rcases part with rfl | rfl | rfl
      · exact .inl member
      · exact .inr (.inl member)
      · exact .inr (.inr member)

theorem run_calm {machine : Machine} {opts : Options} {sweep : Sweep} {reached : Reached}
    (listed : sweep ∈ sweeps machine opts)
    (member : reached ∈ (sweep.scan machine .calm opts).reached) :
    ∃ swept ∈ run machine .calm opts, reached ∈ swept.reached := by
  have idle : ensureIdle opts Conditions.calm.busy = none := by
    unfold ensureIdle
    split <;> rfl
  unfold run
  rw [if_neg (by simp [Conditions.calm]), idle]
  simpa using mem_sweeps.mp ⟨sweep, listed, member⟩

/-! ## The entry of a candidate -/

theorem clean_of_validateCleanupRoot {home root clean : String}
    (valid : validateCleanupRoot home root = .ok clean) : clean = Text.clean root := by
  unfold validateCleanupRoot at valid
  split at valid
  · cases valid
  · rename_i other found
    have same : other = Text.clean root := by
      unfold cleanDir at found
      dsimp only at found
      repeat' split at found
      all_goals cases found
      rfl
    repeat' split at valid
    all_goals cases valid
    all_goals exact same

theorem validateCleanupRoot_top (home root : String) :
    validateCleanupRoot home root ≠ .ok "/" := by
  intro valid
  unfold validateCleanupRoot at valid
  split at valid
  · cases valid
  · rename_i clean _
    split at valid
    · cases valid
      contradiction
    · split at valid
      · rename_i temporary
        cases valid
        exact absurd temporary (by decide)
      · split at valid
        · cases valid
        · rename_i safe
          repeat' split at valid
          all_goals cases valid
          exact safe (.inl rfl)

theorem absolute_of_validateCleanupRoot {home root clean : String}
    (valid : validateCleanupRoot home root = .ok clean) (isAbs : Text.isAbs clean = true) :
    ∃ path, path ≠ [] ∧ (∀ name ∈ path, Text.Plain name) ∧ clean = absolute path := by
  have notTop : clean ≠ "/" := fun top => validateCleanupRoot_top home root (top ▸ valid)
  cases clean_of_validateCleanupRoot valid
  have rooted : root.toList.head? = some '/' :=
    of_decide_eq_true (Text.isAbs_of_isAbs_clean isAbs)
  have pieces : Text.clean root =
    absolute (Text.cleanPieces true (Text.splitPath root.toList) []).reverse := by
    rw [Text.clean, Text.cleanChars_of_rooted rooted]
    rfl
  refine ⟨_, ?_, Text.plain_of_clean _, pieces⟩
  intro empty
  rw [empty] at pieces
  exact notTop pieces

theorem isAbs_of_candidate {machine : Machine} {opts : Options} {name given root : String}
    {threshold : Int} {candidate : Candidate} (cleaned : root = Text.clean given)
    (found : candidate ∈ candidates machine opts name root threshold)
    (isAbs : Text.isAbs candidate.path = true) : Text.isAbs root = true := by
  unfold candidates at found
  split at found
  · rcases List.mem_map.mp found with ⟨taken, _, rfl⟩
    have characters : root.toList ≠ [] := by
      rw [cleaned, Text.clean, String.toList_ofList]
      exact Text.cleanChars_ne_nil _
    cases text : root.toList with
    | nil => exact absurd text characters
    | cons char rest => simpa [Text.isAbs, text] using isAbs
  · cases found

/-- Where a candidate below an absolute root is: at its own pieces below the
real directory of the root. -/
structure Placed (machine : Machine) (root : Path) (candidate : Candidate)
    (realRoot rest : Path) : Prop where
  nonempty : rest ≠ []
  plain : ∀ name ∈ root ++ rest, Text.Plain name
  path : candidate.path = absolute (root ++ rest)
  resolved : machine.tree.resolve Machine.maxLinks [] root = .real realRoot
  found : machine.tree.lookup (realRoot ++ rest) = some candidate.node
  located : machine.tree.locate Machine.maxLinks [] (root ++ rest) = .real (realRoot ++ rest)

theorem mem_candidates {machine : Machine} {opts : Options} {name : String} {threshold : Int}
    {root : Path} {candidate : Candidate} (nonempty : root ≠ [])
    (plain : ∀ name ∈ root, Text.Plain name)
    (member : candidate ∈ candidates machine opts name (absolute root) threshold) :
    ∃ realRoot rest, Placed machine root candidate realRoot rest := by
  unfold candidates Machine.lstat at member
  rw [locate_absolute nonempty plain] at member
  cases located : machine.tree.locate Machine.maxLinks [] root with
  | notExist | failed message => simp [located] at member
  | real realRoot =>
    simp only [located] at member
    cases found : machine.tree.lookup realRoot with
    | none => simp [found] at member
    | some node =>
      simp only [found] at member
      rcases List.mem_map.mp member with ⟨⟨rest, leaf⟩, taken, rfl⟩
      rcases FileTree.mem_collect (machine.wellFormed.lookup found) taken with
        ⟨takes, _, rfl, below, names⟩
      have inside : rest ≠ [] := by
        rintro rfl
        simp [visit] at takes
      have directory : node.isDirectory = true := by
        cases rest with
        | nil => exact absurd rfl inside
        | cons first others => exact FileTree.isDirectory_of_lookup below
      have notLink : node.isLink = false := by
        cases node with
        | directory info entries => rfl
        | file info | link info target => cases directory
      have resolved := FileTree.resolve_of_locate nonempty plain located found notLink
      refine ⟨realRoot, rest, inside, ?_, ?_, resolved, ?_,
        FileTree.locate_append resolved found directory names below inside⟩
      · exact fun other member => (List.mem_append.mp member).elim (plain other) (names other)
      · apply String.ext
        simp [toList_absolute, Text.rootedChars_append nonempty inside]
      · rw [FileTree.lookup_append, found]
        exact below

/-- A stale link under a swept root that leads the deletion out of the root. -/
def Escapes (machine : Machine) (root : String) (candidate : Candidate) : Prop :=
  candidate.node.isLink = true ∧ ∃ real, machine.resolve candidate.path = .real real ∧
    resolveSafeTarget machine (cleanupChildGuard machine.home) candidate.path =
      .ok (absolute real) ∧ ¬machine.Contains root (absolute real)

theorem Placed.contains {machine : Machine} {root realRoot rest : Path} {candidate : Candidate}
    (nonempty : root ≠ []) (placed : Placed machine root candidate realRoot rest) {target : String}
    (located : machine.locate target = .real (realRoot ++ rest)) :
    machine.Contains (absolute root) target := by
  have plain : ∀ name ∈ root, Text.Plain name := fun name member =>
    placed.plain name (List.mem_append_left _ member)
  exact ⟨realRoot, rest, placed.nonempty, (resolve_absolute nonempty plain).trans placed.resolved,
    located⟩

section

variable {machine : Machine} {root realRoot rest : Path} {candidate : Candidate}

theorem Placed.clean (placed : Placed machine root candidate realRoot rest) :
    Text.clean candidate.path = candidate.path := by
  rw [placed.path, clean_absolute placed.plain]

theorem Placed.resolve (nonempty : root ≠ []) (placed : Placed machine root candidate realRoot rest)
    (notLink : candidate.node.isLink = false) :
    machine.resolve candidate.path = .real (realRoot ++ rest) := by
  have longer : root ++ rest ≠ [] := by simp [nonempty]
  rw [placed.path, resolve_absolute longer placed.plain]
  exact FileTree.resolve_of_locate longer placed.plain placed.located placed.found notLink

theorem Placed.locate_real (nonempty : root ≠ [])
    (placed : Placed machine root candidate realRoot rest)
    (notLink : candidate.node.isLink = false) :
    machine.locate (absolute (realRoot ++ rest)) = .real (realRoot ++ rest) := by
  have rooted : Text.isAbs candidate.path = true := by
    rw [placed.path]
    exact isAbs_absolute _
  exact machine.locate_of_resolve rooted (placed.resolve nonempty notLink)
    (by simp [placed.nonempty])

theorem Placed.target (nonempty : root ≠ []) (placed : Placed machine root candidate realRoot rest)
    {target : String}
    (safe : resolveSafeTarget machine (cleanupChildGuard machine.home) candidate.path =
      .ok target) :
    machine.Contains (absolute root) target ∨ Escapes machine (absolute root) candidate := by
  have located : machine.locate candidate.path = .real (realRoot ++ rest) := by
    rw [placed.path, locate_absolute (by simp [nonempty]) placed.plain, placed.located]
  rcases (resolveSafeTarget_ok safe).2.2 with ⟨_, rfl⟩ | ⟨real, resolved, rfl⟩
  · left
    rw [placed.clean]
    exact placed.contains nonempty located
  · rw [placed.clean] at resolved
    cases link : candidate.node.isLink with
    | true =>
      by_cases inside : machine.Contains (absolute root) (absolute real)
      · exact .inl inside
      · exact .inr ⟨link, real, resolved, safe, inside⟩
    | false =>
      left
      cases (placed.resolve nonempty link).symm.trans resolved
      exact placed.contains nonempty (placed.locate_real nonempty link)

end

theorem Sweep.scan_reached {machine : Machine} {conditions : Conditions} {opts : Options}
    {sweep : Sweep} {reached : Reached}
    (member : reached ∈ (sweep.scan machine conditions opts).reached) :
    machine.Contains reached.root reached.handed.path ∨
      ∃ candidate ∈ candidates machine opts sweep.name reached.root sweep.threshold,
        Escapes machine reached.root candidate := by
  rcases mem_scanAndMaybeDelete member with ⟨valid, candidate, found, safe⟩
  have isAbs := isAbs_of_candidate (clean_of_validateCleanupRoot valid) found
    (resolveSafeTarget_ok safe).1
  rcases absolute_of_validateCleanupRoot valid isAbs with ⟨root, nonempty, plain, same⟩
  rw [same] at found ⊢
  rcases mem_candidates nonempty plain found with ⟨realRoot, rest, placed⟩
  rcases placed.target nonempty safe with inside | escapes
  · exact .inl inside
  · exact .inr ⟨candidate, found, escapes⟩

/-- Each path the sweeps hand on is strictly inside the swept root exactly when
no stale link under a swept root escapes. -/
theorem removed_paths_are_contained_iff (machine : Machine) (opts : Options)
    (executes : opts.execute = true) :
    (∀ conditions, ∀ swept ∈ run machine conditions opts, ∀ reached ∈ swept.reached,
      machine.Contains reached.root reached.handed.path) ↔
    ∀ sweep ∈ sweeps machine opts, ∀ root,
      validateCleanupRoot machine.home sweep.root = .ok root →
      ∀ candidate ∈ candidates machine opts sweep.name root sweep.threshold,
        ¬Escapes machine root candidate := by
  constructor
  · rintro contained sweep listed root valid candidate found ⟨_, real, _, safe, outside⟩
    have reached := scanAndMaybeDelete_calm executes valid found safe
    rcases run_calm listed reached with ⟨swept, part, member⟩
    exact outside (contained .calm swept part _ member)
  · intro tame conditions swept part reached member
    rcases mem_run part member with ⟨sweep, listed, member⟩
    rcases Sweep.scan_reached member with inside | ⟨candidate, found, escapes⟩
    · exact inside
    · exact absurd escapes
        (tame sweep listed _ (mem_scanAndMaybeDelete member).1 candidate found)

namespace Sample

def hour : Int := 3600000000000

def old : Info where
  modTime := 0
  uid := 0
  size := 1

def opts : Options where
  execute := true
  workDir := defaultWorkDir
  tmpDir := defaultTmpDir
  codespaceDir := defaultCodespaceDir
  tmpThreshold := 24 * hour
  workThreshold := 72 * hour
  codespaceThreshold := 168 * hour
  skipIdleGuard := false
  emergencyBypassIdle := false
  now := 1000 * hour

def tree (entry : FileTree Info) : FileTree Info :=
  .directory old [
    ("etc".toList, .directory old [
      ("ssh".toList, .directory old [("sshd_config".toList, .file old)])]),
    ("tmp".toList, .directory old [("x".toList, entry)])]

def machine (entry : FileTree Info) (checks : (tree entry).check = true) : Machine where
  tree := tree entry
  wellFormed := FileTree.wellFormed_of_check _ checks
  rooted := rfl
  workingDirectory := []
  home := "/root"
  uid := 0
  glob _ := none

def linked : Machine := machine (.link { old with uid := 1000 } "/etc/ssh".toList) (by decide)

def plain : Machine := machine (.file old) (by decide)

end Sample

theorem temporary_file_is_contained :
    ∃ swept ∈ run Sample.plain .calm Sample.opts, ∃ reached ∈ swept.reached,
      reached.handed = ⟨.removeAll, "/tmp/x"⟩ ∧
      Sample.plain.Contains reached.root reached.handed.path := by
  have deleted : ((run Sample.plain .calm Sample.opts).any fun swept =>
    swept.reached.any fun reached => reached.handed = ⟨.removeAll, "/tmp/x"⟩) = true := by
    decide +kernel
  have linkless : ((sweeps Sample.plain Sample.opts).all fun sweep =>
    (validateCleanupRoot Sample.plain.home sweep.root).toOption.all fun root =>
      (candidates Sample.plain Sample.opts sweep.name root sweep.threshold).all
        fun candidate => !candidate.node.isLink) = true := by
    decide +kernel
  rcases List.any_eq_true.mp deleted with ⟨swept, part, any⟩
  rcases List.any_eq_true.mp any with ⟨reached, member, handed⟩
  refine ⟨swept, part, reached, member, of_decide_eq_true handed, ?_⟩
  refine (removed_paths_are_contained_iff Sample.plain Sample.opts rfl).mpr ?_ _ swept part reached
    member
  rintro sweep listed root valid candidate found ⟨link, _⟩
  have none := List.all_eq_true.mp linkless sweep listed
  rw [valid] at none
  have notLink := List.all_eq_true.mp none candidate found
  simp [link] at notLink

/-- A link in the temporary directory has root delete what it points to. -/
theorem link_deletes_outside_the_root :
    ∃ swept ∈ run Sample.linked .calm Sample.opts, ∃ reached ∈ swept.reached,
      reached.root = "/tmp" ∧ reached.handed = ⟨.removeAll, "/etc/ssh"⟩ ∧
      ¬Sample.linked.Contains reached.root reached.handed.path := by
  have deleted : ((run Sample.linked .calm Sample.opts).any fun swept =>
    swept.reached.any fun reached =>
      reached.root = "/tmp" ∧ reached.handed = ⟨.removeAll, "/etc/ssh"⟩) = true := by
    decide +kernel
  have resolved : Sample.linked.resolve "/tmp" = .real ["tmp".toList] := by decide +kernel
  have located : Sample.linked.locate "/etc/ssh" = .real ["etc".toList, "ssh".toList] := by
    decide +kernel
  rcases List.any_eq_true.mp deleted with ⟨swept, part, any⟩
  rcases List.any_eq_true.mp any with ⟨⟨root, handed⟩, member, facts⟩
  rcases of_decide_eq_true facts with ⟨rfl, rfl⟩
  refine ⟨swept, part, _, member, rfl, rfl, ?_⟩
  rintro ⟨realRoot, rest, _, inside, outside⟩
  cases resolved.symm.trans inside
  cases located.symm.trans outside

end Civm.Cleanup
