import Civm.Cleanup.Containment

/-! # What the sweeps delete along

The walk judges an entry by its own modification time and takes it whole. A
directory keeps its time while files deeper inside are written, so a stale
directory may hold fresh files. -/

namespace Civm.Cleanup

/-- Whether the path was handed to a removal of everything below it. -/
def Handed.deletes (handed : Handed) : Bool := handed.operation ≠ .chown

/-- A regular file at or below the entry at `target`. -/
def Machine.Holds (machine : Machine) (target : String) (info : Info) : Prop :=
  ∃ node below, machine.lstat target = .found node ∧ node.lookup below = some (.file info)

/-- A stale directory or link under a swept root whose deletion takes a fresh
regular file along. -/
def TakesAlong (machine : Machine) (opts : Options) (threshold : Int) (candidate : Candidate) :
    Prop :=
  (candidate.node.isDirectory = true ∨ candidate.node.isLink = true) ∧
    ∃ target info,
      resolveSafeTarget machine (cleanupChildGuard machine.home) candidate.path = .ok target ∧
      machine.Holds target info ∧ isStale opts threshold info = false

theorem isStale_of_mem_candidates {machine : Machine} {opts : Options} {name root : String}
    {threshold : Int} {candidate : Candidate}
    (member : candidate ∈ candidates machine opts name root threshold) :
    isStale opts threshold candidate.node.info = true := by
  unfold candidates Machine.lstat at member
  split at member
  · rename_i node found
    have wellFormed : node.WellFormed := by
      split at found
      · split at found
        · rename_i known
          cases found
          exact machine.wellFormed.lookup known
        · cases found
      · cases found
      · cases found
    rcases List.mem_map.mp member with ⟨⟨path, leaf⟩, taken, rfl⟩
    have takes := (FileTree.mem_collect wellFormed taken).1
    unfold visit at takes
    repeat' split at takes
    all_goals first | assumption | cases takes
  · cases member

theorem lookup_file {info : Info} {below : Path} {leaf : FileTree Info}
    (found : (FileTree.file info).lookup below = some leaf) : leaf = .file info := by
  cases below with
  | nil => cases found; rfl
  | cons name rest => cases found

theorem Placed.holds_file {machine : Machine} {root realRoot rest : Path} {candidate : Candidate}
    {info found : Info} {target : String} (nonempty : root ≠ [])
    (placed : Placed machine root candidate realRoot rest) (file : candidate.node = .file info)
    (safe : resolveSafeTarget machine (cleanupChildGuard machine.home) candidate.path = .ok target)
    (holds : machine.Holds target found) : found = info := by
  have notLink : candidate.node.isLink = false := by rw [file]; rfl
  have resolved := placed.resolve nonempty notLink
  rcases (resolveSafeTarget_ok safe).2.2 with ⟨missing, _⟩ | ⟨real, same, rfl⟩
  · rw [placed.clean, resolved] at missing
    cases missing
  · rw [placed.clean, resolved] at same
    cases same
    rcases holds with ⟨node, below, stat, leaf⟩
    unfold Machine.lstat at stat
    simp only [placed.locate_real nonempty notLink, placed.found, file] at stat
    cases stat
    cases lookup_file leaf
    rfl

/-- A sweep deletes no fresh regular file exactly when no stale directory or
link that it takes leads to one, at whatever depth. -/
theorem no_fresh_file_is_deleted_iff (machine : Machine) (opts : Options) (name root : String)
    (threshold : Int) :
    (∀ conditions,
      ∀ reached ∈ (scanAndMaybeDelete machine conditions opts name root threshold).reached,
        reached.handed.deletes = true → ∀ info, machine.Holds reached.handed.path info →
          isStale opts threshold info = true) ↔
    (opts.execute = true → ∀ cleanRoot, validateCleanupRoot machine.home root = .ok cleanRoot →
      ∀ candidate ∈ candidates machine opts name cleanRoot threshold,
        ¬TakesAlong machine opts threshold candidate) := by
  constructor
  · rintro spared executes cleanRoot valid candidate member ⟨_, target, info, safe, holds, fresh⟩
    have reached := scanAndMaybeDelete_calm executes valid member safe
    have stale := spared .calm _ reached rfl info holds
    rw [fresh] at stale
    cases stale
  · intro tame conditions reached member _ info holds
    rcases mem_scanAndMaybeDelete member with ⟨valid, candidate, found, safe⟩
    have executes : opts.execute = true := by
      by_contra idle
      unfold scanAndMaybeDelete at member
      rw [valid] at member
      simp [idle] at member
    by_contra fresh
    have fresh : isStale opts threshold info = false := Bool.eq_false_iff.mpr fresh
    cases entry : candidate.node with
    | directory _ _ =>
      refine tame executes _ valid candidate found ⟨.inl ?_, _, info, safe, holds, fresh⟩
      rw [entry]
      rfl
    | link _ _ =>
      refine tame executes _ valid candidate found ⟨.inr ?_, _, info, safe, holds, fresh⟩
      rw [entry]
      rfl
    | file own =>
      -- The file is its own target, and the walk has seen that it is stale.
      have isAbs := isAbs_of_candidate (clean_of_validateCleanupRoot valid) found
        (resolveSafeTarget_ok safe).1
      rcases absolute_of_validateCleanupRoot valid isAbs with ⟨path, nonempty, plain, same⟩
      have below := found
      rw [same] at below
      rcases mem_candidates nonempty plain below with ⟨realRoot, rest, placed⟩
      have stale := isStale_of_mem_candidates found
      rw [entry] at stale
      cases placed.holds_file nonempty entry safe holds
      change isStale opts threshold info = true at stale
      rw [fresh] at stale
      cases stale

namespace Sample

def recent : Info := { old with modTime := opts.now - 60000000000 }

def buildTree : FileTree Info :=
  .directory old [("build".toList, .directory old [("app.o".toList, .file recent)])]

def building : Machine := machine buildTree (by decide)

def emergency : Options := { opts with emergencyBypassIdle := true }

def busy : Conditions := { Conditions.calm with busyBefore := fun _ _ => some (.text "host busy") }

end Sample

/-- The sweep deletes a file written a minute ago with the old directory it is
in, while the host is busy. -/
theorem sweep_deletes_a_fresh_file :
    ∃ reached ∈ (scanAndMaybeDelete Sample.building Sample.busy Sample.emergency "tmp_old" "/tmp"
        Sample.emergency.tmpThreshold).reached,
      reached.handed = ⟨.removeAll, "/tmp/x"⟩ ∧ reached.handed.deletes = true ∧
      ∃ info, Sample.building.Holds reached.handed.path info ∧
        isStale Sample.emergency Sample.emergency.tmpThreshold info = false := by
  have deleted : ((scanAndMaybeDelete Sample.building Sample.busy Sample.emergency "tmp_old" "/tmp"
    Sample.emergency.tmpThreshold).reached.any
      fun reached => reached.handed = ⟨.removeAll, "/tmp/x"⟩) = true := by
    decide +kernel
  rcases List.any_eq_true.mp deleted with ⟨⟨root, handed⟩, member, same⟩
  cases of_decide_eq_true same
  have found : Sample.building.lstat "/tmp/x" = .found Sample.buildTree := by rfl
  exact ⟨_, member, rfl, rfl, Sample.recent,
    ⟨Sample.buildTree, ["build".toList, "app.o".toList], found, by rfl⟩, by decide⟩

end Civm.Cleanup
