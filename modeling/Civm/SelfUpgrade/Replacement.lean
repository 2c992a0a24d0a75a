import Civm.SelfUpgrade.Upgrade

/-! # The target during upgrades

The target is replaced only by what was built completely and verified, as long as
no build starts to write the intermediate file while another upgrade works on it. -/

namespace Civm.SelfUpgrade

/-- The target holds what it held at first, or the complete output of a build as a
verification has accepted it. -/
def Trusted (target : String) (start world : World) : Prop :=
  world.content target = start.content target ∨
    ∃ data ∈ world.outputs, data ∈ world.accepted ∧ world.content target = some data

/-- No other upgrade is between the creation of the intermediate file and its end. -/
def Alone (world : World) (thread : Nat) (call : Call) : Prop :=
  ∀ path, call = .create path → ∀ other, other ≠ thread → world.busy other = false

/-- The machine, as long as the builds write one after another. -/
def orderly : Shared Answer World Nat :=
  machine.limited (fun world thread call _ => Alone world thread call) fun _ _ => True

/-- A machine before the upgrades: nothing is busy, and the intermediate file of an
earlier upgrade is not the target itself. -/
structure Idle (target : String) (world : World) : Prop where
  idle : ∀ thread, world.busy thread = false
  apart : ∀ file, world.find (tmpPath target) = some file → world.find target ≠ some file
  known : ∀ path file, world.names path = some file → file < world.next

/-! ## What every upgrade keeps -/

structure Guarded (target : String) (start world : World) : Prop where
  trusted : Trusted target start world
  apart : ∀ file, world.find (tmpPath target) = some file → world.find target ≠ some file
  known : ∀ path file, world.names path = some file → file < world.next
  single : ∀ thread other, world.busy thread = true → world.busy other = true → thread = other

/-- The file may become the target. -/
def Ready (world : World) (file : Nat) : Prop :=
  world.files file ∈ world.outputs ∧ world.files file ∈ world.accepted

def Allows (target : String) (world : World) (thread : Nat) : Call → Prop
  | .create path => path = tmpPath target ∧ ∀ other, other ≠ thread → world.busy other = false
  | .write file _ _ => world.busy thread = true ∧ world.find target ≠ some file
  | .rename oldPath newPath => oldPath = tmpPath target ∧ newPath = target ∧
    world.busy thread = true ∧ ∀ file, world.find oldPath = some file → Ready world file
  | .remove path => path = tmpPath target
  | _ => True

variable {target : String} {start world : World} {thread : Nat}

theorem find_bind_self {path : String} {file : Option Nat} :
    (world.bind path file).find path = file :=
  Function.update_self ..

theorem find_bind_of_ne {path other : String} {file : Option Nat}
    (different : Text.clean other ≠ Text.clean path) :
    (world.bind path file).find other = world.find other :=
  Function.update_of_ne different ..

theorem content_of_find {world' : World} {path : String} (same : world'.find path = world.find path)
    (kept : ∀ file, world.find path = some file → world'.files file = world.files file) :
    world'.content path = world.content path := by
  unfold World.content
  rw [same]
  cases found : world.find path with
  | none => rfl
  | some file => exact congrArg some (kept file found)

theorem Trusted.same {world' : World} (trusted : Trusted target start world)
    (same : world'.content target = world.content target) (outputs : world.outputs ⊆ world'.outputs)
    (accepted : world.accepted ⊆ world'.accepted) : Trusted target start world' := by
  unfold Trusted
  rw [same]
  rcases trusted with first | ⟨data, built, verified, holds⟩
  · exact .inl first
  · exact .inr ⟨data, outputs built, accepted verified, holds⟩

theorem known_bind {path : String} {file : Option Nat} {next : Nat}
    (known : ∀ path file, world.names path = some file → file < world.next)
    (later : world.next ≤ next) (fresh : ∀ number, file = some number → number < next) :
    ∀ other number, (world.bind path file).names other = some number → number < next := by
  intro other number found
  change Function.update world.names (Text.clean path) file other = some number at found
  by_cases same : other = Text.clean path
  · rw [same, Function.update_self] at found
    exact fresh number found
  · rw [Function.update_of_ne same] at found
    exact Nat.lt_of_lt_of_le (known other number found) later

theorem single_released {busy : Nat → Bool}
    (single : ∀ thread other, busy thread = true → busy other = true → thread = other) :
    ∀ first second, Function.update busy thread false first = true →
      Function.update busy thread false second = true → first = second := by
  intro first second busyFirst busySecond
  apply single
  · rw [Function.update_apply] at busyFirst
    split at busyFirst
    · cases busyFirst
    · exact busyFirst
  · rw [Function.update_apply] at busySecond
    split at busySecond
    · cases busySecond
    · exact busySecond

section

variable (different : Text.clean target ≠ Text.clean (tmpPath target))
variable (guarded : Guarded target start world)
include guarded

theorem Guarded.still {world' : World} (names : world'.names = world.names)
    (files : world'.files = world.files) (next : world'.next = world.next)
    (busy : world'.busy = world.busy) (outputs : world.outputs ⊆ world'.outputs)
    (accepted : world.accepted ⊆ world'.accepted) : Guarded target start world' where
  trusted := guarded.trusted.same
    (content_of_find (congrFun names _) fun file _ => congrFun files file) outputs accepted
  apart := by
    unfold World.find
    rw [names]
    exact guarded.apart
  known := by
    rw [names, next]
    exact guarded.known
  single := by
    rw [busy]
    exact guarded.single

include different

omit different in
theorem Guarded.fresh {file : Nat} (chosen : file = (world.find (tmpPath target)).getD world.next) :
    world.find target ≠ some file := by
  cases leftover : world.find (tmpPath target) with
  | some old =>
    rw [leftover] at chosen
    exact chosen ▸ guarded.apart old leftover
  | none =>
    rw [leftover] at chosen
    intro same
    exact absurd (guarded.known _ _ same) (by simp [chosen])

theorem Guarded.created {file : Nat} (chosen : file = (world.find (tmpPath target)).getD world.next)
    (alone : ∀ other, other ≠ thread → world.busy other = false) :
    Guarded target start (after world thread (.create (tmpPath target)) (.ok file)) := by
  have fresh := guarded.fresh chosen
  have placed : (world.bind (tmpPath target) (some file)).find (tmpPath target) = some file :=
    find_bind_self
  have kept : (world.bind (tmpPath target) (some file)).find target = world.find target :=
    find_bind_of_ne different
  constructor
  · refine guarded.trusted.same ?_ (List.Subset.refl _) (List.Subset.refl _)
    refine content_of_find kept ?_
    intro other found
    have distinct : other ≠ file := fun same => fresh (same ▸ found)
    exact Function.update_of_ne distinct ..
  · intro other found
    cases placed.symm.trans found
    exact kept.trans_ne fresh
  · apply known_bind guarded.known (Nat.le_max_left _ _)
    intro number equal
    cases equal
    exact Nat.lt_of_lt_of_le (Nat.lt_succ_self _) (Nat.le_max_right _ _)
  · have only : ∀ other, Function.update world.busy thread true other = true → other = thread := by
      intro other busy
      by_contra distinct
      rw [Function.update_of_ne distinct, alone other distinct] at busy
      cases busy
    exact fun first second busy busy' => (only first busy).trans (only second busy').symm

theorem Guarded.removed :
    Guarded target start (after world thread (.remove (tmpPath target)) none) := by
  have gone : (world.bind (tmpPath target) none).find (tmpPath target) = none := find_bind_self
  have kept : (world.bind (tmpPath target) none).find target = world.find target :=
    find_bind_of_ne different
  constructor
  · exact guarded.trusted.same (content_of_find kept fun _ _ => rfl) (List.Subset.refl _)
      (List.Subset.refl _)
  · intro file found
    cases gone.symm.trans found
  · exact known_bind guarded.known (Nat.le_refl _) nofun
  · exact single_released guarded.single

theorem Guarded.renamed {file : Nat} (found : world.find (tmpPath target) = some file)
    (ready : Ready world file) :
    Guarded target start (after world thread (.rename (tmpPath target) target) none) := by
  have placed : ((world.bind (tmpPath target) none).bind target (world.find (tmpPath target))).find
    target = some file :=
    find_bind_self.trans found
  have gone : ((world.bind (tmpPath target) none).bind target (world.find (tmpPath target))).find
    (tmpPath target) = none :=
    (find_bind_of_ne (Ne.symm different)).trans find_bind_self
  constructor
  · exact .inr ⟨world.files file, ready.1, ready.2, congrArg (Option.map world.files) placed⟩
  · intro other equal
    cases gone.symm.trans equal
  · have removed : ∀ other number, (world.bind (tmpPath target) none).names other = some number →
      number < world.next :=
      known_bind guarded.known (Nat.le_refl _) nofun
    apply known_bind removed (Nat.le_refl _)
    intro number equal
    exact guarded.known _ _ equal
  · exact single_released guarded.single

omit different in
theorem Guarded.written {file offset : Nat} {piece : Data} (other : world.find target ≠ some file) :
    Guarded target start (after world thread (.write file offset piece) none) := by
  refine ⟨guarded.trusted.same ?_ (List.Subset.refl _) (List.Subset.refl _), guarded.apart,
    guarded.known, guarded.single⟩
  refine content_of_find rfl ?_
  intro number found
  have distinct : number ≠ file := fun same => other (same ▸ found)
  exact Function.update_of_ne distinct ..

theorem Guarded.after {call : Call} {answer : Answer call} (permitted : permits world call answer)
    (allowed : Allows target world thread call) :
    Guarded target start (after world thread call answer) := by
  cases call with
  | stat path => exact guarded
  | compile sourceDir =>
    cases answer with
    | error error => exact guarded
    | ok pieces =>
      exact guarded.still rfl rfl rfl rfl (List.subset_append_left _ _) (List.Subset.refl _)
  | verify path =>
    cases answer with
    | some error => exact guarded
    | none =>
      exact guarded.still rfl rfl rfl rfl (List.Subset.refl _) (List.subset_append_left _ _)
  | create path =>
    obtain ⟨rfl, alone⟩ := allowed
    cases answer with
    | error error => exact guarded
    | ok file => exact guarded.created different permitted alone
  | write file offset piece =>
    cases answer with
    | some error => exact guarded
    | none => exact guarded.written allowed.2
  | rename oldPath newPath =>
    obtain ⟨rfl, rfl, _, ready⟩ := allowed
    cases answer with
    | some error => exact guarded
    | none =>
      rcases Option.isSome_iff_exists.mp permitted with ⟨file, found⟩
      exact guarded.renamed different found (ready file found)
  | remove path =>
    obtain rfl := allowed
    cases answer with
    | some error =>
      exact ⟨guarded.trusted, guarded.apart, guarded.known, single_released guarded.single⟩
    | none => exact guarded.removed different

end

/-! ## What one upgrade knows -/

/-- The intermediate file is the upgrade's own, and holds `data`. -/
structure Owns (target : String) (thread file : Nat) (data : Data) (world : World) : Prop where
  busy : world.busy thread = true
  apart : world.find target ≠ some file
  holds : world.files file = data
  sole : ∀ other, world.find (tmpPath target) = some other → other = file

abbrev discipline (target : String) (start : World) : Discipline World Nat :=
  .ofCalls orderly (Guarded target start) (Allows target)

abbrev Secure {α : Type} (target : String) (start : World) (thread : Nat) (script : Script α)
    (post : α → World → Prop) (world : World) : Prop :=
  script.Secure orderly (discipline target start) thread post world

theorem outputs_after {call : Call} {answer : Answer call} :
    world.outputs ⊆ (after world thread call answer).outputs := by
  cases call <;> cases answer <;>
    first | exact List.Subset.refl _ | exact List.subset_append_left _ _

theorem accepted_after {call : Call} {answer : Answer call} :
    world.accepted ⊆ (after world thread call answer).accepted := by
  cases call <;> cases answer <;>
    first | exact List.Subset.refl _ | exact List.subset_append_left _ _

theorem built_stable {data : Data} :
    Stable orderly (discipline target start) thread fun world => data ∈ world.outputs where
  others := by
    intro other world world' _ _ _ built kept
    rcases kept with ⟨call, answer, _, _, rfl⟩
    exact outputs_after built
  occurs _ _ _ happened := happened.1.elim

theorem accepted_stable {data : Data} :
    Stable orderly (discipline target start) thread fun world => data ∈ world.accepted where
  others := by
    intro other world world' _ _ _ accepted kept
    rcases kept with ⟨call, answer, _, _, rfl⟩
    exact accepted_after accepted
  occurs _ _ _ happened := happened.1.elim

section

variable (different : Text.clean target ≠ Text.clean (tmpPath target))
include different

theorem Owns.others {other file : Nat} {data : Data} {call : Call} {answer : Answer call}
    (owns : Owns target thread file data world) (guarded : Guarded target start world)
    (apart : other ≠ thread) (allowed : Allows target world other call) :
    Owns target thread file data (after world other call answer) := by
  have idle : world.busy other ≠ true := fun busy =>
    apart (guarded.single other thread busy owns.busy)
  have released : Function.update world.busy other false thread = true :=
    (Function.update_of_ne (Ne.symm apart) ..).trans owns.busy
  cases call with
  | stat path => exact owns
  | compile sourceDir =>
    cases answer with
    | error error => exact owns
    | ok pieces => exact ⟨owns.busy, owns.apart, owns.holds, owns.sole⟩
  | verify path =>
    cases answer with
    | some error => exact owns
    | none => exact ⟨owns.busy, owns.apart, owns.holds, owns.sole⟩
  | create path => exact absurd owns.busy (by simp [allowed.2 thread (Ne.symm apart)])
  | write number offset piece => exact absurd allowed.1 idle
  | rename oldPath newPath => exact absurd allowed.2.2.1 idle
  | remove path =>
    obtain rfl := allowed
    cases answer with
    | some error => exact ⟨released, owns.apart, owns.holds, owns.sole⟩
    | none =>
      have gone : (world.bind (tmpPath target) none).find (tmpPath target) = none :=
        find_bind_self
      have kept : (world.bind (tmpPath target) none).find target = world.find target :=
        find_bind_of_ne different
      refine ⟨released, kept.trans_ne owns.apart, owns.holds, ?_⟩
      intro number found
      cases gone.symm.trans found

theorem owns_stable {file : Nat} {data : Data} :
    Stable orderly (discipline target start) thread (Owns target thread file data) where
  others := by
    intro other world world' apart guarded _ owns kept
    rcases kept with ⟨call, answer, _, allowed, rfl⟩
    exact owns.others different guarded apart allowed
  occurs _ _ _ happened := happened.1.elim

theorem complete_stable {file : Nat} {output : Data} :
    Stable orderly (discipline target start) thread fun world =>
      Owns target thread file output world ∧ output ∈ world.outputs ∧ output ∈ world.accepted :=
  (owns_stable different).and (built_stable.and accepted_stable)

/-! ## The upgrades keep the guard -/

theorem call_secure {α : Type} {call : Call} {next : Answer call → Script α}
    {post : α → World → Prop} (knows : World → Prop)
    (stable : Stable orderly (discipline target start) thread knows) (known : knows world)
    (allowed : ∀ world answer, knows world → Guarded target start world →
      orderly.permits world thread call answer → Allows target world thread call)
    (continues : ∀ world answer, knows world → Guarded target start world →
      permits world call answer →
      Secure target start thread (next answer) post (after world thread call answer)) :
    Secure target start thread (perform call >>= next) post world := by
  apply Program.Secure.call knows _ stable known allowed
  · intro world answer known guarded permitted _
    exact continues world answer known guarded permitted.1
  · intro world thread call answer guarded permitted allowed
    exact guarded.after different permitted.1 allowed

omit different in
theorem return_secure {α : Type} {value : α} {post : α → World → Prop}
    (knows : World → Prop) (stable : Stable orderly (discipline target start) thread knows)
    (known : knows world) (meets : ∀ world, knows world → post value world) :
    Secure target start thread (Program.done value) post world :=
  .done knows stable known fun world known _ => meets world known

omit different in
theorem return_trivial {α : Type} {value : α} {post : α → World → Prop}
    (meets : ∀ world, post value world) :
    Secure target start thread (Program.done value) post world :=
  return_secure (fun _ => True) .trivial trivial fun world _ => meets world

theorem fileSize_secure {path : String} {knows : World → Prop}
    (stable : Stable orderly (discipline target start) thread knows) (known : knows world) :
    Secure target start thread (fileSize path) (fun _ => knows) world := by
  apply call_secure different knows stable known
  · exact fun _ _ _ _ _ => trivial
  · intro world answer known guarded permitted
    cases answer with
    | error error | ok size => exact return_secure knows stable known fun _ known => known

omit different in
theorem writeAt_end (data piece : Data) : writeAt data data.length piece = data ++ piece := by
  simp [writeAt]

theorem writePieces_secure {file : Nat} {output : Data} (pieces : List Data) (written : Data)
    (whole : written ++ pieces.flatten = output) (owns : Owns target thread file written world)
    (built : output ∈ world.outputs) :
    Secure target start thread (writePieces file written.length pieces)
      (fun failed world => failed = none →
        Owns target thread file output world ∧ output ∈ world.outputs) world := by
  induction pieces generalizing written world with
  | nil =>
    rw [List.flatten_nil, List.append_nil] at whole
    subst whole
    exact return_secure _ ((owns_stable different).and built_stable) ⟨owns, built⟩
      fun _ known _ => known
  | cons piece rest induction =>
    apply call_secure different _ ((owns_stable different).and built_stable) ⟨owns, built⟩
    · intro world answer known guarded permitted
      exact ⟨known.1.busy, known.1.apart⟩
    · intro world answer known guarded permitted
      cases answer with
      | some error => exact return_trivial nofun
      | none =>
        have longer : written.length + piece.length = (written ++ piece).length := by simp
        dsimp only
        rw [longer]
        apply induction
        · rw [← whole, List.flatten_cons, List.append_assoc]
        · refine ⟨known.1.busy, known.1.apart, ?_, known.1.sole⟩
          refine (Function.update_self ..).trans ?_
          rw [known.1.holds, writeAt_end]
        · exact known.2

theorem build_secure {sourceDir : String} :
    Secure target start thread (build sourceDir (tmpPath target))
      (fun failed world => failed = none → ∃ file output,
        Owns target thread file output world ∧ output ∈ world.outputs) world := by
  apply call_secure different (fun _ => True) .trivial trivial
  · exact fun _ _ _ _ _ => trivial
  · intro world answer _ guarded permitted
    cases answer with
    | error error => exact return_trivial nofun
    | ok pieces =>
      have built : pieces.flatten ∈ world.outputs ++ [pieces.flatten] :=
        List.mem_append_right _ (List.mem_singleton_self _)
      apply call_secure different _ built_stable built
      · intro world answer _ _ permitted
        exact ⟨rfl, permitted.2 _ rfl⟩
      · intro world answer built guarded permitted
        cases answer with
        | error error => exact return_trivial nofun
        | ok file =>
          have placed : (world.bind (tmpPath target) (some file)).find (tmpPath target) =
            some file :=
            find_bind_self
          have kept : (world.bind (tmpPath target) (some file)).find target =
            world.find target :=
            find_bind_of_ne different
          have owns : Owns target thread file []
            (after world thread (.create (tmpPath target)) (.ok file)) := by
            refine ⟨Function.update_self .., kept.trans_ne (guarded.fresh permitted),
              Function.update_self .., ?_⟩
            intro other found
            exact Option.some.inj (found.symm.trans placed)
          apply Program.Secure.mono (writePieces_secure different pieces [] rfl owns built)
          intro failed world complete none
          exact ⟨file, pieces.flatten, complete none⟩

theorem abandon_secure {result : Result} {error : Error} :
    Secure target start thread (abandon (tmpPath target) result error) (fun _ _ => True) world := by
  apply call_secure different (fun _ => True) .trivial trivial
  · exact fun _ _ _ _ _ => rfl
  · intro world answer _ guarded permitted
    exact return_trivial fun _ => trivial

omit different in
theorem Owns.verified {file : Nat} {data : Data} (owns : Owns target thread file data world)
    (found : permits world (.verify (tmpPath target)) none) :
    data ∈ (after world thread (.verify (tmpPath target)) none).accepted := by
  rcases Option.isSome_iff_exists.mp found with ⟨other, found⟩
  have content : world.content (tmpPath target) = some data := by
    rw [World.content, found, owns.sole other found, Option.map_some, owns.holds]
  apply List.mem_append_right
  rw [content]
  exact List.mem_singleton_self _

theorem swap_secure {file : Nat} {output : Data} {result : Result}
    (complete : Owns target thread file output world ∧ output ∈ world.outputs ∧
      output ∈ world.accepted) :
    Secure target start thread (swap (tmpPath target) target result) (fun _ _ => True) world := by
  apply call_secure different _ (complete_stable different) complete
  · intro world answer known guarded permitted
    refine ⟨rfl, rfl, known.1.busy, ?_⟩
    intro other found
    rw [Ready, known.1.sole other found, known.1.holds]
    exact known.2
  · intro world answer known guarded permitted
    cases answer with
    | some error => exact abandon_secure different
    | none => exact return_trivial fun _ => trivial

theorem upgrade_secure {opts : Options} {result : Result} (aims : opts.target = target)
    (guarded : Guarded target start world) :
    Secure target start thread (upgrade opts result) (fun _ _ => True) world := by
  subst aims
  apply Program.Secure.bind (fileSize_secure different .trivial trivial) _ guarded
  intro oldSize world guarded _
  apply Program.Secure.bind (build_secure different) _ guarded
  intro failed world guarded complete
  cases failed with
  | some error => exact abandon_secure different
  | none =>
    rcases complete rfl with ⟨file, output, owns, built⟩
    apply call_secure different _ ((owns_stable different).and built_stable) ⟨owns, built⟩
    · exact fun _ _ _ _ _ => trivial
    · intro world answer known guarded permitted
      cases answer with
      | some error => exact abandon_secure different
      | none =>
        have verified := known.1.verified permitted
        have owns : Owns opts.target thread file output
          (after world thread (.verify (tmpPath opts.target)) none) :=
          ⟨known.1.busy, known.1.apart, known.1.holds, known.1.sole⟩
        apply Program.Secure.bind
        · exact fileSize_secure different (complete_stable different) ⟨owns, known.2, verified⟩
        · intro newSize world guarded known
          exact swap_secure different known
        · exact guarded.after different permitted trivial

theorem dryRun_secure {opts : Options} {result : Result} :
    Secure target start thread (dryRun opts result) (fun _ _ => True) world := by
  apply call_secure different (fun _ => True) .trivial trivial
  · exact fun _ _ _ _ _ => trivial
  · intro world answer _ guarded permitted
    cases answer with
    | error error => exact return_trivial fun _ => trivial
    | ok size =>
      apply Program.Secure.bind (fileSize_secure different .trivial trivial) _ guarded
      intro oldSize world guarded _
      exact return_trivial fun _ => trivial

theorem run_secure {opts : Options} (aims : (applyDefaults opts).target = target)
    (guarded : Guarded target start world) :
    Secure target start thread (run opts) (fun _ _ => True) world := by
  unfold run
  dsimp only
  split
  · exact upgrade_secure different aims guarded
  · exact dryRun_secure different

end

theorem Idle.guarded (idle : Idle target start) : Guarded target start start where
  trusted := .inl rfl
  apart := idle.apart
  known := idle.known
  single thread other busy := absurd busy (by simp [idle.idle thread])

/-- As long as the builds write one after another, the target always holds what it held
at first or what was built completely and verified in that form. -/
theorem target_trusted_of_orderly {opts : Nat → Options}
    (aims : ∀ thread, (applyDefaults (opts thread)).target = target)
    (different : Text.clean target ≠ Text.clean (tmpPath target)) (idle : Idle target start)
    {pool : Pool Answer World Nat Result} (ran : orderly.Run (upgrades opts start) pool) :
    Trusted target start pool.world := by
  have disciplined : Disciplined orderly (discipline target start) (fun _ _ _ => True)
    (upgrades opts start) :=
    ⟨idle.guarded, fun thread => run_secure different (aims thread) idle.guarded⟩
  exact (disciplined.run (fun _ _ _ happened => happened.1.elim) ran).holds.trusted

/-! ## One upgrade, and two at once -/

namespace Sample

def installed : String := "/usr/local/bin/civmctl"

def machineStart : World where
  names path := if path = installed then some 0 else none
  files _ := [0]
  next := 1
  outputs := []
  accepted := []
  busy _ := false

def opts : Options := ⟨"", "", true⟩

def reply (world : World) (thread : Nat) : (call : Call) → Answer call
  | .stat path => (world.content path).elim (.error (.text "not found")) fun data => .ok data.length
  | .compile _ => .ok (if thread = 0 then [[1], [2]] else [[3]])
  | .create path => .ok ((world.find path).getD world.next)
  | .write _ _ _ => none
  | .verify path => if (world.find path).isSome then none else some (.text "not found")
  | .rename oldPath _ => if (world.find oldPath).isSome then none else some (.text "not found")
  | .remove _ => none

theorem reply_permitted (world : World) (thread : Nat) (call : Call) :
    permits world call (reply world thread call) := by
  cases call with
  | stat path =>
    rw [reply]
    cases found : world.content path with
    | none => trivial
    | some data => exact congrArg (Option.map List.length) found
  | create path => rfl
  | verify path =>
    rw [reply]
    cases found : world.find path with
    | none => trivial
    | some file => exact congrArg Option.isSome found
  | rename oldPath newPath =>
    rw [reply]
    cases found : world.find oldPath with
    | none => trivial
    | some file => exact congrArg Option.isSome found
  | compile sourceDir | write file offset piece | remove path => trivial

theorem legal_machine (threads : List Nat) (pool : Pool Answer World Nat Result) :
    pool.Legal machine reply (threads.map .of) := by
  induction threads generalizing pool with
  | nil => trivial
  | cons thread rest induction =>
    refine ⟨?_, induction _⟩
    dsimp only [Pool.Permits]
    split
    · exact reply_permitted ..
    · trivial

theorem busy_after {other : Nat} {call : Call} {answer : Answer call} (apart : other ≠ thread) :
    (after world thread call answer).busy other = world.busy other := by
  cases call <;> cases answer <;> first | rfl | exact Function.update_of_ne apart ..

theorem legal_orderly (steps : Nat) (pool : Pool Answer World Nat Result)
    (idle : ∀ other, other ≠ 0 → pool.world.busy other = false) :
    pool.Legal orderly reply (List.replicate steps (.of 0)) := by
  induction steps generalizing pool with
  | zero => trivial
  | succ steps induction =>
    constructor
    · dsimp only [Pool.Permits]
      split
      · exact ⟨reply_permitted .., fun _ _ => idle⟩
      · trivial
    · apply induction
      intro other apart
      dsimp only [Pool.turn]
      split
      · exact (busy_after apart).trans (idle other apart)
      · exact idle other apart

theorem apart : Text.clean installed ≠ Text.clean (tmpPath installed) := by decide +kernel

theorem idle : Idle installed machineStart where
  idle _ := rfl
  apart := by
    have absent : machineStart.find (tmpPath installed) = none := by decide +kernel
    intro file found
    cases absent.symm.trans found
  known := by
    intro path file found
    change (if path = installed then some 0 else none) = some file at found
    split at found
    · cases found
      exact Nat.zero_lt_one
    · cases found

end Sample

open Sample in
theorem upgraded_target_is_trusted : ∃ pool : Pool Answer World Nat Result,
    orderly.Run (upgrades (fun _ => opts) machineStart) pool ∧
      pool.world.content installed = some [1, 2] ∧ Trusted installed machineStart pool.world := by
  have ran := Pool.run_play (legal_orderly 8 (upgrades (fun _ => opts) machineStart) fun _ _ => rfl)
  exact ⟨_, ran, by decide +kernel,
    target_trusted_of_orderly (fun _ => by decide +kernel) apart idle ran⟩

open Sample in
/-- The second build starts between the verification and the rename of the first upgrade,
which then replaces the target by an empty file. -/
theorem second_build_empties_target : ∃ pool : Pool Answer World Nat Result,
    machine.Run (upgrades (fun _ => opts) machineStart) pool ∧ Idle installed machineStart ∧
      (∀ data ∈ pool.world.outputs, data = [1, 2] ∨ data = [3]) ∧
      machineStart.content installed = some [0] ∧ pool.world.content installed = some [] ∧
      ¬Trusted installed machineStart pool.world := by
  let turns := [0, 0, 0, 0, 0, 0, 1, 1, 1, 0, 0]
  have ran := Pool.run_play (legal_machine turns (upgrades (fun _ => opts) machineStart))
  have before : machineStart.content installed = some [0] := by decide +kernel
  have outputs : ((upgrades (fun _ => opts) machineStart).play machine reply
    (turns.map .of)).world.outputs = [[1, 2], [3]] := by decide +kernel
  have emptied : ((upgrades (fun _ => opts) machineStart).play machine reply
    (turns.map .of)).world.content installed = some [] := by decide +kernel
  refine ⟨_, ran, idle, by simp [outputs], before, emptied, ?_⟩
  rintro (kept | ⟨data, built, _, holds⟩)
  · rw [emptied, before] at kept
    cases kept
  · rw [emptied] at holds
    rw [outputs] at built
    cases holds
    simp at built

end Civm.SelfUpgrade
