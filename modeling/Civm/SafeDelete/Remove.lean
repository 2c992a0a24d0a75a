import Civm.Cleanup.SafeDelete
import Civm.Foundation.Determined
import Civm.Foundation.Frame
import Civm.Foundation.Justified
import Civm.Foundation.Play

/-! # Guarded deletion against any file system

`safedelete.Remove` and `safedelete.Chown`, with the file system and the privileged
wrapper outside. -/

namespace Civm.SafeDelete

open Cleanup (Error Guard Removed Result refuse validateFixed)

/-- What `EvalSymlinksFn` gives. `notExist` is an error that is `fs.ErrNotExist`. -/
inductive Resolved
  | real (path : String)
  | notExist
  | failed (message : String)

/-- What `LstatFn` gives, with the owner that `FileOwnerUIDFn` reads in it. -/
inductive Status
  | found (owner : Option Int)
  | notExist
  | failed (message : String)

inductive Call
  | evalSymlinks (path : String)
  | lstat (path : String)
  | ownerUID
  | removeAll (path : String)
  | run (name : String) (args : List String)

abbrev Call.Answer : Call → Type
  | .evalSymlinks _ => Resolved
  | .lstat _ => Status
  | .ownerUID => Int
  | .removeAll _ => Removed
  | .run _ _ => Option Error

abbrev Trace := List (Event Call.Answer)

abbrev Act (α : Type) := Program Call.Answer α

def perform (call : Call) : Act call.Answer := Program.perform call

def rootUID : Int := 0

def defaultSafeDeleteWrapperPath : String := "/usr/local/bin/civm-safedelete"

structure Options where
  wrapperPath : String
  /-- `none` is the nil guard. -/
  guardFn : Option Guard

def Options.wrapper (options : Options) : String :=
  if options.wrapperPath = "" then defaultSafeDeleteWrapperPath else options.wrapperPath

def message : Error → String
  | .sentinel .unsafePath => "safedelete: unsafe path"
  | .text text => text
  | .wrap before cause after => before ++ message cause ++ after
  | .pair first between second => message first ++ between ++ message second

section

variable (options : Options) (home : String)

/-- The part of `resolveAndAffirmOwner` after the links have been followed. -/
def affirmOwner (real : String) : Act (Except Error String) := do
  match ← perform (.lstat real) with
  | .notExist => return .ok real
  | .failed text => return .error (refuse ("cannot lstat " ++ real ++ ": " ++ text))
  | .found none => return .error (refuse ("cannot determine owner of " ++ real))
  | .found (some uid) =>
    let want ← perform .ownerUID
    if uid ≠ want ∧ uid ≠ rootUID then
      return .error (refuse (real ++ " owned by uid " ++ toString uid ++ ", runner is uid " ++
        toString want))
    else return .ok real

def resolveAndAffirmOwner (guard : Guard) (clean : String) : Act (Except Error String) := do
  match ← perform (.evalSymlinks clean) with
  | .notExist => return .ok clean
  | .failed text => return .error (refuse ("cannot resolve " ++ clean ++ ": " ++ text))
  | .real real =>
    if real = clean then affirmOwner real
    else match validateFixed home real with
      | .error error => return .error error
      | .ok _ =>
        match guard real with
        | some reason =>
          return .error (refuse ("resolved target " ++ real ++
            " escapes the validated tree: " ++ reason))
        | none => affirmOwner real

def resolveSafeTarget (path : String) : Act (Except Error String) :=
  match validateFixed home path with
  | .error error => return .error error
  | .ok clean =>
    match options.guardFn with
    | none => return .error (refuse "nil GuardFn (escalation must be scoped)")
    | some guard =>
      match guard clean with
      | some reason => return .error (refuse ("guard rejected " ++ clean ++ ": " ++ reason))
      | none => resolveAndAffirmOwner home guard clean

def runWrapper (op : String) (args : List String) : Act (Option Error) :=
  perform (.run "sudo" (["-n", options.wrapper, op] ++ args))

/-- `fmt.Sprintf("%d:%d", opts.OwnerUIDFn(), opts.OwnerUIDFn())`. -/
def uidgid : Act String := do
  let user ← perform .ownerUID
  let group ← perform .ownerUID
  return toString user ++ ":" ++ toString group

/-- The end of `escalate`. -/
def removeAsRoot (chownError : Option Error) (target : String) : Act Result := do
  match ← runWrapper options "rm" [target] with
  | none => return ⟨true, none⟩
  | some error =>
    match chownError with
    | some chownError =>
      return ⟨true, some (.wrap ("chown failed (" ++ message chownError ++ ") and rm failed: ")
        error "")⟩
    | none => return ⟨true, some (.wrap "wrapper rm failed: " error "")⟩

def escalate (target : String) : Act Result := do
  let owner ← uidgid
  match ← runWrapper options "chown" [owner, target] with
  | some error => removeAsRoot options (some error) target
  | none =>
    match ← perform (.removeAll target) with
    | .ok => return ⟨true, none⟩
    | _ => removeAsRoot options none target

def remove (path : String) : Act Result := do
  match ← resolveSafeTarget options home path with
  | .error error => return ⟨false, some error⟩
  | .ok target =>
    match ← perform (.removeAll target) with
    | .ok => return ⟨false, none⟩
    | .failed error => return ⟨false, some error⟩
    | .permission _ => escalate options target

def chown (path : String) : Act Result := do
  match ← resolveSafeTarget options home path with
  | .error error => return ⟨false, some error⟩
  | .ok target =>
    let owner ← uidgid
    match ← runWrapper options "chown" [owner, target] with
    | some error => return ⟨true, some (.wrap "wrapper chown failed: " error "")⟩
    | none => return ⟨true, none⟩

end

/-! ## What has been checked -/

section

variable {home path clean : String}

theorem validateFixed_eq_ok : validateFixed home path = .ok clean ↔
    path.toList.all Text.isSpace = false ∧ path.toList.contains '\x00' = false ∧
      Text.isAbs (Text.clean path) = true ∧ Text.clean path ≠ "/" ∧
      ¬(home ≠ "" ∧ Text.clean path = Text.clean home) ∧
      Cleanup.isBareHome (Text.clean path) = false ∧ Text.clean path = clean := by
  unfold validateFixed
  dsimp only
  split_ifs <;> simp_all

theorem validateFixed_clean (valid : validateFixed home path = .ok clean) :
    validateFixed home clean = .ok clean := by
  rcases validateFixed_eq_ok.mp valid with ⟨_, noNul, isAbs, notTop, notHome, notBare, rfl⟩
  have again := Text.clean_clean (Text.isAbs_of_isAbs_clean isAbs)
  rw [validateFixed_eq_ok, again]
  refine ⟨?_, ?_, isAbs, notTop, notHome, notBare, rfl⟩
  · have rooted : (Text.clean path).toList.head? = some '/' := of_decide_eq_true isAbs
    rw [List.all_eq_false]
    exact ⟨'/', List.mem_of_head? rooted, by decide⟩
  · rw [List.contains_eq_mem, decide_eq_false_iff_not] at noNul ⊢
    rw [Text.clean, String.toList_ofList]
    intro member
    rcases Text.mem_of_mem_cleanChars member with among | slash | dot
    · exact noNul among
    · cases slash
    · cases dot

theorem is_unsafePath_of_validateFixed {error : Error} (refused : validateFixed home path = .error error) :
    error.is .unsafePath = true := by
  unfold validateFixed at refused
  dsimp only at refused
  split_ifs at refused <;> cases refused <;> rfl

end

def Options.accepts (options : Options) (path : String) : Bool :=
  match options.guardFn with
  | none => false
  | some guard => (guard path).isNone

/-- The call deletes or changes something. -/
def Call.hands : Call → Bool
  | .removeAll _ | .run _ _ => true
  | _ => false

/-- The file system has shown that nothing is there, or that it is the runner's or root's. -/
def Shown (target : String) (trace : Trace) : Prop :=
  ⟨.evalSymlinks target, .notExist⟩ ∈ trace ∨ ⟨.lstat target, .notExist⟩ ∈ trace ∨
    ∃ uid, ⟨.lstat target, .found (some uid)⟩ ∈ trace ∧
      (uid = rootUID ∨ ⟨.ownerUID, uid⟩ ∈ trace)

section

variable (options : Options) (home : String)

structure Safe (target : String) (trace : Trace) : Prop where
  valid : ∃ clean, validateFixed home target = .ok clean
  accepted : options.accepts target = true
  shown : Shown target trace
  resolved : ∀ asked real, ⟨.evalSymlinks asked, .real real⟩ ∈ trace → target = real

/-- One of the three guards rejects the path, by what the file system has answered. -/
inductive Rejected (path : String) (trace : Trace) : Prop
  | fixed {error} (refused : validateFixed home path = .error error)
  | unscoped {clean} (valid : validateFixed home path = .ok clean)
    (outside : options.accepts clean = false)
  | unresolved {clean text} (valid : validateFixed home path = .ok clean)
    (answered : [⟨.evalSymlinks clean, .failed text⟩] <+: trace)
  | invalid {clean real error} (valid : validateFixed home path = .ok clean)
    (answered : [⟨.evalSymlinks clean, .real real⟩] <+: trace)
    (refused : validateFixed home real = .error error)
  | escapes {clean real} (valid : validateFixed home path = .ok clean)
    (answered : [⟨.evalSymlinks clean, .real real⟩] <+: trace)
    (outside : options.accepts real = false)
  | unreadable {clean real text} (valid : validateFixed home path = .ok clean)
    (answered : [⟨.evalSymlinks clean, .real real⟩, ⟨.lstat real, .failed text⟩] <+: trace)
  | unowned {clean real} (valid : validateFixed home path = .ok clean)
    (answered : [⟨.evalSymlinks clean, .real real⟩, ⟨.lstat real, .found none⟩] <+: trace)
  | foreign {clean real uid want} (valid : validateFixed home path = .ok clean)
    (answered : [⟨.evalSymlinks clean, .real real⟩, ⟨.lstat real, .found (some uid)⟩,
      ⟨.ownerUID, want⟩] <+: trace)
    (other : uid ≠ want) (notRoot : uid ≠ rootUID)

end

inductive Entry
  | remove
  | chown

def Entry.program (options : Options) (home path : String) : Entry → Act Result
  | .remove => SafeDelete.remove options home path
  | .chown => SafeDelete.chown options home path

/-- What is handed on is a safe target, and `Remove` asks for privilege only after a
deletion of it was not permitted. -/
def Guarded (options : Options) (home : String) (entry : Entry) (before : Trace)
    (event : Event Call.Answer) : Prop :=
  match event.call with
  | .removeAll target => Safe options home target before
  | .run name args =>
    name = "sudo" ∧ ∃ target, Safe options home target before ∧
      ((∃ owner, args = ["-n", options.wrapper, "chown", owner, target]) ∨
        args = ["-n", options.wrapper, "rm", target]) ∧
      (entry = .remove → ∃ error, ⟨.removeAll target, .permission error⟩ ∈ before)
  | _ => True

section

variable {World : Type} {outside : Outside Call.Answer World}
variable {options : Options} {home path clean target : String} {entry : Entry} {trace : Trace}
variable {event : Event Call.Answer}

theorem Shown.snoc (shown : Shown target trace) : Shown target (trace ++ [event]) := by
  rcases shown with missing | missing | ⟨uid, found, owned⟩
  · exact .inl (List.mem_append_left _ missing)
  · exact .inr (.inl (List.mem_append_left _ missing))
  · exact .inr (.inr ⟨uid, List.mem_append_left _ found, owned.imp_right (List.mem_append_left _)⟩)

theorem Safe.snoc (safe : Safe options home target trace)
    (other : ∀ asked, event.call ≠ .evalSymlinks asked) :
    Safe options home target (trace ++ [event]) where
  valid := safe.valid
  accepted := safe.accepted
  shown := safe.shown.snoc
  resolved asked real member := by
    rcases List.mem_append.mp member with earlier | last
    · exact safe.resolved asked real earlier
    · cases List.mem_singleton.mp last
      exact absurd rfl (other asked)

def Quiet (trace : Trace) : Prop := ∀ event ∈ trace, event.call.hands = false

variable (options home path entry) in
def guarding : Contract Call.Answer World where
  keeps trace _ :=
    Justified (Guarded options home entry) trace ∧ (Rejected options home path trace → Quiet trace)
  allows _ _ _ := True
  progress := False

variable (options home path) in
/-- All three guards have let the target through. -/
structure Cleared (target : String) (trace : Trace) : Prop where
  safe : Safe options home target trace
  unrejected : ∀ more, ¬Rejected options home path (trace ++ more)

theorem Cleared.snoc (cleared : Cleared options home path target trace)
    (other : ∀ asked, event.call ≠ .evalSymlinks asked) :
    Cleared options home path target (trace ++ [event]) where
  safe := cleared.safe.snoc other
  unrejected more := by
    rw [List.append_assoc]
    exact cleared.unrejected _

theorem Quiet.snoc (quiet : Quiet trace) (event : Event Call.Answer)
    (hands : event.call.hands = false) : Quiet (trace ++ [event]) := by
  intro other member
  rcases List.mem_append.mp member with earlier | last
  · exact quiet other earlier
  · cases List.mem_singleton.mp last
    exact hands

theorem Quiet.justified (quiet : Quiet trace) :
    Justified (Guarded options home entry) trace := by
  intro before event after split
  have hands := quiet event (split ▸ by simp)
  rcases event with ⟨call, answer⟩
  cases call <;> trivial

theorem Quiet.kept (quiet : Quiet trace) {world : World} :
    (guarding options home path entry).keeps trace world :=
  ⟨quiet.justified, fun _ => quiet⟩

theorem Cleared.kept (cleared : Cleared options home path target trace)
    (justified : Justified (Guarded options home entry) trace) {world : World} :
    (guarding options home path entry).keeps trace world := by
  refine ⟨justified, fun rejected => ?_⟩
  rw [← List.append_nil trace] at rejected
  exact absurd rejected (cleared.unrejected [])

/-- How the guards end: with a refusal, or with a target that they have cleared. -/
def Decided (options : Options) (home path : String) (result : Except Error String)
    (trace : Trace) : Prop :=
  Quiet trace ∧
    match result with
    | .error error => error.is .unsafePath = true
    | .ok target => Cleared options home path target trace

/-- What the answers so far must be for the rejection to come after the links have been
followed to an acceptable path. -/
theorem Rejected.of_resolved {real reached : String} {rest : Trace}
    (valid : validateFixed home path = .ok clean) (inScope : options.accepts clean = true)
    (validReal : validateFixed home real = .ok reached) (realInScope : options.accepts real = true)
    (rejected : Rejected options home path (⟨.evalSymlinks clean, .real real⟩ :: rest)) :
    (∃ text, [⟨.lstat real, .failed text⟩] <+: rest) ∨ [⟨.lstat real, .found none⟩] <+: rest ∨
      ∃ uid want, [⟨.lstat real, .found (some uid)⟩, ⟨.ownerUID, want⟩] <+: rest ∧
        uid ≠ want ∧ uid ≠ rootUID := by
  cases rejected with
  | fixed refused => cases valid.symm.trans refused
  | unscoped valid' outside =>
    cases valid.symm.trans valid'
    cases inScope.symm.trans outside
  | unresolved valid' answered => cases (List.cons_prefix_cons.mp answered).1
  | invalid valid' answered refused =>
    cases (List.cons_prefix_cons.mp answered).1
    cases validReal.symm.trans refused
  | escapes valid' answered outside =>
    cases (List.cons_prefix_cons.mp answered).1
    cases realInScope.symm.trans outside
  | unreadable valid' answered =>
    rcases List.cons_prefix_cons.mp answered with ⟨same, later⟩
    cases same
    exact .inl ⟨_, later⟩
  | unowned valid' answered =>
    rcases List.cons_prefix_cons.mp answered with ⟨same, later⟩
    cases same
    exact .inr (.inl later)
  | foreign valid' answered other notRoot =>
    rcases List.cons_prefix_cons.mp answered with ⟨same, later⟩
    cases same
    exact .inr (.inr ⟨_, _, later, other, notRoot⟩)

theorem Rejected.not_of_missing {rest : Trace} (valid : validateFixed home path = .ok clean)
    (inScope : options.accepts clean = true) :
    ¬Rejected options home path (⟨.evalSymlinks clean, .notExist⟩ :: rest) := by
  intro rejected
  cases rejected with
  | fixed refused => cases valid.symm.trans refused
  | unscoped valid' outside =>
    cases valid.symm.trans valid'
    cases inScope.symm.trans outside
  | unresolved _ answered | invalid _ answered | escapes _ answered | unreadable _ answered
  | unowned _ answered | foreign _ answered =>
    cases (List.cons_prefix_cons.mp answered).1

theorem quiet_nil : Quiet [] := nofun

theorem affirmOwner_decided {real reached : String} {world : World}
    (valid : validateFixed home path = .ok clean) (inScope : options.accepts clean = true)
    (validReal : validateFixed home real = .ok reached)
    (realInScope : options.accepts real = true) :
    (affirmOwner real).Satisfies outside (guarding options home path entry)
      (fun result trace _ => Decided options home path result trace)
      [⟨.evalSymlinks clean, .real real⟩] world := by
  have quiet : Quiet [⟨.evalSymlinks clean, .real real⟩] := quiet_nil.snoc _ rfl
  have resolved (rest : Trace) (others : ∀ event ∈ rest, ∀ asked, event.call ≠ .evalSymlinks asked)
    (shown : Shown real (⟨.evalSymlinks clean, .real real⟩ :: rest)) :
    Safe options home real (⟨.evalSymlinks clean, .real real⟩ :: rest) := by
    refine ⟨⟨reached, validReal⟩, realInScope, shown, fun asked found member => ?_⟩
    rcases List.mem_cons.mp member with same | later
    · cases same
      rfl
    · exact absurd rfl (others _ later asked)
  apply Program.satisfies_perform.mpr
  refine ⟨quiet.kept, trivial, nofun, fun answer _ => ?_⟩
  have quiet := quiet.snoc ⟨.lstat real, answer⟩ rfl
  cases answer with
  | failed text => exact ⟨quiet, rfl⟩
  | notExist =>
    refine ⟨quiet, resolved _ (by simp) (.inr (.inl (by simp))), fun more rejected => ?_⟩
    rcases rejected.of_resolved valid inScope validReal realInScope with
      ⟨text, answered⟩ | answered | ⟨uid, want, answered, _⟩
    all_goals cases (List.cons_prefix_cons.mp answered).1
  | found owner =>
    cases owner with
    | none => exact ⟨quiet, rfl⟩
    | some uid =>
      apply Program.satisfies_perform.mpr
      refine ⟨quiet.kept, trivial, nofun, fun want _ => ?_⟩
      have quiet := quiet.snoc ⟨.ownerUID, want⟩ rfl
      split
      · exact ⟨quiet, rfl⟩
      · rename_i owned
        refine ⟨quiet, resolved _ (by simp) (.inr (.inr ⟨uid, by simp, ?_⟩)),
          fun more rejected => ?_⟩
        · by_cases root : uid = rootUID
          · exact .inl root
          · have same : uid = want := by
              by_contra other
              exact owned ⟨other, root⟩
            exact .inr (by simp [same])
        · rcases rejected.of_resolved valid inScope validReal realInScope with
            ⟨text, answered⟩ | answered | ⟨uid', want', answered, foreign⟩
          · cases (List.cons_prefix_cons.mp answered).1
          · cases (List.cons_prefix_cons.mp answered).1
          · rcases List.cons_prefix_cons.mp answered with ⟨same, asked⟩
            cases same
            have same := (List.cons_prefix_cons.mp asked).1
            cases same
            exact owned foreign

theorem resolveSafeTarget_decided {world : World} :
    (resolveSafeTarget options home path).Satisfies outside (guarding options home path entry)
      (fun result trace _ => Decided options home path result trace) [] world := by
  rw [resolveSafeTarget]
  cases valid : validateFixed home path with
  | error error => exact ⟨quiet_nil, is_unsafePath_of_validateFixed valid⟩
  | ok clean =>
    dsimp only
    cases supplied : options.guardFn with
    | none => exact ⟨quiet_nil, rfl⟩
    | some guard =>
      dsimp only
      cases verdict : guard clean with
      | some reason => exact ⟨quiet_nil, rfl⟩
      | none =>
        have inScope : options.accepts clean = true := by
          simp [Options.accepts, supplied, verdict]
        apply Program.satisfies_perform.mpr
        refine ⟨quiet_nil.kept, trivial, nofun, fun answer _ => ?_⟩
        have quiet := quiet_nil.snoc ⟨.evalSymlinks clean, answer⟩ rfl
        cases answer with
        | notExist =>
          refine ⟨quiet, ⟨⟨clean, validateFixed_clean valid⟩, inScope,
            .inl (by simp), ?_⟩, ?_⟩
          · intro asked real member
            cases List.mem_singleton.mp member
          · intro more
            exact Rejected.not_of_missing valid inScope
        | failed text => exact ⟨quiet, rfl⟩
        | real real =>
          dsimp only
          split
          · rename_i same
            subst same
            exact affirmOwner_decided valid inScope (validateFixed_clean valid) inScope
          · cases validReal : validateFixed home real with
            | error error => exact ⟨quiet, is_unsafePath_of_validateFixed validReal⟩
            | ok reached =>
              dsimp only
              cases realVerdict : guard real with
              | some reason => exact ⟨quiet, rfl⟩
              | none =>
                apply affirmOwner_decided valid inScope validReal
                simp [Options.accepts, supplied, realVerdict]

/-! ## What is handed on -/

/-- The code after the guards: a cleared target, and a trace that is justified so far. -/
structure Handling (options : Options) (home path : String) (entry : Entry) (target : String)
    (trace : Trace) : Prop where
  cleared : Cleared options home path target trace
  justified : Justified (Guarded options home entry) trace

variable {world : World}

theorem Handling.kept (handling : Handling options home path entry target trace) :
    (guarding options home path entry).keeps trace world :=
  handling.cleared.kept handling.justified

theorem Handling.perform (handling : Handling options home path entry target trace) (call : Call)
    {next : call.Answer → Act α} {post : α → Trace → World → Prop}
    (other : ∀ asked, call ≠ .evalSymlinks asked)
    (guarded : ∀ answer, Guarded options home entry trace ⟨call, answer⟩)
    (continues : ∀ answer world, Handling options home path entry target (trace ++ [⟨call, answer⟩]) →
      (next answer).Satisfies outside (guarding options home path entry) post
        (trace ++ [⟨call, answer⟩]) world) :
    (SafeDelete.perform call >>= next).Satisfies outside (guarding options home path entry) post
      trace world := by
  apply Program.satisfies_perform.mpr
  refine ⟨handling.kept, trivial, nofun, fun answer _ => continues answer _ ?_⟩
  exact ⟨handling.cleared.snoc other, handling.justified.snoc (guarded answer)⟩

theorem Handling.wrapped (handling : Handling options home path entry target trace)
    {args : List String}
    (form : (∃ owner, args = ["-n", options.wrapper, "chown", owner, target]) ∨
      args = ["-n", options.wrapper, "rm", target])
    (refused : entry = .remove → ∃ error, ⟨.removeAll target, .permission error⟩ ∈ trace)
    (answer : Option Error) :
    Guarded options home entry trace ⟨.run "sudo" args, answer⟩ :=
  ⟨rfl, target, handling.cleared.safe, form, refused⟩

theorem uidgid_handled {next : String → Act α} {post : α → Trace → World → Prop}
    (handling : Handling options home path entry target trace)
    (continues : ∀ owner user group world,
      Handling options home path entry target (trace ++ [⟨.ownerUID, user⟩] ++ [⟨.ownerUID, group⟩]) →
      (next owner).Satisfies outside (guarding options home path entry) post
        (trace ++ [⟨.ownerUID, user⟩] ++ [⟨.ownerUID, group⟩]) world) :
    (uidgid >>= next).Satisfies outside (guarding options home path entry) post trace world := by
  apply handling.perform .ownerUID (fun _ => nofun) (fun _ => trivial)
  intro user world handling
  apply handling.perform .ownerUID (fun _ => nofun) (fun _ => trivial)
  intro group world handling
  exact continues _ user group world handling

/-- The postcondition of both operations: no rejected path is handed on, and its error
says so. -/
def Settled (options : Options) (home path : String) (entry : Entry) (result : Result)
    (trace : Trace) : Prop :=
  Justified (Guarded options home entry) trace ∧
    (Rejected options home path trace →
      Quiet trace ∧ ∃ error, result.err = some error ∧ error.is .unsafePath = true)

theorem Handling.settled (handling : Handling options home path entry target trace)
    (result : Result) : Settled options home path entry result trace := by
  refine ⟨handling.justified, fun rejected => ?_⟩
  rw [← List.append_nil trace] at rejected
  exact absurd rejected (handling.cleared.unrejected [])

theorem removeAsRoot_settled (handling : Handling options home path entry target trace)
    (refused : entry = .remove → ∃ error, ⟨.removeAll target, .permission error⟩ ∈ trace)
    (chownError : Option Error) :
    (removeAsRoot options chownError target).Satisfies outside (guarding options home path entry)
      (fun result trace _ => Settled options home path entry result trace) trace world := by
  apply handling.perform (.run "sudo" _) (fun _ => nofun)
    (handling.wrapped (.inr rfl) refused)
  intro answer world handling
  cases answer with
  | none => exact handling.settled _
  | some error => cases chownError <;> exact handling.settled _

theorem escalate_settled (handling : Handling options home path entry target trace)
    (error : Error) (refused : ⟨.removeAll target, .permission error⟩ ∈ trace) :
    (escalate options target).Satisfies outside (guarding options home path entry)
      (fun result trace _ => Settled options home path entry result trace) trace world := by
  apply uidgid_handled handling
  intro owner user group world handling
  have refused : ⟨.removeAll target, .permission error⟩ ∈
    trace ++ [⟨.ownerUID, user⟩] ++ [⟨.ownerUID, group⟩] := by simp [refused]
  apply handling.perform (.run "sudo" _) (fun _ => nofun)
    (handling.wrapped (.inl ⟨owner, rfl⟩) fun _ => ⟨error, refused⟩)
  intro answer world handling
  have refused := List.mem_append_left [⟨_, answer⟩] refused
  cases answer with
  | some chownError => exact removeAsRoot_settled handling (fun _ => ⟨error, refused⟩) _
  | none =>
    apply handling.perform (.removeAll target) (fun _ => nofun) fun _ => handling.cleared.safe
    intro answer world handling
    have refused := List.mem_append_left [⟨_, answer⟩] refused
    cases answer with
    | ok => exact handling.settled _
    | permission _ | failed _ =>
      exact removeAsRoot_settled handling (fun _ => ⟨error, refused⟩) _

theorem remove_settled :
    (remove options home path).Satisfies outside (guarding options home path .remove)
      (fun result trace _ => Settled options home path .remove result trace) [] world := by
  apply Program.satisfies_bind.mpr
  apply resolveSafeTarget_decided.mono
  intro result trace world ⟨quiet, decided⟩
  cases result with
  | error error => exact ⟨quiet.justified, fun _ => ⟨quiet, error, rfl, decided⟩⟩
  | ok target =>
    have handling : Handling options home path .remove target trace := ⟨decided, quiet.justified⟩
    apply handling.perform (.removeAll target) (fun _ => nofun) fun _ => handling.cleared.safe
    intro answer world handling
    cases answer with
    | ok | failed error => exact handling.settled _
    | permission error => exact escalate_settled handling error (by simp)

theorem chown_settled :
    (chown options home path).Satisfies outside (guarding options home path .chown)
      (fun result trace _ => Settled options home path .chown result trace) [] world := by
  apply Program.satisfies_bind.mpr
  apply resolveSafeTarget_decided.mono
  intro result trace world ⟨quiet, decided⟩
  cases result with
  | error error => exact ⟨quiet.justified, fun _ => ⟨quiet, error, rfl, decided⟩⟩
  | ok target =>
    have handling : Handling options home path .chown target trace := ⟨decided, quiet.justified⟩
    apply uidgid_handled handling
    intro owner user group world handling
    apply handling.perform (.run "sudo" _) (fun _ => nofun)
      (handling.wrapped (.inl ⟨owner, rfl⟩) nofun)
    intro answer world handling
    cases answer <;> exact handling.settled _

theorem program_settled :
    (entry.program options home path).Satisfies outside (guarding options home path entry)
      (fun result trace _ => Settled options home path entry result trace) [] world := by
  cases entry with
  | remove => exact remove_settled
  | chown => exact chown_settled

end

/-- Whatever the file system answers, `Remove` and `Chown` hand on only what all guards
have let through, and nothing of a path that one of them rejects. -/
theorem handed_paths_are_guarded {World : Type} {outside : Outside Call.Answer World}
    {options : Options} {home path : String} {entry : Entry} {trace : Trace}
    {world world' : World} {result : Option Result}
    (execution : Execution outside (entry.program options home path) [] world trace world'
      result) :
    Justified (Guarded options home entry) trace ∧
      (Rejected options home path trace →
        (∀ event ∈ trace, event.call.hands = false) ∧
          ∀ value, result = some value →
            ∃ error, value.err = some error ∧ error.is .unsafePath = true) := by
  have settled : (entry.program options home path).Satisfies outside
    (guarding options home path entry)
    (fun result trace _ => Settled options home path entry result trace) [] world :=
    program_settled
  have kept := settled.stops (fun _ _ _ holds => ⟨holds.1, fun rejected => (holds.2 rejected).1⟩)
    execution
  refine ⟨kept.1, fun rejected => ⟨kept.2 rejected, ?_⟩⟩
  rintro value rfl
  exact ((settled.returns execution).2 rejected).2

theorem root_owned_entry_is_escalated :
    ∃ options trace result,
      Execution Outside.any (Entry.program options "/home/ci" "/work/job" .remove) [] () trace ()
        result ∧
      ∃ before answer, trace = before ++
          [⟨.run "sudo" ["-n", options.wrapper, "chown", "1000:1000", "/work/job"], answer⟩] ∧
        Guarded options "/home/ci" .remove before
          ⟨.run "sudo" ["-n", options.wrapper, "chown", "1000:1000", "/work/job"], answer⟩ := by
  let options : Options := ⟨"", some fun _ => none⟩
  have execution : Execution Outside.any (Entry.program options "/home/ci" "/work/job" .remove) []
    () ([⟨.evalSymlinks "/work/job", .real "/work/job"⟩,
      ⟨.lstat "/work/job", .found (some 0)⟩, ⟨.ownerUID, (1000 : Int)⟩,
      ⟨.removeAll "/work/job", .permission (.text "permission denied")⟩,
      ⟨.ownerUID, (1000 : Int)⟩, ⟨.ownerUID, (1000 : Int)⟩] ++
      [⟨.run "sudo" ["-n", options.wrapper, "chown", "1000:1000", "/work/job"], none⟩]) ()
    none := by
    have valid : validateFixed "/home/ci" "/work/job" = .ok "/work/job" := by decide +kernel
    rw [Entry.program, remove, resolveSafeTarget, valid]
    apply Execution.answered (.real "/work/job") trivial
    apply Execution.answered (.found (some 0)) trivial
    apply Execution.answered (1000 : Int) trivial
    apply Execution.answered (.permission (.text "permission denied")) trivial
    apply Execution.answered (1000 : Int) trivial
    apply Execution.answered (1000 : Int) trivial
    apply Execution.answered none trivial
    exact .died
  refine ⟨options, _, _, execution, _, _, rfl, ?_⟩
  exact (handed_paths_are_guarded execution).1 _ _ [] rfl

end Civm.SafeDelete
