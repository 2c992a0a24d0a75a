import Civm.Foundation.Play
import Civm.JobHook.Accounting

/-! # The hook after a job

Whatever fails after a job is in the result of the hook, and the exit code is 0 as soon as
the usage of the disk could be measured once. -/

namespace Civm.JobHook

open Hook (Action)

def notesIn (events : List (Event Answer)) : List Note :=
  events.flatMap fun event => notes event.call event.answer

theorem notesIn_append (events more : List (Event Answer)) :
    notesIn (events ++ more) = notesIn events ++ notesIn more := by
  simp [notesIn]

theorem appendLog_ends (opts : Options) (res : Result) :
    (appendLog opts res).Ends Program.everything fun _ events =>
      ∀ note ∈ notesIn events, note = .logged res := by
  unfold appendLog
  rw [Program.ends_ite, Program.ends_pure, Program.ends_perform]
  refine ⟨fun _ => List.forall_mem_nil _, fun _ answer => ?_⟩
  cases answer with
  | some text => exact Program.ends_pure.mpr (List.forall_mem_nil _)
  | none =>
    refine Program.ends_perform.mpr fun answer => ?_
    cases answer with
    | some text => exact Program.ends_pure.mpr (List.forall_mem_nil _)
    | none =>
      exact Program.ends_perform.mpr fun _ =>
        Program.ends_pure.mpr (List.forall_mem_singleton.mpr rfl)

theorem finish_ends (opts : Options) (res : Result) :
    (finish opts res).Ends Program.everything fun result events =>
      result = res.settled ∧ ∀ note ∈ notesIn events, note = .logged res.settled := by
  refine (appendLog_ends opts res.settled).bind fun _ events logged => ?_
  rw [Program.ends_pure, List.append_nil]
  exact ⟨rfl, logged⟩

/-- The usage of the disk can be told from the answer. -/
def Measurable : Except String (UInt64 × UInt64) → Prop
  | .ok (total, _) => total ≠ 0
  | .error _ => False

theorem diskUsedPct_ends {opts : Options} {next : Except String Int → Script α}
    {post : α → List (Event Answer) → Prop}
    (failed : ∀ answer text, ¬Measurable answer → (next (.error text)).Ends Program.everything
      fun value events => post value (⟨.statfs opts.filesystemPath, answer⟩ :: events))
    (measured : ∀ answer used, Measurable answer → (next (.ok used)).Ends Program.everything
      fun value events => post value (⟨.statfs opts.filesystemPath, answer⟩ :: events)) :
    (diskUsedPct opts >>= next).Ends Program.everything post := by
  refine Program.ends_perform.mpr fun answer => ?_
  rcases answer with text | ⟨total, free⟩
  · exact failed (.error text) text id
  · change ((if total = 0 then _ else _ : Script (Except String Int)) >>= next).Ends _ _
    split
    case isTrue zero => exact failed (.ok (total, free)) _ (absurd zero)
    case isFalse positive => exact measured (.ok (total, free)) _ positive

/-- Everything that the cleanup has done is in the result, and whatever has failed. -/
structure Reported (opts : Options) (events : List (Event Answer)) (res : Result) : Prop where
  actions : ∃ before during after, events = before ++ (during ++ after) ∧
    Execution .any (cleanup opts false) [] () during () (some res.actions)
  failures : ∀ text, .failure text ∈ notesIn events → ∃ action ∈ res.actions, Carries action text

theorem cleanup_ends (opts : Options) (purgeCaches : Bool) :
    (cleanup opts purgeCaches).Ends Program.everything fun actions events =>
      Execution .any (cleanup opts purgeCaches) [] () events () (some actions) ∧
        Reports actions (notesIn events) :=
  (cleanup_reports opts purgeCaches).executes.and (cleanup_reports opts purgeCaches).everything

theorem settled_cleaned {res : Result} (clean : res.exitCode = 0) (actions : List Action)
    (measured : Except String Int) :
    ((res.cleaned actions).measured measured).settled.exitCode = 0 ∧
      ((res.cleaned actions).measured measured).settled.actions = actions := by
  unfold Result.cleaned
  cases measured <;> split <;> simp [Result.measured, Result.settled, clean]

theorem jobCompleted_ends (opts : Options) (res : Result) (clean : res.exitCode = 0) :
    (jobCompleted opts res).Ends Program.everything fun result events =>
      result.exitCode = 0 ∧ Reported opts events result := by
  refine Program.ends_perform.mpr fun host => ?_
  refine (cleanup_ends opts false).bind fun actions during cleanup => ?_
  have finishes (answer : Except String (UInt64 × UInt64)) (measured : Except String Int) :
    (finish opts (((res.seeing host).cleaned actions).measured measured)).Ends
      Program.everything fun result after => result.exitCode = 0 ∧
        Reported opts ([⟨.hostDisk, host⟩] ++ (during ++
          ⟨.statfs opts.filesystemPath, answer⟩ :: after)) result := by
    refine (finish_ends opts _).mono ?_
    rintro result after ⟨rfl, logged⟩
    have clean : (res.seeing host).exitCode = 0 := clean
    rcases settled_cleaned clean actions measured with ⟨zero, kept⟩
    refine ⟨zero, ⟨[_], during, _, rfl, ?_⟩, ?_⟩
    · rw [kept]
      exact cleanup.1
    · intro text noted
      rw [notesIn_append, notesIn_append] at noted
      rw [kept]
      rcases List.mem_append.mp noted with early | noted
      · cases early
      · rcases List.mem_append.mp noted with cleaning | late
        · rcases cleanup.2 _ cleaning with ⟨other, same, carried⟩
          cases same
          exact carried
        · cases logged _ late
  exact diskUsedPct_ends (fun answer _ _ => finishes answer _) fun answer _ _ => finishes answer _

/-- The hook after a job exits with 0, with everything reported, if and only if the first
measurement of the disk is possible. -/
theorem completed_exits_zero_iff (opts : Options) (event : opts.event = .jobCompleted) :
    (run opts).Ends Program.everything fun res events => ∃ answer later,
      events = ⟨.statfs (applyDefaults opts).filesystemPath, answer⟩ :: later ∧
        (res.exitCode = 0 ∧ Reported (applyDefaults opts) events res ↔ Measurable answer) := by
  have completed : (applyDefaults opts).event = .jobCompleted := event
  unfold run runWith
  apply diskUsedPct_ends
  · intro answer text impossible
    refine (finish_ends _ _).mono ?_
    rintro res events ⟨rfl, -⟩
    refine ⟨answer, events, rfl, ?_⟩
    simp [impossible, Result.settled, errorResult]
  · intro answer used possible
    dsimp only
    rw [completed]
    refine (jobCompleted_ends _ _ rfl).mono ?_
    rintro res events ⟨zero, ⟨before, during, after, split, execution⟩, failed⟩
    refine ⟨answer, events, rfl, ⟨fun _ => possible, fun _ => ⟨zero, ?_, failed⟩⟩⟩
    exact ⟨_ :: before, during, after, by rw [split, List.cons_append], execution⟩

namespace Sample

def jobEnv (name : String) : String :=
  if name = "RUNNER_TEMP" then "/home/runner/actions-runner-app/_work/_temp"
  else if name = "GITHUB_WORKSPACE" then "/home/runner/actions-runner-app/_work/app/app"
  else if name = "GITHUB_REPOSITORY" then "acme/app"
  else if name = "GITHUB_RUN_ID" then "7"
  else if name = "HOME" then "/home/runner"
  else ""

def completing : Options := hookEventOptions jobEnv 1 "job-completed" { execute := true }

end Sample

theorem sample_exits_zero_iff : Sample.completing.event = .jobCompleted ∧
    (run Sample.completing).Ends Program.everything fun res events => ∃ answer later,
      events = ⟨.statfs "/", answer⟩ :: later ∧
        (res.exitCode = 0 ∧ Reported (applyDefaults Sample.completing) events res ↔
          Measurable answer) :=
  ⟨rfl, completed_exits_zero_iff Sample.completing rfl⟩

theorem unmeasured_disk_fails_completed_job :
    ∃ res events, Execution .any (run Sample.completing) [] () events () (some res) ∧
      res.event = .jobCompleted ∧ res.exitCode = 1 := by
  have fails : (errorResult (emptyResult (applyDefaults Sample.completing))
    "input/output error").settled.exitCode = 1 := rfl
  exact ⟨_, _, .answered (.error "input/output error") trivial (.answered none trivial
    (.answered none trivial (.answered true trivial .done))), rfl, fails⟩

end Civm.JobHook
