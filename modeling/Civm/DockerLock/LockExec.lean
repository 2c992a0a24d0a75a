import Civm.Foundation.Interleaving

/-! # A command under the docker-heavy lock

`civmctl lock --exec`: the main flow and the goroutine that waits for SIGTERM or
SIGINT, step by step. -/

namespace Civm.DockerLock.LockExec

inductive Thread
  | main
  | signals
  deriving DecidableEq

inductive Acquired
  | locked
  | waitExceeded
  | failed

/-- What the goroutine's `select` finds. -/
inductive Woken
  | signal
  | released

inductive Call
  | acquire
  | notify
  | spawn
  | startCommand
  | waitCommand
  | readDone
  | setDone
  | beginRelease
  | stopHeartbeat
  | removeHeartbeat
  | unlock
  | closeReleased
  | awaitSignal
  | cancel
  | stopSignals
  | exit (code : Int)

abbrev Answer : Call → Type
  | .acquire => Acquired
  | .startCommand => Bool
  | .waitCommand => Int
  | .readDone => Bool
  | .beginRelease => Bool
  | .awaitSignal => Woken
  | _ => Unit

abbrev Script := Program Answer

abbrev perform (call : Call) : Script (Answer call) := Program.perform call

/-! ## The two flows -/

def exitLockWaitTimeout : Int := 75

def exitLockInternal : Int := 77

def release : Script Unit := do
  if ← perform .beginRelease then return ()
  else
    perform .stopHeartbeat
    perform .removeHeartbeat
    perform .unlock

/-- The function that `releaseFunc` returns. Its variable `done` is not
protected. -/
def releaseOnce : Script Unit := do
  if ← perform .readDone then return ()
  else
    perform .setDone
    release
    perform .closeReleased

/-- `cmd.Run`: the command is started unless its context is cancelled. -/
def runInnerCommand : Script Int := do
  if ← perform .startCommand then perform .waitCommand
  else return exitLockInternal

/-- `runLockExec` from `Acquire` on, with its deferred calls and the exit of the
process. -/
def runLockExec : Script Unit := do
  match ← perform .acquire with
  | .waitExceeded => perform (.exit exitLockWaitTimeout)
  | .failed => perform (.exit exitLockInternal)
  | .locked =>
    perform .notify
    perform .spawn
    let code ← runInnerCommand
    releaseOnce
    perform .stopSignals
    releaseOnce
    perform .cancel
    perform (.exit code)

def handleSignals : Script Unit := do
  match ← perform .awaitSignal with
  | .released => return ()
  | .signal =>
    releaseOnce
    perform .cancel

/-! ## The process -/

inductive Command
  | idle
  | failed
  | running
  | exited
  | reaped
  deriving DecidableEq

structure World where
  alive : Bool
  /-- Whether the process holds the lock. -/
  locked : Bool
  command : Command
  notified : Bool
  /-- A signal in the channel. -/
  pending : Bool
  spawned : Bool
  cancelled : Bool
  done : Bool
  /-- `Lock.released`. -/
  released : Bool
  /-- Whether the channel `released` is closed. -/
  closed : Bool
  deriving DecidableEq

def initial : World where
  alive := true
  locked := false
  command := .idle
  notified := false
  pending := false
  spawned := false
  cancelled := false
  done := false
  released := false
  closed := false

/-- The kernel drops the lock of a process that ends. -/
def World.die (world : World) : World := { world with alive := false, locked := false }

/-- SIGTERM or SIGINT: it ends the process unless it is caught. -/
def World.signal (world : World) : World :=
  if world.notified then { world with pending := true } else world.die

def answers (world : World) : (call : Call) → Answer call → Prop
  | .startCommand, started => started = true → world.cancelled = false
  | .waitCommand, _ => world.command = .exited
  | .readDone, value => value = world.done
  | .beginRelease, value => value = world.released
  | .awaitSignal, .signal => world.pending = true
  | .awaitSignal, .released => world.closed = true
  | _, _ => True

def after (world : World) : (call : Call) → Answer call → World
  | .acquire, .locked => { world with locked := true }
  | .notify, _ => { world with notified := true }
  | .spawn, _ => { world with spawned := true }
  | .startCommand, started => { world with command := if started then .running else .failed }
  | .waitCommand, _ => { world with command := .reaped }
  | .setDone, _ => { world with done := true }
  | .beginRelease, _ => { world with released := true }
  | .unlock, _ => { world with locked := false }
  -- closing a closed channel is a panic
  | .closeReleased, _ => if world.closed then world.die else { world with closed := true }
  | .awaitSignal, .signal => { world with pending := false }
  | .cancel, _ => { world with cancelled := true }
  | .stopSignals, _ => { world with notified := false }
  | .exit _, _ => world.die
  | _, _ => world

/-- What happens by itself. A command whose context is cancelled is killed, any
command may end. -/
inductive Occurs : World → World → Prop
  | signal {world : World} : world.alive = true → Occurs world world.signal
  | exited {world : World} : world.command = .running →
    Occurs world { world with command := .exited }

def process : Shared Answer World Thread where
  permits world thread call answer :=
    world.alive = true ∧ (thread = .signals → world.spawned = true) ∧ answers world call answer
  after world _ := after world
  occurs := Occurs

def start : Pool Answer World Thread Unit where
  world := initial
  programs
    | .main => runLockExec
    | .signals => handleSignals

/-! ## The lock covers the command -/

/-- The command runs, or has ended and is not reaped yet. -/
def World.Underway (world : World) : Prop :=
  world.command = .running ∨ world.command = .exited

/-- The command was reaped, or it could not be started. -/
def World.Finished (world : World) : Prop :=
  world.command = .reaped ∨ world.command = .failed

/-- A signal that is caught comes only when the command is finished. -/
def Calm (world world' : World) : Prop :=
  world' = world.signal → world.notified = true → world.Finished

/-- The process, as long as no caught signal interrupts the command. -/
def calmProcess : Shared Answer World Thread := process.limited (fun _ _ _ _ => True) Calm

structure Covered (world : World) : Prop where
  underway : world.Underway → world.locked = true ∧ world.notified = true
  pending : world.pending = true → world.Finished

def guarantee : Thread → World → World → Prop
  | .main, world, world' => world.Finished → world'.Finished
  | .signals, world, world' => world' = world ∨ world.Finished ∧ world'.Finished

def discipline : Discipline World Thread where
  invariant := Covered
  guarantee := guarantee

abbrev Secure (thread : Thread) (script : Script α) (post : α → World → Prop) (world : World) :
    Prop :=
  script.Secure calmProcess discipline thread post world

variable {thread : Thread} {world : World}

theorem signal_command (world : World) : world.signal.command = world.command := by
  unfold World.signal
  split <;> rfl

theorem Finished.not_underway (finished : world.Finished) : ¬world.Underway := by
  rintro (running | exited) <;> rcases finished with reaped | failed <;> simp_all

theorem Finished.of_command {world' : World} (finished : world.Finished)
    (same : world'.command = world.command) : world'.Finished := by
  unfold World.Finished
  rwa [same]

theorem Covered.of_finished (finished : world.Finished) : Covered world where
  underway underway := (Finished.not_underway finished underway).elim
  pending _ := finished

theorem Covered.occurs {world' : World} (covered : Covered world)
    (happened : calmProcess.occurs world world') : Covered world' := by
  rcases happened with ⟨occurs, calm⟩
  cases occurs with
  | exited running =>
    refine ⟨fun _ => covered.underway (.inl running), fun pending => ?_⟩
    exact (Finished.not_underway (covered.pending pending) (.inl running)).elim
  | signal alive =>
    by_cases notified : world.notified = true
    · exact .of_finished (Finished.of_command (calm rfl notified) (signal_command world))
    · refine ⟨fun underway => ?_, fun pending => ?_⟩
      · rw [World.Underway, signal_command] at underway
        exact absurd (covered.underway underway).2 notified
      · rw [World.signal, if_neg notified] at pending ⊢
        exact covered.pending pending

theorem finished_stable : Stable calmProcess discipline thread World.Finished where
  others := by
    intro other world world' _ _ _ finished kept
    cases other with
    | main => exact kept finished
    | signals =>
      rcases kept with rfl | ⟨_, finished'⟩
      · exact finished
      · exact finished'
  occurs := by
    intro world world' _ _ finished happened
    cases happened.1 with
    | exited running => exact (Finished.not_underway finished (.inl running)).elim
    | signal alive => exact Finished.of_command finished (signal_command world)

/-- Calls that leave the command alone. -/
def Spares : Call → Prop
  | .startCommand => False
  | .waitCommand => False
  | _ => True

theorem after_command {call : Call} (spares : Spares call) (answer : Answer call) :
    (after world call answer).command = world.command := by
  cases call
  case startCommand => exact spares.elim
  case waitCommand => exact spares.elim
  case acquire => cases answer <;> rfl
  case awaitSignal => cases answer <;> rfl
  case closeReleased =>
    unfold after
    dsimp only
    split <;> rfl
  all_goals rfl

theorem guarantee_of_finished {world' : World} (finished : world.Finished)
    (finished' : world'.Finished) : guarantee thread world world' := by
  cases thread with
  | main => exact fun _ => finished'
  | signals => exact .inr ⟨finished, finished'⟩

theorem perform_secure {call : Call} {next : Answer call → Script α} {post : α → World → Prop}
    (spares : Spares call) (finished : world.Finished)
    (continues : ∀ answer world, world.Finished → Secure thread (next answer) post world) :
    Secure thread (perform call >>= next) post world := by
  refine Program.Secure.perform World.Finished finished_stable finished ?_
  intro world answer finished _ _
  have finished' := Finished.of_command finished (after_command spares answer)
  exact ⟨.of_finished finished', guarantee_of_finished finished finished',
    continues answer _ finished'⟩

theorem done_secure {value : α} (finished : world.Finished) :
    Secure thread (Program.done value) (fun _ world => world.Finished) world :=
  .done World.Finished finished_stable finished fun _ finished _ => finished

theorem returns_secure {value : α} : Secure thread (Program.done value) (fun _ _ => True) world :=
  .done (fun _ => True) .trivial trivial fun _ _ _ => trivial

theorem release_secure (finished : world.Finished) :
    Secure thread release (fun _ world => world.Finished) world := by
  refine perform_secure trivial finished fun released world finished => ?_
  split
  · exact done_secure finished
  · refine perform_secure trivial finished fun _ world finished => ?_
    refine perform_secure trivial finished fun _ world finished => ?_
    exact perform_secure trivial finished fun _ world finished => done_secure finished

theorem bind_secure {first : Script α} {next : α → Script β} {post : β → World → Prop}
    (finished : world.Finished)
    (secure : Secure thread first (fun _ world => world.Finished) world)
    (continues : ∀ value world, world.Finished → Secure thread (next value) post world) :
    Secure thread (first >>= next) post world :=
  secure.bind (fun value world _ finished => continues value world finished)
    (.of_finished finished)

theorem releaseOnce_secure (finished : world.Finished) :
    Secure thread releaseOnce (fun _ world => world.Finished) world := by
  refine perform_secure trivial finished fun done world finished => ?_
  split
  · exact done_secure finished
  · refine perform_secure trivial finished fun _ world finished => ?_
    refine bind_secure finished (release_secure finished) fun _ world finished => ?_
    exact perform_secure trivial finished fun _ world finished => done_secure finished

theorem handleSignals_secure : Secure .signals handleSignals (fun _ _ => True) world := by
  refine .perform (fun _ => True) .trivial trivial fun world woken _ covered permitted => ?_
  cases woken with
  | released =>
    exact ⟨covered, .inl rfl, returns_secure⟩
  | signal =>
    have finished : world.Finished := covered.pending permitted.1.2.2
    have finished' : (after world .awaitSignal .signal).Finished := finished
    refine ⟨.of_finished finished', .inr ⟨finished, finished'⟩, ?_⟩
    refine bind_secure finished' (releaseOnce_secure finished') fun _ world finished => ?_
    refine perform_secure trivial finished fun _ world finished => ?_
    exact returns_secure

/-! ## The main flow -/

/-- The command is not started yet, and `holds` is true of a process that lives. -/
def Waiting (holds : World → Prop) (world : World) : Prop :=
  world.command = .idle ∧ (world.alive = true → holds world)

theorem Waiting.not_finished {holds : World → Prop} (waiting : Waiting holds world) :
    ¬world.Finished := by
  rintro (reaped | failed) <;> simp_all [Waiting]

theorem waiting_stable {holds : World → Prop} :
    Stable calmProcess discipline .main (Waiting holds) where
  others := by
    intro other world world' different _ _ waiting kept
    cases other with
    | main => exact absurd rfl different
    | signals =>
      rcases kept with rfl | ⟨finished, _⟩
      · exact waiting
      · exact absurd finished waiting.not_finished
  occurs := by
    intro world world' _ _ waiting happened
    rcases happened with ⟨occurs, calm⟩
    cases occurs with
    | exited running =>
      rw [waiting.1] at running
      cases running
    | signal alive =>
      by_cases notified : world.notified = true
      · exact absurd (calm rfl notified) waiting.not_finished
      · rw [World.signal, if_neg notified]
        exact ⟨waiting.1, nofun⟩

theorem underway_stable : Stable calmProcess discipline .main World.Underway where
  others := by
    intro other world world' different _ _ underway kept
    cases other with
    | main => exact absurd rfl different
    | signals =>
      rcases kept with rfl | ⟨finished, _⟩
      · exact underway
      · exact absurd underway (Finished.not_underway finished)
  occurs := by
    intro world world' _ _ underway happened
    cases happened.1 with
    | exited running => exact .inr rfl
    | signal alive =>
      unfold World.Underway
      rwa [signal_command]

theorem pending_of_after {call : Call} {answer : Answer call}
    (pending : (after world call answer).pending = true) : world.pending = true := by
  cases call
  case acquire => cases answer <;> exact pending
  case awaitSignal =>
    cases answer with
    | signal => cases pending
    | released => exact pending
  case closeReleased =>
    unfold after at pending
    dsimp only at pending
    split at pending <;> exact pending
  all_goals exact pending

theorem perform_secure_of_waiting {call : Call} {next : Answer call → Script α}
    {post : α → World → Prop} {holds : World → Prop} (spares : Spares call)
    (waiting : Waiting holds world)
    (continues : ∀ world answer, world.command = .idle → holds world →
      Covered (after world call answer) →
      Secure .main (next answer) post (after world call answer)) :
    Secure .main (perform call >>= next) post world := by
  refine Program.Secure.perform (Waiting holds) waiting_stable waiting ?_
  intro world answer waiting covered permitted
  have idle : (after world call answer).command = .idle :=
    (after_command spares answer).trans waiting.1
  have covered' : Covered (after world call answer) := by
    refine ⟨fun underway => ?_, fun pending => ?_⟩
    · rw [World.Underway, idle] at underway
      simp at underway
    · exact absurd (covered.pending (pending_of_after pending)) waiting.not_finished
  exact ⟨covered', fun finished => absurd finished waiting.not_finished,
    continues world answer waiting.1 (waiting.2 permitted.1.1) covered'⟩

theorem runInnerCommand_secure
    (waiting : Waiting (fun world => world.locked = true ∧ world.notified = true) world) :
    Secure .main runInnerCommand (fun _ world => world.Finished) world := by
  refine .perform _ waiting_stable waiting fun world started waiting covered permitted => ?_
  have quiet : world.pending = true → False := fun pending =>
    waiting.not_finished (covered.pending pending)
  cases started with
  | false =>
    have finished : (after world .startCommand false).Finished := .inr rfl
    exact ⟨.of_finished finished, fun _ => finished, done_secure finished⟩
  | true =>
    refine ⟨⟨fun _ => waiting.2 permitted.1.1, fun pending => (quiet pending).elim⟩,
      fun finished => absurd finished waiting.not_finished, ?_⟩
    refine .perform World.Underway underway_stable (.inl rfl)
      fun world code underway covered permitted => ?_
    have finished : (after world .waitCommand code).Finished := .inl rfl
    exact ⟨.of_finished finished, fun _ => finished, done_secure finished⟩

theorem runLockExec_secure (idle : world.command = .idle) :
    Secure .main runLockExec (fun _ _ => True) world := by
  have unlocked {world : World} (idle : world.command = .idle) : Waiting (fun _ => True) world :=
    ⟨idle, fun _ => trivial⟩
  refine perform_secure_of_waiting trivial (unlocked idle) fun world acquired idle _ _ => ?_
  cases acquired with
  | waitExceeded =>
    exact perform_secure_of_waiting trivial (unlocked idle) fun _ _ _ _ _ => returns_secure
  | failed =>
    exact perform_secure_of_waiting trivial (unlocked idle) fun _ _ _ _ _ => returns_secure
  | locked =>
    have locked : Waiting (fun world => world.locked = true) (after world .acquire .locked) :=
      ⟨idle, fun _ => rfl⟩
    refine perform_secure_of_waiting trivial locked fun world _ idle locked _ => ?_
    have caught : Waiting (fun world => world.locked = true ∧ world.notified = true)
      (after world .notify ()) := ⟨idle, fun _ => ⟨locked, rfl⟩⟩
    refine perform_secure_of_waiting trivial caught fun world _ idle caught covered => ?_
    have ready : Waiting (fun world => world.locked = true ∧ world.notified = true)
      (after world .spawn ()) := ⟨idle, fun _ => caught⟩
    refine (runInnerCommand_secure ready).bind (fun code world _ finished => ?_) covered
    refine bind_secure finished (releaseOnce_secure finished) fun _ world finished => ?_
    refine perform_secure trivial finished fun _ world finished => ?_
    refine bind_secure finished (releaseOnce_secure finished) fun _ world finished => ?_
    refine perform_secure trivial finished fun _ world finished => ?_
    exact perform_secure trivial finished fun _ world finished => returns_secure

theorem start_disciplined : Disciplined calmProcess discipline (fun _ _ _ => True) start where
  holds := ⟨fun underway => by simp [World.Underway, start, initial] at underway, nofun⟩
  secure
    | .main => runLockExec_secure rfl
    | .signals => handleSignals_secure

def reply (_ : World) (_ : Thread) : (call : Call) → Answer call
  | .acquire => .locked
  | .startCommand => true
  | .waitCommand => 0
  | .readDone => false
  | .beginRelease => false
  | .awaitSignal => .signal
  | .notify | .spawn | .setDone | .stopHeartbeat | .removeHeartbeat | .unlock | .closeReleased
  | .cancel | .stopSignals | .exit _ => ()

/-- The lock is held whenever the command runs, in every run in which no signal
is caught before the command is finished. -/
theorem lock_covers_command {pool : Pool Answer World Thread Unit}
    (run : calmProcess.Run start pool) (underway : pool.world.Underway) :
    pool.world.locked = true :=
  ((start_disciplined.run (fun _ _ => Covered.occurs) run).holds.underway underway).1

theorem started_command_is_covered : ∃ pool : Pool Answer World Thread Unit,
    calmProcess.Run start pool ∧ pool.world.Underway ∧ pool.world.locked = true := by
  have legal : start.Legal calmProcess reply (List.replicate 4 (.of .main)) :=
    ⟨⟨⟨rfl, nofun, trivial⟩, trivial⟩, ⟨⟨rfl, nofun, trivial⟩, trivial⟩,
      ⟨⟨rfl, nofun, trivial⟩, trivial⟩, ⟨⟨rfl, nofun, fun _ => rfl⟩, trivial⟩, trivial⟩
  have run := Pool.run_play legal
  have underway : (start.play calmProcess reply (List.replicate 4 (.of .main))).world.Underway :=
    .inl (by decide)
  exact ⟨_, run, underway, lock_covers_command run underway⟩

def interrupted : List (Turn World Thread) :=
  List.replicate 4 (.of .main) ++ .outside World.signal :: List.replicate 7 (.of .signals)

theorem signal_frees_lock_of_running_command :
    ∃ pool : Pool Answer World Thread Unit, process.Run start pool ∧
      pool.world.command = .running ∧ pool.world.locked = false := by
  have legal : start.Legal process reply interrupted := by
    refine ⟨⟨rfl, nofun, trivial⟩, ⟨rfl, nofun, trivial⟩, ⟨rfl, nofun, trivial⟩,
      ⟨rfl, nofun, fun _ => rfl⟩, .signal rfl, ⟨rfl, fun _ => rfl, rfl⟩, ⟨rfl, fun _ => rfl, rfl⟩,
      ⟨rfl, fun _ => rfl, trivial⟩, ⟨rfl, fun _ => rfl, rfl⟩, ⟨rfl, fun _ => rfl, trivial⟩,
      ⟨rfl, fun _ => rfl, trivial⟩, ⟨rfl, fun _ => rfl, trivial⟩, trivial⟩
  exact ⟨_, Pool.run_play legal, by decide, by decide⟩

end Civm.DockerLock.LockExec
