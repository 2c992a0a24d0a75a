import Mathlib.Logic.Function.Basic
import Mathlib.Logic.Relation
import Civm.Foundation.Program

/-! # Programs that share a world

A pool of programs takes turns in one world, in any order, while things happen
to the world on their own. What each program may count on is what the others
guarantee: a program is secure if it keeps its own guarantee as long as the
others keep theirs. Nothing here mentions a particular program. -/

namespace Civm

variable {Call : Type} {Answer : Call → Type} {World Thread α β : Type}

/-- What the programs run against: the answers each call may receive from a
thread in a world, the world an answer leaves behind, and what happens without
any of them. -/
structure Shared {Call : Type} (Answer : Call → Type) (World Thread : Type) where
  permits : World → Thread → (call : Call) → Answer call → Prop
  after : World → Thread → (call : Call) → Answer call → World
  occurs : World → World → Prop

structure Pool {Call : Type} (Answer : Call → Type) (World Thread α : Type) where
  world : World
  programs : Thread → Program Answer α

namespace Shared

variable [DecidableEq Thread]

/-- One step of one thread, or of none. -/
inductive Step (shared : Shared Answer World Thread) :
    Pool Answer World Thread α → Pool Answer World Thread α → Prop
  | act {pool : Pool Answer World Thread α} {thread : Thread} {call : Call}
    {next : Answer call → Program Answer α} (asks : pool.programs thread = .ask call next)
    (answer : Answer call) (permitted : shared.permits pool.world thread call answer) :
    Step shared pool ⟨shared.after pool.world thread call answer,
      Function.update pool.programs thread (next answer)⟩
  | occur {pool : Pool Answer World Thread α} {world : World}
    (occurs : shared.occurs pool.world world) : Step shared pool ⟨world, pool.programs⟩

/-- Any number of steps, in any order. -/
abbrev Run (shared : Shared Answer World Thread) :
    Pool Answer World Thread α → Pool Answer World Thread α → Prop :=
  Relation.ReflTransGen shared.Step

/-- The same threads, as far as their steps and what happens meet a condition. -/
def limited (shared : Shared Answer World Thread)
    (acts : World → Thread → (call : Call) → Answer call → Prop) (happens : World → World → Prop) :
    Shared Answer World Thread where
  permits world thread call answer :=
    shared.permits world thread call answer ∧ acts world thread call answer
  after := shared.after
  occurs world world' := shared.occurs world world' ∧ happens world world'

end Shared

/-! ## Rehearsed runs -/

/-- The next thing in a run: a step of a thread, or a change from outside. -/
inductive Turn (World Thread : Type)
  | of (thread : Thread)
  | outside (change : World → World)

namespace Pool

variable [DecidableEq Thread] (shared : Shared Answer World Thread)
variable (reply : World → Thread → (call : Call) → Answer call)

/-- The pool after a turn, in which a call gets its answer from `reply`. -/
def turn (pool : Pool Answer World Thread α) : Turn World Thread → Pool Answer World Thread α
  | .of thread =>
    match pool.programs thread with
    | .ask call next =>
      let answer := reply pool.world thread call
      ⟨shared.after pool.world thread call answer,
        Function.update pool.programs thread (next answer)⟩
    | _ => pool
  | .outside change => ⟨change pool.world, pool.programs⟩

def Permits (pool : Pool Answer World Thread α) : Turn World Thread → Prop
  | .of thread =>
    match pool.programs thread with
    | .ask call _ => shared.permits pool.world thread call (reply pool.world thread call)
    | _ => True
  | .outside change => shared.occurs pool.world (change pool.world)

def play (pool : Pool Answer World Thread α) : List (Turn World Thread) → Pool Answer World Thread α
  | [] => pool
  | next :: turns => play (pool.turn shared reply next) turns

def Legal (pool : Pool Answer World Thread α) : List (Turn World Thread) → Prop
  | [] => True
  | next :: turns => pool.Permits shared reply next ∧ (pool.turn shared reply next).Legal turns

variable {shared : Shared Answer World Thread} {reply}

theorem run_turn {pool : Pool Answer World Thread α} {next : Turn World Thread}
    (legal : pool.Permits shared reply next) : shared.Run pool (pool.turn shared reply next) := by
  cases next with
  | of thread =>
    cases asks : pool.programs thread with
    | done value | spin => simpa only [turn, asks] using .refl
    | ask call rest =>
      simp only [Permits, asks] at legal
      simpa only [turn, asks] using .single (.act asks _ legal)
  | outside change => exact .single (.occur legal)

theorem run_play {pool : Pool Answer World Thread α} {turns : List (Turn World Thread)}
    (legal : pool.Legal shared reply turns) : shared.Run pool (pool.play shared reply turns) := by
  induction turns generalizing pool with
  | nil => exact .refl
  | cons next turns induction => exact (run_turn legal.1).trans (induction legal.2)

end Pool

/-! ## Guarantees -/

/-- What holds at every moment, and what each thread never does otherwise. -/
structure Discipline (World Thread : Type) where
  invariant : World → Prop
  guarantee : Thread → World → World → Prop

/-- The discipline under which each thread makes only calls that are allowed. -/
def Discipline.ofCalls (shared : Shared Answer World Thread) (invariant : World → Prop)
    (allows : World → Thread → Call → Prop) : Discipline World Thread where
  invariant := invariant
  guarantee thread world world' := ∃ call answer, shared.permits world thread call answer ∧
    allows world thread call ∧ world' = shared.after world thread call answer

section Security

variable (shared : Shared Answer World Thread) (discipline : Discipline World Thread)

/-- The other threads cannot make `knows` false, nor can what happens. -/
structure Stable (thread : Thread) (knows : World → Prop) : Prop where
  others : ∀ {other world world'}, other ≠ thread → discipline.invariant world →
    discipline.invariant world' → knows world → discipline.guarantee other world world' → knows world'
  occurs : ∀ {world world'}, discipline.invariant world → discipline.invariant world' →
    knows world → shared.occurs world world' → knows world'

/-- Whatever the other threads do in between, each call of the program keeps
its thread's guarantee and the invariant, and a result meets `post`. -/
def Program.Secure (thread : Thread) (post : α → World → Prop) :
    Program Answer α → World → Prop
  | .done value, world => ∃ knows : World → Prop, Stable shared discipline thread knows ∧
    knows world ∧ ∀ world', knows world' → discipline.invariant world' → post value world'
  | .ask call next, world => ∃ knows : World → Prop, Stable shared discipline thread knows ∧
    knows world ∧ ∀ world' answer, knows world' → discipline.invariant world' →
      shared.permits world' thread call answer →
      discipline.invariant (shared.after world' thread call answer) ∧
      discipline.guarantee thread world' (shared.after world' thread call answer) ∧
      (next answer).Secure thread post (shared.after world' thread call answer)
  | .spin, _ => True

end Security

variable {shared : Shared Answer World Thread} {discipline : Discipline World Thread}
variable {thread : Thread} {post : α → World → Prop} {world world' : World}

theorem Stable.const {fact : Prop} : Stable shared discipline thread fun _ => fact :=
  ⟨fun _ _ _ known _ => known, fun _ _ known _ => known⟩

theorem Stable.trivial : Stable shared discipline thread fun _ => True := .const

theorem Stable.and {knows knows' : World → Prop} (stable : Stable shared discipline thread knows)
    (stable' : Stable shared discipline thread knows') :
    Stable shared discipline thread fun world => knows world ∧ knows' world where
  others different holds holds' known kept :=
    ⟨stable.others different holds holds' known.1 kept,
      stable'.others different holds holds' known.2 kept⟩
  occurs holds holds' known happened :=
    ⟨stable.occurs holds holds' known.1 happened, stable'.occurs holds holds' known.2 happened⟩

namespace Program.Secure

variable {program : Program Answer α}

theorem done {value : α} (knows : World → Prop) (stable : Stable shared discipline thread knows)
    (known : knows world)
    (meets : ∀ world, knows world → discipline.invariant world → post value world) :
    (Program.done value).Secure shared discipline thread post world :=
  ⟨knows, stable, known, meets⟩

theorem perform {call : Call} {next : Answer call → Program Answer α} (knows : World → Prop)
    (stable : Stable shared discipline thread knows) (known : knows world)
    (steps : ∀ world answer, knows world → discipline.invariant world →
      shared.permits world thread call answer →
      discipline.invariant (shared.after world thread call answer) ∧
      discipline.guarantee thread world (shared.after world thread call answer) ∧
      (next answer).Secure shared discipline thread post (shared.after world thread call answer)) :
    (Program.perform call >>= next).Secure shared discipline thread post world :=
  ⟨knows, stable, known, steps⟩

/-- The rule for a call under a discipline of allowed calls. -/
theorem call {invariant : World → Prop} {allows : World → Thread → Call → Prop} {call : Call}
    {next : Answer call → Program Answer α} (knows : World → Prop)
    (keeps : ∀ {world thread call answer}, invariant world →
      shared.permits world thread call answer → allows world thread call →
      invariant (shared.after world thread call answer))
    (stable : Stable shared (.ofCalls shared invariant allows) thread knows) (known : knows world)
    (allowed : ∀ world answer, knows world → invariant world →
      shared.permits world thread call answer → allows world thread call)
    (continues : ∀ world answer, knows world → invariant world →
      shared.permits world thread call answer → invariant (shared.after world thread call answer) →
      (next answer).Secure shared (.ofCalls shared invariant allows) thread post
        (shared.after world thread call answer)) :
    (Program.perform call >>= next).Secure shared (.ofCalls shared invariant allows) thread post
      world := by
  refine .perform knows stable known fun world answer known holds permitted => ?_
  have allowed := allowed world answer known holds permitted
  have holds' := keeps holds permitted allowed
  exact ⟨holds', ⟨call, answer, permitted, allowed, rfl⟩,
    continues world answer known holds permitted holds'⟩

theorem others {other : Thread} (different : other ≠ thread)
    (secure : program.Secure shared discipline thread post world)
    (holds : discipline.invariant world) (holds' : discipline.invariant world')
    (kept : discipline.guarantee other world world') :
    program.Secure shared discipline thread post world' := by
  cases program with
  | done value =>
    rcases secure with ⟨knows, stable, known, meets⟩
    exact ⟨knows, stable, stable.others different holds holds' known kept, meets⟩
  | ask call next =>
    rcases secure with ⟨knows, stable, known, steps⟩
    exact ⟨knows, stable, stable.others different holds holds' known kept, steps⟩
  | spin => trivial

theorem occurs (secure : program.Secure shared discipline thread post world)
    (holds : discipline.invariant world) (holds' : discipline.invariant world')
    (happened : shared.occurs world world') :
    program.Secure shared discipline thread post world' := by
  cases program with
  | done value =>
    rcases secure with ⟨knows, stable, known, meets⟩
    exact ⟨knows, stable, stable.occurs holds holds' known happened, meets⟩
  | ask call next =>
    rcases secure with ⟨knows, stable, known, steps⟩
    exact ⟨knows, stable, stable.occurs holds holds' known happened, steps⟩
  | spin => trivial

theorem mono {post' : α → World → Prop}
    (secure : program.Secure shared discipline thread post world)
    (weaker : ∀ value world, post value world → post' value world) :
    program.Secure shared discipline thread post' world := by
  induction program generalizing world with
  | done value =>
    rcases secure with ⟨knows, stable, known, meets⟩
    exact ⟨knows, stable, known, fun world known holds => weaker value world (meets world known holds)⟩
  | ask call next induction =>
    rcases secure with ⟨knows, stable, known, steps⟩
    refine ⟨knows, stable, known, fun world answer known holds permitted => ?_⟩
    rcases steps world answer known holds permitted with ⟨holds', kept, continues⟩
    exact ⟨holds', kept, induction answer continues⟩
  | spin => trivial

theorem bind {next : α → Program Answer β} {middle : α → World → Prop} {post : β → World → Prop}
    (first : program.Secure shared discipline thread middle world)
    (rest : ∀ value world, discipline.invariant world → middle value world →
      (next value).Secure shared discipline thread post world)
    (holds : discipline.invariant world) :
    (program >>= next).Secure shared discipline thread post world := by
  induction program generalizing world with
  | done value =>
    rcases first with ⟨knows, stable, known, meets⟩
    exact rest value world holds (meets world known holds)
  | ask call remaining induction =>
    rcases first with ⟨knows, stable, known, steps⟩
    refine ⟨knows, stable, known, fun world answer known holds permitted => ?_⟩
    rcases steps world answer known holds permitted with ⟨holds', kept, continues⟩
    exact ⟨holds', kept, induction answer continues holds'⟩
  | spin => trivial

end Program.Secure

section Pools

variable [DecidableEq Thread] {posts : Thread → α → World → Prop}
variable {pool pool' : Pool Answer World Thread α}

/-- The invariant holds, and every thread is secure from here on. -/
structure Disciplined (shared : Shared Answer World Thread) (discipline : Discipline World Thread)
    (posts : Thread → α → World → Prop) (pool : Pool Answer World Thread α) : Prop where
  holds : discipline.invariant pool.world
  secure : ∀ thread, (pool.programs thread).Secure shared discipline thread (posts thread) pool.world

theorem Disciplined.step (disciplined : Disciplined shared discipline posts pool)
    (kept : ∀ world world', discipline.invariant world → shared.occurs world world' →
      discipline.invariant world')
    (step : shared.Step pool pool') : Disciplined shared discipline posts pool' := by
  cases step with
  | @act thread call next asks answer permitted =>
    have secure := disciplined.secure thread
    rw [asks] at secure
    rcases secure with ⟨knows, _, known, steps⟩
    rcases steps _ answer known disciplined.holds permitted with ⟨holds, guaranteed, continues⟩
    refine ⟨holds, fun other => ?_⟩
    dsimp only
    by_cases same : other = thread
    · subst same
      rw [Function.update_self]
      exact continues
    · rw [Function.update_of_ne same]
      exact (disciplined.secure other).others (Ne.symm same) disciplined.holds holds guaranteed
  | occur occurs =>
    have holds := kept _ _ disciplined.holds occurs
    exact ⟨holds, fun other =>
      (disciplined.secure other).occurs disciplined.holds holds occurs⟩

/-- Threads that are secure together stay so in every run. -/
theorem Disciplined.run (disciplined : Disciplined shared discipline posts pool)
    (kept : ∀ world world', discipline.invariant world → shared.occurs world world' →
      discipline.invariant world')
    (run : shared.Run pool pool') : Disciplined shared discipline posts pool' := by
  induction run with
  | refl => exact disciplined
  | tail _ step induction => exact induction.step kept step

end Pools

end Civm
