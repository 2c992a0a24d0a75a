import Civm.Foundation.Frame

/-! # Scripts under `set -e`

The statements of a bash script as programs that run commands. A simple command
that fails ends the script, unless it stands in a condition or before `&&` or `||`,
where `errexit` is suspended. -/

namespace Civm.Bash

structure Outcome where
  status : Nat
  output : List Char

inductive Call
  | command (words : List String)
  | isDirectory (path : String)
  | isLink (path : String)
  | glob (pattern : String)
  | exec (words : List String)
  deriving DecidableEq

/-- `exec` comes back only if it fails. -/
abbrev Answer : Call → Type
  | .command _ => Outcome
  | .isDirectory _ => Bool
  | .isLink _ => Bool
  | .glob _ => List String
  | .exec _ => Nat

abbrev Script := Program Answer

abbrev perform (call : Call) : Script (Answer call) := Program.perform call

/-- How a statement ends. -/
inductive Flow
  | normal (status : Nat)
  | continued
  | exited (status : Nat)
  deriving DecidableEq

/-- A statement, given whether `errexit` is suspended. -/
abbrev Statement := Bool → Script Flow

def settle (suspended : Bool) (status : Nat) : Flow :=
  if status ≠ 0 ∧ !suspended then .exited status else .normal status

def command (words : List String) : Statement := fun suspended => do
  let outcome ← perform (.command words)
  return settle suspended outcome.status

def test (question : Script Bool) : Statement := fun suspended => do
  return settle suspended (if ← question then 0 else 1)

/-- `first && second`. -/
def both (first second : Statement) : Statement := fun suspended => do
  match ← first true with
  | .normal 0 => second suspended
  | flow => return flow

/-- `first || second`. -/
def either (first second : Statement) : Statement := fun suspended => do
  match ← first true with
  | .normal 0 => return .normal 0
  | .normal _ => second suspended
  | flow => return flow

/-- `if condition; then body; fi`. -/
def conditional (condition body : Statement) : Statement := fun suspended => do
  match ← condition true with
  | .normal 0 => body suspended
  | .normal _ => return .normal 0
  | flow => return flow

def sequence : List Statement → Statement
  | [] => fun _ => return .normal 0
  | [last] => last
  | first :: rest => fun suspended => do
    match ← first suspended with
    | .normal _ => sequence rest suspended
    | flow => return flow

def forEach (body : String → Statement) : List String → Statement
  | [] => fun _ => return .normal 0
  | value :: rest => fun suspended => do
    match ← body value suspended with
    | .exited status => return .exited status
    | _ => forEach body rest suspended

/-- `for value in fixed... pattern; do body; done`. -/
def forGlob (fixed : List String) (pattern : String) (body : String → Statement) : Statement :=
  fun suspended => do
    let found ← perform (.glob pattern)
    forEach body (fixed ++ found) suspended

def continue_ : Statement := fun _ => return .continued

def exit (status : Nat) : Statement := fun _ => return .exited status

def exec (words : List String) : Statement := fun _ => do
  return .exited (← perform (.exec words))

/-- The value of a command substitution, without NUL bytes and newlines at the end. -/
def substituted (output : List Char) : List Char :=
  ((output.filter (· ≠ '\x00')).reverse.dropWhile (· = '\n')).reverse

/-! ## Rules -/

abbrev Trace := List (Event Answer)

/-- The script is replaced by a command only on the traces that are ready for it. -/
def guarding (words : List String) (ready : Trace → Prop) : Contract Answer Unit where
  keeps _ _ := True
  allows trace _ call := call = .exec words → ready trace
  progress := False

section

variable (words : List String) (ready : Trace → Prop)

/-- A statement outside of conditions and loops: it ends the script, or `post` holds. -/
def Meets (pre post : Trace → Prop) (statement : Statement) : Prop :=
  ∀ trace, pre trace → (statement false).Satisfies Outside.any (guarding words ready)
    (fun flow trace _ => (∃ status, flow = .exited status) ∨
      (∃ status, flow = .normal status) ∧ post trace) trace ()

/-- A statement in a loop: it ends the script, or what has held holds. -/
def Maintains (invariant : Trace → Prop) (statement : Statement) : Prop :=
  ∀ trace, invariant trace → (statement false).Satisfies Outside.any (guarding words ready)
    (fun flow trace _ => (∃ status, flow = .exited status) ∨ invariant trace) trace ()

/-- A statement that keeps what holds, also in conditions. -/
def Keeps (invariant : Trace → Prop) (statement : Statement) : Prop :=
  ∀ suspended trace, invariant trace →
    (statement suspended).Satisfies Outside.any (guarding words ready)
      (fun _ trace _ => invariant trace) trace ()

variable {words ready} {pre middle post : Trace → Prop} {statement first second : Statement}

theorem Keeps.maintains (keeps : Keeps words ready pre statement) :
    Maintains words ready pre statement := fun trace holds =>
  (keeps false trace holds).mono fun _ _ _ => .inr

theorem Meets.maintains (meets : Meets words ready pre pre statement) :
    Maintains words ready pre statement := fun trace holds =>
  (meets trace holds).mono fun _ _ _ => Or.imp_right And.right

/-! ### Conditions -/

theorem keeps_test {question : Script Bool}
    (kept : ∀ trace, pre trace → question.Satisfies Outside.any (guarding words ready)
      (fun _ trace _ => pre trace) trace ()) : Keeps words ready pre (test question) := by
  intro suspended trace holds
  rw [test, Program.satisfies_bind]
  exact kept trace holds

theorem Keeps.both (left : Keeps words ready pre first) (right : Keeps words ready pre second) :
    Keeps words ready pre (both first second) := by
  intro suspended trace holds
  rw [Bash.both, Program.satisfies_bind]
  apply (left true trace holds).mono
  intro flow trace _ kept
  split
  · exact right suspended trace kept
  · exact kept

theorem Keeps.either (left : Keeps words ready pre first) (right : Keeps words ready pre second) :
    Keeps words ready pre (either first second) := by
  intro suspended trace holds
  rw [Bash.either, Program.satisfies_bind]
  apply (left true trace holds).mono
  intro flow trace _ kept
  split
  · exact kept
  · exact right suspended trace kept
  · exact kept

theorem keeps_continue : Keeps words ready pre continue_ := fun _ _ holds => holds

/-! ### Commands and their lists -/

theorem meets_command {arguments : List String}
    (succeeded : ∀ trace outcome, pre trace → outcome.status = 0 →
      post (trace ++ [⟨.command arguments, outcome⟩])) :
    Meets words ready pre post (command arguments) := by
  intro trace holds
  apply And.intro trivial
  apply And.intro nofun
  apply And.intro nofun
  intro outcome _
  by_cases zero : outcome.status = 0
  · exact .inr ⟨⟨0, by simp [settle, zero]⟩, succeeded trace outcome holds zero⟩
  · exact .inl ⟨outcome.status, by simp [settle, zero]⟩

theorem meets_exit (status : Nat) : Meets words ready pre post (exit status) :=
  fun _ _ => .inl ⟨status, rfl⟩

theorem meets_exec {arguments : List String}
    (prepared : ∀ trace, pre trace → arguments = words → ready trace) :
    Meets words ready pre post (exec arguments) := by
  intro trace holds
  apply And.intro trivial
  constructor
  · intro same
    exact prepared trace holds (Call.exec.inj same)
  · exact ⟨nofun, fun status _ => .inl ⟨status, rfl⟩⟩

theorem Meets.sequence_cons {rest : List Statement} (head : Meets words ready pre middle first)
    (tail : Meets words ready middle post (sequence (second :: rest))) :
    Meets words ready pre post (sequence (first :: second :: rest)) := by
  intro trace holds
  rw [sequence, Program.satisfies_bind]
  · apply (head trace holds).mono
    intro flow trace _ ended
    rcases ended with ⟨status, rfl⟩ | ⟨⟨status, rfl⟩, reached⟩
    · exact .inl ⟨status, rfl⟩
    · exact tail trace reached
  · nofun

theorem Maintains.sequence {statements : List Statement}
    (each : ∀ statement ∈ statements, Maintains words ready pre statement) :
    Maintains words ready pre (sequence statements) := by
  induction statements with
  | nil => exact fun _ holds => .inr holds
  | cons first rest induction =>
    rw [List.forall_mem_cons] at each
    cases rest with
    | nil => exact each.1
    | cons second others =>
      intro trace holds
      rw [Bash.sequence, Program.satisfies_bind]
      · apply (each.1 trace holds).mono
        intro flow trace _ ended
        rcases ended with ⟨status, rfl⟩ | kept
        · exact .inl ⟨status, rfl⟩
        · split
          · exact induction each.2 trace kept
          · exact .inr kept
      · nofun

theorem Maintains.conditional (condition : Keeps words ready pre first)
    (body : Maintains words ready pre second) :
    Maintains words ready pre (conditional first second) := by
  intro trace holds
  rw [Bash.conditional, Program.satisfies_bind]
  apply (condition true trace holds).mono
  intro flow trace _ kept
  split
  · exact body trace kept
  · exact .inr kept
  · exact .inr kept

theorem Maintains.forEach {body : String → Statement}
    (each : ∀ value, Maintains words ready pre (body value)) (values : List String) :
    Meets words ready pre pre (forEach body values) := by
  induction values with
  | nil => exact fun _ holds => .inr ⟨⟨0, rfl⟩, holds⟩
  | cons value rest induction =>
    intro trace holds
    rw [Bash.forEach, Program.satisfies_bind]
    apply (each value trace holds).mono
    intro flow trace _ ended
    rcases ended with ⟨status, rfl⟩ | kept
    · exact .inl ⟨status, rfl⟩
    · split
      · exact .inl ⟨_, rfl⟩
      · exact induction trace kept

theorem Maintains.forGlob {fixed : List String} {pattern : String} {body : String → Statement}
    (each : ∀ value, Maintains words ready pre (body value))
    (globbed : ∀ trace found, pre trace → pre (trace ++ [⟨.glob pattern, found⟩])) :
    Meets words ready pre pre (forGlob fixed pattern body) := by
  intro trace holds
  apply And.intro trivial
  apply And.intro nofun
  apply And.intro nofun
  intro found _
  exact Maintains.forEach each _ _ (globbed trace found holds)

end

end Civm.Bash
