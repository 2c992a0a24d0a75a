import Civm.Foundation.Embedding
import Civm.Foundation.Plays

/-! # The outcomes of a program

What holds of every outcome of a program that always returns, whatever it is answered:
of its value, and of the notes that are taken of the answers. -/

namespace Civm.Program

variable {Call Call' Note : Type} {Answer : Call → Type} {Answer' : Call' → Type}

/-- The program returns, and `post` holds of the value and the notes. -/
def Ends (note : (call : Call) → Answer call → List Note) :
    Program Answer α → (α → List Note → Prop) → Prop
  | .done value, post => post value []
  | .ask call next, post => ∀ answer,
    (next answer).Ends note fun value notes => post value (note call answer ++ notes)
  | .spin, _ => False

/-- Every answer is noted with its call. -/
def everything (call : Call) (answer : Answer call) : List (Event Answer) := [⟨call, answer⟩]

variable {note : (call : Call) → Answer call → List Note} {program : Program Answer α}
variable {post : α → List Note → Prop}

theorem Ends.mono {weaker : α → List Note → Prop} (ends : program.Ends note post)
    (implies : ∀ value notes, post value notes → weaker value notes) :
    program.Ends note weaker := by
  induction program generalizing post weaker with
  | done value => exact implies _ _ ends
  | ask call next induction => exact fun answer => induction answer (ends answer) fun _ _ => implies _ _
  | spin => exact ends

theorem Ends.and {other : α → List Note → Prop} (first : program.Ends note post)
    (second : program.Ends note other) :
    program.Ends note fun value notes => post value notes ∧ other value notes := by
  induction program generalizing post other with
  | done value => exact ⟨first, second⟩
  | ask call next induction => exact fun answer => induction answer (first answer) (second answer)
  | spin => exact first

theorem Ends.bind {next : α → Program Answer β} {after : β → List Note → Prop}
    (first : program.Ends note post)
    (second : ∀ value notes, post value notes →
      (next value).Ends note fun result more => after result (notes ++ more)) :
    (program >>= next).Ends note after := by
  induction program generalizing post after with
  | done value => exact second value [] first
  | ask call rest induction =>
    intro answer
    apply induction answer (first answer)
    intro value notes holds
    apply (second value _ holds).mono
    intro result more
    rw [List.append_assoc]
    exact id
  | spin => exact first

theorem ends_pure {value : α} : (pure value : Program Answer α).Ends note post ↔ post value [] :=
  Iff.rfl

theorem ends_perform {call : Call} {next : Answer call → Program Answer α} :
    (perform call >>= next).Ends note post ↔ ∀ answer,
      (next answer).Ends note fun value notes => post value (note call answer ++ notes) :=
  Iff.rfl

theorem ends_ite {condition : Prop} [Decidable condition] {first second : Program Answer α} :
    (if condition then first else second).Ends note post ↔
      (condition → first.Ends note post) ∧ (¬condition → second.Ends note post) := by
  split
  case isTrue holds => simp [holds]
  case isFalse fails => simp [fails]

/-- Notes can be taken from a record of everything. -/
theorem Ends.everything (ends : program.Ends note post) :
    program.Ends Program.everything fun value (events : List (Event Answer)) =>
      post value (events.flatMap fun event => note event.call event.answer) := by
  induction program generalizing post with
  | done value => exact ends
  | ask call next induction => exact fun answer => induction answer (ends answer)
  | spin => exact ends

theorem Ends.executes (ends : program.Ends note post) :
    program.Ends Program.everything fun value events =>
      Execution .any program [] () events () (some value) := by
  induction program generalizing post with
  | done value => exact .done
  | ask call next induction =>
    intro answer
    apply (induction answer (ends answer)).mono
    intro value events execution
    exact .ask trivial (execution.shift [⟨call, answer⟩])
  | spin => exact ends

theorem Ends.embed {into : Call → Call'}
    {back : (call : Call) → Answer' (into call) → Answer call}
    {note' : (call : Call') → Answer' call → List Note}
    (same : ∀ call answer, note' (into call) answer = note call (back call answer))
    (ends : program.Ends note post) : (program.embed into back).Ends note' post := by
  induction program generalizing post with
  | done value => exact ends
  | ask call next induction =>
    intro answer
    rw [same]
    exact induction _ (ends _)
  | spin => exact ends

/-- Every execution ends in one of the outcomes. -/
theorem Ends.returns {World : Type} {outside : Outside Answer World} {trace world trace' world' value}
    (ends : program.Ends note post)
    (execution : Execution outside program trace world trace' world' (some value)) :
    ∃ events, trace' = trace ++ events ∧
      post value (events.flatMap fun event => note event.call event.answer) := by
  induction program generalizing post trace world with
  | done => cases execution with | done => exact ⟨[], (List.append_nil _).symm, ends⟩
  | ask call next induction =>
    cases execution with
    | @ask _ answer _ _ _ _ _ _ permitted remaining =>
      rcases induction answer (ends answer) remaining with ⟨events, rfl, holds⟩
      exact ⟨⟨call, answer⟩ :: events, List.append_assoc _ _ _, holds⟩
  | spin => cases execution

theorem Ends.returns_everything {World : Type} {outside : Outside Answer World}
    {trace world trace' world' value} {post : α → List (Event Answer) → Prop}
    (ends : program.Ends Program.everything post)
    (execution : Execution outside program trace world trace' world' (some value)) :
    ∃ events, trace' = trace ++ events ∧ post value events := by
  rcases ends.returns execution with ⟨events, added, holds⟩
  have same : events.flatMap (fun event => Program.everything event.call event.answer) = events :=
    List.flatMap_singleton' events
  rw [same] at holds
  exact ⟨events, added, holds⟩

/-- Against an outside the events are those of an outcome, and the outside permits them. -/
theorem Ends.plays {World : Type} {outside : Outside Answer World} {progress : Prop} {trace world}
    {post : α → List (Event Answer) → Prop}
    (ends : program.Ends Program.everything post)
    (answered : progress → ∀ world call, ∃ answer, outside.permits world call answer) :
    program.Satisfies outside (asking progress) (fun value trace' world' => ∃ events,
      trace' = trace ++ events ∧ post value events ∧ outside.Plays world events world')
      trace world := by
  induction program generalizing post trace world with
  | done value => exact ⟨[], (List.append_nil trace).symm, ends, rfl⟩
  | ask call next induction =>
    apply satisfies_asking_perform fun wanted => answered wanted world call
    intro answer permitted
    apply (induction answer (ends answer)).mono
    intro value trace' world' found
    rcases found with ⟨events, rfl, holds, plays⟩
    exact ⟨⟨call, answer⟩ :: events, List.append_assoc _ _ _, holds, permitted, plays⟩
  | spin => exact ends.elim

attribute [irreducible] Ends

end Civm.Program

namespace Civm.Routine

variable {Call Note State : Type} {Answer : Call → Type}
variable {note : (call : Call) → Answer call → List Note} {routine : Routine Answer State α}
variable {post : α → State → List Note → Prop} {state : State}

/-- The routine returns, and `post` holds of the value, the variable and the notes. -/
def Ends (note : (call : Call) → Answer call → List Note) (routine : Routine Answer State α)
    (post : α → State → List Note → Prop) (state : State) : Prop :=
  (routine.run state).Ends note fun result => post result.1 result.2

theorem Ends.mono {weaker : α → State → List Note → Prop} (ends : Ends note routine post state)
    (implies : ∀ value state notes, post value state notes → weaker value state notes) :
    Ends note routine weaker state :=
  Program.Ends.mono ends fun result => implies result.1 result.2

theorem Ends.bind {next : α → Routine Answer State β} {after : β → State → List Note → Prop}
    (first : Ends note routine post state)
    (second : ∀ value state notes, post value state notes →
      Ends note (next value) (fun result state more => after result state (notes ++ more)) state) :
    Ends note (routine >>= next) after state := by
  unfold Ends
  rw [StateT.run_bind]
  exact Program.Ends.bind first fun result => second result.1 result.2

theorem ends_pure {value : α} (holds : post value state []) :
    Ends note (pure value : Routine Answer State α) post state :=
  Program.ends_pure.mpr holds

theorem ends_modify {update : State → State} {post : PUnit → State → List Note → Prop}
    (holds : post ⟨⟩ (update state) []) :
    Ends note (modify update : Routine Answer State PUnit) post state :=
  Program.ends_pure.mpr holds

theorem ends_modify_bind {update : State → State} {next : PUnit → Routine Answer State α}
    (ends : Ends note (next ⟨⟩) post (update state)) :
    Ends note (modify update >>= next) post state :=
  ends

theorem ends_lift {program : Program Answer α} {next : α → Routine Answer State β}
    {middle : α → List Note → Prop} {post : β → State → List Note → Prop}
    (first : program.Ends note middle)
    (second : ∀ value notes, middle value notes →
      Ends note (next value) (fun result state more => post result state (notes ++ more)) state) :
    Ends note (liftM program >>= next) post state := by
  unfold Ends
  rw [StateT.run_bind, StateT.run_monadLift, bind_assoc]
  exact first.bind second

theorem ends_perform {call : Call} {next : Answer call → Routine Answer State α}
    (ends : ∀ answer, Ends note (next answer)
      (fun value state notes => post value state (note call answer ++ notes)) state) :
    Ends note (liftM (Program.perform call) >>= next) post state := by
  change (Program.perform call >>= fun answer => (next answer).run state).Ends note _
  exact Program.ends_perform.mpr ends

theorem ends_ite {condition : Prop} [Decidable condition]
    {first second : Routine Answer State α} :
    Ends note (if condition then first else second) post state ↔
      (condition → Ends note first post state) ∧ (¬condition → Ends note second post state) := by
  split
  case isTrue holds => simp [holds]
  case isFalse fails => simp [fails]

end Civm.Routine
