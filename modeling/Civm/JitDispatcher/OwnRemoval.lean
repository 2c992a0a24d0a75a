import Civm.Foundation.Justified
import Civm.JitDispatcher.DriverCalls
import Civm.JitDispatcher.Rehearsal

/-! # What a cleanup removes at GitHub

`cleanupLedger` against any GitHub. A run is cancelled after it was seen to be the
ledger's own, a runner is deleted right after it was, and each at most once. -/

namespace Civm.JitDispatcher

/-! ## Code that removes nothing -/

/-- The call cancels no run and deletes no runner. -/
def Call.isGentle : Call → Bool
  | .postCancel _ _ | .deleteRunner _ _ => false
  | _ => true

def Gentle (program : Action α) : Prop :=
  program.Within (fun _ _ => True) (·.isGentle = true) fun _ => True

theorem gentle_pure (value : α) : Gentle (pure value) := trivial

theorem Gentle.bind {program : Action α} {next : α → Action β} (first : Gentle program)
    (second : ∀ value, Gentle (next value)) : Gentle (program >>= next) :=
  Program.Within.bind first fun value _ => second value

theorem gentle_perform {call : Call} (isGentle : call.isGentle = true) : Gentle (perform call) :=
  ⟨isGentle, fun _ _ => trivial⟩

/-- What a cleanup goes by. It does not change it. -/
def Ledger.anchor (ledger : Ledger) : String × Int × String × String × String × String :=
  (ledger.repository, ledger.runID, ledger.trustedSHA, ledger.nonce, ledger.runnerName,
    ledger.runnerLabel)

def GentleRoutine (routine : LedgerAction α) : Prop :=
  ∀ ledger, (routine.run ledger).Within (fun _ _ => True) (·.isGentle = true)
    fun result => result.2.anchor = ledger.anchor

namespace GentleRoutine

theorem pure (value : α) : GentleRoutine (Pure.pure value) := fun _ => rfl

theorem lift {program : Action α} (gentle : Gentle program) :
    GentleRoutine (liftM program : LedgerAction α) := fun _ =>
  Program.Within.bind gentle fun _ _ => rfl

theorem bind {routine : LedgerAction α} {next : α → LedgerAction β}
    (first : GentleRoutine routine) (second : ∀ value, GentleRoutine (next value)) :
    GentleRoutine (routine >>= next) := by
  intro ledger
  rw [StateT.run_bind]
  apply (first ledger).bind
  intro result same
  apply (second result.1 result.2).mono (fun _ => id)
  intro final later
  exact later.trans same

theorem perform {call : Call} (isGentle : call.isGentle = true) :
    GentleRoutine (liftM (perform call) : LedgerAction call.Answer) :=
  lift (gentle_perform isGentle)

theorem modify {update : Ledger → Ledger} (same : ∀ ledger, (update ledger).anchor = ledger.anchor) :
    GentleRoutine (modify update) := same

theorem get : GentleRoutine (get : LedgerAction Ledger) := fun _ => rfl

end GentleRoutine

theorem save_gentle (ledger : Ledger) : Gentle (save ledger) :=
  (gentle_perform rfl).bind fun _ => gentle_pure _

theorem saveLedger_gentle : GentleRoutine saveLedger :=
  GentleRoutine.get.bind fun ledger => .lift (save_gentle ledger)

namespace Runner

theorem execDriver_gentle (request : DriverExecRequest) (silent : request.input = none) :
    GentleRoutine (execDriver request { onStarted := none, onReady := none }) := by
  have includes (call : Call) (drives : drivesWith request.input call = true) :
    call.isGentle = true := by
    rw [silent] at drives
    cases call <;> first | rfl | cases drives
  have make : Callbacks.Make { onStarted := none, onReady := none } (·.isGentle = true)
    Ledger.anchor := ⟨fun _ => Routine.makes_pure _, fun _ => Routine.makes_pure _⟩
  exact fun ledger => (execDriver_makes includes make ledger).within

theorem recover_gentle (request : RecoveryRequest) : GentleRoutine (recover request) := by
  unfold recover
  split
  · exact .pure _
  · apply (GentleRoutine.perform rfl).bind
    intro recoverError
    cases recoverError with
    | some error => exact .pure _
    | none =>
      apply (GentleRoutine.perform rfl).bind
      intro trustError
      cases trustError with
      | some error => exact .pure _
      | none =>
        apply (execDriver_gentle _ rfl).bind
        rintro ⟨receipts, process, error⟩
        cases error with
        | some error => exact .pure _
        | none =>
          dsimp only
          split
          · split <;> exact .pure _
          · exact .pure _

end Runner

namespace GitHub

theorem getRun_gentle (repository : String) (runID : Int) : Gentle (getRun repository runID) := by
  unfold getRun
  split
  · exact gentle_pure _
  · apply (gentle_perform rfl).bind
    intro answer
    split
    · exact gentle_pure _
    · split <;> exact gentle_pure _

theorem findRunnerByLabel_gentle (repository label : String) :
    Gentle (findRunnerByLabel repository label) := by
  have pages : ∀ remaining page found,
    Gentle (findRunnerPages repository label remaining page found) := by
    intro remaining
    induction remaining with
    | zero => exact fun _ _ => gentle_pure _
    | succ remaining induction =>
      intro page found
      apply (gentle_perform rfl).bind
      intro answer
      split
      · exact gentle_pure _
      · split
        · exact gentle_pure _
        · split
          · exact gentle_pure _
          · exact induction _ _
  unfold findRunnerByLabel
  split
  · exact gentle_pure _
  · exact pages 100 1 none

end GitHub

/-! ### The loops -/

namespace Dispatcher

theorem awaitTerminal_gentle (policy : RepositoryPolicy) (ledger : Ledger) (polls : Nat) :
    Gentle (awaitTerminal policy ledger polls) := by
  induction polls with
  | zero => trivial
  | succ polls induction =>
    apply (GitHub.getRun_gentle _ _).bind
    intro answer
    cases answer with
    | error error => exact gentle_pure _
    | ok run =>
      dsimp only
      split
      · exact gentle_pure _
      · split
        · split <;> exact gentle_pure _
        · split
          · exact gentle_pure _
          · apply (gentle_perform rfl).bind
            intro interrupted
            cases interrupted with
            | some error => exact gentle_pure _
            | none => exact induction

theorem observationError_gentle (error : Error) : Gentle (observationError error) := by
  apply (gentle_perform rfl).bind
  intro expired
  cases expired with
  | true | false => exact gentle_pure _

theorem observeRunner_gentle (polls : Nat) : GentleRoutine (observeRunner polls) := by
  induction polls with
  | zero => exact fun _ => trivial
  | succ polls induction =>
    apply GentleRoutine.get.bind
    intro ledger
    apply (GentleRoutine.lift (GitHub.findRunnerByLabel_gentle _ _)).bind
    intro answer
    split
    · exact .lift (observationError_gentle _)
    · split
      · exact .pure _
      · exact (GentleRoutine.modify fun _ => rfl).bind fun _ => saveLedger_gentle
    · apply (GentleRoutine.perform rfl).bind
      intro interrupted
      cases interrupted with
      | some error => exact .lift (observationError_gentle _)
      | none => exact induction

theorem identifyRunner_gentle (dispatcher : Dispatcher) :
    GentleRoutine dispatcher.identifyRunner := by
  apply GentleRoutine.get.bind
  intro ledger
  split
  · exact observeRunner_gentle _
  · exact .pure _

theorem cleanupIsolation_gentle (dispatcher : Dispatcher) (logDirectory : String) :
    GentleRoutine (dispatcher.cleanupIsolation logDirectory) := by
  have adopted (receipt : IsolationReceipt) (ledger : Ledger) :
    (ledger.adopting receipt).withoutIsolation.anchor = ledger.anchor := by
    unfold Ledger.adopting
    split <;> rfl
  apply GentleRoutine.get.bind
  intro ledger
  split
  · exact .pure _
  · apply (Runner.recover_gentle _).bind
    intro answer
    split
    · exact .pure _
    · split
      · exact .pure _
      · exact (GentleRoutine.modify (adopted _)).bind fun _ => saveLedger_gentle

end Dispatcher

/-! ## The ledger's own run and runner -/

/-- GitHub has shown that the run is the ledger's. -/
def RunShown (config : Config) (ledger : Ledger) (repository : String) (runID : Int)
    (before : Trace) : Prop :=
  repository = ledger.repository ∧ runID = ledger.runID ∧
    ∃ requestID run policy,
      ⟨.getRun repository runID, .response 200 requestID (some run)⟩ ∈ before ∧
      config.policy repository = some policy ∧ run.event = "workflow_dispatch" ∧
      run.headSHA = ledger.trustedSHA ∧ run.displayTitle = runTitle ledger.nonce ∧
      run.path = expectedPath policy

/-- GitHub has just shown that the runner is the ledger's. -/
def RunnerShown (ledger : Ledger) (repository : String) (runnerID : Int) (before : Trace) : Prop :=
  repository = ledger.repository ∧
    ∃ earlier requestID runner,
      before = earlier ++
        [⟨.getRunner repository runnerID, .response 200 requestID (some runner)⟩] ∧
      runner.id = runnerID ∧ runner.name = ledger.runnerName ∧
      runner.labels.countP (fun label => label.name = ledger.runnerLabel && label.type = "custom") =
        1

def Call.isCancel : Call → Bool
  | .postCancel _ _ => true
  | _ => false

def Call.isDelete : Call → Bool
  | .deleteRunner _ _ => true
  | _ => false

theorem isCancel_of_gentle {call : Call} (isGentle : call.isGentle = true) :
    call.isCancel = false := by
  cases call <;> first | rfl | cases isGentle

theorem isDelete_of_gentle {call : Call} (isGentle : call.isGentle = true) :
    call.isDelete = false := by
  cases call <;> first | rfl | cases isGentle

/-- A cancellation or deletion is of the ledger's own, and the first one. -/
def Owned (config : Config) (ledger : Ledger) (before : Trace) (event : Event Call.Answer) : Prop :=
  match event.call with
  | .postCancel repository runID =>
    RunShown config ledger repository runID before ∧
      ∀ earlier ∈ before, earlier.call.isCancel = false
  | .deleteRunner repository runnerID =>
    RunnerShown ledger repository runnerID before ∧
      ∀ earlier ∈ before, earlier.call.isDelete = false
  | _ => True

section Known

variable (config : Config) (ledger : Ledger)

/-- All removals so far were owned, and all calls so far of this kind. -/
def Known (kind : Call → Prop) (trace : Trace) : Prop :=
  Justified (Owned config ledger) trace ∧ ∀ event ∈ trace, kind event.call

def owning : Contract Call.Answer Unit where
  keeps trace _ := Justified (Owned config ledger) trace
  allows _ _ _ := True
  progress := False

variable {config ledger} {kind : Call → Prop} {trace : Trace}

theorem Known.snoc (known : Known config ledger kind trace) {event : Event Call.Answer}
    (owned : Owned config ledger trace event) (same : kind event.call) :
    Known config ledger kind (trace ++ [event]) := by
  refine ⟨known.1.snoc owned, fun other member => ?_⟩
  rcases List.mem_append.mp member with earlier | last
  · exact known.2 other earlier
  · exact List.mem_singleton.mp last ▸ same

theorem Known.mono {weaker : Call → Prop} (known : Known config ledger kind trace)
    (implies : ∀ call, kind call → weaker call) : Known config ledger weaker trace :=
  ⟨known.1, fun event member => implies _ (known.2 event member)⟩

theorem owned_of_gentle {event : Event Call.Answer} (isGentle : event.call.isGentle = true) :
    Owned config ledger trace event := by
  rcases event with ⟨call, answer⟩
  unfold Owned
  split
  · rename_i same
    dsimp only at same isGentle
    rw [same] at isGentle
    cases isGentle
  · rename_i same
    dsimp only at same isGentle
    rw [same] at isGentle
    cases isGentle
  · trivial

theorem keeps_of_within {program : Action α} {post : α → Prop}
    (within : program.Within (fun _ _ => True) (·.isGentle = true) post)
    (includes : ∀ call, call.isGentle = true → kind call)
    (known : Known config ledger kind trace) :
    program.Satisfies .any (owning config ledger)
      (fun value trace _ => post value ∧ Known config ledger kind trace) trace () := by
  refine Program.Within.satisfies within ?_ (fun _ _ known => known.1) (fun _ _ _ _ _ => trivial)
    id known
  intro trace world call answer known isGentle _
  exact ⟨trivial, known.snoc (owned_of_gentle isGentle) (includes call isGentle)⟩

theorem Gentle.keeps {program : Action α} (gentle : Gentle program)
    (includes : ∀ call, call.isGentle = true → kind call)
    (known : Known config ledger kind trace) :
    program.Satisfies .any (owning config ledger)
      (fun _ trace _ => Known config ledger kind trace) trace () :=
  (keeps_of_within gentle includes known).mono fun _ _ _ holds => holds.2

theorem GentleRoutine.keeps {routine : LedgerAction α} (gentle : GentleRoutine routine)
    (includes : ∀ call, call.isGentle = true → kind call)
    (known : Known config ledger kind trace) {current : Ledger}
    (anchored : current.anchor = ledger.anchor) :
    Ensures .any (owning config ledger) routine
      (fun _ later trace _ => later.anchor = ledger.anchor ∧ Known config ledger kind trace)
      current trace () :=
  (keeps_of_within (gentle current) includes known).mono fun _ _ _ holds =>
    ⟨holds.1.trans anchored, holds.2⟩

/-! ## Cancelling -/

theorem getJSON_ok {operation : String} {answer : Transport Body} {body : Body}
    (decoded : GitHub.getJSON operation answer = .ok body) :
    ∃ requestID, answer = .response 200 requestID (some body) := by
  cases answer with
  | failed canceled => cases canceled <;> cases decoded
  | response status requestID content =>
    by_cases success : status = 200
    · subst success
      cases content with
      | none => cases decoded
      | some value =>
        cases decoded
        exact ⟨requestID, rfl⟩
    · simp [GitHub.getJSON, success] at decoded

theorem getRun_shows (known : Known config ledger (·.isGentle = true) trace) (repository : String)
    (runID : Int) :
    (GitHub.getRun repository runID).Satisfies .any (owning config ledger)
      (fun answer trace _ => Known config ledger (·.isGentle = true) trace ∧
        ∀ run, answer = .ok run → ∃ requestID,
          ⟨.getRun repository runID, .response 200 requestID (some run)⟩ ∈ trace) trace () := by
  unfold GitHub.getRun
  split
  · exact ⟨known, nofun⟩
  · refine Program.satisfies_perform.mpr ⟨known.1, trivial, nofun, fun answer _ => ?_⟩
    have later : Known config ledger (·.isGentle = true)
      (trace ++ [⟨.getRun repository runID, answer⟩]) := known.snoc trivial rfl
    cases decoded : GitHub.getJSON "get run" answer with
    | error error => exact ⟨later, nofun⟩
    | ok run =>
      rcases getJSON_ok decoded with ⟨requestID, rfl⟩
      dsimp only
      split
      · exact ⟨later, nofun⟩
      · refine ⟨later, ?_⟩
        rintro _ ⟨⟩
        exact ⟨requestID, by simp⟩

theorem cancelUnlessCompleted_owned (known : Known config ledger (·.isGentle = true) trace)
    {current : Ledger} (shown : RunShown config ledger current.repository current.runID trace)
    (run : WorkflowRun) :
    (Dispatcher.cancelUnlessCompleted current run).Satisfies .any (owning config ledger)
      (fun _ trace _ => Known config ledger (·.isDelete = false) trace) trace () := by
  have notDelete : Known config ledger (·.isDelete = false) trace :=
    known.mono fun _ => isDelete_of_gentle
  unfold Dispatcher.cancelUnlessCompleted
  split
  · exact notDelete
  · rw [Program.satisfies_bind]
    have cancelled : (GitHub.cancelRun current.repository current.runID).Satisfies .any
      (owning config ledger) (fun _ trace _ => Known config ledger (·.isDelete = false) trace)
      trace () := by
      unfold GitHub.cancelRun
      split
      · exact notDelete
      · refine Program.satisfies_perform.mpr ⟨known.1, trivial, fun wanted => wanted.elim, fun answer _ => ?_⟩
        have owned : Owned config ledger trace
          ⟨.postCancel current.repository current.runID, answer⟩ :=
          ⟨shown, fun event member => isCancel_of_gentle (known.2 event member)⟩
        have later := notDelete.snoc owned rfl
        cases answer with
        | failed canceled => exact later
        | response status requestID body =>
          dsimp only
          split
          · exact later
          · split <;> exact later
    refine cancelled.mono fun error trace _ known => ?_
    cases error with
    | none => exact known
    | some error =>
      dsimp only
      split <;> exact known

theorem anchor_eq {current : Ledger} (anchored : current.anchor = ledger.anchor) :
    current.repository = ledger.repository ∧ current.runID = ledger.runID ∧
      current.trustedSHA = ledger.trustedSHA ∧ current.nonce = ledger.nonce ∧
      current.runnerName = ledger.runnerName ∧ current.runnerLabel = ledger.runnerLabel := by
  simpa [Ledger.anchor] using anchored

theorem cancelAndWaitTerminal_owned (dispatcher : Dispatcher)
    (known : Known dispatcher.config ledger (·.isGentle = true) trace) {current : Ledger}
    (anchored : current.anchor = ledger.anchor) {policy : RepositoryPolicy}
    (listed : dispatcher.config.policy current.repository = some policy) :
    (dispatcher.cancelAndWaitTerminal policy current).Satisfies .any
      (owning dispatcher.config ledger)
      (fun _ trace _ => Known dispatcher.config ledger (·.isDelete = false) trace) trace () := by
  rcases anchor_eq anchored with ⟨repository, runID, trustedSHA, nonce, _, _⟩
  have calm {trace : Trace} (known : Known dispatcher.config ledger (·.isGentle = true) trace) :
    Known dispatcher.config ledger (·.isDelete = false) trace :=
    known.mono fun _ => isDelete_of_gentle
  unfold Dispatcher.cancelAndWaitTerminal
  rw [Program.satisfies_bind]
  refine (getRun_shows known _ _).mono fun answer trace _ ⟨known, seen⟩ => ?_
  cases answer with
  | error error => exact calm known
  | ok run =>
    rcases seen run rfl with ⟨requestID, member⟩
    dsimp only
    split
    · exact calm known
    · rename_i matching
      split
      · exact calm known
      · have identity := validateRunIdentity_eq_none.mp (Option.not_isSome_iff_eq_none.mp matching)
        have shown : RunShown dispatcher.config ledger current.repository current.runID trace := by
          refine ⟨repository, runID, requestID, run, policy, member, listed, ?_⟩
          rwa [trustedSHA, nonce] at identity
        rw [Program.satisfies_bind]
        refine (cancelUnlessCompleted_owned known shown run).mono fun error trace _ known => ?_
        cases error with
        | some error => exact known
        | none =>
          exact (Dispatcher.awaitTerminal_gentle _ _ _).keeps (fun _ => isDelete_of_gentle) known

/-! ## Deleting -/

theorem getRunner_shows {kind : Call → Prop} (known : Known config ledger kind trace)
    (includes : ∀ call, call.isGentle = true → kind call) (repository : String) (runnerID : Int) :
    (GitHub.getRunner repository runnerID).Satisfies .any (owning config ledger)
      (fun answer trace _ => Known config ledger kind trace ∧
        ∀ runner, answer = .ok (some runner) → runner.id = runnerID ∧ ∃ earlier requestID,
          trace = earlier ++
            [⟨.getRunner repository runnerID, .response 200 requestID (some runner)⟩])
      trace () := by
  unfold GitHub.getRunner
  split
  · exact ⟨known, nofun⟩
  · refine Program.satisfies_perform.mpr ⟨known.1, trivial, nofun, fun answer _ => ?_⟩
    have later : Known config ledger kind
      (trace ++ [⟨.getRunner repository runnerID, answer⟩]) :=
      known.snoc trivial (includes _ rfl)
    cases decoded : GitHub.getJSON "get runner" answer with
    | error error =>
      dsimp only
      split
      · exact ⟨later, nofun⟩
      · exact ⟨later, nofun⟩
    | ok runner =>
      rcases getJSON_ok decoded with ⟨requestID, rfl⟩
      dsimp only
      split
      · exact ⟨later, nofun⟩
      · rename_i same
        refine ⟨later, ?_⟩
        rintro _ ⟨⟩
        exact ⟨not_not.mp same, trace, requestID, rfl⟩

/-- As long as the runner has not been deleted, no call has been a deletion. -/
def Sparing (deleted : Bool) (call : Call) : Prop := deleted = true ∨ call.isDelete = false

theorem sparing_of_gentle (deleted : Bool) (call : Call) (isGentle : call.isGentle = true) :
    Sparing deleted call :=
  .inr (isDelete_of_gentle isGentle)

theorem deleteOnce_owned {current : Ledger} {deleted : Bool}
    (known : Known config ledger (Sparing deleted) trace)
    (shown : RunnerShown ledger current.repository current.runnerID trace) :
    (Dispatcher.deleteOnce current deleted).Satisfies .any (owning config ledger)
      (fun _ trace _ => Known config ledger (Sparing true) trace) trace () := by
  have passed : Known config ledger (Sparing true) trace := known.mono fun _ _ => .inl rfl
  unfold Dispatcher.deleteOnce
  cases deleted with
  | true => exact passed
  | false =>
    rw [if_neg Bool.false_ne_true]
    unfold GitHub.deleteRunner
    split
    · exact passed
    · refine Program.satisfies_perform.mpr ⟨known.1, trivial, nofun, fun answer _ => ?_⟩
      have owned : Owned config ledger trace
        ⟨.deleteRunner current.repository current.runnerID, answer⟩ :=
        ⟨shown, fun event member => (known.2 event member).resolve_left Bool.false_ne_true⟩
      have later := passed.snoc owned (.inl rfl)
      cases answer with
      | failed canceled => exact later
      | response status requestID body =>
        dsimp only
        split <;> exact later

theorem removeRunner_owned {current : Ledger} (anchored : current.anchor = ledger.anchor)
    (polls : Nat) (deleted : Bool) (known : Known config ledger (Sparing deleted) trace) :
    (Dispatcher.removeRunner current polls deleted).Satisfies .any (owning config ledger)
      (fun _ trace _ => Known config ledger (Sparing true) trace) trace () := by
  rcases anchor_eq anchored with ⟨repository, _, _, _, runnerName, runnerLabel⟩
  induction polls generalizing deleted trace with
  | zero => exact ⟨known.1, id⟩
  | succ polls induction =>
    unfold Dispatcher.removeRunner
    rw [Program.satisfies_bind]
    refine (getRunner_shows known (sparing_of_gentle deleted) _ _).mono
      fun answer trace _ ⟨known, seen⟩ => ?_
    have passed : Known config ledger (Sparing true) trace := known.mono fun _ _ => .inl rfl
    match answer with
    | .error error => exact passed
    | .ok none => exact passed
    | .ok (some runner) =>
      rcases seen runner rfl with ⟨_, earlier, requestID, last⟩
      dsimp only
      split
      · exact passed
      · rename_i matching
        simp only [not_or, not_not] at matching
        have shown : RunnerShown ledger current.repository current.runnerID trace := by
          refine ⟨repository, earlier, requestID, runner, last, matching.1, ?_, ?_⟩
          · exact matching.2.1.trans runnerName
          · rw [← runnerLabel]
            exact of_decide_eq_true matching.2.2
        rw [Program.satisfies_bind]
        refine (deleteOnce_owned known shown).mono fun error trace _ known => ?_
        cases error with
        | some error => exact known
        | none =>
          refine Program.satisfies_perform.mpr
            ⟨known.1, trivial, nofun, fun interrupted _ => ?_⟩
          have later : Known config ledger (Sparing true) (trace ++ [⟨.sleep, interrupted⟩]) :=
            known.snoc trivial (.inl rfl)
          cases interrupted with
          | some error => exact later
          | none => exact induction true later

theorem ensureRunnerGone_owned (dispatcher : Dispatcher) {current : Ledger}
    (anchored : current.anchor = ledger.anchor)
    (known : Known config ledger (·.isDelete = false) trace) :
    Ensures .any (owning config ledger) dispatcher.ensureRunnerGone
      (fun _ later trace _ => later.anchor = ledger.anchor ∧
        Known config ledger (Sparing true) trace) current trace () := by
  apply ((Dispatcher.identifyRunner_gentle dispatcher).keeps (fun _ => isDelete_of_gentle) known
    anchored).next
  intro error later trace _ ⟨anchored, known⟩
  cases error with
  | some error => exact Ensures.pure ⟨anchored, known.mono fun _ _ => .inl rfl⟩
  | none =>
    apply Ensures.bind
    apply Ensures.get
    apply Ensures.lift
    apply (removeRunner_owned anchored dispatcher.polls false
      (known.mono fun _ isDelete => .inr isDelete)).mono
    exact fun _ _ _ known => ⟨anchored, known⟩

/-! ## The cleanup -/

theorem cleanupRun_owned (dispatcher : Dispatcher) {current : Ledger}
    (anchored : current.anchor = ledger.anchor)
    (known : Known dispatcher.config ledger (·.isGentle = true) trace) :
    Ensures .any (owning dispatcher.config ledger) dispatcher.cleanupRun
      (fun _ later trace _ => later.anchor = ledger.anchor ∧
        Known dispatcher.config ledger (·.isDelete = false) trace) current trace () := by
  have calm : Known dispatcher.config ledger (·.isDelete = false) trace :=
    known.mono fun _ => isDelete_of_gentle
  unfold Dispatcher.cleanupRun
  apply Ensures.bind
  apply Ensures.get
  split
  · exact Ensures.pure ⟨anchored, calm⟩
  · split
    · exact Ensures.pure ⟨anchored, calm⟩
    · split
      · exact Ensures.pure ⟨anchored, calm⟩
      · rename_i policy listed
        split
        · exact Ensures.pure ⟨anchored, calm⟩
        · apply Ensures.bind
          apply Ensures.lift
          apply (cancelAndWaitTerminal_owned dispatcher known anchored listed).mono
          intro error trace _ known
          cases error with
          | some error => exact Ensures.pure ⟨anchored, known⟩
          | none =>
            have marks : GentleRoutine (do
              modify fun ledger => { ledger with runTerminal := true }
              saveLedger) :=
              (GentleRoutine.modify fun _ => rfl).bind fun _ => saveLedger_gentle
            exact marks.keeps (fun _ => isDelete_of_gentle) known anchored

theorem cleanupRunner_owned (dispatcher : Dispatcher) {current : Ledger}
    (anchored : current.anchor = ledger.anchor)
    (known : Known config ledger (·.isDelete = false) trace) :
    Ensures .any (owning config ledger) dispatcher.cleanupRunner
      (fun _ later trace _ => later.anchor = ledger.anchor ∧
        Known config ledger (Sparing true) trace) current trace () := by
  have passed : Known config ledger (Sparing true) trace := known.mono fun _ _ => .inl rfl
  apply Ensures.bind
  apply Ensures.get
  split
  · exact Ensures.pure ⟨anchored, passed⟩
  · apply (ensureRunnerGone_owned dispatcher anchored known).next
    intro error later trace _ ⟨anchored, known⟩
    cases error with
    | some error => exact Ensures.pure ⟨anchored, known⟩
    | none => exact Ensures.bind (Ensures.modify (Ensures.pure ⟨anchored, known⟩))

theorem completeCleanup_gentle : GentleRoutine completeCleanup := by
  have sums : GentleRoutine (modify Ledger.summed) := GentleRoutine.modify fun _ => rfl
  apply sums.bind
  intro _
  apply GentleRoutine.get.bind
  intro ledger
  split
  · exact .pure _
  · apply (GentleRoutine.perform rfl).bind
    intro now
    exact (GentleRoutine.modify fun _ => rfl).bind fun _ => saveLedger_gentle

theorem requestLogDir_gentle (requestID : String) : Gentle (requestLogDir requestID) := by
  unfold requestLogDir
  split
  · exact gentle_perform rfl
  · exact gentle_pure _

theorem cleanupLedger_owned (dispatcher : Dispatcher) (ledger : Ledger) :
    Ensures .any (owning dispatcher.config ledger) dispatcher.cleanupLedger
      (fun _ _ trace _ => Justified (Owned dispatcher.config ledger) trace) ledger [] () := by
  have fresh : Known dispatcher.config ledger (·.isGentle = true) [] :=
    ⟨Justified.nil, List.forall_mem_nil _⟩
  apply Ensures.bind
  apply Ensures.get
  apply ((GentleRoutine.lift (requestLogDir_gentle _)).keeps (fun _ => id) fresh rfl).next
  intro directory current trace _ ⟨anchored, known⟩
  cases directory with
  | error error => exact Ensures.pure known.1
  | ok logDirectory =>
    apply ((Dispatcher.cleanupIsolation_gentle dispatcher logDirectory).keeps (fun _ => id)
      known anchored).next
    intro error current trace _ ⟨anchored, known⟩
    cases error with
    | some error => exact Ensures.pure known.1
    | none =>
      apply (cleanupRun_owned dispatcher anchored known).next
      intro error current trace _ ⟨anchored, known⟩
      cases error with
      | some error => exact Ensures.pure known.1
      | none =>
        apply (cleanupRunner_owned dispatcher anchored known).next
        intro error current trace _ ⟨anchored, known⟩
        cases error with
        | some error => exact Ensures.pure known.1
        | none =>
          apply (completeCleanup_gentle.keeps (fun _ _ => .inl rfl) known anchored).mono
          exact fun _ _ _ _ holds => holds.2.1

end Known

/-- Wherever a cleanup stops, it has cancelled at most one run, after GitHub has shown it
to be the ledger's, and deleted at most one runner, right after GitHub has shown it to be. -/
theorem cleanup_removes_own_only {World : Type} {outside : Outside Call.Answer World}
    {dispatcher : Dispatcher} {ledger : Ledger} {trace : Trace} {world world' : World}
    {result : Option (Option Error × Ledger)}
    (execution : Execution outside (dispatcher.cleanupLedger.run ledger) [] world trace world'
      result) :
    (∀ before repository runID answer after,
      trace = before ++ ⟨.postCancel repository runID, answer⟩ :: after →
        RunShown dispatcher.config ledger repository runID before ∧
          ∀ event ∈ before ++ after, event.call.isCancel = false) ∧
      ∀ before repository runnerID answer after,
        trace = before ++ ⟨.deleteRunner repository runnerID, answer⟩ :: after →
          RunnerShown ledger repository runnerID before ∧
            ∀ event ∈ before ++ after, event.call.isDelete = false := by
  rcases execution.replay with ⟨events, added, execution⟩
  obtain rfl : trace = events := added
  have justified : Justified (Owned dispatcher.config ledger) trace :=
    (cleanupLedger_owned dispatcher ledger).stops (fun _ _ _ holds => holds) execution
  constructor
  · intro before repository runID answer after split
    have owned := justified _ _ _ split
    refine ⟨owned.1, justified.once ?_ split rfl⟩
    rintro before ⟨call, answer⟩ owned isCancel
    cases call with
    | postCancel repository runID => exact owned.2
    | _ => cases isCancel
  · intro before repository runnerID answer after split
    have owned := justified _ _ _ split
    refine ⟨owned.1, justified.once ?_ split rfl⟩
    rintro before ⟨call, answer⟩ owned isDelete
    cases call with
    | deleteRunner repository runnerID => exact owned.2
    | _ => cases isDelete

namespace Sample

def unregistering : Ledger where
  version := 2
  requestID := digest
  repository := "owner/repo"
  candidateRef := "refs/heads/topic"
  candidateSHA := commit
  trustedSHA := commit
  workflow := ".github/workflows/jit.yml"
  workflowSHA256 := digest
  nonce := digest
  runnerLabel := "civm-jit-" ++ digest
  runnerName := "civm-jit-4bf5122f"
  workFolder := "_work/4bf5122f"
  runID := 3
  jobID := 4
  runnerID := 7
  leaseID := ""
  processPID := 0
  processStart := 0
  processGroup := 0
  cgroupPath := ""
  isolationID := ""
  isolationBase := ""
  runTerminal := true
  runnerGone := false
  isolationGone := true
  cleanupComplete := false
  status := .failed
  createdAt := 0
  updatedAt := 0
  failureCode := ""

def registered : RemoteRunner :=
  ⟨7, unregistering.runnerName, "offline", false, [⟨unregistering.runnerLabel, "custom"⟩]⟩

end Sample

theorem seen_runner_is_deleted :
    ∃ trace result, Execution Outside.any
        (Sample.dispatcher.cleanupLedger.run Sample.unregistering) [] () trace () result ∧
      ∃ before answer after, trace = before ++ ⟨.deleteRunner "owner/repo" 7, answer⟩ :: after ∧
        RunnerShown Sample.unregistering "owner/repo" 7 before ∧
          ∀ event ∈ before ++ after, event.call.isDelete = false := by
  have execution : Execution Outside.any
    (Sample.dispatcher.cleanupLedger.run Sample.unregistering) [] ()
    ([⟨.requestLogDir Sample.digest, .ok "/logs"⟩,
      ⟨.getRunner "owner/repo" 7, .response 200 "" (some Sample.registered)⟩] ++
      [⟨.deleteRunner "owner/repo" 7, .response 204 "" (some ())⟩]) () none := by
    apply Execution.answered (.ok "/logs") trivial
    apply Execution.answered (.response 200 "" (some Sample.registered)) trivial
    apply Execution.answered (.response 204 "" (some ())) trivial
    exact .died
  refine ⟨_, _, execution, _, _, _, rfl, ?_⟩
  exact (cleanup_removes_own_only execution).2 _ _ _ _ _ rfl

end Civm.JitDispatcher
