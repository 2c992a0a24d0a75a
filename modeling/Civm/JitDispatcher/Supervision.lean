import Civm.Foundation.Leaves
import Civm.JitDispatcher.Histories

/-! # Supervising the driver

What `execDriver` does on each of its ways out, for any driver, any containment
and any callbacks. -/

namespace Civm.JitDispatcher.Runner

/-- Attached processes have an ID of their own. -/
def Attached : (call : Call) → call.Answer → Prop
  | .attach _, answer => ∀ process, answer = .ok process → process.pid > 1
  | _, _ => True

/-- The containment of the lease was terminated, or recovered while the driver
was not identified. -/
def Contained (request : DriverExecRequest) (events : Trace) : Prop :=
  (∃ answer, ⟨.recover request.leaseID .zero request.shutdownGrace, answer⟩ ∈ events) ∨
  ∃ process answer, ⟨.attach request.leaseID, .ok process⟩ ∈ events ∧
    ⟨.terminate process request.shutdownGrace, answer⟩ ∈ events

/-- The attached driver was reaped and its containment terminated. -/
structure Reaped (request : DriverExecRequest) (process : ProcessIdentity) (events : Trace) :
    Prop where
  attached : ⟨.attach request.leaseID, .ok process⟩ ∈ events
  exited : ⟨.awaitDriver, .exited .clean⟩ ∈ events
  terminated : ⟨.terminate process request.shutdownGrace, none⟩ ∈ events

/-- How an identified driver ends. -/
structure Ends (request : DriverExecRequest) (process : ProcessIdentity) (result : DriverResult)
    (events : Trace) : Prop where
  terminated : ∃ answer, ⟨.terminate process request.shutdownGrace, answer⟩ ∈ events
  success : result.2.2 = none → result.2.1 = process ∧
    ⟨.awaitDriver, .exited .clean⟩ ∈ events ∧
    ⟨.terminate process request.shutdownGrace, none⟩ ∈ events

theorem Ends.more {request : DriverExecRequest} {process : ProcessIdentity}
    {result : DriverResult} {events more : Trace} (ends : Ends request process result events)
    (subset : events ⊆ more) : Ends request process result more := by
  rcases ends.terminated with ⟨answer, member⟩
  refine ⟨⟨answer, subset member⟩, fun success => ?_⟩
  rcases ends.success success with ⟨same, exited, terminated⟩
  exact ⟨same, subset exited, subset terminated⟩

theorem ends_later {State : Type} {routine : Routine Call.Answer State DriverResult}
    {request : DriverExecRequest} {process : ProcessIdentity} {embed : Trace → Trace}
    (leaves : Routine.Leaves Attached routine (Ends request process))
    (later : ∀ more, more ⊆ embed more) :
    Routine.Leaves Attached routine fun result more => Ends request process result (embed more) :=
  fun state => (leaves state).mono fun _ more ends => ends.more (later more)

section

variable (request : DriverExecRequest) (process : ProcessIdentity)

theorem stopAndWait_leaves (identified : process.pid > 1) (grace : Nat) :
    (stopAndWait process grace).Leaves Attached fun _ events =>
      ∃ answer, ⟨.terminate process grace, answer⟩ ∈ events := by
  unfold stopAndWait
  rw [if_pos (Int.lt_trans (by decide) identified)]
  intro answer _
  exact (Program.leaves_any _).mono fun _ _ _ => ⟨answer, List.mem_cons_self ..⟩

theorem stopIdentified_leaves (identified : process.pid > 1) (receipts : List IsolationReceipt)
    (error : Error) :
    (stopIdentified receipts process request.shutdownGrace error).Leaves Attached
      (Ends request process) := by
  refine (stopAndWait_leaves process identified _).bind fun stopError events terminated => ?_
  exact ⟨(List.append_nil events).symm ▸ terminated, nofun⟩

theorem awaitDriverExit_leaves :
    (awaitDriverExit request process).Leaves Attached fun error events =>
      error = none → ⟨.awaitDriver, .exited .clean⟩ ∈ events := by
  refine Program.leaves_perform.mpr fun answer _ => ?_
  cases answer with
  | exited exit =>
    cases exit with
    | clean => exact fun _ => List.mem_cons_self ..
    | exitError | failed => exact nofun
  | expired cause =>
    refine (Program.leaves_any _).bind fun stopError _ _ => ?_
    exact nofun

theorem awaitEnd_leaves (receipts : List IsolationReceipt) :
    (awaitEnd request process receipts).Leaves Attached (Ends request process) := by
  refine (Program.leaves_any _).bind fun receipt events₁ _ => ?_
  refine (awaitDriverExit_leaves request process).bind fun waitError events₂ reaped => ?_
  intro containmentError _ flushError _
  refine ⟨⟨containmentError, ?_⟩, fun success => ?_⟩
  · simp
  · have none := GoError.joinAll_eq_none.mp success
    have waited : waitError = Option.none := by
      simpa using none _ (List.mem_cons_of_mem _ (List.mem_cons_self ..))
    have contained : containmentError = Option.none :=
      none _ (List.mem_cons_of_mem _ (List.mem_cons_of_mem _ (List.mem_cons_self ..)))
    refine ⟨rfl, ?_, ?_⟩
    · simp [reaped waited]
    · simp [contained]

theorem closeAndAwait_leaves (identified : process.pid > 1) (receipts : List IsolationReceipt) :
    (closeAndAwait request process receipts).Leaves Attached (Ends request process) := by
  refine Program.leaves_perform.mpr fun closeError _ => ?_
  cases closeError with
  | some error =>
    exact (stopIdentified_leaves request process identified receipts error).mono
      fun _ events ends => ends.more (List.subset_cons_self _ events)
  | none =>
    exact (awaitEnd_leaves request process receipts).mono
      fun _ events ends => ends.more (List.subset_cons_self _ events)

end

section

variable {State : Type} (request : DriverExecRequest) (callbacks : Callbacks State)

theorem converse_leaves {process : ProcessIdentity} (identified : process.pid > 1) :
    Routine.Leaves Attached (converse request callbacks process) (Ends request process) := by
  have stopped : ∀ receipts error, Routine.Leaves Attached
    (liftM (stopIdentified receipts process request.shutdownGrace error) :
      Routine Call.Answer State DriverResult) (Ends request process) :=
    fun _ _ => Routine.leaves_lift (stopIdentified_leaves request process identified _ _)
  have closed : ∀ receipts, Routine.Leaves Attached
    (liftM (closeAndAwait request process receipts) : Routine Call.Answer State DriverResult)
    (Ends request process) :=
    fun _ => Routine.leaves_lift (closeAndAwait_leaves request process identified _)
  refine Routine.leaves_perform fun receipt _ => ?_
  cases receipt with
  | error error => exact ends_later (stopped _ _) fun more => List.subset_cons_self _ more
  | ok first =>
    dsimp only
    split
    · exact ends_later (closed _) fun more => List.subset_cons_self _ more
    · split
      · exact ends_later (stopped _ _) fun more => List.subset_cons_self _ more
      · refine (Routine.leaves_any _).bind fun refused events _ => ?_
        cases refused with
        | some error => exact ends_later (stopped _ _) fun _ _ member => by simp [member]
        | none =>
          refine Routine.leaves_perform fun writeError _ => ?_
          cases writeError with
          | some error => exact ends_later (stopped _ _) fun _ _ member => by simp [member]
          | none => exact ends_later (closed _) fun _ _ member => by simp [member]

theorem stopUnidentified_leaves (error : Error) :
    (stopUnidentified request.leaseID request.shutdownGrace error).Leaves Attached
      fun result events => result.2.2 ≠ none ∧
        ∃ answer, ⟨.recover request.leaseID .zero request.shutdownGrace, answer⟩ ∈ events := by
  have recovered : (stopUnidentifiedAndWait request.leaseID request.shutdownGrace).Leaves Attached
    fun _ events => ∃ answer,
      ⟨.recover request.leaseID .zero request.shutdownGrace, answer⟩ ∈ events := by
    refine Program.leaves_perform.mpr fun answer _ => ?_
    exact (Program.leaves_any _).mono fun _ _ _ => ⟨answer, List.mem_cons_self ..⟩
  refine recovered.bind ?_
  rintro stopError events ⟨answer, member⟩
  exact ⟨nofun, answer, List.mem_append_left _ member⟩

/-- How `execDriver` ends once its driver has started. -/
structure Supervised (result : DriverResult) (events : Trace) : Prop where
  contained : Contained request events
  reaped : result.2.2 = none → Reaped request result.2.1 events

theorem superviseDriver_leaves :
    Routine.Leaves Attached (superviseDriver request callbacks) (Supervised request) := by
  have unidentified : ∀ (embed : Trace → Trace) error, (∀ more, more ⊆ embed more) →
    Routine.Leaves Attached
      (liftM (stopUnidentified request.leaseID request.shutdownGrace error) :
        Routine Call.Answer State DriverResult)
      fun result more => Supervised request result (embed more) := by
    intro embed error later
    refine Routine.leaves_lift ((stopUnidentified_leaves request error).mono ?_)
    rintro result more ⟨failed, answer, member⟩
    exact ⟨.inl ⟨answer, later more member⟩, fun success => absurd success failed⟩
  refine Routine.leaves_perform fun closeError _ => ?_
  cases closeError with
  | some error => exact unidentified _ error fun more => List.subset_cons_self _ more
  | none =>
    refine Routine.leaves_perform fun answer attached => ?_
    cases answer with
    | error error => exact unidentified _ error fun _ _ member => by simp [member]
    | ok process =>
      have identified := attached process rfl
      refine (Routine.leaves_any _).bind fun refused events _ => ?_
      have ended : ∀ (routine : Routine Call.Answer State DriverResult),
        Routine.Leaves Attached routine (Ends request process) →
        Routine.Leaves Attached routine fun result more => Supervised request result
          (⟨.closePreparation, none⟩ :: ⟨.attach request.leaseID, .ok process⟩ ::
            (events ++ more)) := by
        intro routine leaves state
        refine (leaves state).mono fun result more ends => ?_
        rcases ends.terminated with ⟨answer, member⟩
        refine ⟨.inr ⟨process, answer, by simp, by simp [member]⟩, fun success => ?_⟩
        rcases ends.success success with ⟨same, exited, terminated⟩
        rw [same]
        exact ⟨by simp, by simp [exited], by simp [terminated]⟩
      cases refused with
      | some error =>
        exact ended _ (Routine.leaves_lift
          (stopIdentified_leaves request process identified _ _))
      | none => exact ended _ (converse_leaves request callbacks identified)

/-- Every way out of `execDriver` after the driver has started leads through its
containment, and only a reaped driver is reported without an error. -/
structure Contains (result : DriverResult) (events : Trace) : Prop where
  contained : ⟨.start request.arguments, none⟩ ∈ events → ∃ before after,
    events = before ++ ⟨.start request.arguments, none⟩ :: after ∧ Contained request after
  reaped : result.2.2 = none → Reaped request result.2.1 events

theorem execDriver_leaves :
    Routine.Leaves Attached (execDriver request callbacks) (Contains request) := by
  refine Routine.leaves_perform fun trustError _ => ?_
  cases trustError with
  | some error => exact Routine.leaves_pure ⟨fun started => by simp at started, nofun⟩
  | none =>
    refine Routine.leaves_perform fun logError _ => ?_
    cases logError with
    | some error => exact Routine.leaves_pure ⟨fun started => by simp at started, nofun⟩
    | none =>
      refine Routine.leaves_perform fun pipeError _ => ?_
      cases pipeError with
      | some error => exact Routine.leaves_pure ⟨fun started => by simp at started, nofun⟩
      | none =>
        refine Routine.leaves_perform fun prepareError _ => ?_
        cases prepareError with
        | some error =>
          exact Routine.leaves_pure ⟨fun started => by simp at started, nofun⟩
        | none =>
          refine Routine.leaves_perform fun stdinError _ => ?_
          cases stdinError with
          | some error =>
            refine Routine.leaves_lift fun closeError _ recoverError _ => ?_
            exact ⟨fun started => by simp at started, nofun⟩
          | none =>
            refine Routine.leaves_perform fun startError _ => ?_
            cases startError with
            | some error =>
              refine Routine.leaves_lift fun closeError _ recoverError _ => ?_
              exact ⟨fun started => by simp at started, nofun⟩
            | none =>
              intro state
              refine (superviseDriver_leaves request callbacks state).mono ?_
              intro result events supervised
              refine ⟨fun _ => ⟨[_, _, _, _, _], events, rfl, supervised.contained⟩,
                fun success => ?_⟩
              rcases supervised.reaped success with ⟨attached, exited, terminated⟩
              exact ⟨by simp [attached], by simp [exited], by simp [terminated]⟩

end

/-- The JIT configuration is handed only to a driver whose isolation is proved
ready and durably recorded, and every way out of `execDriver` with a started
driver leads through its containment. -/
theorem driver_is_entrusted_and_contained :
    (∀ start world past, start.Untouched → History Assumptions.none start past world →
      ∀ (dispatcher : Dispatcher) request trace world' input,
        Reaches (outside Assumptions.none) (dispatcher.dispatch request) []
          (world.serving request) trace world' (.writeInput input) →
        Entrusted dispatcher.config.baseImageSHA256 trace world' input) ∧
    ∀ (State World : Type) (outside : Outside Call.Answer World),
      (∀ world call answer, outside.permits world call answer → Attached call answer) →
      ∀ (request : DriverExecRequest) (callbacks : Callbacks State) state trace world trace' world'
        result state',
        Execution outside ((execDriver request callbacks).run state) trace world trace' world'
          (some (result, state')) →
        ∃ added, trace' = trace ++ added ∧ Contains request result added := by
  refine ⟨fun start world past fresh history dispatcher request trace world' input reached => ?_,
    fun State World outside attached request callbacks state trace world trace' world' result
      state' execution => ?_⟩
  · exact (((history.sound fresh).dispatch_satisfies dispatcher request).reaches reached).2
  · exact (execDriver_leaves request callbacks state).returns attached execution

end Civm.JitDispatcher.Runner
