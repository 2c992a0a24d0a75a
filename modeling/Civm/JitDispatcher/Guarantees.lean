import Civm.JitDispatcher.Rehearsal

/-! # The guarantees of the dispatcher

What can be relied on after any history of invocations, and while the next one
is running. -/

namespace Civm.JitDispatcher

/-! ## Live effects are on record -/

/-- Every effect that may be live is recorded as open. -/
structure Ledger.Reports (ledger : Ledger) (footprint : Footprint) : Prop where
  run : footprint.run.isSome → ledger.runTerminal = false
  runner : footprint.runner.isSome → ledger.runnerGone = false
  isolation : footprint.isolation.isSome → ledger.isolationGone = false

theorem Faithful.reports {assumptions : Assumptions} {world : World} {ledger : Ledger}
    (faithful : Faithful assumptions world ledger) :
    ledger.Reports (world.footprint ledger.requestID) where
  run := by
    intro live
    rcases Option.isSome_iff_exists.mp live with ⟨effect, live⟩
    exact (faithful.run effect live).1
  runner := by
    intro live
    rcases Option.isSome_iff_exists.mp live with ⟨effect, live⟩
    exact (faithful.runner effect live).1
  isolation := by
    intro live
    rcases Option.isSome_iff_exists.mp live with ⟨lease, live⟩
    exact (faithful.isolation lease live).1

theorem Ledger.Reports.empty {ledger : Ledger} {footprint : Footprint}
    (reports : ledger.Reports footprint) (run : ledger.runTerminal = true)
    (runner : ledger.runnerGone = true) (isolation : ledger.isolationGone = true) :
    footprint = Footprint.empty := by
  rcases footprint with ⟨_ | effect, _ | effect', _ | lease⟩
  · rfl
  all_goals
    first
      | exact nomatch run.symm.trans (reports.run rfl)
      | exact nomatch runner.symm.trans (reports.runner rfl)
      | exact nomatch isolation.symm.trans (reports.isolation rfl)

/-- The durable ledger never under-reports a live effect. -/
theorem durable_ledger_reports_live_effects {start world : World} {past : List Invocation}
    (fresh : start.Untouched) (history : History Assumptions.none start past world)
    (key : String) :
    (world.store key = none → world.footprint key = Footprint.empty) ∧
    ∀ ledger, world.store key = some ledger →
      ledger.Reports (world.footprint key) ∧
      (ledger.cleanupComplete = true → world.footprint key = Footprint.empty) := by
  have sound := history.sound fresh
  refine ⟨fun absent => (sound.untouched key absent).1, fun ledger stored => ?_⟩
  have valid := sound.valid key ledger stored
  have reports : ledger.Reports (world.footprint key) :=
    valid.named ▸ (sound.faithful key ledger stored).reports
  refine ⟨reports, fun complete => ?_⟩
  rcases valid.complete complete with ⟨run, runner, isolation⟩
  exact reports.empty run runner isolation

theorem dispatched_run_is_reported :
    ∃ ledger, (Sample.played 20).2.1.store (requestIDOf Sample.request) = some ledger ∧
      ledger.runTerminal = false := by
  have live : (((Sample.played 20).2.1.store (requestIDOf Sample.request)).isSome &&
    ((Sample.played 20).2.1.footprint (requestIDOf Sample.request)).run.isSome) = true := by
    decide +kernel
  rw [Bool.and_eq_true] at live
  rcases Option.isSome_iff_exists.mp live.1 with ⟨ledger, stored⟩
  have reports := ((durable_ledger_reports_live_effects Sample.start_untouched
    (Sample.history _ 20) (requestIDOf Sample.request)).2 ledger stored).1
  exact ⟨ledger, stored, reports.run live.2⟩

/-! ## One incomplete ledger, one marker -/

/-- The ledgers and the marker of every reachable world agree, so that startup
reconciliation never refuses what it finds. -/
theorem reachable_ledgers_and_marker_agree {start world : World} {past : List Invocation}
    (fresh : start.Untouched) (history : History Assumptions.none start past world) :
    (∀ key key' ledger ledger', world.store key = some ledger → world.store key' = some ledger' →
      ledger.cleanupComplete = false → ledger'.cleanupComplete = false → key = key') ∧
    (∀ marker, world.marker = some marker →
      (∃ key ledger, world.store key = some ledger ∧ ledger.leaseID = marker.leaseID) ∧
      ∀ key ledger, world.store key = some ledger → ledger.cleanupComplete = false →
        ledger.leaseID = marker.leaseID) ∧
    ∀ ledgers orphan, world.permits Assumptions.none .list (.ok ledgers) →
      world.permits Assumptions.none .orphan (.ok orphan) →
      ∃ incomplete, Dispatcher.findIncomplete ledgers orphan = .ok incomplete := by
  have sound := history.sound fresh
  refine ⟨sound.single, fun marker found => ⟨sound.owned marker found, fun key ledger =>
    sound.held marker key ledger found⟩, fun ledgers orphan listed observed => ?_⟩
  rcases listed ledgers rfl with ⟨distinct, listed⟩
  rcases Dispatcher.findIncomplete_ok sound distinct listed with ⟨incomplete, found, _⟩
  exact ⟨incomplete, observed orphan rfl ▸ found⟩

/-- A dispatch that dies right after it got its lease. -/
theorem abandoned_lease_is_found :
    (Sample.played 15).2.1.marker.isSome = true ∧
    ∀ ledgers orphan, (Sample.played 15).2.1.permits Assumptions.none .list (.ok ledgers) →
      (Sample.played 15).2.1.permits Assumptions.none .orphan (.ok orphan) →
      ∃ incomplete, Dispatcher.findIncomplete ledgers orphan = .ok incomplete :=
  ⟨by decide +kernel, (reachable_ledgers_and_marker_agree Sample.start_untouched
    (Sample.history _ 15)).2.2⟩

theorem Sound.unfinished_of_live {assumptions : Assumptions} {past : List Invocation}
    {world : World} {key : String} (sound : Sound assumptions past world)
    (live : world.footprint key ≠ Footprint.empty) :
    ∃ ledger, world.store key = some ledger ∧ ledger.cleanupComplete = false := by
  cases stored : world.store key with
  | none => exact absurd (sound.untouched key stored).1 live
  | some ledger =>
    refine ⟨ledger, rfl, Bool.eq_false_iff.mpr fun complete => live ?_⟩
    have valid := sound.valid key ledger stored
    rcases valid.complete complete with ⟨run, runner, isolation⟩
    exact valid.named ▸ (sound.faithful key ledger stored).reports.empty run runner isolation

/-- Whatever is live belongs to one request, has the names in its ledger and is
under the marked lease. -/
theorem live_effects_are_of_one_request {start world : World} {past : List Invocation}
    (fresh : start.Untouched) (history : History Assumptions.none start past world)
    {key : String} (live : world.footprint key ≠ Footprint.empty) :
    ∃ ledger, world.store key = some ledger ∧ Faithful Assumptions.none world ledger ∧
      (∀ marker, world.marker = some marker → ledger.leaseID = marker.leaseID) ∧
      ∀ other, other ≠ key → world.footprint other = Footprint.empty := by
  have sound := history.sound fresh
  rcases sound.unfinished_of_live live with ⟨ledger, stored, unfinished⟩
  refine ⟨ledger, stored, sound.faithful key ledger stored, fun marker found =>
    sound.held marker key ledger found stored unfinished, fun other different => ?_⟩
  by_contra live'
  rcases sound.unfinished_of_live live' with ⟨ledger', stored', unfinished'⟩
  exact different (sound.single _ _ _ _ stored' stored unfinished' unfinished)

theorem dispatched_run_is_alone :
    ∃ ledger, (Sample.played 20).2.1.store (requestIDOf Sample.request) = some ledger ∧
      ∀ other, other ≠ requestIDOf Sample.request →
        (Sample.played 20).2.1.footprint other = Footprint.empty := by
  have live : ((Sample.played 20).2.1.footprint (requestIDOf Sample.request)).run ≠ none := by
    decide +kernel
  rcases live_effects_are_of_one_request Sample.start_untouched (Sample.history _ 20)
    (ne_of_apply_ne Footprint.run live) with ⟨ledger, stored, _, _, alone⟩
  exact ⟨ledger, stored, alone⟩

/-! ## Leases -/

def Call.releases : Call → Bool
  | .release _ | .releaseOrphan _ => true
  | _ => false

/-- The marker of every lease that was acquired and not released is still
there. -/
def World.Holds (trace : Trace) (world : World) : Prop :=
  ∀ before leaseID answer after, trace = before ++ ⟨.acquire leaseID, answer⟩ :: after →
    answer.error = none → (∀ event ∈ after, event.call.releases = false) →
    ∃ marker, world.marker = some marker ∧ marker.leaseID = leaseID

theorem World.marker_after {assumptions : Assumptions} {world : World} {call : Call}
    {answer : call.Answer} {marker : LeaseMarker} (found : world.marker = some marker)
    (permitted : world.permits assumptions call answer) (kept : call.releases = false) :
    (world.after call answer).marker = some marker := by
  by_cases calm : call.calm = true
  · rw [(World.calmer_after calm permitted).marker]
    exact found
  · cases call with
    | acquire leaseID =>
      rcases permitted.1 with same | ⟨absent, _⟩
      · exact same.trans found
      · exact nomatch found.symm.trans absent
    | release | releaseOrphan => cases kept
    | save ledger =>
      change (if answer.stored then world.saved ledger else world).marker = some marker
      split <;> exact found
    | abandon | writeInput => exact found
    | postDispatch repository workflow trustedRef inputs =>
      change (world.dispatched _ answer).marker = some marker
      unfold World.dispatched
      split <;> exact found
    | postJITConfig repository identity runnerGroupID =>
      change (world.generated _ answer).marker = some marker
      unfold World.generated
      split <;> exact found
    | start arguments =>
      cases answer with
      | some error => exact found
      | none =>
        change (world.started arguments).marker = some marker
        unfold World.started
        split <;> exact found
    | _ => exact absurd rfl calm

theorem World.Holds.step {assumptions : Assumptions} {trace : Trace} {world : World} {call : Call}
    {answer : call.Answer} (holds : world.Holds trace)
    (permitted : world.permits assumptions call answer) :
    (world.after call answer).Holds (trace ++ [⟨call, answer⟩]) := by
  intro before leaseID acquired after split acquiredIt unreleased
  rcases List.eq_nil_or_concat after with rfl | ⟨earlier, last, rfl⟩
  · rcases List.append_inj_right' split rfl with same
    cases same
    exact permitted.2 acquiredIt
  · rw [List.concat_eq_append, ← List.cons_append, ← List.append_assoc] at split
    have same := List.append_inj_right' split rfl
    have trace_eq := List.append_inj_left' split rfl
    cases same
    rw [List.concat_eq_append] at unreleased
    rcases holds before leaseID acquired earlier trace_eq acquiredIt
      (fun event member => unreleased event (List.mem_append_left _ member)) with
      ⟨marker, found, owned⟩
    exact ⟨marker, World.marker_after found permitted
      (unreleased _ (List.mem_append_right _ (List.mem_singleton_self _))), owned⟩

/-- Nothing is assumed but that saves of stale ledgers reach the disk. -/
def Assumptions.savesStale : Assumptions :=
  { Assumptions.none with staleSaved := True }

/-- A lease is released only when its durable ledger records the cleanup as
complete. Every invocation that returns has released its lease or abandoned it,
and the marker of an abandoned lease is still there. -/
theorem release_requires_durable_cleanup {start world : World} {past : List Invocation}
    (fresh : start.Untouched) (history : History Assumptions.savesStale start past world)
    (dispatcher : Dispatcher) (request : Request) :
    (∀ trace world' leaseID, Reaches (outside Assumptions.savesStale)
      (dispatcher.dispatch request) [] (world.serving request) trace world' (.release leaseID) →
      world'.Settled leaseID) ∧
    (∀ trace world' marker, Reaches (outside Assumptions.savesStale)
      (dispatcher.dispatch request) [] (world.serving request) trace world'
      (.releaseOrphan marker) → world'.Settled marker.leaseID) ∧
    ∀ trace world' outcome, Execution (outside Assumptions.savesStale)
      (dispatcher.dispatch request) [] (world.serving request) trace world' (some outcome) →
      world'.lease = none ∧ world'.Holds trace := by
  have satisfies := (history.sound fresh).dispatch_satisfies dispatcher request
  refine ⟨fun _ _ _ reached => (satisfies.reaches reached).2 trivial,
    fun _ _ _ reached => (satisfies.reaches reached).2 trivial, fun _ _ _ execution =>
      ⟨(satisfies.returns execution).lease, ?_⟩⟩
  refine execution.preserves (fun trace world => world.Holds trace)
    (fun _ _ _ _ holds permitted => holds.step permitted) ?_
  intro before leaseID answer after split
  cases before <;> cases split

/-- The clock does not run backwards, attached processes are well formed and
recoveries are answered with safe opaque IDs. -/
def Assumptions.regular : Assumptions :=
  { Assumptions.none with timely := True, attached := True, safelyNamed := True }

def Sample.recovering (calls : Nat) : Trace × World × Action (Result × Option Error) :=
  Sample.script.play Sample.dispatcher Sample.request calls (Sample.played 15).2.1

def Call.savedLedger? : Call → Option Ledger
  | .save ledger => some ledger
  | _ => none

def Call.releasedLease? : Call → Option String
  | .release leaseID => some leaseID
  | _ => none

def Call.releasedOrphan? : Call → Option LeaseMarker
  | .releaseOrphan marker => some marker
  | _ => none

theorem Call.eq_save {call : Call} {ledger : Ledger}
    (saved : call.savedLedger? = some ledger) : call = .save ledger := by
  cases call <;> cases saved
  rfl

theorem Call.eq_release {call : Call} {leaseID : String}
    (released : call.releasedLease? = some leaseID) : call = .release leaseID := by
  cases call <;> cases released
  rfl

theorem Call.eq_releaseOrphan {call : Call} {marker : LeaseMarker}
    (released : call.releasedOrphan? = some marker) : call = .releaseOrphan marker := by
  cases call <;> cases released
  rfl

theorem asked_of_any {pick : Call → Option β} {make : β → Call}
    (only : ∀ {call value}, pick call = some value → call = make value) {asked : Option Call}
    {test : β → Bool} (found : (asked.bind pick).any test = true) :
    ∃ value, asked = some (make value) ∧ test value = true := by
  rcases (Option.any_eq_true _ _).mp found with ⟨value, picked, tested⟩
  rcases Option.bind_eq_some_iff.mp picked with ⟨call, isCall, handed⟩
  exact ⟨value, only handed ▸ isCall, tested⟩

theorem recovered_orphan_is_settled :
    ∃ trace world marker, Reaches (outside Assumptions.savesStale)
      (Sample.dispatcher.dispatch Sample.request) []
      ((Sample.played 15).2.1.serving Sample.request) trace world (.releaseOrphan marker) ∧
      world.Settled marker.leaseID := by
  have asks : ((Sample.recovering 14).2.2.asks?.bind Call.releasedOrphan?).any
    (fun _ => true) = true := by
    decide +kernel
  rcases asked_of_any Call.eq_releaseOrphan asks with ⟨marker, asked, _⟩
  have played := (Sample.history Assumptions.strict 15).plays Sample.start_untouched
    Sample.script_legal (Sample.alone 15) Sample.dispatcher 14
  have reached : Reaches (outside Assumptions.savesStale) _ _ _ _ _ _ :=
    (played.2 _ asked).weaken (by rfl)
      (World.permits_weaken Assumptions.savesStale.weaker_strict)
  exact ⟨_, _, marker, reached, (release_requires_durable_cleanup Sample.start_untouched
    (Sample.history _ 15) Sample.dispatcher Sample.request).2.1 _ _ _ reached⟩

/-- The candidate ref moves while the job runs, and the stale ledger does not
reach the disk. -/
def Sample.staleScript : Script :=
  { Sample.script with
    saves := fun ledger =>
      if ledger.status = .stale then ⟨some (.text "no space left on device"), false⟩
      else ⟨none, true⟩
    head := fun trace =>
      if Script.served trace then "76543210fedcba9876543210fedcba9876543210" else Sample.commit }

theorem Sample.staleScript_legal : Sample.staleScript.Legal Assumptions.regular where
  saves := by
    intro world ledger valid
    have valid := valid ⟨trivial, trivial, trivial⟩
    refine ⟨fun error refused => (nomatch valid.symm.trans refused), ?_, fun assumed => assumed.elim⟩
    change (if ledger.status = .stale then (⟨some _, false⟩ : SaveAnswer) else _).error = none → _
    intro success
    split at success
    · cases success
    · rename_i fresh
      simp only [Sample.staleScript, if_neg fresh]
  found := fun _ => by decide

theorem lease_released_while_ledger_incomplete :
    ∃ (start world : World) (dispatcher : Dispatcher) (request : Request) (trace : Trace)
      (leaseID : String) (ledger : Ledger), start.Untouched ∧
      Reaches (outside Assumptions.none) (dispatcher.dispatch request) [] (start.serving request)
        trace world (.release leaseID) ∧
      world.store (requestIDOf request) = some ledger ∧ ledger.leaseID = leaseID ∧
      ledger.cleanupComplete = false := by
  have released : ((Sample.staleScript.play Sample.dispatcher Sample.request 71
    Sample.start).2.2.asks?.bind Call.releasedLease?).any (fun leaseID =>
      ((Sample.staleScript.play Sample.dispatcher Sample.request 71
        Sample.start).2.1.store (requestIDOf Sample.request)).any fun ledger =>
          ledger.leaseID = leaseID && !ledger.cleanupComplete) = true := by
    decide +kernel
  rcases asked_of_any Call.eq_release released with ⟨leaseID, asked, kept⟩
  rcases (Option.any_eq_true _ _).mp kept with ⟨ledger, stored, incomplete⟩
  rw [Bool.and_eq_true, decide_eq_true_eq, Bool.not_eq_true'] at incomplete
  have reached := (History.start.plays Sample.start_untouched Sample.staleScript_legal
    (List.forall_mem_nil _) Sample.dispatcher 71).2 _ asked
  exact ⟨_, _, _, _, _, leaseID, ledger, Sample.start_untouched,
    reached.weaken (by rfl) (World.permits_weaken (Assumptions.none_weaker _)),
    stored, incomplete.1, incomplete.2⟩

/-! ## Saves -/

/-- Every ledger handed to `Save` is valid. -/
theorem saved_ledgers_are_valid {start world : World} {past : List Invocation}
    (fresh : start.Untouched) (history : History Assumptions.regular start past world)
    (dispatcher : Dispatcher) (request : Request) {trace : Trace} {world' : World}
    {ledger : Ledger}
    (reached : Reaches (outside Assumptions.regular) (dispatcher.dispatch request) []
      (world.serving request) trace world' (.save ledger)) :
    validateLedger ledger ledger.requestID = none :=
  (((history.sound fresh).dispatch_satisfies dispatcher request).reaches reached).2
    ⟨trivial, trivial, trivial⟩

theorem first_saved_ledger_is_valid :
    ∃ ledger, (Sample.played 13).2.2.asks? = some (.save ledger) ∧
      validateLedger ledger ledger.requestID = none := by
  have saving : ((Sample.played 13).2.2.asks?.bind Call.savedLedger?).any
    (fun _ => true) = true := by
    decide +kernel
  rcases asked_of_any Call.eq_save saving with ⟨ledger, asked, _⟩
  exact ⟨ledger, asked, saved_ledgers_are_valid Sample.start_untouched .start _ _
    ((Sample.plays _ 13).2 _ asked)⟩

def Sample.unsafeScript : Script :=
  { Sample.script with
    saves := fun ledger =>
      match validateLedger ledger ledger.requestID with
      | some error => ⟨some error, false⟩
      | none => ⟨none, true⟩
    found := "vm" }

def Assumptions.unnamed : Assumptions :=
  { Assumptions.regular with safelyNamed := False }

theorem Sample.unsafeScript_legal : Sample.unsafeScript.Legal Assumptions.unnamed where
  saves := by
    intro world ledger _
    refine ⟨fun error refused => ?_, fun success => ?_, fun assumed => assumed.elim⟩
    · simp only [Sample.unsafeScript, refused]
    · revert success
      simp only [Sample.unsafeScript]
      split
      · exact nofun
      · exact fun _ => rfl
  found := False.elim

/-- A dispatch dies when its driver has just been started. The recovery of its
isolation is answered with a valid receipt, and the ledger that adopts the
isolation is refused. -/
theorem recovery_saves_invalid_ledger :
    ∃ (start world world' : World) (past : List Invocation) (dispatcher : Dispatcher)
      (request : Request) (trace : Trace) (ledger : Ledger), start.Untouched ∧
      History Assumptions.unnamed start past world ∧
      Reaches (outside Assumptions.unnamed) (dispatcher.dispatch request) []
        (world.serving request) trace world' (.save ledger) ∧
      validateLedger ledger ledger.requestID ≠ none := by
  have saving : ((Sample.unsafeScript.play Sample.dispatcher Sample.request 25
    (Sample.played 47).2.1).2.2.asks?.bind Call.savedLedger?).any
    (fun ledger => (validateLedger ledger ledger.requestID).isSome) = true := by
    decide +kernel
  rcases asked_of_any Call.eq_save saving with ⟨ledger, asked, invalid⟩
  have history := Sample.history Assumptions.unnamed 47
  exact ⟨_, _, _, _, _, _, _, ledger, Sample.start_untouched, history,
    (history.plays Sample.start_untouched Sample.unsafeScript_legal (Sample.alone 47)
      Sample.dispatcher 25).2 _ asked, Option.isSome_iff_ne_none.mp invalid⟩

/-! ## Replays -/

def Call.localPreflight : Call → Bool
  | .runnerPreflight | .gatePreflight | .acquireQueue => true
  | _ => false

/-- Besides local preflight and startup reconciliation the invocation only
reads its own ledger and closes the queue. -/
def OnlyReplays (assumptions : Assumptions) (dispatcher : Dispatcher) (key : String)
    (world : World) (trace : Trace) : Prop :=
  ∃ preflight reconciled own after result,
    (∀ event ∈ preflight, event.call.localPreflight = true) ∧
    Execution (outside assumptions) dispatcher.reconcileStartup preflight world reconciled
      after result ∧
    (∀ event ∈ own, event.call = .load key ∨ event.call = .closeQueue) ∧
    trace = reconciled ++ own

theorem Safe.dispatchLocked_replays {scene : Scene} {trace trace' : Trace} {world world' : World}
    {ledger : Ledger} {policy : RepositoryPolicy} {result : Option (Result × Option Error)}
    (safe : Safe scene trace world) (free : world.lease = none)
    (stored : scene.start.store scene.key = some ledger)
    (execution : Execution (outside scene.assumptions)
      (scene.dispatcher.dispatchLocked scene.request policy) trace world trace' world' result) :
    ∃ reconciled own after outcome,
      Execution (outside scene.assumptions) scene.dispatcher.reconcileStartup trace world
        reconciled after outcome ∧
      (∀ event ∈ own, event.call = .load scene.key) ∧ trace' = reconciled ++ own := by
  unfold Dispatcher.dispatchLocked at execution
  rcases execution.bind_cases with ⟨_, inside⟩ | ⟨error, middle, between, reconciled, rest⟩
  · exact ⟨trace', [], world', none, inside, List.forall_mem_nil _, (List.append_nil _).symm⟩
  · have reopened := (safe.reconcileStartup_satisfies free).returns reconciled
    cases error with
    | some error =>
      exact ⟨middle, [], between, _, reconciled, List.forall_mem_nil _, by rw [List.append_nil, rest.of_done.1]⟩
    | none =>
      rcases rest.of_perform with ⟨same, _⟩ | ⟨answer, truly, rest⟩
      · exact ⟨middle, [], between, _, reconciled, List.forall_mem_nil _, by rw [List.append_nil, same]⟩
      · refine ⟨middle, [⟨.load scene.key, answer⟩], between, _, reconciled, ?_, ?_⟩
        · intro event member
          rw [List.mem_singleton.mp member]
        · rcases reopened.safe.frozen _ ledger stored with ⟨ledger', found, _⟩
          cases answer with
          | error error => exact rest.of_done.1
          | ok answer =>
            have same : answer = some ledger' := (truly answer rfl).trans found
            subst same
            exact rest.of_done.1

theorem Safe.queued_replays {scene : Scene} {preflight trace : Trace} {world' : World}
    {ledger : Ledger} {policy : RepositoryPolicy} {result : Option (Result × Option Error)}
    (safe : Safe scene preflight scene.start) (free : scene.start.lease = none)
    (stored : scene.start.store scene.key = some ledger)
    (allowed : ∀ event ∈ preflight, event.call.localPreflight = true)
    (execution : Execution (outside scene.assumptions)
      (scene.dispatcher.dispatchLocked scene.request policy >>= fun outcome =>
        JitDispatcher.perform .closeQueue >>= fun _ => pure outcome)
      preflight scene.start trace world' result) :
    OnlyReplays scene.assumptions scene.dispatcher scene.key scene.start trace := by
  rcases execution.bind_cases with ⟨_, inside⟩ | ⟨outcome, middle, between, locked, rest⟩
  · rcases safe.dispatchLocked_replays free stored inside with
      ⟨reconciled, own, after, outcome, startup, loads, grown⟩
    exact ⟨preflight, reconciled, own, after, outcome, allowed, startup,
      fun event member => .inl (loads event member), grown⟩
  · rcases safe.dispatchLocked_replays free stored locked with
      ⟨reconciled, own, after, outcome, startup, loads, rfl⟩
    rcases rest.of_perform with ⟨rfl, _⟩ | ⟨answer, _, rest⟩
    · exact ⟨preflight, reconciled, own, after, outcome, allowed, startup,
        fun event member => .inl (loads event member), rfl⟩
    · refine ⟨preflight, reconciled, own ++ [⟨.closeQueue, answer⟩], after, outcome, allowed,
        startup, ?_, rest.of_done.1.trans (List.append_assoc _ _ _)⟩
      intro event member
      rcases List.mem_append.mp member with earlier | last
      · exact .inl (loads event earlier)
      · exact .inr (congrArg Event.call (List.mem_singleton.mp last))

theorem Safe.dispatch_replays {scene : Scene} {trace : Trace} {world' : World}
    {ledger : Ledger} {result : Option (Result × Option Error)}
    (safe : Safe scene [] scene.start) (free : scene.start.lease = none)
    (stored : scene.start.store scene.key = some ledger)
    (execution : Execution (outside scene.assumptions)
      (scene.dispatcher.dispatch scene.request) [] scene.start trace world' result) :
    OnlyReplays scene.assumptions scene.dispatcher scene.key scene.start trace := by
  have refused : ∀ {preflight}, (∀ event ∈ preflight, event.call.localPreflight = true) →
    trace = preflight →
    OnlyReplays scene.assumptions scene.dispatcher scene.key scene.start trace :=
    fun allowed same => ⟨_, _, [], _, none, allowed, .died, List.forall_mem_nil _,
      same.trans (List.append_nil _).symm⟩
  have grown : ∀ {preflight : Trace} {call : Call} (answer : call.Answer),
    (∀ event ∈ preflight, event.call.localPreflight = true) → call.localPreflight = true →
    ∀ event ∈ preflight ++ [⟨call, answer⟩], event.call.localPreflight = true := by
    intro preflight call answer allowed another
    exact List.forall_mem_append.mpr ⟨allowed, List.forall_mem_singleton.mpr another⟩
  have empty := List.forall_mem_nil fun event : Event Call.Answer =>
    event.call.localPreflight = true
  unfold Dispatcher.dispatch at execution
  split at execution
  · exact refused empty execution.of_done.1
  split at execution
  · exact refused empty execution.of_done.1
  rcases execution.of_perform with ⟨same, _⟩ | ⟨answer, _, execution⟩
  · exact refused empty same
  have first := grown answer empty rfl
  cases answer with
  | some error => exact refused first execution.of_done.1
  | none =>
    rcases execution.of_perform with ⟨same, _⟩ | ⟨answer, _, execution⟩
    · exact refused first same
    have second := grown answer first rfl
    cases answer with
    | some error => exact refused second execution.of_done.1
    | none =>
      rcases execution.of_perform with ⟨same, _⟩ | ⟨answer, _, execution⟩
      · exact refused second same
      have third := grown answer second rfl
      cases answer with
      | some error => exact refused third execution.of_done.1
      | none =>
        refine Safe.queued_replays (safe.later ?_ (Calmer.refl _ _)) free stored third
          execution
        exact ⟨_, rfl, List.nil_sublist _⟩

/-- Workflows are dispatched and runners registered at most once for each
request, the identity of a stored ledger is final, and a later dispatch of its
request is a replay. -/
theorem dispatched_once_and_then_replayed {start world : World} {past : List Invocation}
    (fresh : start.Untouched) (history : History Assumptions.none start past world)
    (key : String) :
    world.dispatches key ≤ 1 ∧ world.generations key ≤ 1 ∧
    ∀ ledger, world.store key = some ledger →
      (∀ later world', History Assumptions.none world later world' →
        ∃ ledger', world'.store key = some ledger' ∧ ledger'.binding = ledger.binding) ∧
      ∀ dispatcher request trace world' result, requestIDOf request = key →
        Execution (outside Assumptions.none) (dispatcher.dispatch request) []
          (world.serving request) trace world' result →
        OnlyReplays Assumptions.none dispatcher key (world.serving request) trace ∧
        ∀ answer, result = some (answer, none) → ∃ ledger', world'.store key = some ledger' ∧
          ledger'.status = .completed ∧ ledger'.cleanupComplete = true := by
  have sound := history.sound fresh
  refine ⟨(sound.once key).1, (sound.once key).2, fun ledger stored => ⟨fun later world' rest =>
    history.frozen fresh rest stored, ?_⟩⟩
  rintro dispatcher request trace world' result rfl execution
  refine ⟨(sound.starts dispatcher request).dispatch_replays rfl stored execution, ?_⟩
  rintro answer rfl
  have returned := (sound.dispatch_satisfies dispatcher request).returns execution
  rcases returned.success rfl with ⟨ledger', found, completed, complete, _⟩
  exact ⟨ledger', found, completed, complete⟩

theorem sample_dispatched_once :
    (Sample.played 33).2.1.dispatches (requestIDOf Sample.request) ≤ 1 ∧
      (Sample.played 33).2.1.generations (requestIDOf Sample.request) ≤ 1 := by
  rcases dispatched_once_and_then_replayed Sample.start_untouched (Sample.history _ 33)
    (requestIDOf Sample.request) with ⟨dispatches, generations, _⟩
  exact ⟨dispatches, generations⟩

/-! ## Success -/

/-- A dispatch that returns no error is backed by the evidence of the
invocation that completed its ledger, and one that is no replay by its own. -/
theorem successful_dispatch_is_proven {start world world' : World} {past : List Invocation}
    (fresh : start.Untouched) (history : History Assumptions.none start past world)
    {dispatcher : Dispatcher} {request : Request} {trace : Trace} {result : Result}
    (execution : Execution (outside Assumptions.none) (dispatcher.dispatch request) []
      (world.serving request) trace world' (some (result, none))) :
    ∃ ledger, world'.store (requestIDOf request) = some ledger ∧
      ledger.status = .completed ∧ ledger.cleanupComplete = true ∧
      (∃ invocation ∈ past ++ [⟨dispatcher, request, trace⟩], invocation.Proves ledger) ∧
      (result.replay = false → result = resultOf ledger ∧
        Invocation.Proves ⟨dispatcher, request, trace⟩ ledger ∧ world'.marker = none ∧
        ∃ answer : ReleaseAnswer, answer.error = none ∧
          ⟨.release ledger.leaseID, answer⟩ ∈ trace) := by
  have returned := ((history.sound fresh).dispatch_satisfies dispatcher request).returns execution
  rcases returned.success rfl with ⟨ledger, stored, completed, complete, first⟩
  exact ⟨ledger, stored, completed, complete,
    returned.safe.sound.proven _ ledger stored completed, first⟩

theorem sample_dispatch_is_proven :
    ∃ ledger, (Sample.played 80).2.1.store (requestIDOf Sample.request) = some ledger ∧
      Invocation.Proves ⟨Sample.dispatcher, Sample.request, (Sample.played 80).1⟩ ledger := by
  have succeeded : (Sample.played 80).2.2.value?.any
    (fun outcome => outcome.2.isNone && !outcome.1.replay) = true := by
    decide +kernel
  rcases (Option.any_eq_true _ _).mp succeeded with ⟨⟨result, error⟩, returned, proper⟩
  rw [Bool.and_eq_true, Option.isNone_iff_eq_none, Bool.not_eq_true'] at proper
  rcases proper with ⟨rfl, unreplayed⟩
  have execution := (Sample.plays Assumptions.none 80).1
  rw [returned] at execution
  rcases successful_dispatch_is_proven Sample.start_untouched .start execution with
    ⟨ledger, stored, _, _, _, first⟩
  exact ⟨ledger, stored, (first unreplayed).2.1⟩

end Civm.JitDispatcher
