import Civm.Runner.Deeds

/-! # The parts of a tick keep to its deeds

Every part of a tick that does more than looking gives only the commands that
`Deed` lists, whatever the commands answer. -/

namespace Civm.Runner

/-- The marker file cannot be read or written. -/
def MarkerFails : (call : Call) → Answer call → Prop
  | .readMarker, .error _ => True
  | .readMarker, .ok (.garbled _) => True
  | .mkdirMarker, some _ => True
  | .writeMarker _, some _ => True
  | .renameMarker, outcome => outcome.error ≠ none
  | _, _ => False

/-- A run is not started again although the tick has started another one. -/
def RerunFails (world : World) : (call : Call) → Answer call → Prop
  | .rerun _ _ _, some _ => world.fresh ≠ []
  | _, _ => False

/-- The answers by which a tick loses a marker. -/
def Fails (world : World) (call : Call) (answer : Answer call) : Prop :=
  MarkerFails call answer ∨ RerunFails world call answer

variable {condition : World → (call : Call) → Answer call → Prop}
variable {opts : WatchdogOptions} {systemd : List Status} {world : World}

/-- No answer loses a state. -/
def Reliable (condition : World → (call : Call) → Answer call → Prop) : Prop :=
  ∀ world call answer, condition world call answer → ¬Fails world call answer

theorem deed_of_observes {trace : List (Event Answer)} {call : Call} (observes : Observes call) :
    Deed opts systemd trace world call := by
  cases call <;> trivial

/-! ## Scripts -/

theorem looks_satisfies {script : Script α} {trace : List (Event Answer)}
    (looks : Looks (fun _ _ => True) script) :
    script.Satisfies (host.limited condition) (deeds opts systemd)
      (fun _ _ world' => world' = world) trace world := by
  have framed : script.Satisfies (host.limited condition) (deeds opts systemd)
    (fun _ _ world' => True ∧ world' = world) trace world := by
    refine Program.Within.satisfies looks ?_ (fun _ _ _ => trivial) ?_ id rfl
    · rintro trace world' call answer rfl observes permitted
      exact ⟨trivial, after_observed observes⟩
    · exact fun _ _ _ _ observes => deed_of_observes observes
  exact framed.mono fun _ _ _ holds => holds.2

theorem loadRerunState_satisfies {trace : List (Event Answer)} :
    loadRerunState.Satisfies (host.limited condition) (deeds opts systemd)
      (fun read trace' world' => world' = world ∧ (Reliable condition → ∀ error, read ≠ .error error) ∧
        ∀ state, read = .ok state →
          state = world.current ∧ trace' = trace ++ [⟨.readMarker, .ok world.marker⟩])
      trace world := by
  refine ⟨trivial, trivial, False.elim, fun answer permitted => ?_⟩
  cases answer with
  | error error =>
    exact ⟨rfl, fun reliable => (reliable _ _ _ permitted.2 (.inl trivial)).elim, nofun⟩
  | ok file =>
    have same : file = world.marker := permitted.1
    subst same
    cases marker : world.marker with
    | garbled error =>
      simp only [marker] at permitted
      exact ⟨rfl, fun reliable => (reliable _ _ _ permitted.2 (.inl trivial)).elim, nofun⟩
    | absent | blank | state _ =>
      refine ⟨rfl, nofun, fun state equal => ?_⟩
      cases equal
      simp [Record.current, MarkerFile.current, marker]

theorem writeRerunState_satisfies {state : RerunState} {trace : List (Event Answer)}
    (execute : opts.execute) (edit : Edit opts systemd trace world.toRecord state) :
    (writeRerunState state).Satisfies (host.limited condition) (deeds opts systemd)
      (fun error trace' world' => world'.fresh = world.fresh ∧
        (Reliable condition → error = none) ∧
        (error = none → world'.toRecord = (world.saved state).toRecord ∧
          trace' = trace ++ [⟨.mkdirMarker, none⟩, ⟨.writeMarker state, none⟩,
            ⟨.renameMarker, ⟨none, true⟩⟩]))
      trace world := by
  refine ⟨trivial, execute, False.elim, fun created permitted => ?_⟩
  cases created with
  | some error => exact ⟨rfl, fun reliable => (reliable _ _ _ permitted.2 (.inl trivial)).elim, nofun⟩
  | none =>
  refine ⟨trivial, execute, False.elim, fun written permitted => ?_⟩
  cases written with
  | some error => exact ⟨rfl, fun reliable => (reliable _ _ _ permitted.2 (.inl trivial)).elim, nofun⟩
  | none =>
  have deed : Deed opts systemd (trace ++ [⟨.mkdirMarker, none⟩] ++ [⟨.writeMarker state, none⟩])
    { world with staged := some state } .renameMarker :=
    ⟨execute, trace, state, by simp, rfl, edit⟩
  refine ⟨trivial, deed, False.elim, fun renamed permitted => ?_⟩
  rcases renamed with ⟨_ | error, took⟩
  · obtain rfl : took = true := permitted.1 rfl
    exact ⟨rfl, fun _ => rfl, fun _ => ⟨rfl, by simp⟩⟩
  · refine ⟨trivial, execute, False.elim, fun removed _ => ?_⟩
    refine ⟨?_, fun reliable => (reliable _ _ _ permitted.2 (.inl nofun)).elim, nofun⟩
    cases took <;> rfl

theorem revalidateStall_satisfies {status : Status} {repos : List String} {now : Int}
    {evidence : QueueEvidence} {trace : List (Event Answer)} :
    (revalidateStall opts status repos now evidence).Satisfies (host.limited condition)
      (deeds opts systemd)
      (fun result _ world' => world'.fresh = world.fresh ∧ (result = none →
        world' = { world with log := world.log ++ [.queued evidence.signature] }))
      trace world := by
  unfold revalidateStall
  rw [Program.satisfies_bind]
  refine (looks_satisfies watchdogOnlineIdleOrgRunner_looks).mono ?_
  rintro ready trace world' rfl
  split
  case h_1 => exact ⟨rfl, nofun⟩
  case h_2 =>
  refine Program.satisfies_perform.mpr ⟨trivial, trivial, False.elim, fun answer _ => ?_⟩
  cases answer with
  | error error => exact ⟨rfl, nofun⟩
  | ok revalidated =>
    dsimp only
    rw [Program.satisfies_ite]
    refine ⟨fun _ => ⟨rfl, nofun⟩, fun same => ?_⟩
    rw [not_or, not_not] at same
    rw [Program.satisfies_bind]
    refine (looks_satisfies idleCheck_looks).mono ?_
    rintro result trace world' rfl
    split
    case h_1 => exact ⟨rfl, nofun⟩
    case h_2 =>
      refine ⟨rfl, fun _ => ?_⟩
      rw [← same.2]
      rfl

/-! ## Parts of a tick -/

/-- A part of a tick that keeps to the deeds and starts no run again. -/
def Orderly (condition : World → (call : Call) → Answer call → Prop) (opts : WatchdogOptions)
    (systemd : List Status) (part : Patrol α) (world : World) : Prop :=
  ∀ report trace, Ensures (host.limited condition) (deeds opts systemd) part
    (fun _ _ _ world' => world'.fresh = []) report trace world

namespace Orderly

theorem pure {value : α} (fresh : world.fresh = []) :
    Orderly condition opts systemd (Pure.pure value : Patrol α) world :=
  fun _ _ => fresh

theorem reported {update : WatchdogReport → WatchdogReport} (fresh : world.fresh = []) :
    Orderly condition opts systemd (modify update : Patrol PUnit) world :=
  fun _ _ => fresh

theorem ite {test : Prop} [Decidable test] {first second : Patrol α} :
    Orderly condition opts systemd (if test then first else second) world ↔
      (test → Orderly condition opts systemd first world) ∧
        (¬test → Orderly condition opts systemd second world) := by
  split
  case isTrue holds => simp [holds]
  case isFalse fails => simp [fails]

theorem bind {first : Patrol α} {next : α → Patrol β}
    (orderly : Orderly condition opts systemd first world)
    (continues : ∀ value world, world.fresh = [] →
      Orderly condition opts systemd (next value) world) :
    Orderly condition opts systemd (first >>= next) world := by
  intro report trace
  exact (orderly report trace).next fun value report trace world fresh =>
    continues value world fresh report trace

theorem report {update : WatchdogReport → WatchdogReport} {next : PUnit → Patrol α}
    (continues : Orderly condition opts systemd (next ⟨⟩) world) :
    Orderly condition opts systemd (modify update >>= next) world := by
  intro report trace
  exact .bind (.modify (continues (update report) trace))

theorem look {script : Script α} {next : α → Patrol β} (looks : Looks (fun _ _ => True) script)
    (continues : ∀ value, Orderly condition opts systemd (next value) world) :
    Orderly condition opts systemd (liftM script >>= next) world := by
  intro report trace
  refine .bind (.lift ((looks_satisfies looks).mono ?_))
  rintro value trace' world' rfl
  exact continues value report trace'

theorem now {next : Int → Patrol α}
    (continues : ∀ time, world.clock ≤ time → 0 < time →
      Orderly condition opts systemd (next time) { world with clock := time }) :
    Orderly condition opts systemd (liftM (perform .now) >>= next) world := by
  intro report trace
  refine .bind (.perform trivial trivial False.elim fun time permitted => ?_)
  exact continues time permitted.1.1 permitted.1.2 report _

theorem queue {repos : List String} {now maxAge : Int} {next : Except Error QueueEvidence → Patrol α}
    (failed : ∀ error, Orderly condition opts systemd (next (.error error)) world)
    (continues : ∀ evidence, Orderly condition opts systemd (next (.ok evidence))
      { world with log := world.log ++ [.queued evidence.signature] }) :
    Orderly condition opts systemd (liftM (perform (.queuedJobs repos now maxAge)) >>= next) world := by
  intro report trace
  refine .bind (.perform trivial trivial False.elim fun answer _ => ?_)
  cases answer with
  | error error => exact failed error report _
  | ok evidence => exact continues evidence report _

theorem load {next : Except Error RerunState → Patrol α}
    (failed : ∀ error, Orderly condition opts systemd (next (.error error)) world)
    (continues : Orderly condition opts systemd (next (.ok world.current)) world) :
    Orderly condition opts systemd (liftM loadRerunState >>= next) world := by
  intro report trace
  refine .bind (.lift (loadRerunState_satisfies.mono ?_))
  rintro (error | state) trace' world' ⟨rfl, _, loaded⟩
  · exact failed error report trace'
  · obtain rfl := (loaded state rfl).1
    exact continues report trace'

theorem write {state : RerunState} {next : Option Error → Patrol α} (fresh : world.fresh = [])
    (execute : opts.execute)
    (edit : ∀ trace, Edit opts systemd trace world.toRecord state)
    (failed : ∀ error world, world.fresh = [] →
      Orderly condition opts systemd (next (some error)) world)
    (continues : ∀ staged, Orderly condition opts systemd (next none)
      { world.saved state with staged := staged }) :
    Orderly condition opts systemd (liftM (writeRerunState state) >>= next) world := by
  intro report trace
  refine .bind (.lift ((writeRerunState_satisfies execute (edit trace)).mono ?_))
  rintro (_ | error) trace' ⟨record, staged⟩ ⟨still, _, saved⟩
  · obtain rfl := (saved rfl).1
    exact continues staged report trace'
  · exact failed error _ (still.trans fresh) report trace'

theorem restart {path : RestartPath} {unit : String} {next : Option Error → Patrol α}
    (calls : opts.restartFn = fun path unit => perform (.restartFn path unit))
    (execute : opts.execute)
    (restart : ∀ trace, Restart opts systemd trace world.toRecord path unit)
    (continues : ∀ result, Orderly condition opts systemd (next result)
      { world with log := world.log ++ [.restarted world.clock path unit result] }) :
    Orderly condition opts systemd (liftM (opts.restartFn path unit) >>= next) world := by
  intro report trace
  rw [calls]
  exact .bind (.perform trivial ⟨execute, restart trace⟩ False.elim fun result _ =>
    continues result report _)

end Orderly

/-- A part of a tick that gives no command and returns such a value. -/
def Computes (part : Patrol α) (post : α → Prop) : Prop :=
  ∀ report, ∃ value report', part.run report = .done (value, report') ∧ post value

namespace Computes

theorem pure {value : α} {post : α → Prop} (holds : post value) :
    Computes (Pure.pure value) post :=
  fun report => ⟨value, report, rfl, holds⟩

theorem report {update : WatchdogReport → WatchdogReport} {next : PUnit → Patrol α}
    {post : α → Prop} (continues : Computes (next ⟨⟩) post) :
    Computes (modify update >>= next) post :=
  fun report => continues (update report)

theorem mono {part : Patrol α} {post weaker : α → Prop} (computes : Computes part post)
    (implies : ∀ value, post value → weaker value) : Computes part weaker := by
  intro report
  rcases computes report with ⟨value, report', equal, holds⟩
  exact ⟨value, report', equal, implies value holds⟩

theorem bind {part : Patrol α} {next : α → Patrol β} {middle : α → Prop} {post : β → Prop}
    (computes : Computes part middle) (continues : ∀ value, middle value → Computes (next value) post) :
    Computes (part >>= next) post := by
  intro report
  rcases computes report with ⟨value, report', equal, holds⟩
  rw [StateT.run_bind, equal]
  exact continues value holds report'

theorem ite {test : Prop} [Decidable test] {first second : Patrol α} {post : α → Prop} :
    Computes (if test then first else second) post ↔
      (test → Computes first post) ∧ (¬test → Computes second post) := by
  split
  case isTrue holds => simp [holds]
  case isFalse fails => simp [fails]

theorem ensures {part : Patrol α} {next : α → Patrol β} {post : α → Prop}
    {outside : Outside Answer World} {contract : Contract Answer World}
    {final : β → WatchdogReport → List (Event Answer) → World → Prop}
    {report : WatchdogReport} {trace : List (Event Answer)} (computes : Computes part post)
    (continues : ∀ value report, post value →
      Ensures outside contract (next value) final report trace world) :
    Ensures outside contract (part >>= next) final report trace world := by
  rcases computes report with ⟨value, report', equal, holds⟩
  have continued := continues value report' holds
  unfold Ensures at continued ⊢
  rw [StateT.run_bind, equal]
  exact continued

theorem orderly {part : Patrol α} {next : α → Patrol β} {post : α → Prop}
    (computes : Computes part post)
    (continues : ∀ value, post value → Orderly condition opts systemd (next value) world) :
    Orderly condition opts systemd (part >>= next) world :=
  fun _ trace => computes.ensures fun value report holds => continues value holds report trace

end Computes

/-! ## Busy without a worker -/

variable (calls : opts.restartFn = fun path unit => perform (.restartFn path unit))

theorem clearPendingWatchdogOrgBusyDwell_orderly {units : List Status} (fresh : world.fresh = []) :
    Orderly condition opts systemd (clearPendingWatchdogOrgBusyDwell opts units) world := by
  rw [clearPendingWatchdogOrgBusyDwell, Orderly.ite]
  refine ⟨fun execute => .load (fun error => .report (.reported fresh)) ?_, fun _ => .pure fresh⟩
  dsimp only
  rw [Orderly.ite]
  refine ⟨fun _ => .pure fresh, fun _ => .write fresh execute (fun trace => ?_) ?_ ?_⟩
  · rw [← Function.comp_def, ← List.map_map]
    exact .cleared _
  · exact fun error world fresh => .report (.reported fresh)
  · exact fun staged => .pure fresh

theorem saveExecuted_orderly {state : RerunState} {next : Option Error → Patrol α}
    (fresh : world.fresh = []) (edit : ∀ trace, Edit opts systemd trace world.toRecord state)
    (failed : ∀ error world, world.fresh = [] →
      Orderly condition opts systemd (next (some error)) world)
    (continues : ∀ staged, opts.execute → Orderly condition opts systemd (next none)
      { world.saved state with staged := staged })
    (dry : ¬opts.execute → Orderly condition opts systemd (next none) world) :
    Orderly condition opts systemd (liftM (saveExecuted opts state) >>= next) world := by
  unfold saveExecuted
  split
  case isTrue execute => exact .write fresh execute edit failed fun staged => continues staged execute
  case isFalse idle => exact dry idle

section

variable {status : Status} {gh : GitHubRunner} {now : Int} {state : RerunState}
variable (member : status ∈ systemd) (serves : status.servesOrg)

include calls member serves

theorem restartOrgBusy_orderly {window : AutoRestartWindow} (fresh : world.fresh = [])
    (current : opts.execute → state = world.current) :
    Orderly condition opts systemd (restartOrgBusy opts status gh state now window) world := by
  unfold restartOrgBusy
  dsimp only
  rw [Orderly.ite, Orderly.ite]
  refine ⟨fun _ => .reported fresh, fun _ => ⟨fun _ => .reported fresh, fun execute => ?_⟩⟩
  rw [not_not] at execute
  refine .look hasLocalRunnerWorker_looks fun worker => ?_
  rw [Orderly.ite]
  refine ⟨fun _ => .reported fresh, fun _ => .write fresh execute (fun trace => ?_) ?_ ?_⟩
  · rw [current execute]
    exact .busy _ _
  · exact fun error world fresh => .report (.reported fresh)
  intro staged
  refine .restart calls execute (fun trace => .orgBusy status member serves) fun result => ?_
  cases result with
  | none => exact .reported fresh
  | some error =>
    dsimp only
    rw [Orderly.ite]
    exact ⟨fun _ => .reported fresh, fun _ => .report (.reported fresh)⟩

theorem judgeOrgBusy_orderly (fresh : world.fresh = []) :
    Orderly condition opts systemd (judgeOrgBusy opts status gh) world := by
  refine .load (fun error => .report (.reported fresh)) (.now fun time _ _ => ?_)
  dsimp only
  rw [Orderly.ite]
  constructor
  · intro _
    refine saveExecuted_orderly fresh (fun trace => .busy _ _) ?_ ?_ ?_
    · exact fun error world fresh => .report (.reported fresh)
    · intro staged _
      dsimp only
      rw [Orderly.ite]
      exact ⟨fun _ => .reported fresh, fun _ => restartOrgBusy_orderly calls member serves fresh
        fun _ => rfl⟩
    · intro dry
      dsimp only
      rw [Orderly.ite]
      exact ⟨fun _ => .reported fresh, fun _ => restartOrgBusy_orderly calls member serves fresh
        fun execute => absurd execute dry⟩
  · exact fun _ => restartOrgBusy_orderly calls member serves fresh fun _ => rfl

end

include calls

theorem eachOrgBusy_orderly {units : List Status} (subset : units ⊆ systemd)
    (fresh : world.fresh = []) :
    Orderly condition opts systemd (eachOrgBusy opts units) world := by
  induction units generalizing world with
  | nil => exact .pure fresh
  | cons status rest induction =>
    rw [List.cons_subset] at subset
    rw [eachOrgBusy, Orderly.ite]
    refine ⟨fun _ => induction subset.2 fresh, fun serves => ?_⟩
    rw [Bool.not_eq_true, Bool.not_eq_false'] at serves
    refine .look (looks_perform trivial fun _ => looks_pure) fun answer => ?_
    cases answer with
    | error error => exact .report (induction subset.2 fresh)
    | ok runners =>
      dsimp only
      split
      case h_1 gh _ => exact judgeOrgBusy_orderly calls subset.1 serves fresh
      case h_2 =>
        exact .bind (clearPendingWatchdogOrgBusyDwell_orderly fresh)
          fun _ world fresh => induction subset.2 fresh

theorem recoverWatchdogOrgBusyWithoutWorker_orderly (fresh : world.fresh = []) :
    Orderly condition opts systemd (recoverWatchdogOrgBusyWithoutWorker opts systemd) world := by
  refine .look hasLocalRunnerWorker_looks fun worker => ?_
  rw [Orderly.ite]
  refine ⟨fun _ => clearPendingWatchdogOrgBusyDwell_orderly fresh, fun _ => ?_⟩
  refine .look (looks_perform trivial fun _ => looks_pure) fun _ => ?_
  refine .look hasLocalRunnerWorker_looks fun worker => ?_
  rw [Orderly.ite]
  exact ⟨fun _ => clearPendingWatchdogOrgBusyDwell_orderly fresh,
    fun _ => eachOrgBusy_orderly calls (List.Subset.refl _) fresh⟩

omit calls

/-! ## Idle with a queue -/

section

variable {status : Status} {gh : GitHubRunner} {evidence : QueueEvidence} {repos : List String}

theorem clearQueueStallIncident_orderly {existing : Bool} {reason : String}
    (fresh : world.fresh = []) :
    Orderly condition opts systemd
      (clearQueueStallIncident opts world.current status gh existing reason) world := by
  unfold clearQueueStallIncident
  dsimp only
  rw [Orderly.ite, Orderly.ite]
  refine ⟨fun _ => .pure fresh, fun _ => ⟨fun _ => .reported fresh, fun execute => ?_⟩⟩
  rw [not_not] at execute
  refine .write fresh execute (fun trace => .recovered _) ?_ fun staged => .reported fresh
  exact fun error world fresh => .report (.reported fresh)

theorem armStall_orderly (fresh : world.fresh = [])
    (unseen : (world.current.queueStalls status.unitName).filter
      (fun incident => incident.signature = evidence.signature) = none) :
    Orderly condition opts systemd
      (armStall opts status gh world.current world.clock evidence) world := by
  refine saveExecuted_orderly fresh (fun trace => .armed _ _ unseen) ?_ ?_ ?_
  · exact fun error world fresh => .report (.reported fresh)
  · exact fun staged _ => .reported fresh
  · exact fun _ => .reported fresh

variable (calls : opts.restartFn = fun path unit => perform (.restartFn path unit))
variable (member : status ∈ systemd) (serves : status.servesOrg)
variable {incident : QueueStallIncident}
variable (seen : world.current.queueStalls status.unitName = some incident)

include calls member serves seen

theorem restartStalled_orderly {earlier : List Entry} (fresh : world.fresh = [])
    (execute : opts.execute) (listed : world.log = earlier ++ [.queued incident.signature])
    (armed : incident.restartedAt = 0)
    (dwelt : opts.queueStallDwell ≤ world.clock - incident.firstSeen) (positive : 0 < world.clock) :
    Orderly condition opts systemd
      (restartStalled opts status gh world.current world.clock evidence incident) world := by
  unfold restartStalled
  dsimp only
  refine .write fresh execute (fun trace => .stalled _ _ seen armed dwelt positive)
    (fun error world fresh => .report (.reported fresh)) fun staged => ?_
  have marked : (world.saved (world.current.setIncident status.unitName (some { incident with
    restartedAt := world.clock }))).current.queueStalls status.unitName =
    some { incident with restartedAt := world.clock } := by
    simp [World.saved, Record.current, MarkerFile.current, RerunState.setIncident]
  refine .restart calls execute (fun trace => ?_) fun result => ?_
  · refine .queueStall status incident earlier world.clock world.current member serves ?_ seen
      armed dwelt (Int.le_refl _) (Int.ne_of_gt positive) marked
    simp [World.saved, Record.current, MarkerFile.current, listed]
  cases result with
  | none => exact .report (.reported fresh)
  | some error =>
    dsimp only
    rw [Orderly.ite]
    refine ⟨fun busy => ?_, fun _ => .report (.report (.reported fresh))⟩
    refine .write fresh execute (fun trace => ?_)
      (fun error world fresh => .report (.reported fresh)) fun staged => .reported fresh
    have rested : ({ incident with restartedAt := 0 } : QueueStallIncident) = incident := by
      rw [← armed]
    rw [rested]
    exact .resumed status.unitName incident world.log world.clock world.clock world.current error
      (by simp [World.saved, Record.current, MarkerFile.current]) busy seen armed marked

theorem observeStall_orderly (fresh : world.fresh = []) (positive : 0 < world.clock)
    (same : incident.signature = evidence.signature) :
    Orderly condition opts systemd
      (observeStall opts status gh repos world.current world.clock evidence incident) world := by
  unfold observeStall
  dsimp only
  rw [Orderly.ite, Orderly.ite, Orderly.ite]
  refine ⟨fun _ => .report (.report (.reported fresh)), fun armed => ⟨fun _ => .reported fresh,
    fun dwelt => ⟨fun _ => .reported fresh, fun execute => ?_⟩⟩⟩
  rw [not_not] at armed execute
  intro report trace
  refine .bind (.lift (revalidateStall_satisfies.mono ?_))
  rintro result trace world' ⟨still, listed⟩
  split
  case h_1 => exact still.trans fresh
  case h_2 =>
    obtain rfl := listed rfl
    rw [← same]
    have due : Orderly condition opts systemd
      (restartStalled opts status gh world.current world.clock evidence incident)
      { world with log := world.log ++ [.queued incident.signature] } :=
      restartStalled_orderly calls member serves seen fresh execute rfl armed
        (Int.not_lt.mp dwelt) positive
    exact due report trace

omit seen

theorem judgeStall_orderly (fresh : world.fresh = []) (positive : 0 < world.clock) :
    Orderly condition opts systemd
      (judgeStall opts status gh repos world.current world.clock evidence) world := by
  refine .look idleCheck_looks fun result => ?_
  split
  case h_1 => exact .reported fresh
  case h_2 =>
    refine .report ?_
    split
    case h_1 unseen => exact armStall_orderly fresh unseen
    case h_2 incident found =>
      rcases Option.filter_eq_some_iff.mp found with ⟨seen, same⟩
      exact observeStall_orderly calls member serves seen fresh positive (of_decide_eq_true same)

theorem recoverOrgRunner_orderly (fresh : world.fresh = []) :
    Orderly condition opts systemd (recoverOrgRunner opts status repos) world := by
  refine .look watchdogOrgRunner_looks fun found => ?_
  split
  case h_1 => exact .report (.reported fresh)
  case h_2 => exact .pure fresh
  case h_3 gh =>
    refine .load (fun error => .report (.reported fresh)) ?_
    dsimp only
    rw [Orderly.ite, Orderly.ite]
    refine ⟨fun _ => clearQueueStallIncident_orderly fresh, fun _ => ⟨fun _ => .pure fresh,
      fun _ => .now fun time _ positive => ?_⟩⟩
    refine .queue (fun error => .report (.reported fresh)) fun evidence => ?_
    have fresh : ({ world with clock := time, log := world.log ++ [.queued evidence.signature] } :
      World).fresh = [] := fresh
    dsimp only
    rw [Orderly.ite]
    exact ⟨fun _ => clearQueueStallIncident_orderly fresh,
      fun _ => judgeStall_orderly calls member serves fresh positive⟩

end

include calls

theorem recoverWatchdogOrgIdleWithQueue_orderly {repos : List String} (fresh : world.fresh = []) :
    Orderly condition opts systemd (recoverWatchdogOrgIdleWithQueue opts systemd repos) world := by
  unfold recoverWatchdogOrgIdleWithQueue
  split
  case h_1 => exact .pure fresh
  case h_2 status only =>
    have chosen : status ∈ systemd.filter Status.servesOrg := by simp [only]
    rcases List.mem_filter.mp chosen with ⟨member, serves⟩
    rw [Orderly.ite]
    exact ⟨fun _ => .pure fresh, fun _ => recoverOrgRunner_orderly calls member serves fresh⟩
  case h_3 => exact .reported fresh

omit calls

/-! ## Units that are down -/

theorem dropRedundant_computes {collisions : List Collision} {candidates : Table String} :
    Computes (dropRedundant collisions candidates) fun remaining =>
      ∀ unit ∈ remaining, unit ∈ candidates ∧ unit ∉ collisions.map (·.repoUnit) := by
  induction collisions generalizing candidates with
  | nil => exact .pure fun unit member => ⟨member, by simp⟩
  | cons collision rest induction =>
    rw [dropRedundant, Computes.ite]
    constructor
    · intro _
      refine .report (induction.mono fun remaining kept unit member => ?_)
      rcases kept unit member with ⟨still, other⟩
      rw [AList.mem_erase] at still
      simp [still, other]
    · intro absent
      refine induction.mono fun remaining kept unit member => ?_
      rcases kept unit member with ⟨still, other⟩
      have different : unit ≠ collision.repoUnit := fun equal => absent (equal ▸ still)
      simp [still, other, different]

include calls

theorem restartEach_orderly {entries : List (String × String)} (fresh : world.fresh = [])
    (allowed : ∀ entry ∈ entries, entry.1 ∉ (detectCollisions systemd).map (·.repoUnit)) :
    Orderly condition opts systemd (restartEach opts entries) world := by
  induction entries generalizing world with
  | nil => exact .pure fresh
  | cons entry rest induction =>
    rcases entry with ⟨unit, reason⟩
    rw [List.forall_mem_cons] at allowed
    rw [restartEach, Orderly.ite]
    refine ⟨fun _ => .report (induction fresh allowed.2), fun execute => ?_⟩
    rw [not_not] at execute
    refine .look hasLocalRunnerWorker_looks fun worker => ?_
    rw [Orderly.ite]
    refine ⟨fun _ => .report (induction fresh allowed.2), fun _ => ?_⟩
    refine .restart calls execute (fun trace => .candidate _ allowed.1) fun result => ?_
    cases result with
    | none => exact .report (induction fresh allowed.2)
    | some error =>
      dsimp only
      rw [Orderly.ite]
      exact ⟨fun _ => .report (induction fresh allowed.2), fun _ => .report (.pure fresh)⟩

theorem restartWatchdogRunners_orderly {ghByRepo : Table (List GitHubRunner)}
    (fresh : world.fresh = []) :
    Orderly condition opts systemd (restartWatchdogRunners opts systemd ghByRepo) world := by
  refine dropRedundant_computes.orderly fun remaining kept => restartEach_orderly calls fresh ?_
  intro entry member
  obtain ⟨unit, among, rfl⟩ := List.mem_map.mp member
  exact (kept unit (AList.mem_keys.mp (List.mem_mergeSort.mp among))).2

omit calls

/-! ## Broken runners -/

/-- The table holds the latest positive time of each key. -/
structure Peaks (pairs : List (String × Int)) (table : Table Int) : Prop where
  found : ∀ key time, table.lookup key = some time → (key, time) ∈ pairs ∧ 0 < time
  peak : ∀ key time, (key, time) ∈ pairs → time ≤ (table.lookup key).getD 0

namespace Peaks

variable {pairs : List (String × Int)} {table : Table Int}

theorem empty : Peaks [] ∅ := ⟨nofun, nofun⟩

theorem later (peaks : Peaks pairs table) (key : String) (time : Int) :
    Peaks (pairs ++ [(key, time)]) (table.later key time) := by
  have bound : 0 ≤ (table.lookup key).getD 0 := by
    cases held : table.lookup key with
    | none => exact Int.le_refl 0
    | some other => exact Int.le_of_lt (peaks.found key other held).2
  unfold Table.later
  split
  case isTrue higher =>
    refine ⟨fun other value held => ?_, fun other value member => ?_⟩
    · by_cases same : other = key
      · subst same
        rw [AList.lookup_insert, Option.some.injEq] at held
        subst held
        exact ⟨by simp, Int.lt_of_le_of_lt bound higher⟩
      · rw [AList.lookup_insert_ne same] at held
        rcases peaks.found other value held with ⟨among, positive⟩
        exact ⟨by simp [among], positive⟩
    · by_cases same : other = key
      · subst same
        rw [AList.lookup_insert, Option.getD_some]
        rcases List.mem_append.mp member with among | last
        · exact Int.le_of_lt (Int.lt_of_le_of_lt (peaks.peak other value among) higher)
        · simp_all
      · rw [AList.lookup_insert_ne same]
        refine peaks.peak other value ?_
        simpa [same] using member
  case isFalse lower =>
    refine ⟨fun other value held => ?_, fun other value member => ?_⟩
    · rcases peaks.found other value held with ⟨among, positive⟩
      exact ⟨by simp [among], positive⟩
    · rcases List.mem_append.mp member with among | last
      · exact peaks.peak other value among
      · obtain ⟨rfl, rfl⟩ : other = key ∧ value = time := by simpa using last
        exact Int.not_lt.mp lower

theorem fold (peaks : Peaks pairs table) (more : List (String × Int)) :
    Peaks (pairs ++ more) (more.foldl (fun table pair => table.later pair.1 pair.2) table) := by
  induction more generalizing pairs table with
  | nil => simpa using peaks
  | cons pair rest induction => simpa using induction (peaks.later pair.1 pair.2)

end Peaks

/-- The units of the work roots, with the times of their sentinels. -/
def owned (systemd : List Status) (entries : List (Σ _ : String, Int)) : List (String × Int) :=
  entries.filterMap fun entry => (unitForWorkRoot entry.1 systemd).map fun unit => (unit, entry.2)

theorem mapSentinelsToUnits_computes {entries : List (Σ _ : String, Int)}
    {pairs : List (String × Int)} {table : Table Int} (peaks : Peaks pairs table) :
    Computes (mapSentinelsToUnits systemd entries table) (Peaks (pairs ++ owned systemd entries)) := by
  induction entries generalizing pairs table with
  | nil => exact .pure (by simpa [owned] using peaks)
  | cons entry rest induction =>
    rcases entry with ⟨workRoot, time⟩
    unfold mapSentinelsToUnits
    split
    case h_1 unowned =>
      have same : owned systemd (⟨workRoot, time⟩ :: rest) = owned systemd rest := by
        simp [owned, unowned]
      rw [same]
      exact .report (induction peaks)
    case h_2 unit owner =>
      have more : owned systemd (⟨workRoot, time⟩ :: rest) =
        (unit, time) :: owned systemd rest := by
        simp [owned, owner]
      rw [more, List.append_cons]
      exact induction (peaks.later unit time)

theorem brokenSentinels_peaks (now : Int) (lines : List (Option HookLogRecord)) :
    Peaks ((recent lines).filterMap (sentinelOf now)) (brokenSentinels now lines) := by
  have folded := Peaks.empty.fold ((recent lines).filterMap (sentinelOf now))
  rw [List.nil_append] at folded
  exact folded

theorem newest_of_peaks {now time : Int} {lines : List (Option HookLogRecord)} {unit : String}
    {table : Table Int} (peaks : Peaks (owned systemd (brokenSentinels now lines).entries) table)
    (held : table.lookup unit = some time) : Newest systemd now lines unit time := by
  have sentinels := brokenSentinels_peaks now lines
  have entry : ∀ workRoot other, (brokenSentinels now lines).lookup workRoot = some other →
    unitForWorkRoot workRoot systemd = some unit →
    (unit, other) ∈ owned systemd (brokenSentinels now lines).entries := by
    intro workRoot other found owner
    refine List.mem_filterMap.mpr ⟨⟨workRoot, other⟩, AList.mem_lookup_iff.mp found, ?_⟩
    simp [owner]
  rcases peaks.found unit time held with ⟨among, positive⟩
  constructor
  · obtain ⟨⟨workRoot, other⟩, member, owner⟩ := List.mem_filterMap.mp among
    obtain ⟨belongs, rfl⟩ : unitForWorkRoot workRoot systemd = some unit ∧ other = time := by
      simpa using owner
    have found := (sentinels.found workRoot other (AList.mem_lookup_iff.mpr member)).1
    rcases List.mem_filterMap.mp found with ⟨line, seen, sentinel⟩
    exact ⟨line, seen, workRoot, sentinel, belongs⟩
  · intro line seen workRoot other sentinel owner
    have below := sentinels.peak workRoot other (List.mem_filterMap.mpr ⟨line, seen, sentinel⟩)
    cases found : (brokenSentinels now lines).lookup workRoot with
    | none =>
      rw [found, Option.getD_none] at below
      exact Int.le_of_lt (Int.lt_of_le_of_lt below positive)
    | some top =>
      have under := peaks.peak unit top (entry workRoot top found owner)
      rw [found, Option.getD_some] at below
      rw [held, Option.getD_some] at under
      exact Int.le_trans below under

/-- What is chosen from units with the times of their sentinels. -/
structure Chosen (opts : WatchdogOptions) (now : Int) (times : List (String × Int))
    (state : RerunState) (units : List String) (state' : RerunState) : Prop where
  nodup : units.Nodup
  executed : units ≠ [] → opts.execute
  reserved : ∀ unit ∈ units, ∃ time, (unit, time) ∈ times ∧
    ∃ window, window = ((state.autoRestarts unit).getD .none).current now ∧
      window.lastActed < time ∧ window.count < opts.autoRestartPerHour ∧
      state'.autoRestarts unit =
        some { window with count := window.count + 1, lastActed := time }
  others : ∀ key, key ∉ units → state'.autoRestarts key = state.autoRestarts key
  reruns : state'.reruns = state.reruns
  queueStalls : state'.queueStalls = state.queueStalls

theorem Chosen.none {now : Int} {times : List (String × Int)} {state : RerunState} :
    Chosen opts now times state [] state where
  nodup := List.nodup_nil
  executed := nofun
  reserved := nofun
  others _ _ := rfl
  reruns := rfl
  queueStalls := rfl

theorem Chosen.cons {now : Int} {times : List (String × Int)} {state : RerunState}
    {units : List String} {state' : RerunState} (chosen : Chosen opts now times state units state')
    (entry : String × Int) : Chosen opts now (entry :: times) state units state' where
  nodup := chosen.nodup
  executed := chosen.executed
  reserved := fun unit member => by
    rcases chosen.reserved unit member with ⟨time, among, window, holds⟩
    exact ⟨time, List.mem_cons_of_mem _ among, window, holds⟩
  others := chosen.others
  reruns := chosen.reruns
  queueStalls := chosen.queueStalls

theorem selectUnitsToRestart_computes {now : Int} {times : List (String × Int)}
    {state : RerunState} (distinct : (times.map Prod.fst).Nodup) :
    Computes (selectUnitsToRestart opts now times state) fun result =>
      Chosen opts now times state result.1 result.2 := by
  induction times generalizing state with
  | nil => exact .pure .none
  | cons entry rest induction =>
    rcases entry with ⟨unit, time⟩
    rw [List.map_cons, List.nodup_cons] at distinct
    unfold selectUnitsToRestart
    dsimp only
    rw [Computes.ite, Computes.ite, Computes.ite]
    have skipped : Computes (selectUnitsToRestart opts now rest state) fun result =>
      Chosen opts now ((unit, time) :: rest) state result.1 result.2 :=
      (induction distinct.2).mono fun result chosen => chosen.cons _
    refine ⟨fun _ => skipped, fun unseen => ⟨fun _ => .report skipped, fun below =>
      ⟨fun _ => .report skipped, fun execute => ?_⟩⟩⟩
    refine .bind (induction distinct.2) fun result chosen => ?_
    rcases result with ⟨units, state'⟩
    have absent : unit ∉ units := by
      intro member
      rcases chosen.reserved unit member with ⟨other, among, _⟩
      exact distinct.1 (List.mem_map.mpr ⟨_, among, rfl⟩)
    refine .pure {
      nodup := List.nodup_cons.mpr ⟨absent, chosen.nodup⟩
      executed := fun _ => not_not.mp execute
      reserved := fun other member => ?_
      others := fun key outside => ?_
      reruns := chosen.reruns
      queueStalls := chosen.queueStalls }
    · by_cases same : other = unit
      · subst same
        refine ⟨time, List.mem_cons_self, _, rfl, Int.not_le.mp unseen, Int.not_le.mp below, ?_⟩
        rw [chosen.others _ absent]
        simp [RerunState.setWindow]
      · have still : (state.setWindow unit { ((state.autoRestarts unit).getD .none).current now with
          count := (((state.autoRestarts unit).getD .none).current now).count + 1
          lastActed := time }).autoRestarts other = state.autoRestarts other := by
          simp [RerunState.setWindow, same]
        rcases chosen.reserved other (List.mem_of_ne_of_mem same member) with
          ⟨time, among, window, holds⟩
        rw [still] at holds
        exact ⟨time, List.mem_cons_of_mem _ among, window, holds⟩
    · have different : key ≠ unit := fun equal => outside (equal ▸ List.mem_cons_self)
      rw [chosen.others key fun member => outside (List.mem_cons_of_mem _ member)]
      simp [RerunState.setWindow, different]

theorem sortedTimes_nodup (table : Table Int) : ((sortedTimes table).map Prod.fst).Nodup := by
  have keys : (sortedTimes table).map Prod.fst =
    table.keys.mergeSort fun first second => first ≤ second := by
    simp [sortedTimes, Function.comp_def]
  rw [keys]
  exact (List.mergeSort_perm _ _).nodup_iff.mpr table.keys_nodup

theorem lookup_of_mem_sortedTimes {table : Table Int} {unit : String} {time : Int}
    (member : (unit, time) ∈ sortedTimes table) : table.lookup unit = some time := by
  obtain ⟨key, among, equal⟩ := List.mem_map.mp member
  obtain ⟨rfl, value⟩ : key = unit ∧ (table.lookup key).getD 0 = time := by simpa using equal
  have held : (table.lookup key).isSome :=
    AList.lookup_isSome.mpr (AList.mem_keys.mp (List.mem_mergeSort.mp among))
  obtain ⟨found, equal⟩ := Option.isSome_iff_exists.mp held
  rw [equal] at value ⊢
  exact congrArg some value

theorem Chosen.reserves {now : Int} {lines : List (Option HookLogRecord)} {table : Table Int}
    {state state' : RerunState} {units : List String}
    (chosen : Chosen opts now (sortedTimes table) state units state')
    (peaks : Peaks (owned systemd (brokenSentinels now lines).entries) table) :
    Reserves opts systemd now lines state units state' where
  nodup := chosen.nodup
  reserved := fun unit member => by
    rcases chosen.reserved unit member with ⟨time, among, holds⟩
    exact ⟨time, newest_of_peaks peaks (lookup_of_mem_sortedTimes among), holds⟩
  others := chosen.others
  reruns := chosen.reruns
  queueStalls := chosen.queueStalls

section

variable {now : Int} {lines : List (Option HookLogRecord)} {units : List String}
variable {state : RerunState} {before : List (Event Answer)} {file : MarkerFile}
variable {report : WatchdogReport} {trace : List (Event Answer)}

include calls

theorem executeRestarts_ensures {remaining : List String} {done : List (Event Answer)}
    (execute : opts.execute) (reserves : Reserves opts systemd now lines file.current units state)
    (subset : remaining ⊆ units) (distinct : remaining.Nodup)
    (past : ∀ event ∈ done, ∃ other, other ∉ remaining ∧ event.call = .restartFn .sentinel other)
    (fresh : world.fresh = []) (saved : world.marker = .state state)
    (history : trace = before ++ findings now lines file ++
      [⟨.mkdirMarker, none⟩, ⟨.writeMarker state, none⟩, ⟨.renameMarker, ⟨none, true⟩⟩] ++ done) :
    Ensures (host.limited condition) (deeds opts systemd) (executeRestarts opts remaining)
      (fun _ _ _ world' => world'.fresh = []) report trace world := by
  induction remaining generalizing report trace world done with
  | nil => exact fresh
  | cons unit rest induction =>
    rw [List.cons_subset] at subset
    rw [List.nodup_cons] at distinct
    have restart : Restart opts systemd trace world.toRecord .sentinel unit := by
      refine .sentinel unit before done now lines file units state history ?_ reserves subset.1 saved
      intro event member
      rcases past event member with ⟨other, absent, called⟩
      exact ⟨other, fun equal => absent (equal ▸ List.mem_cons_self), called⟩
    rw [executeRestarts, calls]
    refine .bind (.perform trivial ⟨execute, restart⟩ False.elim fun result _ => ?_)
    have continues : ∀ report, Ensures (host.limited condition) (deeds opts systemd)
      (executeRestarts opts rest) (fun _ _ _ world' => world'.fresh = []) report
      (trace ++ [⟨.restartFn .sentinel unit, result⟩])
      { world with log := world.log ++ [.restarted world.clock .sentinel unit result] } := by
      intro report
      refine induction subset.2 distinct.2 ?_ fresh saved (by rw [history, List.append_assoc])
      intro event member
      rcases List.mem_append.mp member with among | last
      · rcases past event among with ⟨other, absent, called⟩
        exact ⟨other, fun inside => absent (List.mem_cons_of_mem _ inside), called⟩
      · rw [List.mem_singleton] at last
        subst last
        exact ⟨unit, distinct.1, rfl⟩
    cases result with
    | none => exact continues _
    | some error =>
      dsimp only
      rw [Ensures.satisfies_ite]
      exact ⟨fun _ => continues _, fun _ => continues _⟩

theorem restartBroken_ensures {table : Table Int}
    (peaks : Peaks (owned systemd (brokenSentinels now lines).entries) table)
    (fresh : world.fresh = [])
    (history : trace = before ++ [⟨.now, now⟩, ⟨.readHooksLog, .ok lines⟩]) :
    Ensures (host.limited condition) (deeds opts systemd) (restartBroken opts now table)
      (fun _ _ _ world' => world'.fresh = []) report trace world := by
  refine .bind (.lift (loadRerunState_satisfies.mono ?_))
  rintro (error | state) trace' world' ⟨rfl, _, loaded⟩
  · exact fresh
  rcases loaded state rfl with ⟨rfl, rfl⟩
  refine (selectUnitsToRestart_computes (sortedTimes_nodup table)).ensures ?_
  rintro ⟨units, state⟩ report chosen
  dsimp only
  rw [Ensures.satisfies_ite]
  refine ⟨fun _ => fresh, fun some => ?_⟩
  have reserves := chosen.reserves peaks
  have read : trace ++ [⟨.readMarker, .ok world'.marker⟩] =
    before ++ findings now lines world'.marker := by
    simp [history, findings]
  refine .bind (.lift ((writeRerunState_satisfies (chosen.executed some)
    (.reserved before now lines units state read reserves)).mono ?_))
  rintro (_ | error) trace' ⟨record, staged⟩ ⟨still, _, saved⟩
  · rcases saved rfl with ⟨rfl, rfl⟩
    have history : trace ++ [⟨.readMarker, .ok world'.marker⟩] ++ [⟨.mkdirMarker, none⟩,
      ⟨.writeMarker state, none⟩, ⟨.renameMarker, ⟨none, true⟩⟩] =
      before ++ findings now lines world'.marker ++ [⟨.mkdirMarker, none⟩,
        ⟨.writeMarker state, none⟩, ⟨.renameMarker, ⟨none, true⟩⟩] ++ [] := by
      rw [read, List.append_nil]
    exact executeRestarts_ensures calls (chosen.executed some) reserves (List.Subset.refl _)
      reserves.nodup (by simp) fresh rfl history
  · exact still.trans fresh

omit calls

theorem parseBrokenSentinels_satisfies :
    (parseBrokenSentinels now).Satisfies (host.limited condition) (deeds opts systemd)
      (fun table trace' world' => world'.fresh = world.fresh ∧ (table = ∅ ∨
        ∃ lines, table = brokenSentinels now lines ∧
          trace' = trace ++ [⟨.readHooksLog, .ok lines⟩]))
      trace world := by
  refine ⟨trivial, trivial, False.elim, fun answer _ => ?_⟩
  cases answer with
  | error error => exact ⟨rfl, .inl rfl⟩
  | ok lines => exact ⟨rfl, .inr ⟨lines, rfl, rfl⟩⟩

include calls

theorem detectBrokenRunner_orderly (fresh : world.fresh = []) :
    Orderly condition opts systemd (detectBrokenRunner opts systemd) world := by
  intro report trace
  refine .bind (.perform trivial trivial False.elim fun now _ => ?_)
  refine .bind (.lift (parseBrokenSentinels_satisfies.mono ?_))
  rintro table trace' world' ⟨still, parsed⟩
  have fresh : world'.fresh = [] := still.trans fresh
  rw [Ensures.satisfies_ite]
  refine ⟨fun _ => fresh, fun some => ?_⟩
  rcases parsed with rfl | ⟨lines, equal, rfl⟩
  · exact absurd AList.keys_empty some
  refine (mapSentinelsToUnits_computes .empty).ensures fun table report peaks => ?_
  rw [List.nil_append, equal] at peaks
  rw [Ensures.satisfies_ite]
  exact ⟨fun _ => fresh, fun _ =>
    restartBroken_ensures calls peaks fresh (List.append_assoc trace [_] [_])⟩

end

omit calls

/-! ## Reruns -/

/-- What is pending are the runs of this tick. -/
structure Tallies (opts : WatchdogOptions) (world : World) (pending : Pending)
    (markers : List RerunMarker) : Prop where
  state : pending.state = world.current.marked markers
  fresh : markers.map (fun marker => (marker.runID, marker.headSHA)) = world.fresh
  mutated : markers ≠ [] → pending.mutated
  executed : pending.mutated → opts.execute

/-- The runs that the tick has started again are marked in the marker file. -/
def Settled (world : World) : Prop :=
  ∃ (before : RerunState) (markers : List RerunMarker), world.current = before.marked markers ∧
    markers.map (fun marker => (marker.runID, marker.headSHA)) = world.fresh

theorem settled_of_fresh (fresh : world.fresh = []) : Settled world :=
  ⟨world.current, [], rfl, fresh.symm⟩

/-- The tick knows which runs it has started again, unless an answer made it give
up. -/
def Marking (condition : World → (call : Call) → Answer call → Prop) (opts : WatchdogOptions)
    (world : World) : Except Error Pending → Prop
  | .ok pending => ∃ markers, Tallies opts world pending markers
  | .error _ => Reliable condition → world.fresh = []

theorem marked_append {state : RerunState} {markers : List RerunMarker} {marker : RerunMarker} :
    state.marked (markers ++ [marker]) = (Pending.mark ⟨state.marked markers, false⟩ marker).state := by
  simp [RerunState.marked]

section

variable {repo : String} {run : Run} {pending : Pending}
variable {report : WatchdogReport} {trace : List (Event Answer)}

theorem skipRunBeforeLog_satisfies {state : RerunState} :
    (skipRunBeforeLog opts repo run state).Satisfies (host.limited condition) (deeds opts systemd)
      (fun reason _ world' => (∃ time, world' = { world with clock := time }) ∧
        (reason = none → ¬state.reran run.id run.headSHA))
      trace world := by
  rw [skipRunBeforeLog, Program.satisfies_ite, Program.satisfies_ite, Program.satisfies_ite]
  refine ⟨fun _ => ⟨⟨_, rfl⟩, nofun⟩, fun _ => ⟨fun _ => ⟨⟨_, rfl⟩, nofun⟩, fun _ =>
    ⟨fun _ => ⟨⟨_, rfl⟩, nofun⟩, fun _ => ?_⟩⟩⟩
  refine Program.satisfies_perform.mpr ⟨trivial, trivial, False.elim, fun now _ => ?_⟩
  rw [Program.satisfies_ite, Program.satisfies_ite, Program.satisfies_ite]
  exact ⟨fun _ => ⟨⟨now, rfl⟩, nofun⟩, fun _ => ⟨fun _ => ⟨⟨now, rfl⟩, nofun⟩, fun _ =>
    ⟨fun _ => ⟨⟨now, rfl⟩, nofun⟩, fun unseen => ⟨⟨now, rfl⟩, fun _ => unseen⟩⟩⟩⟩

theorem triggerRerun_ensures {pullRequest : PullRequest} {signature : String}
    {markers : List RerunMarker} (listed : Listed trace repo run)
    (tallies : Tallies opts world pending markers) (unseen : ¬pending.state.reran run.id run.headSHA) :
    Ensures (host.limited condition) (deeds opts systemd)
      (triggerRerun opts repo run pullRequest signature pending)
      (fun result _ _ world' => Marking condition opts world' result) report trace world := by
  unfold triggerRerun
  dsimp only
  rw [Ensures.satisfies_ite]
  refine ⟨fun execute => ?_, fun _ => ⟨markers, tallies⟩⟩
  rw [tallies.state] at unseen
  refine .bind (.perform trivial ⟨execute, ⟨run, listed, rfl, rfl⟩, markers, tallies.fresh, unseen⟩
    False.elim fun result permitted => ?_)
  cases result with
  | some error =>
    intro reliable
    by_contra started
    exact reliable _ _ _ permitted.2 (.inr started)
  | none =>
    refine .bind (.perform trivial trivial False.elim fun now _ => ?_)
    refine ⟨markers ++ [⟨repo, run.id, run.headSHA, now⟩], ?_, ?_, fun _ => rfl, fun _ => execute⟩
    · rw [marked_append]
      rw [Pending.mark, tallies.state]
      rfl
    · rw [List.map_append, tallies.fresh]
      rfl

theorem Listed.longer {trace' : List (Event Answer)} (listed : Listed trace repo run)
    (longer : trace <+: trace') : Listed trace' repo run := by
  rcases listed with ⟨limit, runs, member, among⟩
  exact ⟨limit, runs, longer.subset member, among⟩

theorem evaluateNetworkRerun_ensures {markers : List RerunMarker} (listed : Listed trace repo run)
    (tallies : Tallies opts world pending markers) :
    Ensures (host.limited condition) (deeds opts systemd) (evaluateNetworkRerun opts repo run pending)
      (fun result _ _ world' => Marking condition opts world' result) report trace world := by
  refine .bind (.lift ((Program.Satisfies.growing skipRunBeforeLog_satisfies).mono ?_))
  rintro reason trace' world' ⟨longer, ⟨time, rfl⟩, unseen⟩
  have listed := listed.longer longer
  have marking : Marking condition opts { world with clock := time } (.ok pending) :=
    ⟨markers, tallies.state, tallies.fresh, tallies.mutated, tallies.executed⟩
  cases reason with
  | some reason => exact marking
  | none =>
  refine .bind (.lift ((Program.Satisfies.growing (looks_satisfies openPullRequest_looks)).mono ?_))
  rintro found trace' world' ⟨longer, rfl⟩
  have listed := listed.longer longer
  split
  case h_1 => exact marking
  case h_2 => exact marking
  case h_3 pullRequest =>
    refine .bind (.perform trivial trivial False.elim fun answer _ => ?_)
    have listed := listed.longer (List.prefix_append _ [⟨.runLog repo run.id, answer⟩])
    cases answer with
    | error error => exact marking
    | ok log =>
      dsimp only
      rw [Ensures.satisfies_ite]
      exact ⟨fun _ => marking, fun _ => triggerRerun_ensures listed
        ⟨tallies.state, tallies.fresh, tallies.mutated, tallies.executed⟩ (unseen rfl)⟩

theorem rerunRuns_ensures {runs : List Run} {markers : List RerunMarker}
    (listed : ∀ run ∈ runs, Listed trace repo run) (tallies : Tallies opts world pending markers) :
    Ensures (host.limited condition) (deeds opts systemd) (rerunRuns opts repo runs pending)
      (fun result _ _ world' => Marking condition opts world' result) report trace world := by
  induction runs generalizing pending markers report trace world with
  | nil => exact ⟨markers, tallies⟩
  | cons run rest induction =>
    rw [List.forall_mem_cons] at listed
    refine .bind (.modify (.bind ((evaluateNetworkRerun_ensures listed.1 tallies).growing.mono ?_)))
    rintro (error | pending) report trace' world' ⟨longer, marking⟩
    · exact marking
    · rcases marking with ⟨markers, tallies⟩
      exact induction (fun run member => (listed.2 run member).longer longer) tallies

theorem rerunRepos_ensures {online repos : List String} {markers : List RerunMarker}
    (tallies : Tallies opts world pending markers) :
    Ensures (host.limited condition) (deeds opts systemd) (rerunRepos opts online repos pending)
      (fun result _ _ world' => Marking condition opts world' result) report trace world := by
  induction repos generalizing pending markers report trace world with
  | nil => exact ⟨markers, tallies⟩
  | cons repo rest induction =>
    rw [rerunRepos, Ensures.satisfies_ite]
    refine ⟨fun _ => .bind (.modify (induction tallies)), fun _ => ?_⟩
    refine .bind (.perform trivial trivial False.elim fun answer _ => ?_)
    cases answer with
    | error error =>
      exact .bind (.modify (.bind (.modify (induction ⟨tallies.state, tallies.fresh,
        tallies.mutated, tallies.executed⟩))))
    | ok runs =>
      have listed : ∀ run ∈ runs,
        Listed (trace ++ [⟨.listRuns repo opts.runLimit, .ok runs⟩]) repo run :=
        fun run member => ⟨opts.runLimit, runs, by simp, member⟩
      refine .next (rerunRuns_ensures listed ⟨tallies.state, tallies.fresh, tallies.mutated, tallies.executed⟩) ?_
      rintro (error | pending) report trace' world' marking
      · exact marking
      · rcases marking with ⟨markers, tallies⟩
        exact induction tallies

theorem rerunWatchdogNetworkFailures_ensures {repos online : List String} (fresh : world.fresh = []) :
    Ensures (host.limited condition) (deeds opts systemd)
      (rerunWatchdogNetworkFailures opts repos online)
      (fun _ _ _ world' => Reliable condition → Settled world') report trace world := by
  refine .bind (.lift (loadRerunState_satisfies.mono ?_))
  rintro (error | state) trace' world' ⟨rfl, _, loaded⟩
  · exact fun _ => settled_of_fresh fresh
  rcases loaded state rfl with ⟨rfl, rfl⟩
  have tallies : Tallies opts world' ⟨world'.current, false⟩ [] := ⟨rfl, fresh.symm, nofun, nofun⟩
  refine .next (rerunRepos_ensures tallies) ?_
  rintro (error | pending) report trace' world' marking
  · exact fun reliable => settled_of_fresh (marking reliable)
  rcases marking with ⟨markers, tallies⟩
  dsimp only
  rw [Ensures.satisfies_ite]
  constructor
  · intro mutated
    have edit : Edit opts systemd trace' world'.toRecord pending.state := by
      rw [tallies.state]
      exact .reran markers tallies.fresh
    refine .bind (.lift ((writeRerunState_satisfies (tallies.executed mutated) edit).mono ?_))
    rintro (_ | error) trace'' world'' ⟨still, reliably, saved⟩
    · intro _
      refine ⟨world'.current, markers, ?_, tallies.fresh.trans still.symm⟩
      rw [← tallies.state, (saved rfl).1]
      rfl
    · exact fun reliable => nomatch reliably reliable
  · intro unchanged _
    have none : markers = [] := by
      by_contra some
      exact unchanged (tallies.mutated some)
    subst none
    exact settled_of_fresh tallies.fresh.symm

end

end Civm.Runner
