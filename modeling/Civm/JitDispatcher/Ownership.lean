import Civm.JitDispatcher.Edits

/-! # Working on the owned ledger

While the dispatcher works for a request, its in-memory ledger stands for the
stored one: no other ledger is incomplete and no other lease is marked. The
rules here say how edits, observations and saves keep that. -/

namespace Civm.JitDispatcher

/-- Everything but the store, the clock and the lessons learned is as before. -/
structure Kept (before after : World) : Prop where
  marker : after.marker = before.marker
  footprint : after.footprint = before.footprint
  ids : after.ids = before.ids
  current : after.current = before.current
  lease : after.lease = before.lease
  dispatches : after.dispatches = before.dispatches
  generations : after.generations = before.generations
  driver : after.driver = before.driver

namespace Kept

variable {before middle after : World}

theorem refl (world : World) : Kept world world :=
  ⟨rfl, rfl, rfl, rfl, rfl, rfl, rfl, rfl⟩

theorem trans (first : Kept before middle) (second : Kept middle after) :
    Kept before after :=
  ⟨second.marker.trans first.marker, second.footprint.trans first.footprint,
    second.ids.trans first.ids, second.current.trans first.current,
    second.lease.trans first.lease, second.dispatches.trans first.dispatches,
    second.generations.trans first.generations, second.driver.trans first.driver⟩

end Kept

namespace Safe

variable {scene : Scene} {trace : Trace} {world : World} {ledger : Ledger}

/-- Storing a faithful ledger that continues the stored one, while all others
are complete and the marker is its own. -/
theorem saved (safe : Safe scene trace world) (valid : ValidLedger ledger ledger.requestID)
    (faithful : Faithful scene.assumptions world ledger)
    (alone : ∀ key other, world.store key = some other → key ≠ ledger.requestID →
      other.cleanupComplete = true)
    (marked : ∀ marker, world.marker = some marker → marker.leaseID = ledger.leaseID)
    (continues : ∀ stored, world.store ledger.requestID = some stored →
      stored.binding = ledger.binding)
    (created : ∃ invocation ∈ scene.invocations trace, invocation.Creates ledger.binding)
    (proven : ledger.status = .completed →
      ∃ invocation ∈ scene.invocations trace, invocation.Proves ledger) :
    Safe scene trace (world.saved ledger) := by
  have sound := safe.sound
  have stored : ∀ {key other}, (world.saved ledger).store key = some other →
    (key = ledger.requestID ∧ other = ledger) ∨
    (key ≠ ledger.requestID ∧ world.store key = some other) := by
    intro key other found
    change Function.update world.store ledger.requestID (some ledger) key = some other at found
    by_cases same : key = ledger.requestID
    · rw [same, Function.update_self] at found
      exact .inl ⟨same, (Option.some.inj found).symm⟩
    · rw [Function.update_of_ne same] at found
      exact .inr ⟨same, found⟩
  have incomplete : ∀ {key other}, (world.saved ledger).store key = some other →
    other.cleanupComplete = false → key = ledger.requestID ∧ other = ledger := by
    intro key other found open_
    rcases stored found with same | ⟨different, found⟩
    · exact same
    · rw [alone key other found different] at open_
      cases open_
  refine ⟨⟨?_, ?_, ?_, sound.once, ?_, ?_, ?_, ?_, ?_⟩, safe.current, ?_⟩
  · intro key other found
    rcases stored found with ⟨rfl, rfl⟩ | ⟨_, found⟩
    · exact valid
    · exact sound.valid key other found
  · intro key other found
    rcases stored found with ⟨rfl, rfl⟩ | ⟨_, found⟩
    · exact faithful.same rfl rfl rfl
    · exact (sound.faithful key other found).same rfl rfl rfl
  · intro key absent
    change Function.update world.store ledger.requestID (some ledger) key = none at absent
    by_cases same : key = ledger.requestID
    · rw [same, Function.update_self] at absent
      cases absent
    · rw [Function.update_of_ne same] at absent
      exact sound.untouched key absent
  · intro key key' other other' found found' open_ open'
    exact (incomplete found open_).1.trans (incomplete found' open').1.symm
  · intro marker exists_
    exact ⟨ledger.requestID, ledger, Function.update_self .., (marked marker exists_).symm⟩
  · intro marker key other exists_ found open_
    rw [(incomplete found open_).2]
    exact (marked marker exists_).symm
  · intro key other found
    rcases stored found with ⟨rfl, rfl⟩ | ⟨_, found⟩
    · exact created
    · exact sound.created key other found
  · intro key other found completed
    rcases stored found with ⟨rfl, rfl⟩ | ⟨_, found⟩
    · exact proven completed
    · exact sound.proven key other found completed
  · intro key original found
    rcases safe.frozen key original found with ⟨stored, found', equal⟩
    by_cases same : key = ledger.requestID
    · subst same
      exact ⟨ledger, Function.update_self .., (continues stored found').symm.trans equal⟩
    · exact ⟨stored, (Function.update_of_ne same ..).trans found', equal⟩

end Safe

/-! ## Ownership -/

/-- What a ledger action of the invocation brings about. -/
abbrev Scene.Ensures (scene : Scene) (action : LedgerAction α)
    (post : α → Ledger → Trace → World → Prop) : Ledger → Trace → World → Prop :=
  Civm.Ensures (outside scene.assumptions) (contract scene) action post

structure Owns (scene : Scene) (ledger : Ledger) (trace : Trace) (world : World) : Prop where
  safe : Safe scene trace world
  durable : ∃ stored, world.store ledger.requestID = some stored ∧
    stored.binding = ledger.binding
  alone : ∀ key other, world.store key = some other → key ≠ ledger.requestID →
    other.cleanupComplete = true
  marked : ∀ marker, world.marker = some marker → marker.leaseID = ledger.leaseID
  faithful : Faithful scene.assumptions world ledger

namespace Owns

variable {scene : Scene} {trace trace' : Trace} {world world' : World} {ledger ledger' : Ledger}

theorem later (owns : Owns scene ledger trace world) (longer : Extends trace trace' [])
    (calmer : Calmer scene.assumptions world world') : Owns scene ledger trace' world' where
  safe := owns.safe.later longer calmer
  durable := by rw [calmer.store]; exact owns.durable
  alone := by rw [calmer.store]; exact owns.alone
  marked := by rw [calmer.marker]; exact owns.marked
  faithful := owns.faithful.later calmer

theorem edit (owns : Owns scene ledger trace world) (ledger' : Ledger)
    (binding : ledger'.binding = ledger.binding)
    (faithful : Faithful scene.assumptions world ledger') : Owns scene ledger' trace world where
  safe := owns.safe
  durable := by
    rcases owns.durable with ⟨stored, found, equal⟩
    have named : ledger'.requestID = ledger.requestID := congrArg Binding.requestID binding
    exact ⟨stored, named ▸ found, equal.trans binding.symm⟩
  alone := by
    have named : ledger'.requestID = ledger.requestID := congrArg Binding.requestID binding
    rw [named]
    exact owns.alone
  marked := by
    have leased : ledger'.leaseID = ledger.leaseID := congrArg Binding.leaseID binding
    rw [leased]
    exact owns.marked
  faithful := faithful

theorem created (owns : Owns scene ledger trace world) :
    ∃ invocation ∈ scene.invocations trace, invocation.Creates ledger.binding := by
  rcases owns.durable with ⟨stored, found, equal⟩
  rw [← equal]
  exact owns.safe.sound.created _ stored found

theorem saved (owns : Owns scene ledger trace world)
    (valid : ValidLedger ledger ledger.requestID)
    (proven : ledger.status = .completed →
      Invocation.Proves ⟨scene.dispatcher, scene.request, trace⟩ ledger) :
    Owns scene ledger trace (world.saved ledger) where
  safe := by
    refine owns.safe.saved valid owns.faithful owns.alone owns.marked ?_ owns.created ?_
    · intro stored found
      rcases owns.durable with ⟨stored', found', equal⟩
      rw [found] at found'
      rw [Option.some.inj found']
      exact equal
    · intro completed
      exact ⟨_, List.mem_append_right _ (List.mem_singleton_self _), proven completed⟩
  durable := ⟨ledger, Function.update_self .., rfl⟩
  alone := by
    intro key other found different
    change Function.update world.store ledger.requestID (some ledger) key = some other at found
    rw [Function.update_of_ne different] at found
    exact owns.alone key other found different
  marked := owns.marked
  faithful := owns.faithful.same rfl rfl rfl

end Owns

/-- What a save leaves behind, whether it succeeded or not. -/
structure Persisted (scene : Scene) (trace : Trace) (world : World) (ledger : Ledger)
    (error : Option Error) (trace' : Trace) (world' : World) : Prop where
  owns : Owns scene ledger trace' world'
  longer : Extends trace trace' []
  kept : Kept world world'
  synced : error = none → world'.store ledger.requestID = some ledger
  stale : scene.assumptions.staleSaved → ledger.status = .stale →
    world'.store ledger.requestID = some ledger

namespace Owns

variable {scene : Scene} {trace trace' : Trace} {world world' : World} {ledger ledger' : Ledger}

theorem save_satisfies {post : Option Error → Trace → World → Prop}
    (owns : Owns scene ledger trace world)
    (proven : ledger.status = .completed →
      Invocation.Proves ⟨scene.dispatcher, scene.request, trace⟩ ledger)
    (persisted : ∀ error trace' world',
      Persisted scene trace world ledger error trace' world' → post error trace' world') :
    (save ledger).Satisfies (outside scene.assumptions) (contract scene) post trace world := by
  refine ⟨owns.safe, ?_, fun wanted => wanted.elim, ?_⟩
  · intro orderly
    exact validateLedger_eq_none.mpr (owns.faithful.valid orderly)
  · intro answer permitted
    rcases permitted with ⟨refused, success, stale⟩
    have longer : Extends trace (trace ++ [⟨.save ledger, answer⟩]) [] := Extends.grow _ _
    have owns' := owns.later longer (Calmer.refl _ world)
    apply persisted
    by_cases stored : answer.stored = true
    · have valid : ValidLedger ledger ledger.requestID := by
        apply validateLedger_eq_none.mp
        cases checked : validateLedger ledger ledger.requestID with
        | none => rfl
        | some error =>
          rw [refused error checked] at stored
          cases stored
      have proven' : ledger.status = .completed → Invocation.Proves
        ⟨scene.dispatcher, scene.request, trace ++ [⟨.save ledger, answer⟩]⟩ ledger := by
        intro completed
        rcases proven completed with ⟨named, policy, allowlisted, collected⟩
        exact ⟨named, policy, allowlisted, collected.still longer⟩
      simp only [outside, World.after, if_pos stored]
      exact ⟨owns'.saved valid proven', longer, ⟨rfl, rfl, rfl, rfl, rfl, rfl, rfl, rfl⟩,
        fun _ => Function.update_self .., fun _ _ => Function.update_self ..⟩
    · simp only [outside, World.after, if_neg stored]
      exact ⟨owns', longer, Kept.refl _, fun none => absurd (success none) stored,
        fun assumed isStale => absurd (stale assumed isStale) stored⟩

/-! ## Steps of a ledger action -/

theorem last {program : Action α} {middle : α → Trace → World → Prop}
    {post : α → Ledger → Trace → World → Prop} (owns : Owns scene ledger trace world)
    (observes : Observes scene.assumptions program trace world middle)
    (rest : ∀ value trace' world', Extends trace trace' [] →
      Calmer scene.assumptions world world' → middle value trace' world' →
      Owns scene ledger trace' world' → post value ledger trace' world') :
    scene.Ensures (liftM program) post ledger
      trace world := by
  refine Ensures.lift ((observes (contract scene) owns.safe.steady).mono ?_)
  rintro value trace' world' ⟨longer, calmer, holds⟩
  exact rest value trace' world' longer calmer holds (owns.later longer calmer)

theorem observe {program : Action α} {next : α → LedgerAction β}
    {middle : α → Trace → World → Prop} {post : β → Ledger → Trace → World → Prop}
    (owns : Owns scene ledger trace world)
    (observes : Observes scene.assumptions program trace world middle)
    (rest : ∀ value trace' world', Extends trace trace' [] →
      Calmer scene.assumptions world world' → middle value trace' world' →
      Owns scene ledger trace' world' →
      scene.Ensures (next value) post ledger trace' world') :
    scene.Ensures (liftM program >>= next) post ledger
      trace world :=
  Ensures.bind (owns.last observes rest)

theorem perform {call : Call} {next : call.Answer → LedgerAction β}
    {post : β → Ledger → Trace → World → Prop} (owns : Owns scene ledger trace world)
    (calm : call.calm = true)
    (answered : ∀ answer, world.permits scene.assumptions call answer →
      Calmer scene.assumptions world (world.after call answer) →
      Owns scene ledger (trace ++ [⟨call, answer⟩]) (world.after call answer) →
      scene.Ensures (next answer) post ledger
        (trace ++ [⟨call, answer⟩]) (world.after call answer)) :
    scene.Ensures (liftM (JitDispatcher.perform call) >>= next) post ledger trace world := by
  have steady := owns.safe.steady
  refine Ensures.bind (Ensures.perform owns.safe
    (steady.allows _ _ _ (Extends.refl _) (Calmer.refl _ _) calm) (fun wanted => wanted.elim) ?_)
  intro answer permitted
  have calmer := World.calmer_after calm permitted
  exact answered answer permitted calmer (owns.later (Extends.grow _ _) calmer)

theorem affected (owns : Owns scene ledger trace world)
    (synced : world.store ledger.requestID = some ledger)
    (store : world'.store = world.store) (marker : world'.marker = world.marker)
    (ids : world'.ids = world.ids) (current : world'.current = world.current)
    (clock : world'.clock = world.clock)
    (elsewhere : ∀ key, key ≠ ledger.requestID → world'.footprint key = world.footprint key ∧
      world'.dispatches key = world.dispatches key ∧
      world'.generations key = world.generations key)
    (once : world'.dispatches ledger.requestID ≤ 1 ∧ world'.generations ledger.requestID ≤ 1)
    (faithful : Faithful scene.assumptions world' ledger) : Owns scene ledger trace world' := by
  have sound := owns.safe.sound
  refine ⟨⟨?_, current.trans owns.safe.current, ?_⟩, ?_, ?_, ?_, faithful⟩
  · constructor
    case valid => rw [store]; exact sound.valid
    case faithful =>
      rw [store]
      intro key other found
      by_cases same : key = ledger.requestID
      · subst same
        rw [synced] at found
        cases found
        exact faithful
      · have named : other.requestID = key := (sound.valid key other found).named
        have faithful := sound.faithful key other found
        subst named
        rcases elsewhere _ same with ⟨footprint, _⟩
        exact faithful.same footprint ids clock
    case untouched =>
      rw [store]
      intro key absent
      have different : key ≠ ledger.requestID := by
        rintro rfl
        rw [synced] at absent
        cases absent
      rcases elsewhere key different with ⟨footprint, dispatches, generations⟩
      rw [footprint, dispatches, generations]
      exact sound.untouched key absent
    case once =>
      intro key
      by_cases same : key = ledger.requestID
      · rw [same]
        exact once
      · rcases elsewhere key same with ⟨_, dispatches, generations⟩
        rw [dispatches, generations]
        exact sound.once key
    case single => rw [store]; exact sound.single
    case owned => rw [store, marker]; exact sound.owned
    case held => rw [store, marker]; exact sound.held
    case created => rw [store]; exact sound.created
    case proven => rw [store]; exact sound.proven
  · rw [store]; exact owns.safe.frozen
  · rw [store]; exact owns.durable
  · rw [store]; exact owns.alone
  · rw [marker]; exact owns.marked

theorem saveLedger_ensures {post : Option Error → Ledger → Trace → World → Prop}
    (owns : Owns scene ledger trace world)
    (proven : ledger.status = .completed →
      Invocation.Proves ⟨scene.dispatcher, scene.request, trace⟩ ledger)
    (persisted : ∀ error trace' world', Persisted scene trace world ledger error trace' world' →
      post error ledger trace' world') :
    scene.Ensures saveLedger post ledger trace world :=
  Ensures.bind (Ensures.get (Ensures.lift (owns.save_satisfies proven persisted)))

end Owns

theorem log_observes {assumptions : Assumptions} (message : String) (trace : Trace)
    (world : World) :
    Observes assumptions (log message) trace world fun _ _ world' =>
      world'.store = world.store ∧ Kept world world' := by
  unfold log
  refine Observes.perform rfl fun time _ _ => ?_
  refine Observes.perform rfl fun _ _ _ => Observes.pure ?_
  exact ⟨rfl, rfl, rfl, rfl, rfl, rfl, rfl, rfl, rfl⟩

namespace Owns

variable {scene : Scene} {trace trace' : Trace} {world world' : World} {ledger ledger' : Ledger}

theorem now {post : Nat → Ledger → Trace → World → Prop} (owns : Owns scene ledger trace world)
    (told : ∀ time trace' world', Owns scene ledger trace' world' → Extends trace trace' [] →
      Kept world world' → world'.store = world.store →
      (scene.assumptions.timely → ledger.updatedAt ≤ time ∧ time ≤ world'.clock) →
      post time ledger trace' world') :
    scene.Ensures (liftM (JitDispatcher.perform .now)) post
      ledger trace world := by
  refine Ensures.perform owns.safe trivial (fun wanted => wanted.elim) ?_
  intro time permitted
  have calmer : Calmer scene.assumptions world (world.after .now time) :=
    World.calmer_after rfl permitted
  refine told time _ _ (owns.later (Extends.grow _ _) calmer) (Extends.grow _ _)
    ⟨rfl, rfl, rfl, rfl, rfl, rfl, rfl, rfl⟩ rfl ?_
  intro timely
  exact ⟨Nat.le_trans (owns.faithful.timely timely) (permitted timely).1, Nat.le_refl _⟩

theorem transition_ensures {status : Status} {failureCode : String}
    {post : Option Error → Ledger → Trace → World → Prop} (owns : Owns scene ledger trace world)
    (proven : status = .completed → ∀ now trace', Extends trace trace' [] →
      Invocation.Proves ⟨scene.dispatcher, scene.request, trace'⟩
        (ledger.moved status failureCode now))
    (persisted : ∀ error now trace' world',
      Persisted scene trace world (ledger.moved status failureCode now) error trace' world' →
      post error (ledger.moved status failureCode now) trace' world') :
    scene.Ensures (transition status failureCode) post
      ledger trace world := by
  refine Ensures.bind (owns.now fun now trace₁ world₁ owns longer kept _ later => ?_)
  refine Ensures.bind (Ensures.modify ?_)
  have owns := owns.edit (ledger.moved status failureCode now) rfl (owns.faithful.moved later)
  refine Ensures.bind (owns.saveLedger_ensures
    (fun completed => proven completed now trace₁ longer) fun error trace₂ world₂ saved => ?_)
  cases error with
  | some error =>
    exact Ensures.pure (persisted _ now _ _
      ⟨saved.owns, longer.trans saved.longer, kept.trans saved.kept, nofun, saved.stale⟩)
  | none =>
    refine saved.owns.observe (log_observes _ _ _)
      fun _ trace₃ world₃ longer' _ ⟨sameStore, kept'⟩ owns => ?_
    refine Ensures.pure (persisted _ now _ _ ⟨owns, (longer.trans saved.longer).trans longer',
      (kept.trans saved.kept).trans kept', ?_, ?_⟩)
    · rw [sameStore]
      exact saved.synced
    · rw [sameStore]
      exact saved.stale

end Owns

end Civm.JitDispatcher
