import Civm.JitDispatcher.Admission

/-! # Startup reconciliation and whole invocations -/

namespace Civm.JitDispatcher

/-! ## Finding the incomplete ledger -/

namespace Dispatcher

theorem scanLedgers_eq {orphan : Option LeaseMarker} {ledgers : List Ledger} {matched : Bool}
    {incomplete : Option Ledger}
    (single : (incomplete.toList ++ ledgers.filter fun ledger => !ledger.cleanupComplete).length
      ≤ 1) :
    scanLedgers orphan ledgers matched incomplete =
      .ok (matched || ledgers.any fun ledger =>
          orphan.any fun marker => ledger.leaseID = marker.leaseID,
        (incomplete.toList ++ ledgers.filter fun ledger => !ledger.cleanupComplete).head?) := by
  induction ledgers generalizing matched incomplete with
  | nil => cases incomplete <;> simp [scanLedgers]
  | cons ledger rest induction =>
    unfold scanLedgers
    cases complete : ledger.cleanupComplete with
    | true =>
      rw [List.filter_cons_of_neg (by simp [complete])] at single ⊢
      rw [if_pos rfl, induction single, List.any_cons, Bool.or_assoc]
    | false =>
      rw [List.filter_cons_of_pos (by simp [complete])] at single ⊢
      rw [if_neg (by decide)]
      cases incomplete with
      | some other => simp at single
      | none => rw [induction single, List.any_cons, Bool.or_assoc]; rfl

theorem length_le_one {values : List α} (distinct : values.Nodup)
    (same : ∀ first ∈ values, ∀ second ∈ values, first = second) : values.length ≤ 1 := by
  match values with
  | [] => exact Nat.zero_le 1
  | [_] => exact Nat.le_refl 1
  | first :: second :: rest =>
    have equal := same first (List.mem_cons_self ..) second
      (List.mem_cons_of_mem _ (List.mem_cons_self ..))
    exact absurd (equal ▸ List.mem_cons_self ..) (List.nodup_cons.mp distinct).1

theorem head?_eq_some_iff_mem {values : List α} {value : α} (single : values.length ≤ 1) :
    values.head? = some value ↔ value ∈ values := by
  match values with
  | [] => simp
  | [_] => simp [eq_comm]

theorem findIncomplete_ok {assumptions : Assumptions} {invocations : List Invocation}
    {world : World} {ledgers : List Ledger} (sound : Sound assumptions invocations world)
    (distinct : ledgers.Nodup)
    (listed : ∀ ledger, ledger ∈ ledgers ↔ world.store ledger.requestID = some ledger) :
    ∃ incomplete, findIncomplete ledgers world.marker = .ok incomplete ∧
      ∀ ledger, incomplete = some ledger ↔
        world.store ledger.requestID = some ledger ∧ ledger.cleanupComplete = false := by
  have among : ∀ ledger, (ledger ∈ ledgers.filter fun ledger => !ledger.cleanupComplete) ↔
    world.store ledger.requestID = some ledger ∧ ledger.cleanupComplete = false := by
    intro ledger
    rw [List.mem_filter, listed, Bool.not_eq_true']
  have single : (ledgers.filter fun ledger => !ledger.cleanupComplete).length ≤ 1 := by
    refine length_le_one (distinct.filter _) fun first member second member' => ?_
    rcases (among first).mp member with ⟨stored, open_⟩
    rcases (among second).mp member' with ⟨stored', open'⟩
    rw [sound.single _ _ _ _ stored stored' open_ open', stored'] at stored
    exact (Option.some.inj stored).symm
  refine ⟨(ledgers.filter fun ledger => !ledger.cleanupComplete).head?, ?_,
    fun ledger => (head?_eq_some_iff_mem single).trans (among ledger)⟩
  unfold findIncomplete
  rw [scanLedgers_eq (by exact single)]
  dsimp only
  cases marker : world.marker with
  | none => simp
  | some found =>
    rcases sound.owned found marker with ⟨key, owner, stored, leased⟩
    have named := (sound.valid key owner stored).named
    have matched : (ledgers.any fun ledger => decide (ledger.leaseID = found.leaseID)) = true :=
      List.any_eq_true.mpr
        ⟨owner, (listed owner).mpr (named.symm ▸ stored), decide_eq_true leased⟩
    rw [if_neg (by simp [matched]), Option.toList_none, List.nil_append]
    cases incomplete : (ledgers.filter fun ledger => !ledger.cleanupComplete).head? with
    | none => rfl
    | some ledger =>
      rcases (among ledger).mp (List.mem_of_head? incomplete) with ⟨stored, open_⟩
      refine if_neg fun foreign => ?_
      exact of_decide_eq_true foreign (sound.held found _ ledger marker stored open_)

end Dispatcher

/-! ## Recovering it -/

structure Reconciled (scene : Scene) (ledger : Ledger) (world : World) (error : Option Error)
    (ledger' : Ledger) (trace' : Trace) (world' : World) : Prop where
  owns : Owns scene ledger' trace' world'
  binding : ledger'.binding = ledger.binding
  lease : world'.lease = world.lease
  success : error = none → ledger'.cleanupComplete = true ∧
    world'.store ledger'.requestID = some ledger'

/-- Startup reconciliation has returned. -/
structure Reopened (scene : Scene) (error : Option Error) (trace : Trace) (world : World) :
    Prop where
  safe : Safe scene trace world
  lease : world.lease = none
  idle : error = none → Idle scene trace world

namespace Owns

variable {scene : Scene} {trace : Trace} {world : World} {ledger : Ledger}

theorem of_stored (safe : Safe scene trace world)
    (stored : world.store ledger.requestID = some ledger)
    (alone : ∀ key other, world.store key = some other → key ≠ ledger.requestID →
      other.cleanupComplete = true)
    (marked : ∀ marker, world.marker = some marker → marker.leaseID = ledger.leaseID) :
    Owns scene ledger trace world :=
  ⟨safe, ⟨ledger, stored, rfl⟩, alone, marked, safe.sound.faithful _ ledger stored⟩

theorem of_incomplete (safe : Safe scene trace world)
    (stored : world.store ledger.requestID = some ledger)
    (incomplete : ledger.cleanupComplete = false) : Owns scene ledger trace world := by
  refine of_stored safe stored ?_ fun marker found =>
    (safe.sound.held marker _ ledger found stored incomplete).symm
  intro key other found different
  cases complete : other.cleanupComplete with
  | true => rfl
  | false => exact absurd (safe.sound.single _ _ _ _ found stored complete incomplete) different

theorem reconcileLedger_ensures (owns : Owns scene ledger trace world) :
    scene.Ensures scene.dispatcher.reconcileLedger
      (Reconciled scene ledger world) ledger trace world := by
  refine Ensures.bind (owns.transition_ensures nofun
    fun error now trace₁ world₁ saved => ?_)
  cases error with
  | some error => exact Ensures.pure ⟨saved.owns, rfl, saved.kept.lease, nofun⟩
  | none =>
    refine Ensures.next (saved.owns.cleanupLedger_ensures
      nofun) ?_
    rintro error ledger₂ trace₂ world₂ ⟨carried, cleaned⟩
    have lease := carried.lease.trans saved.kept.lease
    cases error with
    | some error => exact Ensures.pure ⟨carried.owns, carried.binding, lease, nofun⟩
    | none =>
      refine Ensures.bind (carried.owns.now
        fun now trace₃ world₃ owns longer kept _ later => ?_)
      refine Ensures.bind (Ensures.modify ?_)
      have owns := owns.edit (ledger₂.moved .ambiguous "reconciled_after_restart" now) rfl
        (owns.faithful.moved later)
      refine owns.saveLedger_ensures nofun
        fun error trace₄ world₄ saved => ?_
      exact ⟨saved.owns, carried.binding, saved.kept.lease.trans (kept.lease.trans lease),
        fun success => ⟨(cleaned rfl).1, saved.synced success⟩⟩

/-- A release that succeeds after the last incomplete ledger was completed
leaves nothing behind. -/
theorem released_idle {answer : ReleaseAnswer} (owns : Owns scene ledger trace world)
    (complete : ledger.cleanupComplete = true)
    (synced : world.store ledger.requestID = some ledger) (gone : answer.remains = false) :
    Idle scene trace (world.released answer) := by
  refine ⟨owns.released.safe, owns.complete complete synced, ?_, rfl⟩
  simp only [World.released, gone, Bool.false_eq_true, if_false]

theorem releaseOrphan_satisfies {marker : LeaseMarker} (owns : Owns scene ledger trace world)
    (complete : ledger.cleanupComplete = true)
    (synced : world.store ledger.requestID = some ledger)
    (leased : ledger.leaseID = marker.leaseID) :
    (Dispatcher.releaseOrphan marker).Satisfies (outside scene.assumptions) (contract scene)
      (Reopened scene) trace world := by
  refine ⟨owns.safe, fun _ => leased ▸ owns.settled complete synced, fun wanted => wanted.elim,
    fun answer permitted => ?_⟩
  have owns := owns.later (Extends.grow trace
    (⟨.releaseOrphan marker, answer⟩ : Event Call.Answer)) (Calmer.refl _ world)
  exact ⟨owns.released.safe, rfl, fun success =>
    owns.released_idle complete synced (permitted success)⟩

theorem reconcileIncomplete_satisfies (owns : Owns scene ledger trace world)
    (free : world.lease = none) :
    (scene.dispatcher.reconcileIncomplete ledger world.marker).Satisfies
      (outside scene.assumptions) (contract scene) (Reopened scene) trace world := by
  unfold Dispatcher.reconcileIncomplete
  cases marker : world.marker with
  | some found =>
    refine Ensures.run owns.reconcileLedger_ensures fun error ledger' trace' world' reconciled => ?_
    cases error with
    | some error => exact ⟨reconciled.owns.safe, reconciled.lease.trans free, nofun⟩
    | none =>
      rcases reconciled.success rfl with ⟨complete, synced⟩
      have leased : ledger'.leaseID = found.leaseID :=
        (congrArg Binding.leaseID reconciled.binding).trans (owns.marked found marker).symm
      exact reconciled.owns.releaseOrphan_satisfies complete synced leased
  | none =>
    refine Program.satisfies_perform.mpr ⟨owns.safe, trivial, fun wanted => wanted.elim,
      fun admission permitted => ?_⟩
    have owns := (owns.later (Extends.grow trace
      (⟨.acquire ledger.leaseID, admission⟩ : Event Call.Answer))
      (Calmer.refl _ world)).acquired permitted
    cases failed : admission.error with
    | some error =>
      refine ⟨owns.safe, ?_, nofun⟩
      simp only [outside, World.after, World.acquired, failed, Option.isNone_some, Bool.false_eq_true, if_false]
      exact free
    | none =>
      refine Ensures.run owns.reconcileLedger_ensures
        fun error ledger' trace' world' reconciled => ?_
      cases error with
      | some error =>
        refine ⟨reconciled.owns.safe, trivial, fun wanted => wanted.elim,
          fun answer _ => ?_⟩
        have owns := reconciled.owns.later (Extends.grow trace'
          (⟨.abandon ledger.leaseID, answer⟩ : Event Call.Answer)) (Calmer.refl _ world')
        exact ⟨(owns.remarked world'.marker none owns.marked).safe, rfl, nofun⟩
      | none =>
        rcases reconciled.success rfl with ⟨complete, synced⟩
        have leased : ledger'.leaseID = ledger.leaseID :=
          congrArg Binding.leaseID reconciled.binding
        refine ⟨reconciled.owns.safe, fun _ => leased ▸ reconciled.owns.settled complete
          synced, fun wanted => wanted.elim, fun answer permitted => ?_⟩
        have owns := reconciled.owns.later (Extends.grow trace'
          (⟨.release ledger.leaseID, answer⟩ : Event Call.Answer)) (Calmer.refl _ world')
        exact ⟨owns.released.safe, rfl, fun success =>
          owns.released_idle complete synced (permitted success)⟩

end Owns

theorem Idle.replayLedger_returned {scene : Scene} {trace : Trace} {world : World}
    {ledger : Ledger} (idle : Idle scene trace world)
    (stored : world.store scene.key = some ledger) :
    Returned scene (Dispatcher.replayLedger scene.request ledger) trace world := by
  refine ⟨idle.safe, idle.lease, ?_⟩
  unfold Dispatcher.replayLedger
  split
  · exact nofun
  · split
    · rename_i complete
      exact fun _ => ⟨ledger, stored, complete.1, complete.2, nofun⟩
    · exact nofun

namespace Safe

variable {scene : Scene} {trace : Trace} {world : World}

theorem reconcileFound_satisfies {ledgers : List Ledger} (safe : Safe scene trace world)
    (free : world.lease = none) (distinct : ledgers.Nodup)
    (listed : ∀ ledger, ledger ∈ ledgers ↔ world.store ledger.requestID = some ledger) :
    (scene.dispatcher.reconcileFound ledgers world.marker).Satisfies
      (outside scene.assumptions) (contract scene) (Reopened scene) trace world := by
  rcases Dispatcher.findIncomplete_ok safe.sound distinct listed with ⟨incomplete, found, isIt⟩
  unfold Dispatcher.reconcileFound
  rw [found]
  cases incomplete with
  | some ledger =>
    rcases (isIt ledger).mp rfl with ⟨stored, open_⟩
    exact (Owns.of_incomplete safe stored open_).reconcileIncomplete_satisfies free
  | none =>
    have complete : ∀ key ledger, world.store key = some ledger →
      ledger.cleanupComplete = true := by
      intro key ledger stored
      have named := (safe.sound.valid key ledger stored).named
      cases flag : ledger.cleanupComplete with
      | true => rfl
      | false => exact nomatch (isIt ledger).mpr ⟨named.symm ▸ stored, flag⟩
    cases marker : world.marker with
    | none => exact ⟨safe, free, fun _ => ⟨safe, complete, marker, free⟩⟩
    | some found =>
      rcases safe.sound.owned found marker with ⟨key, owner, stored, leased⟩
      have named := (safe.sound.valid key owner stored).named
      subst named
      refine (Owns.of_stored safe stored (fun key other found _ => complete key other found)
        ?_).releaseOrphan_satisfies (complete _ owner stored) stored leased
      intro marker' found'
      rw [Option.some.inj (found'.symm.trans marker)]
      exact leased.symm

theorem reconcileStartup_satisfies (safe : Safe scene trace world) (free : world.lease = none) :
    scene.dispatcher.reconcileStartup.Satisfies (outside scene.assumptions) (contract scene)
      (Reopened scene) trace world := by
  refine safe.perform rfl fun answer truly longer calmer => ?_
  have safe := safe.later longer calmer
  cases answer with
  | error error => exact ⟨safe, free, nofun⟩
  | ok ledgers =>
    rcases truly ledgers rfl with ⟨distinct, listed⟩
    refine safe.perform rfl fun answer truly longer calmer => ?_
    have safe := safe.later longer calmer
    cases answer with
    | error error => exact ⟨safe, free, nofun⟩
    | ok orphan =>
      have same := truly orphan rfl
      subst same
      exact safe.reconcileFound_satisfies free distinct listed

theorem dispatchLocked_satisfies {policy : RepositoryPolicy} (safe : Safe scene trace world)
    (free : world.lease = none)
    (allowlisted : scene.dispatcher.config.policy scene.request.repository = some policy)
    (accepted : validateRequest scene.request policy = none) :
    (scene.dispatcher.dispatchLocked scene.request policy).Satisfies (outside scene.assumptions)
      (contract scene) (Returned scene) trace world := by
  unfold Dispatcher.dispatchLocked
  rw [Program.satisfies_bind]
  refine (safe.reconcileStartup_satisfies free).mono ?_
  rintro error trace₁ world₁ ⟨safe, free, idle⟩
  cases error with
  | some error => exact ⟨safe, free, nofun⟩
  | none =>
    have idle := idle rfl
    refine safe.perform rfl fun answer truly longer calmer => ?_
    have idle := idle.later longer calmer
    cases answer with
    | error error => exact ⟨idle.safe, idle.lease, nofun⟩
    | ok found =>
      have stored := truly found rfl
      cases found with
      | none => exact idle.dispatchFresh_satisfies stored.symm allowlisted accepted
      | some ledger => exact idle.replayLedger_returned stored.symm

theorem dispatch_satisfies (safe : Safe scene trace world) (free : world.lease = none) :
    (scene.dispatcher.dispatch scene.request).Satisfies (outside scene.assumptions)
      (contract scene) (Returned scene) trace world := by
  unfold Dispatcher.dispatch
  cases allowlisted : scene.dispatcher.config.policy scene.request.repository with
  | none => exact ⟨safe, free, nofun⟩
  | some policy =>
    dsimp only
    cases accepted : validateRequest scene.request policy with
    | some error => exact ⟨safe, free, nofun⟩
    | none =>
      refine safe.perform rfl fun answer _ longer calmer => ?_
      have safe := safe.later longer calmer
      cases answer with
      | some error => exact ⟨safe, free, nofun⟩
      | none =>
        refine safe.perform rfl fun answer _ longer calmer => ?_
        have safe := safe.later longer calmer
        cases answer with
        | some error => exact ⟨safe, free, nofun⟩
        | none =>
          refine safe.perform rfl fun answer _ longer calmer => ?_
          have safe := safe.later longer calmer
          cases answer with
          | some error => exact ⟨safe, free, nofun⟩
          | none =>
            dsimp only
            rw [Program.satisfies_bind]
            refine (safe.dispatchLocked_satisfies free allowlisted accepted).mono ?_
            intro outcome trace' world' returned
            exact returned.safe.perform rfl fun _ _ longer calmer =>
              returned.later longer calmer

end Safe

end Civm.JitDispatcher
