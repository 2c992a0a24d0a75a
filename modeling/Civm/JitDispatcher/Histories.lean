import Civm.JitDispatcher.Reconciliation

/-! # Histories of invocations

What holds in every world that invocations of `Dispatch` lead to from a new
state directory, whichever requests they serve and wherever they die. -/

namespace Civm.JitDispatcher

/-! ## The invariant of a history -/

section

variable {assumptions : Assumptions} {past : List Invocation} {world : World}

/-- The invocation that starts in a world, as a scene. -/
def World.scene (world : World) (assumptions : Assumptions) (past : List Invocation)
    (dispatcher : Dispatcher) (request : Request) : Scene where
  assumptions := assumptions
  past := past
  dispatcher := dispatcher
  request := request
  start := world.serving request

theorem Sound.starts (sound : Sound assumptions past world) (dispatcher : Dispatcher)
    (request : Request) :
    Safe (world.scene assumptions past dispatcher request) [] (world.serving request) where
  sound := { sound with
    faithful := fun key ledger found => (sound.faithful key ledger found).same rfl rfl rfl
    created := by
      intro key ledger found
      rcases sound.created key ledger found with ⟨invocation, member, creates⟩
      exact ⟨invocation, List.mem_append_left _ member, creates⟩
    proven := by
      intro key ledger found completed
      rcases sound.proven key ledger found completed with ⟨invocation, member, proves⟩
      exact ⟨invocation, List.mem_append_left _ member, proves⟩ }
  current := rfl
  frozen := fun _ ledger found => ⟨ledger, found, rfl⟩

theorem Sound.dispatch_satisfies (sound : Sound assumptions past world) (dispatcher : Dispatcher)
    (request : Request) :
    (dispatcher.dispatch request).Satisfies (outside assumptions)
      (contract (world.scene assumptions past dispatcher request))
      (Returned (world.scene assumptions past dispatcher request)) [] (world.serving request) :=
  (sound.starts dispatcher request).dispatch_satisfies rfl

end

namespace History

variable {assumptions : Assumptions} {start world world' : World} {past later : List Invocation}

theorem sound (history : History assumptions start past world) (fresh : start.Untouched) :
    Sound assumptions past world := by
  induction history with
  | start => exact Sound.untouched_world fresh
  | invoke _ execution induction =>
    exact (induction.dispatch_satisfies _ _).stops
      (fun _ _ _ returned => returned.safe) execution |>.sound

theorem trans (first : History assumptions start past world)
    (second : History assumptions world later world') :
    History assumptions start (past ++ later) world' := by
  induction second with
  | start => rw [List.append_nil]; exact first
  | invoke _ execution induction =>
    rw [← List.append_assoc]
    exact .invoke induction execution

theorem frozen (first : History assumptions start past world) (fresh : start.Untouched)
    (second : History assumptions world later world') {key : String} {ledger : Ledger}
    (stored : world.store key = some ledger) :
    ∃ ledger', world'.store key = some ledger' ∧ ledger'.binding = ledger.binding := by
  induction second with
  | start => exact ⟨ledger, stored, rfl⟩
  | invoke rest execution induction =>
    rcases induction with ⟨middle, found, same⟩
    have safe := (((first.trans rest).sound fresh).dispatch_satisfies _ _).stops
      (fun _ _ _ returned => returned.safe) execution
    rcases safe.frozen key middle found with ⟨ledger', found', same'⟩
    exact ⟨ledger', found', same'.trans same⟩

end History

end Civm.JitDispatcher
