import Mathlib.Data.List.Sort
import Mathlib.Data.List.TakeWhile
import Mathlib.Logic.Function.Iterate

/-! # Rounds over the front of a queue

Each round looks at the first items of a queue. It removes the items whose key is not
stuck, wherever they stand, and keeps no memory of the others. -/

namespace Civm.Rounds

variable {α κ : Type} (key : α → κ) (stuck : κ → Bool) (limit : Nat)

/-- The keys that a round removes. -/
def cleared (queue : List α) : List κ := ((queue.take limit).map key).filter fun key => !stuck key

variable {key stuck limit} {queue : List α} {target : κ} in
theorem mem_cleared : target ∈ cleared key stuck limit queue ↔
    (∃ item ∈ queue.take limit, key item = target) ∧ stuck target = false := by
  rw [cleared, List.mem_filter, List.mem_map, Bool.not_eq_true']

theorem cleared_cons (first : α) (rest : List α) :
    cleared key stuck (limit + 1) (first :: rest) =
      (if stuck (key first) then [] else [key first]) ++ cleared key stuck limit rest := by
  rw [cleared, List.take_succ_cons, List.map_cons, List.filter_cons, cleared]
  cases stuck (key first) <;> rfl

variable [DecidableEq κ]

def round (queue : List α) : List α :=
  queue.filter fun item => key item ∉ cleared key stuck limit queue

/-- How many stuck items come before a key. -/
def ahead (queue : List α) (target : κ) : Nat :=
  (queue.takeWhile fun item => key item ≠ target).countP fun item => stuck (key item)

variable {key stuck limit} {queue : List α} {item : α} {target : κ}

theorem ahead_cons (first : α) (rest : List α) (target : κ) :
    ahead key stuck (first :: rest) target =
      if key first = target then 0
      else (if stuck (key first) then 1 else 0) + ahead key stuck rest target := by
  by_cases here : key first = target
  · simp [ahead, here]
  · simp [ahead, here, List.countP_cons, Nat.add_comm]

theorem ahead_filter {keep : α → Bool} (keeps : ∀ item, stuck (key item) = true → keep item = true)
    (stays : ∀ item, key item = target → keep item = true) (queue : List α) :
    ahead key stuck (queue.filter keep) target = ahead key stuck queue target := by
  induction queue with
  | nil => rfl
  | cons first rest induction =>
    by_cases kept : keep first = true
    · rw [List.filter_cons_of_pos kept, ahead_cons, ahead_cons, induction]
    · have other : key first ≠ target := fun same => kept (stays first same)
      have free : ¬stuck (key first) = true := fun blocked => kept (keeps first blocked)
      rw [List.filter_cons_of_neg kept, ahead_cons, if_neg other, if_neg free, induction,
        Nat.zero_add]

theorem ahead_round (stays : target ∉ cleared key stuck limit queue) :
    ahead key stuck (round key stuck limit queue) target = ahead key stuck queue target := by
  apply ahead_filter
  · intro item blocked
    rw [decide_eq_true_eq, mem_cleared, blocked]
    simp
  · intro item same
    rw [decide_eq_true_eq, same]
    exact stays

theorem ahead_lt_of_mem_take {limit : Nat} (member : item ∈ queue.take limit) :
    ahead key stuck queue (key item) < limit := by
  induction queue generalizing limit with
  | nil => simp at member
  | cons first rest induction =>
    cases limit with
    | zero => simp at member
    | succ limit =>
      rw [ahead_cons]
      by_cases here : key first = key item
      · rw [if_pos here]
        exact Nat.succ_pos limit
      · rw [List.take_succ_cons, List.mem_cons] at member
        have later := induction (member.resolve_left fun same => here (same ▸ rfl))
        rw [if_neg here]
        split <;> omega

/-- What is cleared has had fewer stuck items before it than a round looks at. -/
theorem ahead_lt_of_mem_cleared (member : target ∈ cleared key stuck limit queue) :
    ahead key stuck queue target < limit := by
  rcases (mem_cleared.mp member).1 with ⟨item, among, rfl⟩
  exact ahead_lt_of_mem_take among

theorem le_ahead_of_stuck {limit : Nat} (blocked : ∀ item ∈ queue.take limit, stuck (key item) = true)
    (member : item ∈ queue) (free : stuck (key item) = false) :
    limit ≤ ahead key stuck queue (key item) := by
  induction queue generalizing limit with
  | nil => simp at member
  | cons first rest induction =>
    cases limit with
    | zero => exact Nat.zero_le _
    | succ limit =>
      rw [List.take_succ_cons, List.forall_mem_cons] at blocked
      have other : key first ≠ key item := by
        intro same
        rw [same, free] at blocked
        exact absurd blocked.1 (by decide)
      have later := induction blocked.2
        ((List.mem_cons.mp member).resolve_left fun same => other (same ▸ rfl))
      rw [ahead_cons, if_neg other, if_pos blocked.1]
      omega

/-- A round that clears nothing finds only stuck items, before any other key. -/
theorem le_ahead_of_cleared_nil (none : cleared key stuck limit queue = [])
    (member : item ∈ queue) (free : stuck (key item) = false) :
    limit ≤ ahead key stuck queue (key item) := by
  apply le_ahead_of_stuck _ member free
  intro other among
  cases blocked : stuck (key other) with
  | true => rfl
  | false =>
    have found := mem_cleared.mpr ⟨⟨other, among, rfl⟩, blocked⟩
    rw [none] at found
    exact absurd found List.not_mem_nil

theorem length_round_lt (member : target ∈ cleared key stuck limit queue) :
    (round key stuck limit queue).length < queue.length := by
  rcases (mem_cleared.mp member).1 with ⟨item, among, same⟩
  rw [round, List.length_filter_lt_length_iff_exists]
  exact ⟨item, List.mem_of_mem_take among, by simpa [same] using member⟩

theorem mem_of_mem_round (member : item ∈ round key stuck limit queue) : item ∈ queue :=
  (List.mem_filter.mp member).1

/-- What has too many stuck items before it stays. -/
theorem mem_iterate_of_le_ahead (rounds : Nat) (member : item ∈ queue)
    (behind : limit ≤ ahead key stuck queue (key item)) :
    item ∈ (round key stuck limit)^[rounds] queue := by
  induction rounds generalizing queue with
  | zero => exact member
  | succ rounds induction =>
    have stays : key item ∉ cleared key stuck limit queue := fun cleared =>
      absurd (ahead_lt_of_mem_cleared cleared) (Nat.not_lt.mpr behind)
    rw [Function.iterate_succ_apply]
    apply induction
    · exact List.mem_filter.mpr ⟨member, decide_eq_true stays⟩
    · rwa [ahead_round stays]

theorem exists_rounds (near : ∀ item ∈ queue, stuck (key item) = false →
      ahead key stuck queue (key item) < limit) :
    ∃ rounds, ∀ item ∈ (round key stuck limit)^[rounds] queue, stuck (key item) = true := by
  induction size : queue.length using Nat.strongRecOn generalizing queue with
  | ind _ induction =>
    cases first : cleared key stuck limit queue with
    | nil =>
      apply Exists.intro 0
      intro item member
      apply (Bool.not_eq_false _).mp
      intro free
      exact absurd (near item member free) (Nat.not_lt.mpr (le_ahead_of_cleared_nil first member free))
    | cons target _ =>
      have found : target ∈ cleared key stuck limit queue := first ▸ List.mem_cons_self
      rcases induction _ (size ▸ length_round_lt found) (fun item member free => by
        rw [ahead_round (of_decide_eq_true (List.mem_filter.mp member).2)]
        exact near item (mem_of_mem_round member) free) rfl with ⟨rounds, clear⟩
      exact ⟨rounds + 1, clear⟩

/-- Rounds come to an end with only stuck items just if no other item has had as many of
them before it as a round looks at. -/
theorem exists_rounds_iff (queue : List α) :
    (∃ rounds, ∀ item ∈ (round key stuck limit)^[rounds] queue, stuck (key item) = true) ↔
      ∀ item ∈ queue, stuck (key item) = false → ahead key stuck queue (key item) < limit := by
  constructor
  · intro clears item member free
    rcases clears with ⟨rounds, clear⟩
    apply Nat.lt_of_not_le
    intro behind
    have stays := clear item (mem_iterate_of_le_ahead rounds member behind)
    rw [free] at stays
    exact absurd stays (by decide)
  · exact exists_rounds

theorem mem_iterate_of_le {rounds more : Nat} (fewer : rounds ≤ more)
    (member : item ∈ (round key stuck limit)^[more] queue) :
    item ∈ (round key stuck limit)^[rounds] queue := by
  induction fewer with
  | refl => exact member
  | step _ induction =>
    rw [Function.iterate_succ_apply'] at member
    exact induction (mem_of_mem_round member)

end Civm.Rounds
