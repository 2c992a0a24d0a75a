import Civm.PrQueue.Queue

/-! # The grace clock

When a generation whose clock is armed is seen active, the clock has to be taken back
in the saved state. As long as that is done, no generation is left within its grace. -/

namespace Civm.PrQueue

variable {Id : Type} [DecidableEq Id] {spelling : Spelling Id} {tick : Tick Id}
  {files : Files Id}

theorem of_boundaryAdvance {slot : Slot Id} (decided : decide? spelling tick files = some slot)
    (advances : slot.action = .boundaryAdvance) :
    ∃ id since, readPublishedContext spelling files = some id ∧ files.queue.currentPr = some id ∧
      files.queue.currentIdleSinceUtc = some since ∧ id ∉ tick.runs.map Prod.fst ∧
      doneGrace ≤ tick.nowUtc - since := by
  rcases slot_of_decide decided with ⟨_, rfl⟩
  rcases published : readPublishedContext spelling files with _ | id
  · rw [slotOf_of_none published] at advances
    split at advances <;> cases advances
  · rcases slotOf_cases published with holds | ⟨idle, arms | ⟨since, same, clock, holds | passed⟩⟩
    · rw [holds] at advances
      cases advances
    · rw [arms] at advances
      cases advances
    · rw [holds] at advances
      cases advances
    · exact ⟨id, since, rfl, same, clock, idle, passed.1⟩

theorem of_hold {id : Id} {since : Int}
    (isCurrent : (slotOf spelling tick files).currentPr = some id)
    (armed : (slotOf spelling tick files).idleSinceUtc = some since) :
    id ∉ tick.runs.map Prod.fst ∧ (since = tick.nowUtc ∨
      files.queue.currentPr = some id ∧ files.queue.currentIdleSinceUtc = some since) := by
  rcases published : readPublishedContext spelling files with _ | current
  · rw [slotOf_of_none published] at armed
    split at armed <;> cases armed
  · rcases slotOf_cases published with
      holds | ⟨idle, arms | ⟨old, same, clock, holds | ⟨_, advances⟩⟩⟩
    · rw [holds] at armed
      cases armed
    · rw [arms] at isCurrent armed
      cases isCurrent
      cases armed
      exact ⟨idle, Or.inl rfl⟩
    · rw [holds] at isCurrent armed
      cases isCurrent
      cases armed
      exact ⟨idle, Or.inr ⟨same, clock⟩⟩
    · rw [advances] at armed
      cases armed

theorem of_deferral {id : Id} {since : Int}
    (published : readPublishedContext spelling files = some id)
    (admits : (slotOf spelling tick files).admits = true)
    (armed : (reconcile spelling files).currentIdleSinceUtc = some since) :
    id ∉ tick.runs.map Prod.fst ∧
      files.queue.currentPr = some id ∧ files.queue.currentIdleSinceUtc = some since := by
  rcases queue_of_reconcile armed with ⟨same, clock⟩
  rcases slotOf_cases published with holds | ⟨idle, _⟩
  · rw [holds] at admits
    cases admits
  · exact ⟨idle, by rw [same, published], clock⟩

def Tick.effective (tick : Tick Id) : Bool :=
  tick.verified && tick.stateReadable && tick.contextReadable && tick.saves

theorem unchanged_of_not_effective (lost : tick.effective = false) :
    (invokePrGenerationQueue spelling tick files).queue = files.queue := by
  rw [invokePrGenerationQueue]
  cases decided : decide? spelling tick files with
  | none => rfl
  | some slot =>
    rw [decide?, Option.ite_none_right_eq_some] at decided
    rw [Tick.effective, decided.1, Bool.true_and] at lost
    simp [lost]

theorem clock_after (effective : tick.effective = true) {id : Id} {since : Int}
    (isCurrent : (invokePrGenerationQueue spelling tick files).queue.currentPr = some id)
    (armed : (invokePrGenerationQueue spelling tick files).queue.currentIdleSinceUtc =
      some since) :
    id ∉ tick.runs.map Prod.fst ∧ (since = tick.nowUtc ∨
      files.queue.currentPr = some id ∧ files.queue.currentIdleSinceUtc = some since) := by
  rw [Tick.effective, Bool.and_eq_true] at effective
  have decided : decide? spelling tick files = some (slotOf spelling tick files) :=
    if_pos effective.1
  rw [invokePrGenerationQueue, decided] at isCurrent armed
  simp only [effective.2, if_true] at isCurrent armed
  split at armed
  case isTrue deferred =>
    rw [if_pos deferred] at isCurrent
    dsimp only at isCurrent armed
    rw [reconcile_currentPr] at isCurrent
    rw [Bool.and_eq_true] at deferred
    rcases of_deferral isCurrent deferred.1 armed with ⟨idle, saved⟩
    exact ⟨idle, Or.inr saved⟩
  case isFalse kept =>
    rw [if_neg kept] at isCurrent
    exact of_hold isCurrent armed

/-! ## Runs -/

/-- A tick that sees the generation of an armed clock active replaces the saved state. -/
def TakesBack (tick : Tick Id) (files : Files Id) : Prop :=
  ∀ id, files.queue.currentPr = some id → files.queue.currentIdleSinceUtc ≠ none →
    tick.Observes id → tick.effective = true

variable (spelling) in
def TakesBackThroughout (files : Files Id) : List (Tick Id) → Prop
  | [] => True
  | tick :: rest =>
    TakesBack tick files ∧ TakesBackThroughout (invokePrGenerationQueue spelling tick files) rest

/-- The saved clock is not older than the last time its generation was seen active. -/
def Clocked (past : List (Tick Id)) (files : Files Id) : Prop :=
  ∀ id since, files.queue.currentPr = some id → files.queue.currentIdleSinceUtc = some since →
    ∀ earlier ∈ past, earlier.Observes id → earlier.nowUtc ≤ since

theorem Clocked.step {past : List (Tick Id)} (clocked : Clocked past files)
    (takesBack : TakesBack tick files) (ordered : ∀ earlier ∈ past, earlier.nowUtc ≤ tick.nowUtc) :
    Clocked (past ++ [tick]) (invokePrGenerationQueue spelling tick files) := by
  intro id since isCurrent armed earlier member observed
  rw [List.mem_append, List.mem_singleton] at member
  cases effective : tick.effective with
  | false =>
    rw [unchanged_of_not_effective effective] at isCurrent armed
    rcases member with inPast | rfl
    · exact clocked id since isCurrent armed earlier inPast observed
    · have saved := takesBack id isCurrent (by simp [armed]) observed
      rw [effective] at saved
      cases saved
  | true =>
    rcases clock_after effective isCurrent armed with ⟨idle, now | ⟨same, clock⟩⟩
    · rcases member with inPast | rfl
      · exact now ▸ ordered earlier inPast
      · exact absurd observed.2 idle
    · rcases member with inPast | rfl
      · exact clocked id since same clock earlier inPast observed
      · exact absurd observed.2 idle

theorem Clocked.run {past ticks : List (Tick Id)} (clocked : Clocked past files)
    (takesBack : TakesBackThroughout spelling files ticks)
    (ordered : (past ++ ticks).Pairwise fun earlier later => earlier.nowUtc ≤ later.nowUtc) :
    Clocked (past ++ ticks) (run spelling files ticks) := by
  induction ticks generalizing past files with
  | nil => simpa [PrQueue.run] using clocked
  | cons tick rest induction =>
    have before : ∀ earlier ∈ past, earlier.nowUtc ≤ tick.nowUtc := by
      intro earlier member
      exact (List.pairwise_append.mp ordered).2.2 earlier member tick (by simp)
    rw [List.append_cons] at ordered ⊢
    exact induction (clocked.step takesBack.1 before) takesBack.2 ordered

/-- In a run whose ticks take the clock back, a generation is left only if it was not seen
active within its grace. -/
theorem left_after_grace {files : Files Id} {past : List (Tick Id)} {tick : Tick Id}
    (ordered : (past ++ [tick]).Pairwise fun earlier later => earlier.nowUtc ≤ later.nowUtc)
    (takesBack : TakesBackThroughout spelling files past) {slot : Slot Id} {id : Id}
    (decided : decide? spelling tick (run spelling files past) = some slot)
    (advances : slot.action = .boundaryAdvance)
    (published : readPublishedContext spelling (run spelling files past) = some id) :
    ∀ earlier ∈ past ++ [tick], earlier.Observes id →
      doneGrace ≤ tick.nowUtc - earlier.nowUtc := by
  intro earlier member observed
  rcases of_boundaryAdvance decided advances with
    ⟨current, since, isPublished, saved, clock, idle, passed⟩
  rw [published, Option.some.injEq] at isPublished
  subst isPublished
  rcases List.mem_append.mp member with inPast | last
  · have clocked : Clocked past (run spelling files past) := by
      have start : Clocked [] files := by simp [Clocked]
      exact start.run takesBack (List.pairwise_append.mp ordered).1
    have bounded := clocked id since saved clock earlier inPast observed
    omega
  · rw [List.mem_singleton] at last
    subst last
    exact absurd observed.2 idle

def plainSpelling : Spelling Nat := ⟨id, fun _ => true, fun first second => first ≤ second⟩

def tickAt (minute : Int) (active : List Nat) (saves : Bool) : Tick Nat :=
  ⟨minute * 600000000, true, active.map fun id => (id, 0), true, true, true, true, saves⟩

def emptyFiles : Files Nat := ⟨⟨[], none, none⟩, none⟩

theorem finished_generation_is_left :
    decide? plainSpelling (tickAt 11 [] true)
        (run plainSpelling emptyFiles [tickAt 0 [7] true, tickAt 1 [] true]) =
          some ⟨.boundaryAdvance, none, none⟩ ∧
      ∀ earlier ∈ [tickAt 0 [7] true, tickAt 1 [] true] ++ [tickAt 11 [] true],
        earlier.Observes 7 → doneGrace ≤ (tickAt 11 [] true).nowUtc - earlier.nowUtc := by
  have decided : decide? plainSpelling (tickAt 11 [] true)
    (run plainSpelling emptyFiles [tickAt 0 [7] true, tickAt 1 [] true]) =
      some ⟨.boundaryAdvance, none, none⟩ := by decide +kernel
  have takesBack : TakesBackThroughout plainSpelling emptyFiles
    [tickAt 0 [7] true, tickAt 1 [] true] :=
    ⟨fun _ _ _ _ => rfl, fun _ _ _ _ => rfl, trivial⟩
  exact ⟨decided, left_after_grace (by decide) takesBack decided rfl (by decide +kernel)⟩

/-- The clock that was armed in the first minute is still saved after the fifth, where the
generation was seen active and the write failed. -/
theorem generation_is_left_within_grace :
    let past := [tickAt 0 [7] true, tickAt 1 [] true, tickAt 5 [7] false]
    let tick := tickAt 11 [] true
    let files := run plainSpelling emptyFiles past
    readPublishedContext plainSpelling files = some 7 ∧
      (decide? plainSpelling tick files).any (·.action = .boundaryAdvance) = true ∧
      ∃ earlier ∈ past, earlier.Observes 7 ∧ tick.nowUtc - earlier.nowUtc < doneGrace := by
  decide +kernel

end Civm.PrQueue
