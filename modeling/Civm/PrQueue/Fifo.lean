import Civm.PrQueue.Grace

/-! # First in, first out

The order of the queue is rebuilt on every tick. Two generations that stay active keep
their order, and the slot goes to the first context that is not the current one. -/

namespace Civm.PrQueue

variable {Id : Type} [DecidableEq Id] {spelling : Spelling Id} {tick : Tick Id}
  {files : Files Id} {first second : Id}

def Precedes (first second : Id) (ids : List Id) : Prop :=
  ids.idxOf first < ids.idxOf second ∧ second ∈ ids

instance (ids : List Id) : Decidable (Precedes first second ids) :=
  inferInstanceAs (Decidable (_ ∧ _))

theorem Precedes.mem {ids : List Id} (precedes : Precedes first second ids) : first ∈ ids :=
  List.idxOf_lt_length_iff.mp
    (Nat.lt_trans precedes.1 (List.idxOf_lt_length_iff.mpr precedes.2))

theorem precedes_cons {id : Id} {ids : List Id} :
    Precedes first second (id :: ids) ↔
      id ≠ second ∧ if id = first then second ∈ ids else Precedes first second ids := by
  by_cases isSecond : id = second
  · simp [Precedes, isSecond]
  · rw [Precedes, List.idxOf_cons_ne _ isSecond]
    by_cases isFirst : id = first
    · subst isFirst
      simp [Ne.symm isSecond, isSecond]
    · rw [List.idxOf_cons_ne _ isFirst, if_neg isFirst, Precedes]
      simp [Ne.symm isSecond, isSecond]

theorem Precedes.filter {ids : List Id} {keeps : Id → Bool} (precedes : Precedes first second ids)
    (keepsFirst : keeps first = true) (keepsSecond : keeps second = true) :
    Precedes first second (ids.filter keeps) := by
  induction ids with
  | nil => cases precedes.2
  | cons id ids induction =>
    rw [precedes_cons] at precedes
    by_cases isFirst : id = first
    · rw [if_pos isFirst] at precedes
      rw [List.filter_cons_of_pos (isFirst ▸ keepsFirst), precedes_cons, if_pos isFirst]
      exact ⟨precedes.1, List.mem_filter.mpr ⟨precedes.2, keepsSecond⟩⟩
    · rw [if_neg isFirst] at precedes
      by_cases kept : keeps id = true
      · rw [List.filter_cons_of_pos kept, precedes_cons, if_neg isFirst]
        exact ⟨precedes.1, induction precedes.2⟩
      · rw [List.filter_cons_of_neg kept]
        exact induction precedes.2

theorem Precedes.append {ids : List Id} (precedes : Precedes first second ids) (new : List Id) :
    Precedes first second (ids ++ new) := by
  rw [Precedes, List.idxOf_append_of_mem precedes.mem, List.idxOf_append_of_mem precedes.2]
  exact ⟨precedes.1, List.mem_append_left new precedes.2⟩

theorem Precedes.find_ne {ids : List Id} {wanted : Id → Bool}
    (precedes : Precedes first second ids) (found : ids.find? wanted = some second) :
    wanted first = false := by
  induction ids with
  | nil => cases found
  | cons id ids induction =>
    rw [precedes_cons] at precedes
    rw [List.find?_cons] at found
    split at found
    · cases found
      exact absurd rfl precedes.1
    case h_2 passed =>
      by_cases isFirst : id = first
      · exact isFirst ▸ passed
      · rw [if_neg isFirst] at precedes
        exact induction precedes.2 found

/-! ## One tick -/

theorem Precedes.ordered {contexts : List (Entry Id)}
    (precedes : Precedes first second (contexts.map Entry.id))
    (firstActive : first ∈ tick.runs.map Prod.fst)
    (secondActive : second ∈ tick.runs.map Prod.fst) :
    Precedes first second ((orderedContexts spelling tick contexts).map Entry.id) := by
  rcases orderedContexts_ids spelling tick contexts with ⟨new, ids, _⟩
  rw [ids]
  exact (precedes.filter (by simpa using firstActive) (by simpa using secondActive)).append new

theorem contexts_of_decide {slot : Slot Id} (decided : decide? spelling tick files = some slot)
    (saves : tick.saves = true) :
    (invokePrGenerationQueue spelling tick files).queue.contexts =
      orderedContexts spelling tick files.queue.contexts := by
  rw [invokePrGenerationQueue, decided]
  simp only [saves, if_true, reconcile_contexts]
  split <;> rfl

theorem of_publication {target : Option Id}
    (published : publication spelling tick files = some target) :
    tick.prepares = true ∧ ∃ slot, decide? spelling tick files = some slot ∧
      slot.admits = true ∧ target = nextContext spelling tick files := by
  rw [publication, Option.bind_eq_some_iff] at published
  rcases published with ⟨slot, decided, published⟩
  rw [Option.ite_none_right_eq_some, Option.some.injEq, Bool.and_eq_true, Bool.and_eq_true]
    at published
  rcases published with ⟨⟨⟨admits, prepares⟩, _⟩, rfl⟩
  refine ⟨prepares, slot, decided, admits, ?_⟩
  rcases slot_of_decide decided with ⟨_, rfl⟩
  rcases current : readPublishedContext spelling files with _ | id
  · rw [slotOf_of_none current] at admits ⊢
    split at admits
    case h_1 target next => simp only [next]
    case h_2 => cases admits
  · rcases slotOf_cases current with holds | ⟨_, arms | ⟨_, _, _, holds | ⟨_, advances⟩⟩⟩
    · rw [holds] at admits
      cases admits
    · rw [arms] at admits
      cases admits
    · rw [holds] at admits
      cases admits
    · rw [advances]

theorem current_of_publication
    (precedes : Precedes first second
      ((orderedContexts spelling tick files.queue.contexts).map Entry.id))
    (published : publication spelling tick files = some (some second)) :
    readPublishedContext spelling files = some first := by
  rcases of_publication published with ⟨_, _, _, _, next⟩
  have passed := precedes.find_ne next.symm
  rw [decide_eq_false_iff_not, not_not] at passed
  exact passed.symm

theorem prepares_of_change
    (changed : (invokePrGenerationQueue spelling tick files).context ≠ files.context) :
    tick.prepares = true ∧ ∃ slot, decide? spelling tick files = some slot ∧
      slot.admits = true := by
  cases published : publication spelling tick files with
  | none =>
    apply absurd _ changed
    rw [invokePrGenerationQueue]
    cases decide? spelling tick files <;> simp [published]
  | some target =>
    rcases of_publication published with ⟨prepares, slot, decided, admits, _⟩
    exact ⟨prepares, slot, decided, admits⟩

/-! ## Runs -/

/-- A tick that sees both generations active and whose writes succeed. -/
structure Steady (first second : Id) (tick : Tick Id) : Prop where
  verified : tick.verified = true
  saves : tick.saves = true
  publishes : tick.publishes = true
  firstActive : first ∈ tick.runs.map Prod.fst
  secondActive : second ∈ tick.runs.map Prod.fst

theorem Steady.precedes (steady : Steady first second tick)
    (precedes : Precedes first second (files.queue.contexts.map Entry.id)) :
    Precedes first second
      ((invokePrGenerationQueue spelling tick files).queue.contexts.map Entry.id) := by
  cases decided : decide? spelling tick files with
  | none =>
    rw [invokePrGenerationQueue, decided]
    exact precedes
  | some slot =>
    rw [contexts_of_decide decided steady.saves]
    exact precedes.ordered steady.firstActive steady.secondActive

theorem run_precedes {ticks : List (Tick Id)} (steady : ∀ tick ∈ ticks, Steady first second tick)
    (precedes : Precedes first second (files.queue.contexts.map Entry.id)) :
    Precedes first second ((run spelling files ticks).queue.contexts.map Entry.id) := by
  induction ticks generalizing files with
  | nil => exact precedes
  | cons tick rest induction =>
    apply induction fun tick member => steady tick (List.mem_cons_of_mem _ member)
    exact (steady tick List.mem_cons_self).precedes precedes

/-- The generation queue is first in, first out. -/
theorem queue_is_fifo {start : Tick Id} {ticks : List (Tick Id)}
    (steady : ∀ tick ∈ start :: ticks, Steady first second tick)
    (notCurrent : readPublishedContext spelling files ≠ some first)
    (precedes : Precedes first second
      ((invokePrGenerationQueue spelling start files).queue.contexts.map Entry.id)) :
    (∀ past, past <+: ticks → Precedes first second
      ((run spelling files (start :: past)).queue.contexts.map Entry.id)) ∧
    (∀ past tick after, start :: ticks = past ++ tick :: after →
      publication spelling tick (run spelling files past) = some (some second) →
        past ≠ [] ∧ readPublishedContext spelling (run spelling files past) = some first) ∧
    (∀ past tick after, start :: ticks = past ++ tick :: after →
      (run spelling files (past ++ [tick])).context ≠ (run spelling files past).context →
        tick.prepares = true) := by
  refine ⟨?_, ?_, ?_⟩
  · intro past isPast
    apply run_precedes _ precedes
    intro tick member
    exact steady tick (List.mem_cons_of_mem _ (isPast.subset member))
  · intro past tick after split published
    have steadyPast : ∀ earlier ∈ past ++ tick :: after, Steady first second earlier := by
      rw [← split]
      exact steady
    have now := steadyPast tick (by simp)
    rcases of_publication published with ⟨_, slot, decided, _⟩
    cases past with
    | nil =>
      -- The first tick: the order after it is the one that it decides on.
      cases split
      have decides : decide? spelling start files = some slot := decided
      rw [contexts_of_decide decides now.saves] at precedes
      exact absurd (current_of_publication precedes published) notCurrent
    | cons earliest past =>
      cases split
      have stored : Precedes first second ((run spelling
        (invokePrGenerationQueue spelling start files) past).queue.contexts.map Entry.id) :=
        run_precedes (fun earlier member => steadyPast earlier
          (List.mem_cons_of_mem _ (List.mem_append_left _ member))) precedes
      refine ⟨List.cons_ne_nil _ _, ?_⟩
      exact current_of_publication (stored.ordered now.firstActive now.secondActive) published
  · intro past tick after _ changed
    rw [run, List.foldl_append] at changed
    exact (prepares_of_change changed).1

theorem older_generation_goes_first :
    readPublishedContext plainSpelling emptyFiles ≠ some 7 ∧
      publication plainSpelling (tickAt 0 [7, 9] true) emptyFiles = some (some 7) ∧
      ∀ past, past <+: [tickAt 1 [7, 9] true] → Precedes 7 9
        ((run plainSpelling emptyFiles (tickAt 0 [7, 9] true :: past)).queue.contexts.map
          Entry.id) := by
  have steady : ∀ tick ∈ [tickAt 0 [7, 9] true, tickAt 1 [7, 9] true], Steady 7 9 tick := by
    intro tick member
    rw [List.mem_pair] at member
    rcases member with rfl | rfl <;> exact ⟨rfl, rfl, rfl, by decide, by decide⟩
  have notCurrent : readPublishedContext plainSpelling emptyFiles ≠ some 7 := by decide
  exact ⟨notCurrent, by decide +kernel,
    (queue_is_fifo steady notCurrent (by decide +kernel)).1⟩

/-- The slot is not taken from a generation that no verified tick has seen idle,
whatever else the ticks see and whichever of their steps fail. -/
theorem active_generation_keeps_slot {current : Id} {ticks : List (Tick Id)}
    (published : readPublishedContext spelling files = some current)
    (active : ∀ tick ∈ ticks, tick.verified = true → current ∈ tick.runs.map Prod.fst) :
    (run spelling files ticks).context = files.context := by
  induction ticks generalizing files with
  | nil => rfl
  | cons tick rest induction =>
    have kept : (invokePrGenerationQueue spelling tick files).context = files.context := by
      by_contra changed
      rcases prepares_of_change changed with ⟨_, slot, decided, admits⟩
      rcases slot_of_decide decided with ⟨verified, rfl⟩
      rcases slotOf_cases published with holds | ⟨idle, _⟩
      · rw [holds] at admits
        cases admits
      · exact idle (active tick List.mem_cons_self verified)
    rw [← kept]
    apply induction
    · rw [readPublishedContext, kept]
      exact published
    · exact fun later member => active later (List.mem_cons_of_mem _ member)

theorem active_generation_is_kept :
    (run plainSpelling { emptyFiles with context := some 7 }
      [tickAt 1 [7, 9] true, tickAt 50 [9, 7] false]).context = some 7 :=
  active_generation_keeps_slot rfl (by decide)

end Civm.PrQueue
