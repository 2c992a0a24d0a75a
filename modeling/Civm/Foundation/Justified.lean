import Mathlib.Data.List.Basic

/-! # Events and what comes before them

A trace in which every event is allowed after those before it. -/

namespace Civm

variable {α : Type} {allowed weaker : List α → α → Prop} {trace longer before after : List α}
variable {event last : α}

def Justified (allowed : List α → α → Prop) (trace : List α) : Prop :=
  ∀ before event after, trace = before ++ event :: after → allowed before event

theorem snoc_eq_append_cons (split : trace ++ [last] = before ++ event :: after) :
    (after = [] ∧ before = trace ∧ event = last) ∨
      ∃ middle, after = middle ++ [last] ∧ trace = before ++ event :: middle := by
  rcases List.eq_nil_or_concat' after with rfl | ⟨middle, final, rfl⟩
  · obtain ⟨rfl, equal⟩ := List.append_inj' split rfl
    cases equal
    exact .inl ⟨rfl, rfl, rfl⟩
  · rw [← List.cons_append, ← List.append_assoc] at split
    obtain ⟨rfl, equal⟩ := List.append_inj' split rfl
    cases equal
    exact .inr ⟨middle, rfl, rfl⟩

theorem append_cons_eq_append_cons {before' after' : List α} {event' : α}
    (equal : before ++ event :: after = before' ++ event' :: after') :
    (before = before' ∧ event = event' ∧ after = after') ∨
      (∃ middle, before' = before ++ event :: middle ∧ after = middle ++ event' :: after') ∨
      ∃ middle, before = before' ++ event' :: middle ∧ after' = middle ++ event :: after := by
  rcases List.append_eq_append_iff.mp equal with ⟨rest, rfl, split⟩ | ⟨rest, rfl, split⟩
  · cases rest with
    | nil =>
      cases split
      exact .inl ⟨(List.append_nil _).symm, rfl, rfl⟩
    | cons first middle =>
      cases split
      exact .inr (.inl ⟨middle, rfl, rfl⟩)
  · cases rest with
    | nil =>
      cases split
      exact .inl ⟨List.append_nil _, rfl, rfl⟩
    | cons first middle =>
      cases split
      exact .inr (.inr ⟨middle, rfl, rfl⟩)

namespace Justified

theorem nil : Justified allowed [] := by
  intro before event after split
  cases before <;> cases split

theorem snoc (justified : Justified allowed trace) (last : allowed trace event) :
    Justified allowed (trace ++ [event]) := by
  intro before other after split
  rcases snoc_eq_append_cons split with ⟨rfl, rfl, rfl⟩ | ⟨middle, rfl, rfl⟩
  · exact last
  · exact justified before other middle rfl

theorem of_prefix (justified : Justified allowed longer) (start : trace <+: longer) :
    Justified allowed trace := by
  rcases start with ⟨rest, rfl⟩
  intro before event after split
  subst split
  exact justified before event (after ++ rest) (by simp)

/-- If an event of a kind is allowed only as the first one, it is the only one. -/
theorem once {kind : α → Bool} (justified : Justified allowed trace)
    (first : ∀ before event, allowed before event → kind event = true →
      ∀ earlier ∈ before, kind earlier = false)
    (split : trace = before ++ event :: after) (isKind : kind event = true) :
    ∀ other ∈ before ++ after, kind other = false := by
  intro other member
  rcases List.mem_append.mp member with earlier | later
  · exact first before event (justified before event after split) isKind other earlier
  · rcases List.append_of_mem later with ⟨middle, rest, rfl⟩
    have again : trace = (before ++ event :: middle) ++ other :: rest := by simp [split]
    by_contra also
    have notKind := first _ other (justified _ other rest again) (by simpa using also) event
      (by simp)
    rw [isKind] at notKind
    cases notKind

end Justified

end Civm
