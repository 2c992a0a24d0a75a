import Mathlib.Algebra.Order.BigOperators.Group.List
import Mathlib.Algebra.Order.Ring.Int

/-! # Tallies

A map with an entry for each key that has been counted, and what changing one
entry does to a sum over all of them. -/

namespace Civm.Tally

variable {Key Value : Type} [DecidableEq Key]

def get (key : Key) (fresh : Value) : List (Key × Value) → Value
  | [] => fresh
  | entry :: rest => if entry.1 = key then entry.2 else get key fresh rest

/-- Change the entry of a key, which is made if there is none yet. -/
def update (key : Key) (fresh : Value) (change : Value → Value) :
    List (Key × Value) → List (Key × Value)
  | [] => [(key, change fresh)]
  | entry :: rest =>
    if entry.1 = key then (key, change entry.2) :: rest
    else entry :: update key fresh change rest

def total (measure : Value → Int) (entries : List (Key × Value)) : Int :=
  (entries.map fun entry => measure entry.2).sum

variable {key : Key} {fresh : Value} {change : Value → Value} {entries : List (Key × Value)}
  {measure : Value → Int}

theorem get_update (name : Key) :
    get name fresh (update key fresh change entries) =
      if key = name then change (get key fresh entries) else get name fresh entries := by
  induction entries with
  | nil => simp [update, get]
  | cons entry rest induction =>
    by_cases found : entry.1 = key
    · by_cases same : key = name
      · simp [update, get, found, same]
      · simp [update, get, found, same]
    · simp only [update, found, if_false, get, induction]
      by_cases same : key = name
      · simp [← same, found]
      · simp [same]

theorem total_update {amount : Int} (empty : measure fresh = 0)
    (changed : measure (change (get key fresh entries)) =
      measure (get key fresh entries) + amount) :
    total measure (update key fresh change entries) = total measure entries + amount := by
  induction entries with
  | nil => simpa [total, update, get, empty] using changed
  | cons entry rest induction =>
    by_cases found : entry.1 = key
    · simp only [get, found, if_true] at changed
      simp only [update, found, if_true, total, List.map_cons, List.sum_cons, changed]
      omega
    · simp only [get, found, if_false] at changed
      have tail := induction changed
      simp only [total] at tail
      simp only [update, found, if_false, total, List.map_cons, List.sum_cons, tail]
      omega

theorem mem_update {entry : Key × Value} (member : entry ∈ update key fresh change entries) :
    entry ∈ entries ∨ entry = (key, change (get key fresh entries)) := by
  induction entries with
  | nil => exact .inr (List.mem_singleton.mp member)
  | cons head rest induction =>
    by_cases found : head.1 = key
    · simp only [update, found, if_true, get] at member ⊢
      rcases List.mem_cons.mp member with equal | later
      · exact .inr equal
      · exact .inl (List.mem_cons_of_mem _ later)
    · simp only [update, found, if_false, get] at member ⊢
      rcases List.mem_cons.mp member with equal | later
      · exact .inl (equal ▸ List.mem_cons_self)
      · exact (induction later).imp_left (List.mem_cons_of_mem _)

theorem get_mem_or_fresh :
    (key, get key fresh entries) ∈ entries ∨ get key fresh entries = fresh := by
  induction entries with
  | nil => exact .inr rfl
  | cons entry rest induction =>
    by_cases found : entry.1 = key
    · have here : get key fresh (entry :: rest) = entry.2 := if_pos found
      rw [here, ← found]
      exact .inl List.mem_cons_self
    · have later : get key fresh (entry :: rest) = get key fresh rest := if_neg found
      rw [later]
      exact induction.imp_left (List.mem_cons_of_mem entry)

theorem measure_get_le_total (empty : measure fresh = 0)
    (nonnegative : ∀ entry ∈ entries, 0 ≤ measure entry.2) :
    0 ≤ measure (get key fresh entries) ∧
      measure (get key fresh entries) ≤ total measure entries := by
  have values : ∀ value ∈ entries.map (fun entry => measure entry.2), 0 ≤ value := by
    intro value member
    rcases List.mem_map.mp member with ⟨entry, among, equal⟩
    exact equal ▸ nonnegative entry among
  rcases @get_mem_or_fresh _ _ _ key fresh entries with member | equal
  · exact ⟨nonnegative _ member, List.single_le_sum values _ (List.mem_map_of_mem member)⟩
  · rw [equal, empty]
    exact ⟨le_rfl, List.sum_nonneg values⟩

end Civm.Tally
