import Mathlib.Data.List.Dedup
import Mathlib.Data.List.Sort

/-! # The generation queue

One enforcing tick of the queue on its two files, the saved state and the published
context. Generation IDs are compared without regard to letter case everywhere, so an
`Id` stands for an ID up to case; an empty ID is `none`. Times count units of
100 nanoseconds. -/

namespace Civm.PrQueue

variable {Id : Type} [DecidableEq Id]

inductive Action where
  | grant
  | hold
  | boundaryAdvance
  | idle
deriving DecidableEq

structure Slot (Id : Type) where
  action : Action
  currentPr : Option Id
  idleSinceUtc : Option Int
deriving DecidableEq

/-- Ten minutes. -/
def doneGrace : Int := 10 * 600000000

def resolvePrSlot (prs : List (Id × Nat)) (currentPr : Option Id) (currentIdleSinceUtc : Option Int)
    (nowUtc : Int) : Slot Id :=
  let next := (prs.find? fun pr => some pr.1 ≠ currentPr).map Prod.fst
  match currentPr with
  | some current =>
    -- The table is filled in order, so that the last entry of an ID counts.
    let currentJobs := (prs.reverse.lookup current).getD 0
    if 0 < currentJobs then ⟨.hold, some current, none⟩
    else
      match currentIdleSinceUtc with
      | none => ⟨.hold, some current, some nowUtc⟩
      | some since =>
        if nowUtc - since < doneGrace then ⟨.hold, some current, some since⟩
        else ⟨.boundaryAdvance, next, none⟩
  | none =>
    match next with
    | some target => ⟨.grant, some target, none⟩
    | none => ⟨.idle, none, none⟩

/-! ## A tick -/

structure Entry (Id : Type) where
  id : Id
  firstSeenUtc : Int

structure Queue (Id : Type) where
  contexts : List (Entry Id)
  currentPr : Option Id
  currentIdleSinceUtc : Option Int

/-- The saved state (the defaults if there is no file) and the text of the published
context (`none` if there is no file or an empty one). -/
structure Files (Id : Type) where
  queue : Queue Id
  context : Option Id

/-- What a tick observes and which of its steps succeed. -/
structure Tick (Id : Type) where
  nowUtc : Int
  verified : Bool
  /-- The active runs: their generations and when they were created. -/
  runs : List (Id × Int)
  stateReadable : Bool
  contextReadable : Bool
  prepares : Bool
  publishes : Bool
  saves : Bool

/-- How the texts and the order of IDs depend on their characters. -/
structure Spelling (Id : Type) where
  /-- The text that is written for an ID, in ASCII. -/
  ascii : Id → Id
  /-- Whether a text that was read has the form of a generation ID. -/
  wellFormed : Id → Bool
  /-- The order of `Sort-Object` on IDs. -/
  notAfter : Id → Id → Bool

section Tick

variable (spelling : Spelling Id) (tick : Tick Id)

def Tick.counts (id : Id) : Nat := (tick.runs.map Prod.fst).count id

def Tick.firstSeen (id : Id) : Int :=
  ((((tick.runs.filter (·.1 = id)).map Prod.snd).min?).getD 0)

def Tick.entry (id : Id) : Entry Id := ⟨id, tick.firstSeen id⟩

def readPublishedContext (files : Files Id) : Option Id := files.context.filter spelling.wellFormed

def reconcile (files : Files Id) : Queue Id :=
  if files.queue.currentPr ≠ readPublishedContext spelling files then
    { files.queue with
      currentPr := readPublishedContext spelling files
      currentIdleSinceUtc := none }
  else files.queue

def orderedContexts (contexts : List (Entry Id)) : List (Entry Id) :=
  let keys := (tick.runs.map Prod.fst).dedup
  let ordered := (contexts.filter fun entry => entry.id ∈ keys).map fun entry => tick.entry entry.id
  let newContexts := (keys.filter fun id => id ∉ ordered.map Entry.id).map tick.entry
  ordered ++ newContexts.insertionSort fun first second =>
    first.firstSeenUtc < second.firstSeenUtc ∨
      first.firstSeenUtc = second.firstSeenUtc ∧ spelling.notAfter first.id second.id = true

def slotOf (files : Files Id) : Slot Id :=
  let queue := reconcile spelling files
  let ordered := orderedContexts spelling tick queue.contexts
  resolvePrSlot (ordered.map fun entry => (entry.id, tick.counts entry.id)) queue.currentPr
    queue.currentIdleSinceUtc tick.nowUtc

/-- What an enforcing tick decides, unless it returns before. -/
def decide? (files : Files Id) : Option (Slot Id) :=
  if tick.verified && tick.stateReadable && tick.contextReadable then
    some (slotOf spelling tick files)
  else none

def Slot.admits (slot : Slot Id) : Bool :=
  slot.action = .grant || slot.action = .boundaryAdvance

/-- The context that a tick publishes: that of its slot, once the boundary is prepared. -/
def publication (files : Files Id) : Option (Option Id) :=
  (decide? spelling tick files).bind fun slot =>
    if slot.admits && tick.prepares && tick.publishes then some slot.currentPr else none

def invokePrGenerationQueue (files : Files Id) : Files Id :=
  match decide? spelling tick files with
  | none => files
  | some slot =>
    let queue := reconcile spelling files
    let published := publication spelling tick files
    let ordered := orderedContexts spelling tick queue.contexts
    let saved : Queue Id :=
      if slot.admits && published.isNone then
        ⟨ordered, queue.currentPr, queue.currentIdleSinceUtc⟩
      else ⟨ordered, slot.currentPr, slot.idleSinceUtc⟩
    { queue := if tick.saves then saved else files.queue
      context := match published with
        | some target => target.map spelling.ascii
        | none => files.context }

def run (files : Files Id) (ticks : List (Tick Id)) : Files Id :=
  ticks.foldl (fun files tick => invokePrGenerationQueue spelling tick files) files

end Tick

/-- A verified observation of an active run of a generation. -/
def Tick.Observes (tick : Tick Id) (id : Id) : Prop :=
  tick.verified = true ∧ id ∈ tick.runs.map Prod.fst

instance (tick : Tick Id) (id : Id) : Decidable (tick.Observes id) :=
  inferInstanceAs (Decidable (_ ∧ _))

/-! ## What a tick knows of the current generation -/

section Spec

variable {spelling : Spelling Id} {tick : Tick Id} {files : Files Id}

variable (spelling tick) in
theorem orderedContexts_ids (contexts : List (Entry Id)) :
    ∃ new, (orderedContexts spelling tick contexts).map Entry.id =
        ((contexts.map Entry.id).filter (· ∈ tick.runs.map Prod.fst)) ++ new ∧
      ∀ id, id ∈ tick.runs.map Prod.fst → id ∉ contexts.map Entry.id → id ∈ new := by
  refine ⟨_, by simp only [orderedContexts, List.map_append, List.map_map, List.mem_dedup,
    Function.comp_def, Tick.entry, List.filter_map]; rfl, ?_⟩
  intro id active unknown
  rw [((List.perm_insertionSort _ _).map Entry.id).mem_iff, List.map_map, List.mem_map]
  refine ⟨id, List.mem_filter.mpr ⟨List.mem_dedup.mpr active, ?_⟩, rfl⟩
  rw [decide_eq_true_eq]
  intro known
  rw [List.mem_map] at known
  rcases known with ⟨entry, kept, same⟩
  exact unknown (List.mem_map.mpr ⟨entry, List.mem_of_mem_filter kept, same⟩)

theorem lookup_entries (value : Id → Nat) (id : Id) (entries : List (Entry Id)) :
    ((entries.map fun entry => (entry.id, value entry.id)).lookup id).getD 0 =
      if id ∈ entries.map Entry.id then value id else 0 := by
  induction entries with
  | nil => rfl
  | cons entry rest induction =>
    by_cases same : id = entry.id
    · simp [same]
    · simp [List.lookup_cons, beq_eq_false_iff_ne.mpr same, same, induction]

theorem currentJobs_eq (contexts : List (Entry Id)) (id : Id) :
    (((orderedContexts spelling tick contexts).map fun entry =>
      (entry.id, tick.counts entry.id)).reverse.lookup id).getD 0 = tick.counts id := by
  rw [← List.map_reverse, lookup_entries]
  split
  case isTrue => rfl
  case isFalse absent =>
    rw [Tick.counts, eq_comm, List.count_eq_zero]
    intro active
    rcases orderedContexts_ids spelling tick contexts with ⟨new, ids, fresh⟩
    rw [List.map_reverse, List.mem_reverse, ids, List.mem_append, List.mem_filter] at absent
    by_cases known : id ∈ contexts.map Entry.id
    · exact absent (Or.inl ⟨known, by simpa using active⟩)
    · exact absent (Or.inr (fresh id active known))

theorem reconcile_currentPr :
    (reconcile spelling files).currentPr = readPublishedContext spelling files := by
  rw [reconcile]
  split
  case isTrue => rfl
  case isFalse same => exact not_not.mp same

theorem reconcile_contexts : (reconcile spelling files).contexts = files.queue.contexts := by
  rw [reconcile]
  split <;> rfl

theorem queue_of_reconcile {since : Int}
    (armed : (reconcile spelling files).currentIdleSinceUtc = some since) :
    files.queue.currentPr = readPublishedContext spelling files ∧
      files.queue.currentIdleSinceUtc = some since := by
  rw [reconcile] at armed
  split at armed
  case isTrue => cases armed
  case isFalse same => exact ⟨not_not.mp same, armed⟩

variable (spelling tick) in
/-- The first context that is not the current one. -/
def nextContext (files : Files Id) : Option Id :=
  ((orderedContexts spelling tick files.queue.contexts).map Entry.id).find?
    fun id => some id ≠ readPublishedContext spelling files

/-- What a tick makes of a published generation: it is active, or idle without a clock, or
idle with the clock of the saved state. -/
theorem slotOf_cases {current : Id}
    (published : readPublishedContext spelling files = some current) :
    slotOf spelling tick files = ⟨.hold, some current, none⟩ ∨
      current ∉ tick.runs.map Prod.fst ∧
        (slotOf spelling tick files = ⟨.hold, some current, some tick.nowUtc⟩ ∨
          ∃ since, files.queue.currentPr = some current ∧
            files.queue.currentIdleSinceUtc = some since ∧
            (slotOf spelling tick files = ⟨.hold, some current, some since⟩ ∨
              doneGrace ≤ tick.nowUtc - since ∧ slotOf spelling tick files =
                ⟨.boundaryAdvance, nextContext spelling tick files, none⟩)) := by
  rw [slotOf, reconcile_currentPr, published, reconcile_contexts]
  simp only [resolvePrSlot, currentJobs_eq, List.find?_map, Option.map_map, Function.comp_def,
    nextContext, published]
  split
  case isTrue => exact Or.inl rfl
  case isFalse idle =>
    refine Or.inr ⟨fun active => idle (List.count_pos_iff.mpr active), ?_⟩
    split
    case h_1 => exact Or.inl rfl
    case h_2 since armed =>
      rcases queue_of_reconcile armed with ⟨same, clock⟩
      refine Or.inr ⟨since, by rw [same, published], clock, ?_⟩
      split
      case isTrue => exact Or.inl rfl
      case isFalse passed => exact Or.inr ⟨by omega, rfl⟩

theorem slotOf_of_none (published : readPublishedContext spelling files = none) :
    slotOf spelling tick files =
      match nextContext spelling tick files with
      | some target => ⟨.grant, some target, none⟩
      | none => ⟨.idle, none, none⟩ := by
  rw [slotOf, reconcile_currentPr, published, reconcile_contexts]
  simp only [resolvePrSlot, List.find?_map, Option.map_map, Function.comp_def, nextContext,
    published]

theorem slot_of_decide {slot : Slot Id} (decided : decide? spelling tick files = some slot) :
    tick.verified = true ∧ slotOf spelling tick files = slot := by
  rw [decide?, Option.ite_none_right_eq_some, Option.some.injEq, Bool.and_eq_true,
    Bool.and_eq_true] at decided
  exact ⟨decided.1.1.1, decided.2⟩

end Spec

end Civm.PrQueue
