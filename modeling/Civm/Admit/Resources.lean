import Civm.Admit.Course

/-! # Attempts and slots

The number of attempts within a wait budget, and the slots that are held after them. -/

namespace Civm.Admit

/-! ## The slots in hand -/

def locked (slots : List Slot) : AdmitEvent → List Slot
  | ⟨.flock slot, answer⟩ => if answer.isNone then slot :: slots else slots
  | ⟨.release slot, _⟩ => slots.erase slot
  | _ => slots

/-- The slots that have been taken and not been released. -/
def held (events : List AdmitEvent) : List Slot := events.foldl locked []

def attempts (events : List AdmitEvent) : Nat := events.countP fun event => event.call = .check

def dockerSlots (opts : Options) : List Slot := if opts.exclusive = "docker" then [.docker] else []

/-- An admission with a slot, and with the slot for docker if it is asked for. The record of the
slot has been written last. -/
structure Granted (codec : RecordCodec) (opts : Options) (pid : Int) (events : List AdmitEvent)
    (admission : Admission) (index : Nat) : Prop where
  positive : 1 ≤ index
  bounded : index ≤ opts.maxHeavy
  slot : admission.slot = some index
  holds : held events = dockerSlots opts ++ [.heavy index]
  recorded : ∃ before record data, events = before ++ [⟨.writeFile (.heavy index) data, none⟩] ∧
    codec.marshal record = .ok data ∧ record.pid = pid ∧ record.unit = admission.unit

/-- With an error no slot is held. -/
def Settled (codec : RecordCodec) (opts : Options) (self : Int) (events : List AdmitEvent) :
    Except Error Admission → Prop
  | .error _ => held events = []
  | .ok admission => ∃ index, Granted codec opts self events admission index

section

variable {codec : RecordCodec} {opts : Options} {self : Int} {slots : List Slot}

theorem Beside.locked {events : List AdmitEvent} (beside : Beside events) :
    events.foldl locked slots = slots := by
  induction events with
  | nil => rfl
  | cons event rest induction =>
    rw [Beside, List.forall_mem_cons] at beside
    have same : Admit.locked slots event = slots := by
      rcases event with ⟨call, answer⟩
      cases call <;> first | rfl | cases beside.1
    rw [List.foldl_cons, same]
    exact induction beside.2

/-- The slot that `grabFreeSlot` has found. -/
def found : Except Error (Option Nat) → List Slot
  | .ok (some index) => [.heavy index]
  | _ => []

theorem Grabbed.locked {left index : Nat} {result : Except Error (Option Nat)}
    {events : List AdmitEvent} (grabbed : Grabbed opts left index result events) :
    events.foldl locked slots = found result ++ slots := by
  induction grabbed with
  | none => rfl
  | busy contended rest induction => exact induction
  | failed other => rfl
  | taken reaped => exact reaped.locked

theorem Grabbed.index_bounds {left index : Nat} {found : Nat} {events : List AdmitEvent}
    (grabbed : Grabbed opts left index (.ok (some found)) events) :
    index ≤ found ∧ found < index + left := by
  generalize same : (Except.ok (some found) : Except Error (Option Nat)) = result at grabbed
  induction grabbed with
  | none => cases same
  | busy contended rest induction =>
    have bounds := induction same
    omega
  | failed other => cases same
  | taken reaped =>
    cases same
    omega

theorem Grabbed.le_maxHeavy {index : Nat} {events : List AdmitEvent}
    (grabbed : Grabbed opts opts.maxHeavy.toNat 1 (.ok (some index)) events) :
    index ≤ opts.maxHeavy := by
  have bounds := grabbed.index_bounds
  omega

theorem dockerTaken_locked : (dockerTaken opts).foldl locked slots = dockerSlots opts ++ slots := by
  unfold dockerTaken dockerSlots
  split <;> rfl

theorem dockerReleased_locked :
    (dockerReleased opts).foldl locked (dockerSlots opts ++ slots) = slots := by
  unfold dockerReleased dockerSlots
  split
  · exact List.erase_cons_head Slot.docker slots
  · rfl

theorem Occupied.locked {index : Nat} {attempt : Attempt} {events : List AdmitEvent}
    (occupied : Occupied codec opts self index attempt events) :
    events.foldl locked [.heavy index] =
      if attempt.admission.isSome then dockerSlots opts ++ [.heavy index] else [] := by
  cases occupied with
  | undocked => simp [Admit.locked]
  | unrecorded recorded beside =>
    simp only [List.foldl_append, dockerTaken_locked, recorded.beside.locked, beside.locked,
      dockerReleased_locked]
    simp [Admit.locked]
  | admitted recorded =>
    rw [List.foldl_append, dockerTaken_locked, recorded.beside.locked]
    rfl

theorem occupied_locked {index : Nat} {attempt : Attempt} {events more : List AdmitEvent}
    (grabbed : Grabbed opts opts.maxHeavy.toNat 1 (.ok (some index)) events)
    (occupied : Occupied codec opts self index attempt more) :
    held (⟨.check, .ok .ok⟩ :: (events ++ more)) =
      if attempt.admission.isSome then dockerSlots opts ++ [.heavy index] else [] := by
  have taken : events.foldl locked [] = found _ ++ [] := grabbed.locked
  change (events ++ more).foldl locked [] = _
  rw [List.foldl_append, taken]
  exact occupied.locked

theorem Attempted.held_eq_nil {attempt : Attempt} {events : List AdmitEvent}
    (attempted : Attempted codec opts self attempt events) (empty : attempt.admission = none) :
    held events = [] := by
  cases attempted with
  | unchecked | pressed => rfl
  | failed grabbed | busy grabbed => exact grabbed.locked
  | occupied grabbed occupied =>
    rw [occupied_locked grabbed occupied, empty]
    rfl

theorem Recorded.last {slot : Slot} {unit : String} {events : List AdmitEvent}
    (recorded : Recorded codec self slot unit none events) :
    ∃ before record data, events = before ++ [⟨.writeFile slot data, none⟩] ∧
      codec.marshal record = .ok data ∧ record.pid = self ∧ record.unit = unit := by
  cases recorded with
  | @written ticks now data marshalled =>
    exact ⟨[⟨.pidStartTicks self, ticks⟩, ⟨.now, now⟩], _, data, rfl, marshalled, rfl, rfl⟩

theorem Attempted.settled {attempt : Attempt} {events : List AdmitEvent} {admission : Admission}
    (attempted : Attempted codec opts self attempt events)
    (granted : attempt.admission = some admission) :
    ∃ index, Granted codec opts self events admission index := by
  cases attempted with
  | unchecked | pressed | failed | busy => cases granted
  | @occupied index attempt before more grabbed occupied =>
    have holds := occupied_locked grabbed occupied
    cases occupied with
    | undocked | unrecorded => cases granted
    | admitted recorded =>
      obtain rfl : admissionFor opts self index = admission := Option.some.inj granted
      apply Exists.intro index
      apply Granted.mk grabbed.index_bounds.1 grabbed.le_maxHeavy rfl holds
      rcases recorded.last with ⟨early, record, data, rfl, rest⟩
      let earlier : List AdmitEvent :=
        ⟨.check, .ok .ok⟩ :: (before ++ (dockerTaken opts ++ early))
      exact ⟨earlier, record, data, by simp [earlier], rest⟩

theorem held_append_of_nil {events more : List AdmitEvent} (empty : held events = []) :
    held (events ++ more) = held more := by
  rw [held, List.foldl_append]
  exact congrArg (more.foldl locked) empty

theorem Settled.after {events more : List AdmitEvent} {result : Except Error Admission}
    (settled : Settled codec opts self more result) (empty : held events = []) :
    Settled codec opts self (events ++ more) result := by
  have same : held (events ++ more) = held more := held_append_of_nil empty
  cases result with
  | error error => exact same.trans settled
  | ok admission =>
    rcases settled with ⟨index, granted⟩
    rcases granted.recorded with ⟨before, record, data, whole, rest⟩
    apply Exists.intro index
    apply Granted.mk granted.positive granted.bounded granted.slot (same.trans granted.holds)
    exact ⟨events ++ before, record, data, by rw [whole, List.append_assoc], rest⟩

theorem Course.settled {deadline : Int} {result : Except Error Admission}
    {events : List AdmitEvent} (course : Course codec opts self deadline result events) :
    Settled codec opts self events result := by
  induction course with
  | interrupted => rfl
  | @failed attempt error events attempted err =>
    have empty : attempt.admission = none := by
      cases attempted with
      | occupied grabbed occupied =>
        cases occupied with
        | admitted => cases err
        | _ => rfl
      | _ => rfl
    exact attempted.held_eq_nil empty
  | admitted attempted clean granted =>
    have settled : Settled codec opts self _ (.ok _) := attempted.settled granted
    have none : held [⟨.ctxErr, none⟩] = [] := rfl
    exact settled.after none
  | @expired attempt events time attempted clean empty late =>
    change held (events ++ _) = []
    rw [held_append_of_nil (attempted.held_eq_nil empty)]
    rfl
  | @again attempt events rest time result attempted clean empty early course induction =>
    have gone : held (⟨.ctxErr, none⟩ :: (events ++ [⟨.now, time⟩, ⟨.sleep opts.backoff, ()⟩])) =
      [] := by
      change held (events ++ _) = []
      rw [held_append_of_nil (attempted.held_eq_nil empty)]
      rfl
    have settled := induction.after gone
    simpa using settled

/-! ## The attempts -/

theorem attempts_append (events more : List AdmitEvent) :
    attempts (events ++ more) = attempts events + attempts more :=
  List.countP_append

theorem Beside.attempts {events : List AdmitEvent} (beside : Beside events) :
    attempts events = 0 := by
  rw [Admit.attempts, List.countP_eq_zero]
  intro event member
  have aside := beside event member
  cases call : event.call <;> simp_all [isBeside]

theorem Grabbed.attempts {left index : Nat} {result : Except Error (Option Nat)}
    {events : List AdmitEvent} (grabbed : Grabbed opts left index result events) :
    attempts events = 0 := by
  induction grabbed with
  | none => rfl
  | busy contended rest induction => exact induction
  | failed other => rfl
  | taken reaped => exact reaped.attempts

theorem attempts_dockerTaken : attempts (dockerTaken opts) = 0 := by
  unfold dockerTaken
  split <;> rfl

theorem attempts_dockerReleased : attempts (dockerReleased opts) = 0 := by
  unfold dockerReleased
  split <;> rfl

theorem Occupied.attempts {index : Nat} {attempt : Attempt} {events : List AdmitEvent}
    (occupied : Occupied codec opts self index attempt events) : attempts events = 0 := by
  cases occupied with
  | undocked => rfl
  | unrecorded recorded beside =>
    simp only [attempts_append, attempts_dockerTaken, recorded.beside.attempts, beside.attempts,
      attempts_dockerReleased]
    rfl
  | admitted recorded => rw [attempts_append, attempts_dockerTaken, recorded.beside.attempts]

theorem Attempted.attempts {attempt : Attempt} {events : List AdmitEvent}
    (attempted : Attempted codec opts self attempt events) : attempts events = 1 := by
  have first (rest : List AdmitEvent) :
    Admit.attempts (⟨.check, .ok .ok⟩ :: rest) = 1 + Admit.attempts rest := by
    rw [← List.singleton_append, attempts_append]
    rfl
  cases attempted with
  | unchecked | pressed => rfl
  | failed grabbed | busy grabbed => rw [first, grabbed.attempts]
  | occupied grabbed occupied =>
    rw [first, attempts_append, grabbed.attempts, occupied.attempts]

end

/-! ## The clock -/

/-- The world is a time that has been reached. The clock does not go back, and a sleep lasts at
least as long as it is asked for. -/
def clock : Outside Answer Int where
  permits time call answer :=
    match call, answer with
    | .now, answer => time ≤ answer
    | _, _ => True
  after time call answer :=
    match call, answer with
    | .now, answer => answer
    | .sleep duration, _ => time + max duration 0
    | _, _ => time

theorem clock_answered (time : Int) (call : Call) : ∃ answer, clock.permits time call answer := by
  cases call with
  | now => exact ⟨time, Int.le_refl time⟩
  | ctxErr => exact ⟨none, trivial⟩
  | check => exact ⟨.ok .ok, trivial⟩
  | flock slot => exact ⟨none, trivial⟩
  | release slot => exact ⟨(), trivial⟩
  | readFile slot => exact ⟨.ok [], trivial⟩
  | pidAlive pid => exact ⟨true, trivial⟩
  | pidStartTicks pid => exact ⟨.ok 0, trivial⟩
  | run arguments | writeFile slot data => exact ⟨none, trivial⟩
  | sleep duration => exact ⟨(), trivial⟩

theorem clock_forward {time : Int} {call : Call} {answer : Answer call}
    (permitted : clock.permits time call answer) : time ≤ clock.after time call answer := by
  cases call with
  | now => exact permitted
  | sleep duration =>
    have waited : time + max duration 0 = clock.after time (.sleep duration) answer := rfl
    omega
  | _ => exact Int.le_refl time

/-- The smallest number of delays that is not shorter than the wait budget, and one more. -/
def attemptBound (opts : Options) : Nat :=
  ((opts.waitBudget + opts.backoff - 1) / opts.backoff).toNat + 1

section

variable {codec : RecordCodec} {opts : Options} {self : Int}

theorem acquireLoop_bounded {deadline : Int} (positive : 0 < opts.backoff) {left fuel : Nat}
    (enough : left < fuel) (trace : List AdmitEvent) {time : Int}
    (near : deadline ≤ time + left * opts.backoff) :
    (acquireLoop codec opts self deadline fuel).Satisfies clock (Program.asking True)
      (fun _ trace' _ => attempts trace' ≤ attempts trace + left + 1) trace time := by
  induction fuel generalizing left trace time with
  | zero => omega
  | succ fuel induction =>
    unfold acquireLoop
    apply Program.satisfies_asking_perform fun _ => clock_answered _ _
    intro stopped _
    have before : attempts (trace ++ [⟨.ctxErr, stopped⟩]) = attempts trace := by
      rw [attempts_append]
      rfl
    cases stopped with
    | some error =>
      change attempts _ ≤ _
      omega
    | none =>
      apply Program.satisfies_bind.mpr
      apply (tryAcquireHeavy_ends.plays fun _ => clock_answered).mono
      intro attempt trace' world found
      rcases found with ⟨events, rfl, attempted, plays⟩
      have later : time ≤ world := plays.preserves
        (fun _ _ _ holds permitted => Int.le_trans holds (clock_forward permitted))
        (Int.le_refl time)
      have one : attempts (trace ++ [⟨.ctxErr, none⟩] ++ events) = attempts trace + 1 := by
        rw [attempts_append, before, attempted.attempts]
      cases clean : attempt.err with
      | some error =>
        change attempts _ ≤ _
        omega
      | none =>
        cases granted : attempt.admission with
        | some admission =>
          change attempts _ ≤ _
          omega
        | none =>
          dsimp only
          rw [if_neg (by simp [attempted.retry clean granted])]
          apply Program.satisfies_asking_perform fun _ => clock_answered _ _
          intro (now : Int) permitted
          have passed : world ≤ now := permitted
          have two : attempts (trace ++ [⟨.ctxErr, none⟩] ++ events ++ [⟨.now, now⟩]) =
            attempts trace + 1 := by
            rw [attempts_append, one]
            rfl
          by_cases early : now < deadline
          · rw [if_neg (by simp [early])]
            apply Program.satisfies_asking_perform fun _ => clock_answered _ _
            intro answer _
            cases left with
            | zero => omega
            | succ left =>
              have less : left < fuel := by omega
              rw [Int.natCast_succ, Int.add_mul, Int.one_mul] at near
              have closer : deadline ≤
                now + max opts.backoff 0 + left * opts.backoff := by omega
              apply (induction less _ closer).mono
              intro _ trace' _ few
              rw [attempts_append, two] at few
              have none : attempts [⟨.sleep opts.backoff, answer⟩] = 0 := rfl
              omega
          · rw [if_pos (by simp [early])]
            change attempts _ ≤ _
            omega

theorem budget_le (positive : 0 < opts.backoff) :
    opts.waitBudget ≤ ((opts.waitBudget + opts.backoff - 1) / opts.backoff).toNat * opts.backoff := by
  have above := Int.lt_ediv_add_one_mul_self (opts.waitBudget + opts.backoff - 1) positive
  rw [Int.add_mul, Int.one_mul] at above
  have covered : (opts.waitBudget + opts.backoff - 1) / opts.backoff * opts.backoff ≤
    ((opts.waitBudget + opts.backoff - 1) / opts.backoff).toNat * opts.backoff :=
    Int.mul_le_mul_of_nonneg_right (Int.self_le_toNat _) (Int.le_of_lt positive)
  omega

/-- A heavy call makes a bounded number of attempts and returns, and what it holds then is what
it has been granted. -/
theorem acquire_settles {fuel : Nat} (heavy : (applyDefaults opts).weight = .heavy)
    (budget : 0 < opts.waitBudget) (backoff : 0 < opts.backoff) (enough : attemptBound opts ≤ fuel)
    (start : Int) :
    (acquire codec self fuel opts).Satisfies clock (Program.asking True)
      (fun result trace _ => attempts trace ≤ attemptBound opts ∧
        Settled codec (applyDefaults opts) self trace result) [] start := by
  have sameBudget : (applyDefaults opts).waitBudget = opts.waitBudget :=
    if_neg (Int.not_le.mpr budget)
  have sameBackoff : (applyDefaults opts).backoff = opts.backoff :=
    if_neg (Int.not_le.mpr backoff)
  unfold acquire
  dsimp only
  cases valid : validate (applyDefaults opts) with
  | some error => exact ⟨Nat.zero_le _, rfl⟩
  | none =>
    dsimp only
    rw [if_neg (by simp [heavy])]
    apply Program.satisfies_asking_perform fun _ => clock_answered _ _
    intro (time : Int) _
    have near : time + (applyDefaults opts).waitBudget ≤ time +
      ((opts.waitBudget + opts.backoff - 1) / opts.backoff).toNat * (applyDefaults opts).backoff := by
      rw [sameBudget, sameBackoff]
      exact Int.add_le_add_left (budget_le backoff) time
    apply (acquireLoop_bounded (sameBackoff ▸ backoff) enough _ near).replay.mono
    intro result trace world found
    rcases found with ⟨⟨events, rfl, execution⟩, few⟩
    rcases (acquireLoop_course fuel []).returns execution with ⟨_, rfl, course⟩
    constructor
    · have none : attempts ([] ++ [⟨.now, time⟩]) = 0 := rfl
      rw [attemptBound]
      omega
    · have none : held [⟨.now, time⟩] = [] := rfl
      exact course.settled.after none

end

namespace Sample

def codec : RecordCodec where
  marshal record := .ok record.unit.toList
  unmarshal _ := .error (.text "invalid character")
  presentable _ := True
  marshals record _ := ⟨record.unit.toList, rfl⟩
  some_presentable := ⟨0, trivial⟩

def job : Options where
  maxHeavy := 0
  slotPrefix := ""
  dockerSlotPath := ""
  weight := .other ""
  exclusive := "docker"
  waitBudget := 1000
  backoff := 300

end Sample

open Sample in
theorem job_settles_in_five_attempts : attemptBound job = 5 ∧
    (acquire codec 4711 5 job).Satisfies clock (Program.asking True)
      (fun result trace _ => attempts trace ≤ attemptBound job ∧
        Settled codec (applyDefaults job) 4711 trace result) [] 0 :=
  ⟨by decide, acquire_settles rfl (by decide) (by decide) (by decide) 0⟩

end Civm.Admit
