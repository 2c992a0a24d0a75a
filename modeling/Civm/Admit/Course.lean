import Civm.Admit.Acquire
import Civm.Foundation.Outcomes

/-! # The course of an admission

What an attempt comes to, with all of its calls, and what the loop of `Acquire` makes of it. -/

namespace Civm.Admit

abbrev AdmitEvent := Event Answer

/-- Calls that neither take nor release a slot, and do not start an attempt. -/
def isBeside : Call → Bool
  | .readFile _ | .pidAlive _ | .pidStartTicks _ | .run _ | .now | .writeFile _ _ => true
  | _ => false

def Beside (events : List AdmitEvent) : Prop := ∀ event ∈ events, isBeside event.call = true

theorem Beside.append {events more : List AdmitEvent} (first : Beside events)
    (second : Beside more) : Beside (events ++ more) := by
  intro event member
  rcases List.mem_append.mp member with member | member
  · exact first event member
  · exact second event member

section

variable {codec : RecordCodec} {opts : Options} {self : Int}

/-! ## An attempt -/

theorem stopUnit_ends (unit : String) :
    (stopUnit unit).Ends Program.everything fun _ events => Beside events := by
  unfold stopUnit
  rw [Program.ends_ite]
  constructor
  · intro _
    exact Program.ends_pure.mpr nofun
  · intro _
    rw [Program.ends_ite]
    constructor
    · intro _
      exact Program.ends_pure.mpr nofun
    · intro _
      rw [Program.ends_perform]
      intro answer
      apply Program.ends_pure.mpr
      simp [Beside, Program.everything, isBeside]

theorem isHolderAlive_ends (record : SlotRecord) :
    (isHolderAlive record).Ends Program.everything fun _ events => Beside events := by
  unfold isHolderAlive
  rw [Program.ends_perform]
  intro alive
  rw [Program.ends_ite]
  constructor
  · intro _
    apply Program.ends_pure.mpr
    simp [Beside, Program.everything, isBeside]
  · intro _
    rw [Program.ends_ite]
    constructor
    · intro _
      apply Program.ends_pure.mpr
      simp [Beside, Program.everything, isBeside]
    · intro _
      rw [Program.ends_perform]
      intro ticks
      cases ticks with
      | error error =>
        apply Program.ends_pure.mpr
        simp [Beside, Program.everything, isBeside]
      | ok ticks =>
        apply Program.ends_pure.mpr
        simp [Beside, Program.everything, isBeside]

theorem readSlotRecord_ends (slot : Slot) :
    (readSlotRecord codec opts slot).Ends Program.everything fun _ events => Beside events := by
  unfold readSlotRecord
  rw [Program.ends_perform]
  intro content
  have beside : Beside [⟨.readFile slot, content⟩] := by simp [Beside, isBeside]
  cases content with
  | error error =>
    rw [Program.ends_ite]
    exact ⟨fun _ => Program.ends_pure.mpr beside, fun _ => Program.ends_pure.mpr beside⟩
  | ok data =>
    rw [Program.ends_ite]
    constructor
    · intro _
      exact Program.ends_pure.mpr beside
    · intro _
      cases codec.unmarshal data with
      | error error | ok record => exact Program.ends_pure.mpr beside

theorem reapOrphan_ends (slot : Slot) :
    (reapOrphan codec opts slot).Ends Program.everything fun _ events => Beside events := by
  unfold reapOrphan
  apply (readSlotRecord_ends slot).bind
  intro found events read
  have alone : Beside (events ++ []) := by rwa [List.append_nil]
  cases found with
  | error error => exact Program.ends_pure.mpr alone
  | ok found =>
    cases found with
    | none => exact Program.ends_pure.mpr alone
    | some record =>
      dsimp only
      rw [Program.ends_ite]
      constructor
      · intro _
        exact Program.ends_pure.mpr alone
      · intro _
        apply (isHolderAlive_ends record).bind
        intro alive more probed
        rw [Program.ends_ite]
        constructor
        · intro _
          apply Program.ends_pure.mpr
          rw [List.append_nil]
          exact read.append probed
        · intro _
          apply (stopUnit_ends record.unit).mono
          intro _ last stopped
          exact read.append (probed.append stopped)

/-- The outcome of `grabFreeSlot` from a slot on. -/
inductive Grabbed (opts : Options) :
    Nat → Nat → Except Error (Option Nat) → List AdmitEvent → Prop
  | none {index : Nat} : Grabbed opts 0 index (.ok none) []
  | busy {left index : Nat} {error : Error} {result : Except Error (Option Nat)}
    {events : List AdmitEvent} (contended : error.is .slotBusy = true)
    (rest : Grabbed opts left (index + 1) result events) :
    Grabbed opts (left + 1) index result (⟨.flock (.heavy index), some error⟩ :: events)
  | failed {left index : Nat} {error : Error} (other : error.is .slotBusy = false) :
    Grabbed opts (left + 1) index (.error (slotError opts (.heavy index) error))
      [⟨.flock (.heavy index), some error⟩]
  | taken {left index : Nat} {events : List AdmitEvent} (reaped : Beside events) :
    Grabbed opts (left + 1) index (.ok (some index)) (⟨.flock (.heavy index), none⟩ :: events)

theorem grabFrom_ends (left index : Nat) :
    (grabFrom codec opts left index).Ends Program.everything (Grabbed opts left index) := by
  induction left generalizing index with
  | zero => exact Program.ends_pure.mpr .none
  | succ left induction =>
    unfold grabFrom
    rw [Program.ends_perform]
    intro answer
    cases answer with
    | some error =>
      rw [Program.ends_ite]
      constructor
      · intro contended
        apply (induction (index + 1)).mono
        intro result events grabbed
        exact .busy contended grabbed
      · intro other
        exact Program.ends_pure.mpr (.failed (Bool.eq_false_iff.mpr other))
    | none =>
      apply (reapOrphan_ends (.heavy index)).bind
      intro _ events reaped
      apply Program.ends_pure.mpr
      rw [List.append_nil]
      exact .taken reaped

def dockerTaken (opts : Options) : List AdmitEvent :=
  if opts.exclusive = "docker" then [⟨.flock .docker, none⟩] else []

def dockerReleased (opts : Options) : List AdmitEvent :=
  if opts.exclusive = "docker" then [⟨.release .docker, ()⟩] else []

/-- The outcome of `writeSlotRecord`. -/
inductive Recorded (codec : RecordCodec) (self : Int) (slot : Slot) (unit : String) :
    Option Error → List AdmitEvent → Prop
  | unmarshalled {error cause : Error} {ticks : Except Error Nat} {now : Int}
    (failed : codec.marshal ⟨unit, self, startTicksOf ticks, now⟩ = .error cause) :
    Recorded codec self slot unit (some error) [⟨.pidStartTicks self, ticks⟩, ⟨.now, now⟩]
  | unwritten {error cause : Error} {ticks : Except Error Nat} {now : Int} {data : List Char} :
    Recorded codec self slot unit (some error)
      [⟨.pidStartTicks self, ticks⟩, ⟨.now, now⟩, ⟨.writeFile slot data, some cause⟩]
  | written {ticks : Except Error Nat} {now : Int} {data : List Char}
    (marshalled : codec.marshal ⟨unit, self, startTicksOf ticks, now⟩ = .ok data) :
    Recorded codec self slot unit none
      [⟨.pidStartTicks self, ticks⟩, ⟨.now, now⟩, ⟨.writeFile slot data, none⟩]

theorem Recorded.beside {slot : Slot} {unit : String} {failure : Option Error}
    {events : List AdmitEvent} (recorded : Recorded codec self slot unit failure events) :
    Beside events := by
  cases recorded <;> simp [Beside, isBeside]

/-- The outcome of an attempt that has a slot. -/
inductive Occupied (codec : RecordCodec) (opts : Options) (self : Int) (index : Nat) :
    Attempt → List AdmitEvent → Prop
  | undocked {error : Error} :
    Occupied codec opts self index ⟨none, true, none⟩
      [⟨.flock .docker, some error⟩, ⟨.release (.heavy index), ()⟩]
  | unrecorded {error : Error} {events stopped : List AdmitEvent}
    (recorded : Recorded codec self (.heavy index) (admissionFor opts self index).unit
      (some error) events) (beside : Beside stopped) :
    Occupied codec opts self index ⟨none, false, some error⟩
      (dockerTaken opts ++ events ++ stopped ++ dockerReleased opts ++
        [⟨.release (.heavy index), ()⟩])
  | admitted {events : List AdmitEvent}
    (recorded : Recorded codec self (.heavy index) (admissionFor opts self index).unit none
      events) :
    Occupied codec opts self index ⟨some (admissionFor opts self index), false, none⟩
      (dockerTaken opts ++ events)

theorem release_ends (index : Nat) :
    (admissionFor opts self index).release.Ends Program.everything fun _ events => ∃ stopped, Beside stopped ∧
        events = stopped ++ dockerReleased opts ++ [⟨.release (.heavy index), ()⟩] := by
  unfold Admission.release dockerReleased admissionFor
  rw [if_neg (by simp)]
  apply (stopUnit_ends _).bind
  intro _ stopped beside
  by_cases docker : opts.exclusive = "docker"
  · simp only [docker, decide_true, if_true]
    rw [Program.ends_perform]
    intro _
    rw [Program.ends_perform]
    intro _
    exact Program.ends_pure.mpr ⟨stopped, beside, by simp [Program.everything]⟩
  · simp only [docker, decide_false, if_false, Bool.false_eq_true]
    rw [Program.ends_perform]
    intro _
    exact Program.ends_pure.mpr ⟨stopped, beside, by simp [Program.everything]⟩

theorem writeSlotRecord_ends (slot : Slot) (unit : String) :
    (writeSlotRecord codec opts self slot unit).Ends Program.everything
      (Recorded codec self slot unit) := by
  unfold writeSlotRecord
  rw [Program.ends_perform]
  intro ticks
  rw [Program.ends_perform]
  intro now
  cases marshalled : codec.marshal ⟨unit, self, startTicksOf ticks, now⟩ with
  | error error => exact Program.ends_pure.mpr (.unmarshalled marshalled)
  | ok data =>
    dsimp only
    rw [Program.ends_perform]
    intro written
    cases written with
    | some error => exact Program.ends_pure.mpr .unwritten
    | none => exact Program.ends_pure.mpr (.written marshalled)

theorem reserve_ends (index : Nat) :
    (reserve codec opts self index).Ends Program.everything fun attempt events =>
      Occupied codec opts self index attempt (dockerTaken opts ++ events) := by
  unfold reserve
  apply (writeSlotRecord_ends (.heavy index) _).bind
  intro failure events recorded
  cases failure with
  | some error =>
    apply (release_ends index).bind
    intro _ released ending
    rcases ending with ⟨stopped, beside, rfl⟩
    apply Program.ends_pure.mpr
    simpa using Occupied.unrecorded recorded beside
  | none =>
    apply Program.ends_pure.mpr
    rw [List.append_nil]
    exact Occupied.admitted recorded

theorem occupy_ends (index : Nat) :
    (occupy codec opts self index).Ends Program.everything (Occupied codec opts self index) := by
  unfold occupy grabDockerSubSlot
  have rest : (reserve codec opts self index).Ends Program.everything _ := reserve_ends index
  by_cases docker : opts.exclusive = "docker"
  · rw [if_neg (not_not_intro docker), bind_assoc, Program.ends_perform]
    intro answer
    cases answer with
    | some error =>
      rw [pure_bind, Program.ends_perform]
      intro _
      exact Program.ends_pure.mpr .undocked
    | none =>
      rw [dockerTaken, if_pos docker] at rest
      exact rest
  · rw [if_pos docker, pure_bind]
    rw [dockerTaken, if_neg docker] at rest
    exact rest

inductive Attempted (codec : RecordCodec) (opts : Options) (self : Int) :
    Attempt → List AdmitEvent → Prop
  | unchecked {error : Error} : Attempted codec opts self
    ⟨none, true, some (.wrap "admit: watchdog check failed (fail-closed): " error "")⟩
    [⟨.check, .error error⟩]
  | pressed {decision : Decision} (pressure : decision ≠ .ok) :
    Attempted codec opts self ⟨none, true, none⟩ [⟨.check, .ok decision⟩]
  | failed {error : Error} {events : List AdmitEvent}
    (grabbed : Grabbed opts opts.maxHeavy.toNat 1 (.error error) events) :
    Attempted codec opts self ⟨none, false, some error⟩ (⟨.check, .ok .ok⟩ :: events)
  | busy {events : List AdmitEvent} (grabbed : Grabbed opts opts.maxHeavy.toNat 1 (.ok none) events) :
    Attempted codec opts self ⟨none, true, none⟩ (⟨.check, .ok .ok⟩ :: events)
  | occupied {index : Nat} {attempt : Attempt} {events more : List AdmitEvent}
    (grabbed : Grabbed opts opts.maxHeavy.toNat 1 (.ok (some index)) events)
    (occupied : Occupied codec opts self index attempt more) :
    Attempted codec opts self attempt (⟨.check, .ok .ok⟩ :: (events ++ more))

theorem tryAcquireHeavy_ends :
    (tryAcquireHeavy codec opts self).Ends Program.everything (Attempted codec opts self) := by
  unfold tryAcquireHeavy
  rw [Program.ends_perform]
  intro checked
  cases checked with
  | error error => exact Program.ends_pure.mpr .unchecked
  | ok decision =>
    rw [Program.ends_ite]
    constructor
    · intro pressure
      apply Program.ends_pure.mpr
      apply Attempted.pressed
      rcases pressure with rfl | rfl <;> decide
    · intro free
      obtain rfl : decision = .ok := by
        cases decision <;> simp_all
      apply (grabFrom_ends opts.maxHeavy.toNat 1).bind
      intro result events grabbed
      cases result with
      | error error =>
        apply Program.ends_pure.mpr
        rw [List.append_nil]
        exact .failed grabbed
      | ok found =>
        cases found with
        | none =>
          apply Program.ends_pure.mpr
          rw [List.append_nil]
          exact .busy grabbed
        | some index =>
          apply (occupy_ends index).mono
          intro attempt more occupied
          have attempted := Attempted.occupied grabbed occupied
          exact attempted

theorem Attempted.retry {attempt : Attempt} {events : List AdmitEvent}
    (attempted : Attempted codec opts self attempt events) (clean : attempt.err = none)
    (empty : attempt.admission = none) : attempt.retry = true := by
  cases attempted with
  | unchecked | pressed => rfl
  | failed => cases clean
  | busy => rfl
  | occupied grabbed occupied =>
    cases occupied with
    | undocked => rfl
    | unrecorded => cases clean
    | admitted => cases empty

/-- The course of the loop up to its return. -/
inductive Course (codec : RecordCodec) (opts : Options) (self : Int) (deadline : Int) :
    Except Error Admission → List AdmitEvent → Prop
  | interrupted {error : Error} :
    Course codec opts self deadline (.error (.wrap "admit: " error "")) [⟨.ctxErr, some error⟩]
  | failed {attempt : Attempt} {error : Error} {events : List AdmitEvent}
    (attempted : Attempted codec opts self attempt events) (err : attempt.err = some error) :
    Course codec opts self deadline (.error error) (⟨.ctxErr, none⟩ :: events)
  | admitted {attempt : Attempt} {admission : Admission} {events : List AdmitEvent}
    (attempted : Attempted codec opts self attempt events) (clean : attempt.err = none)
    (granted : attempt.admission = some admission) :
    Course codec opts self deadline (.ok admission) (⟨.ctxErr, none⟩ :: events)
  | expired {attempt : Attempt} {events : List AdmitEvent} {time : Int}
    (attempted : Attempted codec opts self attempt events) (clean : attempt.err = none)
    (empty : attempt.admission = none) (late : ¬time < deadline) :
    Course codec opts self deadline (.error (.sentinel .waitBudgetExceeded))
      (⟨.ctxErr, none⟩ :: (events ++ [⟨.now, time⟩]))
  | again {attempt : Attempt} {events rest : List AdmitEvent} {time : Int}
    {result : Except Error Admission} (attempted : Attempted codec opts self attempt events)
    (clean : attempt.err = none) (empty : attempt.admission = none) (early : time < deadline)
    (course : Course codec opts self deadline result rest) :
    Course codec opts self deadline result
      (⟨.ctxErr, none⟩ :: (events ++ ⟨.now, time⟩ :: ⟨.sleep opts.backoff, ()⟩ :: rest))

theorem acquireLoop_course {deadline : Int} (fuel : Nat) (trace : List AdmitEvent) :
    (acquireLoop codec opts self deadline fuel).Satisfies .any (Program.asking False)
      (fun result trace' _ => ∃ events, trace' = trace ++ events ∧
        Course codec opts self deadline result events) trace () := by
  induction fuel generalizing trace with
  | zero => exact ⟨trivial, not_false⟩
  | succ fuel induction =>
    unfold acquireLoop
    apply Program.satisfies_asking_perform nofun
    intro stopped _
    cases stopped with
    | some error => exact ⟨_, rfl, .interrupted⟩
    | none =>
      apply Program.satisfies_bind.mpr
      apply (tryAcquireHeavy_ends.plays nofun).mono
      intro attempt trace' world found
      rcases found with ⟨events, rfl, attempted, _⟩
      cases clean : attempt.err with
      | some error => exact ⟨_, List.append_assoc _ _ _, .failed attempted clean⟩
      | none =>
        cases granted : attempt.admission with
        | some admission =>
          exact ⟨_, List.append_assoc _ _ _, .admitted attempted clean granted⟩
        | none =>
          dsimp only
          rw [if_neg (by simp [attempted.retry clean granted])]
          apply Program.satisfies_asking_perform nofun
          intro time _
          by_cases early : time < deadline
          · rw [if_neg (by simp [early])]
            apply Program.satisfies_asking_perform nofun
            intro _ _
            apply (induction _).mono
            intro result trace' world later
            rcases later with ⟨rest, rfl, course⟩
            apply Exists.intro _
            apply And.intro _ (.again attempted clean granted early course)
            simp
          · rw [if_pos (by simp [early])]
            apply Exists.intro _
            apply And.intro _ (.expired attempted clean granted early)
            simp

end

end Civm.Admit
