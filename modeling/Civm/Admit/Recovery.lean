import Civm.Admit.Resources
import Civm.Foundation.Play

/-! # Recovery and errors

Whether an admission is granted once the watchdog has no more trouble, and what becomes of the
errors of `FlockFn`. -/

namespace Civm.Admit

/-! ## Errors of the slots -/

/-- After an error of `FlockFn` that is not contention there is no other attempt, and the call
returns that error. -/
def ErrorsReturned (result : Except Error Admission) : List AdmitEvent → Prop
  | [] => True
  | event :: after => (∀ slot error, event = ⟨.flock slot, some error⟩ →
    error.is .slotBusy = false → (∀ other ∈ after, other.call ≠ .ctxErr) ∧
      ∃ text, result = .error (.wrap text error "")) ∧ ErrorsReturned result after

/-- Whatever fails, it is contention. -/
def Contended (events : List AdmitEvent) : Prop :=
  ∀ slot error, ⟨.flock slot, some error⟩ ∈ events → error.is .slotBusy = true

/-- The slot for docker fails by contention only. -/
def DockerContended (events : List AdmitEvent) : Prop :=
  ∀ error, ⟨.flock .docker, some error⟩ ∈ events → error.is .slotBusy = true

section

variable {codec : RecordCodec} {opts : Options} {self : Int} {result : Except Error Admission}
variable {events more : List AdmitEvent}

theorem dockerContended_append :
    DockerContended (events ++ more) ↔ DockerContended events ∧ DockerContended more := by
  simp only [DockerContended, List.mem_append, or_imp, forall_and]

theorem errorsReturned_append (hidden : (∃ event ∈ more, event.call = .ctxErr) ∨
      ∀ text error, result ≠ .error (.wrap text error "")) :
    ErrorsReturned result (events ++ more) ↔ Contended events ∧ ErrorsReturned result more := by
  induction events with
  | nil => simp [Contended]
  | cons event rest induction =>
    rw [List.cons_append, ErrorsReturned, induction, ← and_assoc, and_congr_left_iff]
    intro _
    constructor
    · intro returned slot error member
      rcases List.mem_cons.mp member with same | member
      · by_contra other
        rcases returned.1 slot error same.symm (Bool.eq_false_iff.mpr other) with
          ⟨quiet, text, equal⟩
        rcases hidden with ⟨event, among, asked⟩ | different
        · exact quiet event (List.mem_append_right rest among) asked
        · exact different text error equal
      · exact returned.2 slot error member
    · intro contended
      constructor
      · intro slot error same other
        have busy := contended slot error (List.mem_cons.mpr (Or.inl same.symm))
        rw [busy] at other
        cases other
      · intro slot error member
        exact contended slot error (List.mem_cons_of_mem event member)

theorem errorsReturned_of_last (quiet : ∀ event ∈ events, event.call ≠ .ctxErr)
    (last : ∀ slot error, ⟨.flock slot, some error⟩ ∈ events → error.is .slotBusy = false →
      ∃ text, result = .error (.wrap text error "")) : ErrorsReturned result events := by
  induction events with
  | nil => trivial
  | cons event rest induction =>
    rw [List.forall_mem_cons] at quiet
    constructor
    · intro slot error same other
      exact ⟨quiet.2, last slot error (List.mem_cons.mpr (Or.inl same.symm)) other⟩
    · apply induction quiet.2
      intro slot error member
      exact last slot error (List.mem_cons_of_mem event member)

/-! ### An attempt -/

theorem Beside.notMem_flock (beside : Beside events) {slot : Slot} {answer : Option Error} :
    ⟨.flock slot, answer⟩ ∉ events := fun member => by cases beside _ member

theorem Grabbed.error {left index : Nat} {found : Except Error (Option Nat)} {slot : Slot}
    {error : Error} (grabbed : Grabbed opts left index found events)
    (member : ⟨.flock slot, some error⟩ ∈ events) (other : error.is .slotBusy = false) :
    slot ≠ .docker ∧ found = .error (slotError opts slot error) := by
  induction grabbed with
  | none => cases member
  | busy contended rest induction =>
    rcases List.mem_cons.mp member with same | member
    · cases same
      rw [contended] at other
      cases other
    · exact induction member
  | failed =>
    cases List.mem_singleton.mp member
    exact ⟨nofun, rfl⟩
  | taken reaped =>
    rcases List.mem_cons.mp member with same | member
    · cases same
    · exact absurd member reaped.notMem_flock

theorem notMem_dockerTaken {slot : Slot} {error : Error} :
    ⟨.flock slot, some error⟩ ∉ dockerTaken opts := by
  unfold dockerTaken
  split
  · intro member
    cases List.mem_singleton.mp member
  · exact List.not_mem_nil

theorem notMem_dockerReleased {slot : Slot} {answer : Option Error} :
    ⟨.flock slot, answer⟩ ∉ dockerReleased opts := by
  unfold dockerReleased
  split
  · intro member
    cases List.mem_singleton.mp member
  · exact List.not_mem_nil

theorem Occupied.error {index : Nat} {attempt : Attempt} {slot : Slot} {error : Error}
    (occupied : Occupied codec opts self index attempt events)
    (member : ⟨.flock slot, some error⟩ ∈ events) :
    slot = .docker ∧ attempt.err = none ∧ attempt.admission = none := by
  cases occupied with
  | undocked =>
    rcases List.mem_cons.mp member with same | member
    · cases same
      exact ⟨rfl, rfl, rfl⟩
    · cases List.mem_singleton.mp member
  | unrecorded recorded beside =>
    simp only [List.mem_append, notMem_dockerTaken, recorded.beside.notMem_flock,
      beside.notMem_flock, notMem_dockerReleased, false_or] at member
    cases List.mem_singleton.mp member
  | admitted recorded =>
    simp only [List.mem_append, notMem_dockerTaken, recorded.beside.notMem_flock, false_or]
      at member

/-- An error of a slot that is not contention ends the attempt with it, unless the slot is that
for docker. -/
theorem Attempted.error {attempt : Attempt} {slot : Slot} {error : Error}
    (attempted : Attempted codec opts self attempt events)
    (member : ⟨.flock slot, some error⟩ ∈ events) (other : error.is .slotBusy = false) :
    slot = .docker ∧ attempt.err = none ∧ attempt.admission = none ∨
      slot ≠ .docker ∧ attempt.err = some (slotError opts slot error) := by
  cases attempted with
  | unchecked | pressed => cases List.mem_singleton.mp member
  | failed grabbed =>
    rcases List.mem_cons.mp member with same | member
    · cases same
    · rcases grabbed.error member other with ⟨heavy, equal⟩
      cases equal
      exact Or.inr ⟨heavy, rfl⟩
  | busy grabbed =>
    rcases List.mem_cons.mp member with same | member
    · cases same
    · cases (grabbed.error member other).2
  | occupied grabbed occupied =>
    rcases List.mem_cons.mp member with same | member
    · cases same
    · rcases List.mem_append.mp member with member | member
      · cases (grabbed.error member other).2
      · exact Or.inl (occupied.error member)

theorem Beside.notMem_ctxErr (beside : Beside events) : ∀ event ∈ events, event.call ≠ .ctxErr := by
  intro event member same
  have aside := beside event member
  rw [same] at aside
  cases aside

theorem Grabbed.notMem_ctxErr {left index : Nat} {found : Except Error (Option Nat)}
    (grabbed : Grabbed opts left index found events) : ∀ event ∈ events, event.call ≠ .ctxErr := by
  induction grabbed with
  | none => exact nofun
  | busy contended rest induction => exact List.forall_mem_cons.mpr ⟨nofun, induction⟩
  | failed => exact List.forall_mem_cons.mpr ⟨nofun, nofun⟩
  | taken reaped => exact List.forall_mem_cons.mpr ⟨nofun, reaped.notMem_ctxErr⟩

theorem dockerTaken_notMem_ctxErr : ∀ event ∈ dockerTaken opts, event.call ≠ .ctxErr := by
  unfold dockerTaken
  split
  · exact List.forall_mem_cons.mpr ⟨nofun, nofun⟩
  · exact nofun

theorem dockerReleased_notMem_ctxErr : ∀ event ∈ dockerReleased opts, event.call ≠ .ctxErr := by
  unfold dockerReleased
  split
  · exact List.forall_mem_cons.mpr ⟨nofun, nofun⟩
  · exact nofun

theorem Occupied.notMem_ctxErr {index : Nat} {attempt : Attempt}
    (occupied : Occupied codec opts self index attempt events) :
    ∀ event ∈ events, event.call ≠ .ctxErr := by
  cases occupied with
  | undocked => simp
  | unrecorded recorded beside =>
    simp only [List.forall_mem_append]
    exact ⟨⟨⟨⟨dockerTaken_notMem_ctxErr, recorded.beside.notMem_ctxErr⟩, beside.notMem_ctxErr⟩,
      dockerReleased_notMem_ctxErr⟩, by simp⟩
  | admitted recorded =>
    rw [List.forall_mem_append]
    exact ⟨dockerTaken_notMem_ctxErr, recorded.beside.notMem_ctxErr⟩

theorem Attempted.notMem_ctxErr {attempt : Attempt}
    (attempted : Attempted codec opts self attempt events) :
    ∀ event ∈ events, event.call ≠ .ctxErr := by
  cases attempted with
  | unchecked | pressed => exact List.forall_mem_cons.mpr ⟨nofun, nofun⟩
  | failed grabbed | busy grabbed => exact List.forall_mem_cons.mpr ⟨nofun, grabbed.notMem_ctxErr⟩
  | occupied grabbed occupied =>
    rw [List.forall_mem_cons, List.forall_mem_append]
    exact ⟨nofun, grabbed.notMem_ctxErr, occupied.notMem_ctxErr⟩

/-! ### The loop -/

theorem Course.starts {deadline : Int} (course : Course codec opts self deadline result events) :
    ∃ event ∈ events, event.call = .ctxErr := by
  cases course <;> exact ⟨_, List.mem_cons_self, rfl⟩

theorem Attempted.contended_iff {attempt : Attempt}
    (attempted : Attempted codec opts self attempt events) (clean : attempt.err = none) :
    Contended events ↔ DockerContended events := by
  constructor
  · intro contended error
    exact contended .docker error
  · intro docker slot error member
    by_contra other
    rcases attempted.error member (Bool.eq_false_iff.mpr other) with ⟨rfl, _⟩ | ⟨_, failed⟩
    · exact other (docker error member)
    · rw [clean] at failed
      cases failed

/-- An attempt that ends the call does so with every error that is not contention. -/
theorem Attempted.errorsReturned {attempt : Attempt}
    (attempted : Attempted codec opts self attempt events)
    (ends : attempt.err ≠ none ∨ attempt.admission ≠ none)
    (same : ∀ error, attempt.err = some error → result = .error error) :
    ErrorsReturned result events ↔ DockerContended events := by
  have failed {slot : Slot} {error : Error} (member : ⟨.flock slot, some error⟩ ∈ events)
    (other : error.is .slotBusy = false) :
    slot ≠ .docker ∧ attempt.err = some (slotError opts slot error) := by
    rcases attempted.error member other with ⟨_, clean, empty⟩ | failed
    · rcases ends with ends | ends
      · exact absurd clean ends
      · exact absurd empty ends
    · exact failed
  apply iff_of_true
  · apply errorsReturned_of_last attempted.notMem_ctxErr
    intro slot error member other
    exact ⟨_, same _ (failed member other).2⟩
  · intro error member
    by_contra other
    exact (failed member (Bool.eq_false_iff.mpr other)).1 rfl

theorem errorsReturned_cons {event : AdmitEvent} (other : ∀ slot, event.call ≠ .flock slot) :
    ErrorsReturned result (event :: events) ↔ ErrorsReturned result events := by
  apply and_iff_right
  intro slot error same
  exact absurd (congrArg Event.call same) (other slot)

theorem dockerContended_cons {event : AdmitEvent} (other : ∀ slot, event.call ≠ .flock slot) :
    DockerContended (event :: events) ↔ DockerContended events := by
  constructor
  · intro docker error member
    exact docker error (List.mem_cons_of_mem event member)
  · intro docker error member
    rcases List.mem_cons.mp member with same | member
    · exact absurd (congrArg Event.call same.symm) (other .docker)
    · exact docker error member

theorem Course.errorsReturned_iff {deadline : Int}
    (course : Course codec opts self deadline result events) :
    ErrorsReturned result events ↔ DockerContended events := by
  induction course with
  | interrupted =>
    rw [errorsReturned_cons (by simp), dockerContended_cons (by simp)]
    exact iff_of_true trivial nofun
  | failed attempted err =>
    rw [errorsReturned_cons (by simp), dockerContended_cons (by simp)]
    apply attempted.errorsReturned (Or.inl (by simp [err]))
    intro error same
    rw [err] at same
    rw [Option.some.inj same]
  | admitted attempted clean granted =>
    rw [errorsReturned_cons (by simp), dockerContended_cons (by simp)]
    apply attempted.errorsReturned (Or.inr (by simp [granted]))
    intro error same
    rw [clean] at same
    cases same
  | expired attempted clean =>
    rw [errorsReturned_cons (by simp), dockerContended_cons (by simp), dockerContended_append,
      errorsReturned_append (Or.inr (by simp)), attempted.contended_iff clean,
      errorsReturned_cons (by simp), dockerContended_cons (by simp)]
    exact and_congr_right fun _ => iff_of_true trivial nofun
  | @again _ _ rest time _ attempted clean empty early course induction =>
    rcases course.starts with ⟨event, member, asked⟩
    have later : event ∈ ⟨.now, time⟩ :: ⟨.sleep opts.backoff, ()⟩ :: rest :=
      List.mem_cons_of_mem _ (List.mem_cons_of_mem _ member)
    rw [errorsReturned_cons (by simp), dockerContended_cons (by simp), dockerContended_append,
      errorsReturned_append (Or.inl ⟨event, later, asked⟩), attempted.contended_iff clean,
      errorsReturned_cons (by simp), errorsReturned_cons (by simp), dockerContended_cons (by simp),
      dockerContended_cons (by simp), induction]

end

/-! ## Recovery -/

/-- A result of the watchdog that admits nothing. -/
inductive Trouble
  | failed (error : Error)
  | warn
  | critical

def Trouble.result : Trouble → Except Error Decision
  | .failed error => .error error
  | .warn => .ok .warn
  | .critical => .ok .critical

structure Scene where
  troubles : List Trouble
  /-- The watchdog has answered that the memory is sufficient. -/
  healthy : Bool
  started : Option Int

/-- The watchdog has some trouble, and none after it. Until then it is early, a slot is free and
the others are free or busy, the slot for docker is free, and the record can be written. -/
def favourable (codec : RecordCodec) (opts : Options) (free : Nat) : Outside Answer Scene where
  permits scene call answer :=
    match call, answer with
    | .ctxErr, answer => answer = none
    | .now, time => (scene.healthy = true → codec.presentable time) ∧
      (scene.healthy = false → ∀ start, scene.started = some start → time < start + opts.waitBudget)
    | .check, answer => answer = (scene.troubles.head?.elim (.ok .ok) Trouble.result)
    | .flock (.heavy index), answer => answer = none ∨
      index ≠ free ∧ ∃ error, answer = some error ∧ error.is .slotBusy = true
    | .flock .docker, answer => answer = none
    | .writeFile _ _, answer => answer = none
    | _, _ => True
  after scene call answer :=
    match call, answer with
    | .now, time => { scene with started := some (scene.started.getD time) }
    | .check, _ =>
      { scene with troubles := scene.troubles.tail, healthy := scene.troubles.isEmpty }
    | _, _ => scene

/-- Acquire returns an admission after the trouble. -/
def Recovers (codec : RecordCodec) (self : Int) (opts : Options) (free : Nat)
    (troubles : List Trouble) : Prop :=
  ∀ fuel, troubles.length < fuel →
    (acquire codec self fuel opts).Satisfies (favourable codec (applyDefaults opts) free)
      (Program.asking True) (fun result _ _ => ∃ admission, result = .ok admission) []
      ⟨troubles, false, none⟩

section

variable {codec : RecordCodec} {opts : Options} {self : Int} {free : Nat} {scene scene' : Scene}
variable {events : List AdmitEvent}

theorem favourable_answered (scene : Scene) (call : Call) :
    ∃ answer, (favourable codec opts free).permits scene call answer := by
  cases call with
  | now =>
    cases healthy : scene.healthy with
    | true =>
      rcases codec.some_presentable with ⟨time, presentable⟩
      exact ⟨time, fun _ => presentable, by simp [healthy]⟩
    | false =>
      apply Exists.intro (scene.started.getD 0 + opts.waitBudget - 1 : Int)
      apply And.intro (by simp [healthy])
      intro _ start started
      rw [started]
      change start + opts.waitBudget - 1 < start + opts.waitBudget
      omega
  | ctxErr => exact ⟨none, rfl⟩
  | check => exact ⟨_, rfl⟩
  | flock slot =>
    cases slot with
    | heavy index => exact ⟨none, Or.inl rfl⟩
    | docker => exact ⟨none, rfl⟩
  | release slot => exact ⟨(), trivial⟩
  | readFile slot => exact ⟨.ok [], trivial⟩
  | pidAlive pid => exact ⟨true, trivial⟩
  | pidStartTicks pid => exact ⟨.ok 0, trivial⟩
  | run arguments => exact ⟨none, trivial⟩
  | writeFile slot data => exact ⟨none, rfl⟩
  | sleep duration => exact ⟨(), trivial⟩

theorem Grabbed.found_of_free {left index : Nat} {found : Except Error (Option Nat)}
    (grabbed : Grabbed opts left index found events) (above : index ≤ free)
    (below : free < index + left) (plays : (favourable codec opts free).Plays scene events scene') :
    ∃ other, found = .ok (some other) := by
  induction grabbed generalizing scene with
  | none => omega
  | @busy left index error found events contended rest induction =>
    have permitted : some error = Option.none ∨ index ≠ free ∧ _ := plays.1
    rcases permitted with same | ⟨different, _⟩
    · cases same
    · exact induction (by omega) (by omega) plays.2
  | @failed left index error other =>
    have permitted : some error = Option.none ∨ _ ∧ ∃ cause, some error = some cause ∧ _ := plays.1
    rcases permitted with same | ⟨_, cause, same, busy⟩
    · cases same
    · cases same
      rw [busy] at other
      cases other
  | taken reaped => exact ⟨_, rfl⟩

def Over (scene : Scene) : Prop := scene.troubles = [] ∧ scene.healthy = true

theorem Over.plays (calm : Over scene)
    (plays : (favourable codec opts free).Plays scene events scene') : Over scene' := by
  apply plays.preserves _ calm
  intro scene call answer calm _
  cases call with
  | check => simp [favourable, Over, calm.1]
  | _ => exact calm

theorem Recorded.of_favourable {slot : Slot} {unit : String} {failure : Option Error}
    (recorded : Recorded codec self slot unit failure events)
    (plays : (favourable codec opts free).Plays scene events scene') (calm : Over scene) :
    failure = none := by
  cases recorded with
  | @unmarshalled error cause ticks now failed =>
    have presentable : codec.presentable now := plays.2.1.1 calm.2
    rcases codec.marshals ⟨unit, self, startTicksOf ticks, now⟩ presentable with ⟨data, marshalled⟩
    rw [marshalled] at failed
    cases failed
  | @unwritten error cause ticks now data =>
    have permitted : some cause = none := plays.2.2.1
    cases permitted
  | written marshalled => rfl

theorem Occupied.of_favourable {index : Nat} {attempt : Attempt}
    (occupied : Occupied codec opts self index attempt events)
    (plays : (favourable codec opts free).Plays scene events scene') (calm : Over scene) :
    attempt.err = none ∧ ∃ admission, attempt.admission = some admission := by
  cases occupied with
  | @undocked error =>
    have permitted : some error = none := plays.1
    cases permitted
  | unrecorded recorded beside =>
    rcases plays.append with ⟨_, plays, _⟩
    rcases plays.append with ⟨_, plays, _⟩
    rcases plays.append with ⟨_, plays, _⟩
    rcases plays.append with ⟨between, docked, plays⟩
    cases recorded.of_favourable plays (calm.plays docked)
  | admitted => exact ⟨rfl, _, rfl⟩

theorem Attempted.of_healthy {attempt : Attempt}
    (attempted : Attempted codec opts self attempt events)
    (plays : (favourable codec opts free).Plays scene events scene') (positive : 1 ≤ free)
    (bounded : free ≤ opts.maxHeavy) (calm : scene.troubles = []) :
    attempt.err = none ∧ ∃ admission, attempt.admission = some admission := by
  have answered (answer : Except Error Decision)
    (permitted : (favourable codec opts free).permits scene .check answer) :
    answer = .ok .ok := by
    have same : answer = scene.troubles.head?.elim (.ok .ok) Trouble.result := permitted
    rw [same, calm]
    rfl
  have free_of {found : Except Error (Option Nat)} {events : List AdmitEvent} {scene : Scene}
    (grabbed : Grabbed opts opts.maxHeavy.toNat 1 found events)
    (plays : (favourable codec opts free).Plays scene events scene') :
    ∃ other, found = .ok (some other) :=
    grabbed.found_of_free positive (by omega) plays
  cases attempted with
  | unchecked => cases answered _ plays.1
  | @pressed decision pressure =>
    cases answered _ plays.1
    exact absurd rfl pressure
  | failed grabbed =>
    rcases free_of grabbed plays.2 with ⟨_, same⟩
    cases same
  | busy grabbed =>
    rcases free_of grabbed plays.2 with ⟨_, same⟩
    cases same
  | occupied grabbed occupied =>
    have healthy : Over ((favourable codec opts free).after scene .check (.ok .ok)) := by
      simp [favourable, Over, calm]
    rcases plays.2.append with ⟨between, grabs, plays⟩
    exact occupied.of_favourable plays (healthy.plays grabs)

theorem Attempted.of_trouble {attempt : Attempt} {trouble : Trouble} {rest : List Trouble}
    (attempted : Attempted codec opts self attempt events)
    (plays : (favourable codec opts free).Plays scene events scene')
    (next : scene.troubles = trouble :: rest) :
    (∃ error, trouble = .failed error ∧ attempt.err ≠ none) ∨
      attempt.err = none ∧ attempt.admission = none ∧ (∀ error, trouble ≠ .failed error) ∧
        scene' = ⟨rest, false, scene.started⟩ := by
  have answered (answer : Except Error Decision)
    (permitted : (favourable codec opts free).permits scene .check answer) :
    answer = trouble.result := by
    have same : answer = scene.troubles.head?.elim (.ok .ok) Trouble.result := permitted
    rw [same, next]
    rfl
  have healthy (permitted : (favourable codec opts free).permits scene .check (.ok .ok)) : False := by
    have same := answered _ permitted
    cases trouble <;> cases same
  cases attempted with
  | @unchecked error =>
    have same := answered _ plays.1
    cases trouble with
    | failed cause => exact Or.inl ⟨cause, rfl, by simp⟩
    | warn | critical => cases same
  | @pressed decision pressure =>
    have same := answered _ plays.1
    have after : (favourable codec opts free).after scene .check (.ok decision) = scene' := plays.2
    have pending : ∀ error, trouble ≠ .failed error := by
      intro error failed
      rw [failed] at same
      cases same
    apply Or.inr
    apply And.intro rfl
    apply And.intro rfl
    apply And.intro pending
    rw [← after]
    simp [favourable, next]
  | failed | busy | occupied => exact (healthy plays.1).elim

/-- In favourable circumstances the loop returns, and with an admission unless the watchdog has
failed. -/
theorem acquireLoop_favourable (positive : 1 ≤ free) (bounded : free ≤ opts.maxHeavy) {start : Int}
    {troubles : List Trouble} {fuel : Nat} (enough : troubles.length < fuel)
    (trace : List AdmitEvent) (healthy : Bool) :
    (acquireLoop codec opts self (start + opts.waitBudget) fuel).Satisfies
      (favourable codec opts free) (Program.asking True)
      (fun result _ _ => (∃ admission, result = .ok admission) ↔ ∀ error, .failed error ∉ troubles)
      trace ⟨troubles, healthy, some start⟩ := by
  induction fuel generalizing troubles trace healthy with
  | zero => omega
  | succ fuel induction =>
    unfold acquireLoop
    apply Program.satisfies_asking_perform fun _ => favourable_answered _ _
    intro stopped permitted
    cases permitted
    apply Program.satisfies_bind.mpr
    apply (tryAcquireHeavy_ends.plays fun _ => favourable_answered).mono
    intro attempt trace' scene' found
    rcases found with ⟨events, rfl, attempted, plays⟩
    cases troubles with
    | nil =>
      rcases attempted.of_healthy plays positive bounded rfl with ⟨clean, admission, granted⟩
      rw [clean, granted]
      exact iff_of_true ⟨admission, rfl⟩ fun _ => List.not_mem_nil
    | cons trouble rest =>
      rcases attempted.of_trouble plays rfl with ⟨error, rfl, failed⟩ | ⟨clean, empty, pending, rfl⟩
      · cases cause : attempt.err with
        | none => exact absurd cause failed
        | some cause =>
          apply iff_of_false
          · rintro ⟨_, same⟩
            cases same
          · intro none
            exact none error List.mem_cons_self
      · rw [clean, empty]
        dsimp only
        rw [if_neg (by simp [attempted.retry clean empty])]
        apply Program.satisfies_asking_perform fun _ => favourable_answered _ _
        intro (time : Int) permitted
        have early : time < start + opts.waitBudget := permitted.2 rfl start rfl
        rw [if_neg (by simp [early])]
        apply Program.satisfies_asking_perform fun _ => favourable_answered _ _
        intro _ _
        have less : rest.length < fuel := Nat.lt_of_succ_lt_succ enough
        apply (induction less _ false).mono
        intro result _ _ holds
        rw [holds]
        simp [Ne.symm (pending _)]

theorem acquire_favourable (heavy : (applyDefaults opts).weight = .heavy) (positive : 1 ≤ free)
    (bounded : free ≤ (applyDefaults opts).maxHeavy) {troubles : List Trouble} {fuel : Nat}
    (enough : troubles.length < fuel) :
    (acquire codec self fuel opts).Satisfies (favourable codec (applyDefaults opts) free)
      (Program.asking True)
      (fun result _ _ => (∃ admission, result = .ok admission) ↔
        validate (applyDefaults opts) = none ∧ ∀ error, .failed error ∉ troubles) []
      ⟨troubles, false, none⟩ := by
  unfold acquire
  dsimp only
  cases valid : validate (applyDefaults opts) with
  | some error =>
    apply iff_of_false
    · rintro ⟨_, same⟩
      cases same
    · rintro ⟨same, _⟩
      cases same
  | none =>
    dsimp only
    rw [if_neg (by simp [heavy])]
    apply Program.satisfies_asking_perform fun _ => favourable_answered _ _
    intro time _
    apply (acquireLoop_favourable positive bounded enough _ false).mono
    intro result _ _ holds
    rw [holds, and_iff_right rfl]

theorem recovers_iff (heavy : (applyDefaults opts).weight = .heavy) (positive : 1 ≤ free)
    (bounded : free ≤ (applyDefaults opts).maxHeavy) (troubles : List Trouble) :
    Recovers codec self opts free troubles ↔
      validate (applyDefaults opts) = none ∧ ∀ error, .failed error ∉ troubles := by
  constructor
  · intro recovers
    have more := Nat.lt_succ_self troubles.length
    rcases (acquire_favourable heavy positive bounded more).completes trivial with
      ⟨result, trace, scene, execution, holds⟩
    exact holds.mp ((recovers _ more).returns execution)
  · intro calm fuel enough
    apply (acquire_favourable heavy positive bounded enough).mono
    intro result _ _ holds
    exact holds.mpr calm

theorem acquire_errorsReturned_iff {fuel : Nat} {trace : List AdmitEvent}
    {result : Except Error Admission} (heavy : (applyDefaults opts).weight = .heavy)
    (execution : Execution .any (acquire codec self fuel opts) [] () trace () (some result)) :
    ErrorsReturned result trace ↔ DockerContended trace := by
  have course : (acquire codec self fuel opts).Satisfies .any (Program.asking False)
    (fun result trace _ => ErrorsReturned result trace ↔ DockerContended trace) [] () := by
    unfold acquire
    dsimp only
    cases validate (applyDefaults opts) with
    | some error => exact iff_of_true trivial nofun
    | none =>
      dsimp only
      rw [if_neg (by simp [heavy])]
      apply Program.satisfies_asking_perform nofun
      intro time _
      apply (acquireLoop_course fuel _).mono
      intro result trace _ found
      rcases found with ⟨events, rfl, course⟩
      rw [List.nil_append, List.singleton_append, errorsReturned_cons (by simp),
        dockerContended_cons (by simp)]
      exact course.errorsReturned_iff
  exact course.returns execution

/-- After trouble that is not an error an admission is granted, and an error of a slot is
returned unless it is one of the slot for docker. -/
theorem acquire_recovers_and_reports_iff (heavy : (applyDefaults opts).weight = .heavy)
    (positive : 1 ≤ free) (bounded : free ≤ (applyDefaults opts).maxHeavy) (troubles : List Trouble) :
    (Recovers codec self opts free troubles ↔
      validate (applyDefaults opts) = none ∧ ∀ error, .failed error ∉ troubles) ∧
    ∀ fuel trace result, Execution .any (acquire codec self fuel opts) [] () trace () (some result) →
      (ErrorsReturned result trace ↔ DockerContended trace) :=
  ⟨recovers_iff heavy positive bounded troubles,
    fun _ _ _ execution => acquire_errorsReturned_iff heavy execution⟩

end

namespace Sample

theorem job_valid : validate (applyDefaults job) = none := by decide +kernel

theorem job_heavy : (applyDefaults job).weight = .heavy := rfl

theorem one_le_slots : (1 : Nat) ≤ (applyDefaults job).maxHeavy := by decide

def denied : List AdmitEvent :=
  [⟨.now, (0 : Int)⟩, ⟨.ctxErr, none⟩, ⟨.check, .ok .ok⟩, ⟨.flock (.heavy 1), none⟩,
    ⟨.readFile (.heavy 1), .ok []⟩, ⟨.flock .docker, some (.text "permission denied")⟩,
    ⟨.release (.heavy 1), ()⟩, ⟨.now, (1000 : Int)⟩]

theorem denied_execution :
    Execution .any (acquire codec 4711 1 job) [] () denied ()
      (some (.error (.sentinel .waitBudgetExceeded))) := by
  unfold acquire
  dsimp only
  rw [job_valid]
  dsimp only
  rw [if_neg (by simp [job_heavy])]
  apply Execution.performed (0 : Int) trivial
  unfold acquireLoop
  apply Execution.performed none trivial
  unfold tryAcquireHeavy
  apply Execution.answered (.ok .ok) trivial
  apply Execution.answered none trivial
  apply Execution.answered (.ok []) trivial
  apply Execution.answered (some (.text "permission denied")) trivial
  apply Execution.answered () trivial
  apply Execution.answered (1000 : Int) trivial
  exact .done

end Sample

open Sample in
/-- An error of the watchdog is not followed by another attempt, and an error of the slot for
docker becomes a timeout. -/
theorem error_is_not_retried : ¬Recovers codec 4711 job 1 [.failed (.text "meminfo")] ∧
    ∃ trace, Execution .any (acquire codec 4711 1 job) [] () trace ()
      (some (.error (.sentinel .waitBudgetExceeded))) ∧
      ¬ErrorsReturned (.error (.sentinel .waitBudgetExceeded)) trace := by
  constructor
  · rw [recovers_iff job_heavy (Nat.le_refl 1) one_le_slots]
    intro calm
    exact calm.2 _ (List.mem_singleton_self _)
  · apply Exists.intro denied
    apply And.intro denied_execution
    rw [acquire_errorsReturned_iff job_heavy denied_execution]
    intro contended
    have busy := contended (.text "permission denied") (by simp [denied])
    cases busy

open Sample in
theorem pressure_is_waited_out : Recovers codec 4711 job 1 [.critical, .warn] :=
  (acquire_recovers_and_reports_iff job_heavy (Nat.le_refl 1) one_le_slots _).1.mpr
    ⟨job_valid, by simp⟩

end Civm.Admit
