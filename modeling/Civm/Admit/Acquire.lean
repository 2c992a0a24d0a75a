import Civm.Runner.Tick

/-! # Admission of heavy jobs

`admit.Acquire`: attempts to take one of the slots for heavy jobs, and the slot for docker with
it, until the wait budget is used up. Times and durations are nanoseconds. -/

namespace Civm.Admit

open Runner (validateServiceUnit minute)

/-- `errSlotBusy`, `ErrWaitBudgetExceeded` and `os.ErrNotExist`. -/
inductive Sentinel
  | slotBusy
  | waitBudgetExceeded
  | notExist
  deriving DecidableEq

abbrev Error := GoError Sentinel Empty

inductive Weight
  | heavy
  | light
  | other (text : String)
  deriving DecidableEq

def Weight.text : Weight → String
  | .heavy => "heavy"
  | .light => "light"
  | .other text => text

/-- `memwatchdog.Decision`. -/
inductive Decision
  | ok
  | warn
  | critical
  deriving DecidableEq

structure Options where
  maxHeavy : Int
  slotPrefix : String
  dockerSlotPath : String
  weight : Weight
  exclusive : String
  waitBudget : Int
  backoff : Int

def defaultAdmitMaxHeavy : Int := 2
def defaultAdmitSlotPathPrefix : String := "/run/civm/admit-heavy-"
def defaultAdmitDockerSlotPath : String := "/run/civm/admit-docker.lock"
def defaultAdmitWaitMinutes : Int := 30
def backoffStep : Int := 250000000

def applyDefaults (opts : Options) : Options where
  maxHeavy := if opts.maxHeavy = 0 then defaultAdmitMaxHeavy else opts.maxHeavy
  slotPrefix := if opts.slotPrefix = "" then defaultAdmitSlotPathPrefix else opts.slotPrefix
  dockerSlotPath :=
    if opts.dockerSlotPath = "" then defaultAdmitDockerSlotPath else opts.dockerSlotPath
  weight := if opts.weight = .other "" then .heavy else opts.weight
  exclusive := opts.exclusive
  waitBudget := if opts.waitBudget ≤ 0 then defaultAdmitWaitMinutes * minute else opts.waitBudget
  backoff := if opts.backoff ≤ 0 then backoffStep else opts.backoff

def validateAbsPrefix (path field : String) : Option Error :=
  if path.toList.contains (Char.ofNat 0) then some (.text ("admit: " ++ field ++ " contem byte NUL"))
  else if !Text.isAbs path then
    some (.text ("admit: " ++ field ++ " deve ser caminho absoluto, got \"" ++ path ++ "\""))
  else none

def validate (opts : Options) : Option Error :=
  if opts.maxHeavy < 1 then
    some (.text ("admit: MaxHeavy deve ser >=1, got " ++ toString opts.maxHeavy))
  else if opts.weight ≠ .heavy ∧ opts.weight ≠ .light then
    some (.text ("admit: weight invalido \"" ++ opts.weight.text ++ "\" (use heavy ou light)"))
  else if opts.weight = .light then none
  else
    match validateAbsPrefix opts.slotPrefix "slot-prefix" with
    | some error => some error
    | none =>
      if opts.exclusive = "docker" then
        validateAbsPrefix opts.dockerSlotPath "docker-slot-path"
      else none

/-! ## Slots and their records -/

/-- What `FlockFn` is called for: a slot for heavy jobs, or the one for docker. -/
inductive Slot
  | heavy (index : Nat)
  | docker
  deriving DecidableEq

/-- `slotPathFor`, and `DockerSlotPath`. -/
def Slot.path (opts : Options) : Slot → String
  | .heavy index => opts.slotPrefix ++ toString index ++ ".lock"
  | .docker => opts.dockerSlotPath

structure SlotRecord where
  unit : String
  pid : Int
  pidStartTicks : Nat
  acquiredAt : Int

/-- JSON for a record. The time of a record may be one that JSON does not have. -/
structure RecordCodec where
  marshal : SlotRecord → Except Error (List Char)
  unmarshal : List Char → Except Error SlotRecord
  presentable : Int → Prop
  marshals : ∀ record, presentable record.acquiredAt → ∃ data, marshal record = .ok data
  some_presentable : ∃ time, presentable time

def unitNameFor (slotPath : String) (pid : Int) : String :=
  let name := "civm-" ++ Text.trimSuffix (Text.base slotPath) ".lock" ++ "-" ++ toString pid ++
    ".service"
  if (validateServiceUnit name).isSome then "civm-admit-" ++ toString pid ++ ".service" else name

/-! ## Calls -/

/-- The functions of the options and `ctx.Err`. `release` is the function that `FlockFn` has
returned for the slot. -/
inductive Call
  | now
  | ctxErr
  | check
  | flock (slot : Slot)
  | release (slot : Slot)
  | readFile (slot : Slot)
  | pidAlive (pid : Int)
  | pidStartTicks (pid : Int)
  | run (arguments : List String)
  | writeFile (slot : Slot) (data : List Char)
  | sleep (duration : Int)
  deriving DecidableEq

abbrev Answer : Call → Type
  | .now => Int
  | .ctxErr => Option Error
  | .check => Except Error Decision
  | .flock _ => Option Error
  | .release _ => Unit
  | .readFile _ => Except Error (List Char)
  | .pidAlive _ => Bool
  | .pidStartTicks _ => Except Error Nat
  | .run _ => Option Error
  | .writeFile _ _ => Option Error
  | .sleep _ => Unit

abbrev Script := Program Answer

abbrev perform (call : Call) : Script (Answer call) := Program.perform call

/-! ## Orphans -/

def stopUnit (unit : String) : Script Unit := do
  if unit = "" then return ()
  else if (validateServiceUnit unit).isSome then return ()
  else
    let _ ← perform (.run ["sudo", "systemctl", "stop", "--", unit])
    return ()

def isHolderAlive (record : SlotRecord) : Script Bool := do
  if !(← perform (.pidAlive record.pid)) then return false
  else if record.pidStartTicks = 0 then return true
  else
    match ← perform (.pidStartTicks record.pid) with
    | .error _ => return false
    | .ok ticks => return ticks = record.pidStartTicks

section

variable (codec : RecordCodec) (opts : Options) (self : Int)

def readSlotRecord (slot : Slot) : Script (Except Error (Option SlotRecord)) := do
  match ← perform (.readFile slot) with
  | .error error => if error.is .notExist then return .ok none else return .error error
  | .ok data =>
    if Text.trimSpace (String.ofList data) = "" then return .ok none
    else
      match codec.unmarshal data with
      | .error error =>
        return .error (.wrap ("admit: slot record corrompido " ++ slot.path opts ++ ": ") error "")
      | .ok record => return .ok (some record)

def reapOrphan (slot : Slot) : Script Unit := do
  match ← readSlotRecord codec opts slot with
  | .error _ => return ()
  | .ok none => return ()
  | .ok (some record) =>
    if record.unit = "" then return ()
    else if ← isHolderAlive record then return ()
    else stopUnit record.unit

/-! ## An admission -/

/-- `release` and `docker` of a granted admission are the functions for its slots; `docker`
does nothing unless the slot has been asked for. A light admission has no slot. -/
structure Admission where
  slot : Option Nat
  unit : String
  docker : Bool
  done : Bool

def Admission.release (admission : Admission) : Script Admission := do
  if admission.done then return admission
  else
    stopUnit admission.unit
    if admission.docker then perform (.release .docker)
    match admission.slot with
    | some index => perform (.release (.heavy index))
    | none => pure ()
    return { admission with done := true }

def slotError (slot : Slot) (error : Error) : Error :=
  .wrap ("admit: slot " ++ slot.path opts ++ ": ") error ""

/-- The loop of `grabFreeSlot`. -/
def grabFrom : Nat → Nat → Script (Except Error (Option Nat))
  | 0, _ => return .ok none
  | left + 1, index => do
    match ← perform (.flock (.heavy index)) with
    | some error =>
      if error.is .slotBusy then grabFrom left (index + 1)
      else return .error (slotError opts (.heavy index) error)
    | none =>
      reapOrphan codec opts (.heavy index)
      return .ok (some index)

def grabFreeSlot : Script (Except Error (Option Nat)) := grabFrom codec opts opts.maxHeavy.toNat 1

/-- Any error is taken for a busy slot. -/
def grabDockerSubSlot : Script Bool := do
  if opts.exclusive ≠ "docker" then return true
  else
    match ← perform (.flock .docker) with
    | some _ => return false
    | none => return true

def startTicksOf : Except Error Nat → Nat
  | .ok ticks => ticks
  | .error _ => 0

def writeSlotRecord (slot : Slot) (unit : String) : Script (Option Error) := do
  let startTicks := startTicksOf (← perform (.pidStartTicks self))
  let now ← perform .now
  match codec.marshal ⟨unit, self, startTicks, now⟩ with
  | .error error => return some (.wrap "admit: serializar slot record: " error "")
  | .ok data =>
    match ← perform (.writeFile slot data) with
    | some error =>
      return some (.wrap ("admit: gravar slot record " ++ slot.path opts ++ ": ") error "")
    | none => return none

structure Attempt where
  admission : Option Admission
  retry : Bool
  err : Option Error

def admissionFor (index : Nat) : Admission where
  slot := some index
  unit := unitNameFor ((Slot.heavy index).path opts) self
  docker := opts.exclusive = "docker"
  done := false

/-- The end of an attempt, with its slots in hand. -/
def reserve (index : Nat) : Script Attempt := do
  let admission := admissionFor opts self index
  match ← writeSlotRecord codec opts self (.heavy index) admission.unit with
  | some error =>
    let _ ← admission.release
    return ⟨none, false, some error⟩
  | none => return ⟨some admission, false, none⟩

/-- The part of an attempt that follows `grabFreeSlot`. -/
def occupy (index : Nat) : Script Attempt := do
  match ← grabDockerSubSlot opts with
  | false =>
    perform (.release (.heavy index))
    return ⟨none, true, none⟩
  | true => reserve codec opts self index

def tryAcquireHeavy : Script Attempt := do
  match ← perform .check with
  | .error error =>
    return ⟨none, true, some (.wrap "admit: watchdog check failed (fail-closed): " error "")⟩
  | .ok decision =>
  if decision = .critical ∨ decision = .warn then return ⟨none, true, none⟩
  else
    match ← grabFreeSlot codec opts with
    | .error error => return ⟨none, false, some error⟩
    | .ok none => return ⟨none, true, none⟩
    | .ok (some index) => occupy codec opts self index

/-- The loop of `Acquire`, for at most a number of attempts. -/
def acquireLoop (deadline : Int) : Nat → Script (Except Error Admission)
  | 0 => .spin
  | fuel + 1 => do
    match ← perform .ctxErr with
    | some error => return .error (.wrap "admit: " error "")
    | none =>
    let attempt ← tryAcquireHeavy codec opts self
    match attempt.err, attempt.admission with
    | some error, _ => return .error error
    | none, some admission => return .ok admission
    | none, none =>
      if !attempt.retry then return .error (.sentinel .waitBudgetExceeded)
      else if !((← perform .now) < deadline) then return .error (.sentinel .waitBudgetExceeded)
      else
        perform (.sleep opts.backoff)
        acquireLoop deadline fuel

end

def acquire (codec : RecordCodec) (self : Int) (fuel : Nat) (options : Options) :
    Script (Except Error Admission) := do
  let opts := applyDefaults options
  match validate opts with
  | some error => return .error error
  | none =>
    if opts.weight = .light then return .ok ⟨none, "", false, false⟩
    else
      let deadline := (← perform .now) + opts.waitBudget
      acquireLoop codec opts self deadline fuel

end Civm.Admit
