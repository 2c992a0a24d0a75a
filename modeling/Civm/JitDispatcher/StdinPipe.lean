import Civm.JitDispatcher.DriverCalls
import Civm.JitDispatcher.Rehearsal
import Civm.JitDispatcher.Supervision

/-! # The standard input of a driver

`execDriver` hands the JIT configuration over through a pipe of finite capacity. All other
waits of it end with its context or with a timer. -/

namespace Civm.JitDispatcher

/-- `json.Marshal` of a printable byte inside of a string. -/
def escaped (byte : UInt8) : List Char :=
  if byte = 0x22 then ['\\', '"']
  else if byte = 0x5c then ['\\', '\\']
  else if byte = 0x3c then "\\u003c".toList
  else if byte = 0x3e then "\\u003e".toList
  else if byte = 0x26 then "\\u0026".toList
  else [Char.ofNat byte.toNat]

/-- The fields before the configuration. -/
def DriverInput.opening (input : DriverInput) : String :=
  "\x7b\"protocol\":" ++ toString input.protocol ++ ",\"lease_id\":\"" ++ input.leaseID ++
    "\",\"encoded_jit_config\":\""

/-- What is written to the driver. -/
def DriverInput.encoded (input : DriverInput) : List Char :=
  input.opening.toList ++ input.jitConfig.flatMap escaped ++ ['"', '\x7d', '\n']

namespace Runner

/-- What a driver does with its standard input. -/
structure Driver where
  /-- How many bytes it reads. -/
  reads : Nat
  /-- Whether it closes its end after that. -/
  leaves : Bool

/-- A driver behind a pipe. It may send any receipts, print anything, exit or go on when it
likes, and the context is done at some time: a select with it or with a timer always has an
answer. A write that does not fit waits for the driver. -/
def driven (capacity : Nat) (driver : Driver) : Outside Call.Answer Unit where
  permits _
    | .writeInput input, none => input.encoded.length ≤ capacity + driver.reads
    | .writeInput _, some _ => driver.leaves = true
    | .attach _, answer => ∀ process, answer = .ok process → process.pid > 1
    | _, _ => True
  after _ _ _ := ()

def ledgerCallbacks : Callbacks Ledger where
  onStarted := some Dispatcher.onStarted
  onReady := some Dispatcher.onReady

/-- However the driver behaves, no call is left without an answer, and a started driver's
containment has been terminated when `execDriver` returns. -/
def ReturnsContained (capacity : Nat) (request : DriverExecRequest) (ledger : Ledger) : Prop :=
  ∀ driver : Driver,
    ((execDriver request ledgerCallbacks).run ledger).Satisfies (driven capacity driver)
      Program.progressing (fun _ _ _ => True) [] () ∧
      ∀ trace result,
        Execution (driven capacity driver) ((execDriver request ledgerCallbacks).run ledger) [] ()
          trace () (some result) → Contains request result.1 trace

/-- The calls of a driver execution with the callbacks of the dispatcher. -/
def isSupervision (input : Option DriverInput) (call : Call) : Prop :=
  drivesWith input call = true ∨
    match call with
    | .now | .save _ | .info _ => True
    | _ => False

section

variable {capacity : Nat} {driver : Driver} {request : DriverExecRequest}

theorem transition_makes {input : Option DriverInput} (status : Status) (code : String) :
    Routine.Makes (isSupervision input) (fun _ => ()) (transition status code) := by
  apply (Routine.makes_perform (.inr trivial)).bind
  intro now
  apply (Routine.makes_modify (fun ledger : Ledger => ledger.moved status code now) fun _ => rfl).bind
  intro _
  apply Routine.Makes.bind
  · apply Routine.makes_get.bind
    intro ledger
    apply Routine.makes_lift
    exact (Program.makes_perform (.inr trivial) fun _ => trivial).bind fun _ _ => trivial
  · intro saveError
    cases saveError with
    | some error => exact Routine.makes_pure _
    | none =>
      apply Routine.Makes.bind
      · apply Routine.makes_lift
        exact (Program.makes_perform (.inr trivial) fun _ => trivial).bind fun _ _ =>
          Program.makes_perform (.inr trivial) fun _ => trivial
      · exact fun _ => Routine.makes_pure _

theorem ledgerCallbacks_make {input : Option DriverInput} :
    ledgerCallbacks.Make (isSupervision input) (fun _ => ()) where
  started process :=
    (Routine.makes_modify (·.withProcess process) fun _ => rfl).bind fun _ => transition_makes _ _
  ready receipt :=
    (Routine.makes_modify (·.withIsolation receipt) fun _ => rfl).bind fun _ => transition_makes _ _

theorem supervision_answered
    (fits : ∀ input, request.input = some input → input.encoded.length ≤ capacity) (call : Call)
    (supervision : isSupervision request.input call) :
    ∃ answer, (driven capacity driver).permits () call answer := by
  cases call with
  | writeInput input =>
    rcases supervision with drives | none
    · exact ⟨none, (fits input (of_decide_eq_true drives)).trans (Nat.le_add_right _ _)⟩
    · cases none
  | attach leaseID => exact ⟨.error (.text ""), nofun⟩
  | readReceipt => exact ⟨.error (.text ""), trivial⟩
  | awaitDriver | awaitExit => exact ⟨.expired (.text ""), trivial⟩
  | now => exact ⟨(0 : Nat), trivial⟩
  | info message => exact ⟨(), trivial⟩
  | save ledger => exact ⟨⟨none, true⟩, trivial⟩
  | trustedExecutable _ _ | openLog _ _ | pipe | prepare _ | stdinPipe | start _
  | closePreparation | closeInput | signalGroup _ | terminate _ _ | recover _ _ _ | flushLogs =>
    exact ⟨none, trivial⟩
  | _ => rcases supervision with drives | none <;> trivial

def readyReceipt (request : DriverExecRequest) : IsolationReceipt where
  protocol := 1
  event := "ready"
  leaseID := request.leaseID
  isolationID := "isolation-0000001"
  baseSHA256 := request.baseImageSHA256
  disposable := true
  hostMounts := false
  hostDocker := false
  productSecrets := false
  destroyed := false
  resetVerified := false

theorem readyReceipt_valid (request : DriverExecRequest) :
    validReadyReceipt (readyReceipt request) request.leaseID request.baseImageSHA256 = true := by
  have opaque_ : safeOpaqueID "isolation-0000001" = true := by decide
  simp [validReadyReceipt, readyReceipt, opaque_]

theorem writeInput_reached (driver : Driver) {input : DriverInput}
    (given : request.input = some input) (ledger : Ledger) :
    ∃ trace, Reaches (driven capacity driver) ((execDriver request ledgerCallbacks).run ledger) []
      () trace () (.writeInput input) := by
  have conversed (process : ProcessIdentity) (ledger : Ledger) (trace : Trace) :
    ∃ trace', Reaches (driven capacity driver)
      ((converse request ledgerCallbacks process).run ledger) trace () trace' ()
      (.writeInput input) := by
    have valid : ¬¬validReadyReceipt (readyReceipt request) request.leaseID
      request.baseImageSHA256 = true := not_not.mpr (readyReceipt_valid request)
    apply Exists.intro
    apply Reaches.answered (.ok (readyReceipt request)) trivial
    rw [given]
    simp only [Program.pure_eq, Program.bind, if_neg valid]
    apply Reaches.answered (0 : Nat) trivial
    apply Reaches.answered ⟨none, true⟩ trivial
    apply Reaches.answered (0 : Nat) trivial
    apply Reaches.answered () trivial
    exact .here
  rcases conversed ⟨2, 0, 2, ""⟩ _ _ with ⟨trace, reached⟩
  refine ⟨trace, ?_⟩
  apply Reaches.answered none trivial
  apply Reaches.answered none trivial
  apply Reaches.answered none trivial
  apply Reaches.answered none trivial
  apply Reaches.answered none trivial
  apply Reaches.answered none trivial
  apply Reaches.answered none trivial
  apply Reaches.answered (.ok ⟨2, 0, 2, ""⟩) (by rintro process ⟨⟩; decide)
  apply Reaches.answered (0 : Nat) trivial
  apply Reaches.answered ⟨none, true⟩ trivial
  apply Reaches.answered (0 : Nat) trivial
  apply Reaches.answered () trivial
  exact reached

end

/-- `execDriver` returns whatever its driver does just if the pipe has room for the input. -/
theorem execDriver_returns_iff (capacity : Nat) (request : DriverExecRequest) (ledger : Ledger) :
    ReturnsContained capacity request ledger ↔
      ∀ input, request.input = some input → input.encoded.length ≤ capacity := by
  constructor
  · intro returns input given
    by_contra large
    rcases writeInput_reached ⟨0, false⟩ given ledger with ⟨trace, reached⟩
    refine Program.not_progressing_of_blocked reached ?_ (returns ⟨0, false⟩).1
    intro answer permitted
    cases answer with
    | none => exact large permitted
    | some error => cases permitted
  · intro fits driver
    have includes (call : Call) (drives : drivesWith request.input call = true) :
      isSupervision request.input call := .inl drives
    have makes := execDriver_makes includes ledgerCallbacks_make ledger
    refine ⟨?_, fun trace result execution => ?_⟩
    · apply (makes.progresses (fun _ => supervision_answered fits) [] ()).mono
      exact fun _ _ _ _ => trivial
    · have attached (world : Unit) (call : Call) (answer : call.Answer)
        (permitted : (driven capacity driver).permits world call answer) :
        Attached call answer := by
        cases call <;> first | exact permitted | trivial
      rcases (execDriver_leaves request ledgerCallbacks ledger).returns attached execution with
        ⟨added, rfl, contains⟩
      exact contains

theorem length_jitConfig_lt (input : DriverInput) :
    input.jitConfig.length < input.encoded.length := by
  have bound (bytes : List UInt8) : bytes.length ≤ (bytes.flatMap escaped).length := by
    induction bytes with
    | nil => exact Nat.le_refl _
    | cons byte bytes induction =>
      have nonempty : 0 < (escaped byte).length := by
        unfold escaped
        split_ifs <;> exact Nat.zero_lt_succ _
      rw [List.flatMap_cons, List.length_append, List.length_cons]
      omega
  have inside := bound input.jitConfig
  simp only [DriverInput.encoded, List.length_append, List.length_cons]
  omega

namespace Sample

variable (jitConfig : List UInt8)

def runnerRequest : RunnerRequest where
  driverExecutable := "/usr/bin/civm-jit-isolation"
  driverSHA256 := JitDispatcher.Sample.digest
  baseImageSHA256 := JitDispatcher.Sample.digest
  runnerDirectory := "/opt/runner"
  identity := newIdentity (List.replicate 32 7)
  leaseID := JitDispatcher.Sample.digest
  jitConfig := jitConfig
  logDirectory := "/var/log/civm"
  shutdownGrace := 1000000000

def execRequest : DriverExecRequest where
  executable := "/usr/bin/civm-jit-isolation"
  executableSHA256 := JitDispatcher.Sample.digest
  arguments := ⟨.run, JitDispatcher.Sample.digest, "/opt/runner", JitDispatcher.Sample.digest, ""⟩
  leaseID := JitDispatcher.Sample.digest
  baseImageSHA256 := JitDispatcher.Sample.digest
  logPath := "/var/log/civm/isolation-driver.log"
  shutdownGrace := 1000000000
  input := some ⟨1, JitDispatcher.Sample.digest, jitConfig⟩

variable {jitConfig}

theorem runnerRequest_accepted (sized : jitConfig.length = 4096)
    (safe : (jitConfig.any fun byte => byte ≤ 0x20 || byte ≥ 0x7f) = false) :
    ∃ trace, Execution Outside.any (validateRunnerRequest (runnerRequest jitConfig)) [] () trace ()
      (some none) := by
  have identified : validIdentity (newIdentity (List.replicate 32 7)) = true :=
    validIdentity_newIdentity List.length_replicate
  have digest : matchesDigest JitDispatcher.Sample.digest = true := by decide
  have runnerDirectory : validateAbsoluteDir "runner_directory" "/opt/runner" = none := by
    decide +kernel
  have logDirectory : validateAbsoluteDir "log_directory" "/var/log/civm" = none := by
    decide +kernel
  have grace : ¬graceRefused 1000000000 = true := by decide
  simp only [validateRunnerRequest, runnerRequest, identified, digest, sized, runnerDirectory,
    logDirectory, grace, safe, maxJITResponse]
  apply Exists.intro
  apply Execution.answered none trivial
  apply Execution.answered none trivial
  exact .done

end Sample

/-- A driver that says it is ready and reads nothing, with a configuration of four kilobytes
that is accepted and a pipe of that size. -/
theorem unread_input_blocks :
    ∃ jitConfig : List UInt8, jitConfig.length = 4096 ∧
      (∃ trace, Execution Outside.any (validateRunnerRequest (Sample.runnerRequest jitConfig)) [] ()
        trace () (some none)) ∧
      ∀ ledger, ∃ trace input, Reaches (driven 4096 ⟨0, false⟩)
          ((execDriver (Sample.execRequest jitConfig) ledgerCallbacks).run ledger) [] () trace ()
          (.writeInput input) ∧
        ∀ answer, ¬(driven 4096 ⟨0, false⟩).permits () (.writeInput input) answer := by
  have sized : (List.replicate 4096 (65 : UInt8)).length = 4096 := List.length_replicate
  have safe : ((List.replicate 4096 (65 : UInt8)).any fun byte => byte ≤ 0x20 || byte ≥ 0x7f) =
    false := by
    rw [List.any_eq_false]
    intro byte member
    rw [List.eq_of_mem_replicate member]
    decide
  generalize List.replicate 4096 (65 : UInt8) = jitConfig at sized safe
  refine ⟨jitConfig, sized, Sample.runnerRequest_accepted sized safe, fun ledger => ?_⟩
  have given : (Sample.execRequest jitConfig).input =
    some ⟨1, JitDispatcher.Sample.digest, jitConfig⟩ := rfl
  rcases writeInput_reached ⟨0, false⟩ given ledger with ⟨trace, reached⟩
  refine ⟨trace, _, reached, fun answer permitted => ?_⟩
  cases answer with
  | some error => cases permitted
  | none =>
    have longer := length_jitConfig_lt ⟨1, JitDispatcher.Sample.digest, jitConfig⟩
    have fits : (DriverInput.encoded ⟨1, JitDispatcher.Sample.digest, jitConfig⟩).length ≤ 4096 :=
      permitted
    rw [sized] at longer
    exact absurd longer (Nat.not_lt.mpr fits)

end Runner

end Civm.JitDispatcher
