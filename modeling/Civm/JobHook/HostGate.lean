import Civm.JobHook.Completion

/-! # The host volume before a job

Which metrics of the host make the hook reject a job that starts. -/

namespace Civm.JobHook

open Hook (Action)

/-! ## The report -/

section

variable (decoder : HostDisk.Decoder) (opts : HostDisk.Options) (read : HostDisk.FileRead)
variable (now : Int)

/-- The file holds metrics with a time. -/
structure Holds (metrics : HostDisk.Metrics) (time : Int) : Prop where
  data : ∃ text, read = .data text ∧ decoder.unmarshal text = .ok metrics
  time : decoder.parseTime metrics.timestamp = some time

/-- The metrics are of now, and the host volume is at its floor. -/
def ShowsFull : Prop :=
  ∃ metrics time, Holds decoder read metrics time ∧ 0 ≤ now - time ∧ now - time ≤ opts.maxAge ∧
    metrics.vFreeGB ≤ opts.critFreeGB

/-- Metrics that count as fresh and critical although the volume is not known to be at its
floor, or although they are of a time to come. -/
def Misjudged : Prop :=
  ∃ metrics time, Holds decoder read metrics time ∧ now - time ≤ opts.maxAge ∧
    (metrics.deliveryStatus = "failed" ∨ metrics.vFreeGB ≤ opts.critFreeGB) ∧
    (now < time ∨ opts.critFreeGB < metrics.vFreeGB)

end

/-- All thresholds are given. -/
structure Positive (opts : HostDisk.Options) : Prop where
  maxAge : 0 < opts.maxAge
  warnFreeGB : 0 < opts.warnFreeGB
  critFreeGB : 0 < opts.critFreeGB

variable {decoder : HostDisk.Decoder} {now : Int}

theorem evaluate_blocks_iff (opts : HostDisk.Options) (metrics : HostDisk.Metrics) :
    (HostDisk.evaluate decoder opts now metrics).blocks = true ↔
      ∃ time, decoder.parseTime metrics.timestamp = some time ∧ now - time ≤ opts.maxAge ∧
        (metrics.deliveryStatus = "failed" ∨ metrics.vFreeGB ≤ opts.critFreeGB) := by
  unfold HostDisk.evaluate HostDisk.evaluateFreshness
  by_cases blank : metrics.timestamp = ""
  · simp [blank, decoder.parseTime_empty, HostDisk.Report.blocks]
  · cases parsed : decoder.parseTime metrics.timestamp with
    | none => simp [blank, HostDisk.Report.blocks]
    | some time =>
      simp only [Option.some.injEq, exists_eq_left']
      generalize now - time = age
      by_cases fresh : age ≤ opts.maxAge
      · by_cases failed : metrics.deliveryStatus = "failed"
        · simp [blank, fresh, failed, Int.not_lt.mpr fresh, HostDisk.Report.blocks]
        · have level : HostDisk.levelByFree opts metrics.vFreeGB = .crit ↔
            metrics.vFreeGB ≤ opts.critFreeGB := by
            unfold HostDisk.levelByFree
            split
            case isTrue low => simp [low]
            case isFalse high => split <;> simp [high]
          simp [blank, fresh, failed, Int.not_lt.mpr fresh, HostDisk.Report.blocks, level]
      · simp [blank, fresh, Int.not_le.mp fresh, HostDisk.Report.blocks]

/-- A report blocks if the metrics are not old, and either their delivery has failed or the
volume is at its floor. -/
theorem check_blocks_iff {opts : HostDisk.Options} (positive : Positive opts)
    (read : String → HostDisk.FileRead) :
    (HostDisk.check decoder now opts read).1.blocks = true ↔
      ∃ metrics time, Holds decoder (read (HostDisk.applyDefaults opts).path) metrics time ∧
        now - time ≤ opts.maxAge ∧
          (metrics.deliveryStatus = "failed" ∨ metrics.vFreeGB ≤ opts.critFreeGB) := by
  have maxAge : (HostDisk.applyDefaults opts).maxAge = opts.maxAge :=
    if_neg (Int.not_le.mpr positive.maxAge)
  have critFreeGB : (HostDisk.applyDefaults opts).critFreeGB = opts.critFreeGB :=
    if_neg positive.critFreeGB.ne'
  unfold HostDisk.check
  dsimp only
  constructor
  · intro blocks
    split at blocks
    · cases blocks
    · cases blocks
    · rename_i text found
      split at blocks
      · cases blocks
      · rename_i metrics parsed
        rcases (evaluate_blocks_iff _ _).mp blocks with ⟨time, timed, fresh, critical⟩
        rw [maxAge] at fresh
        rw [critFreeGB] at critical
        exact ⟨metrics, time, ⟨⟨text, found, parsed⟩, timed⟩, fresh, critical⟩
  · rintro ⟨metrics, time, ⟨⟨text, found, parsed⟩, timed⟩, fresh, critical⟩
    rw [found]
    dsimp only
    rw [parsed]
    apply (evaluate_blocks_iff _ _).mpr
    rw [maxAge, critFreeGB]
    exact ⟨time, timed, fresh, critical⟩

theorem Holds.unique {read : HostDisk.FileRead} {metrics metrics' : HostDisk.Metrics}
    {time time' : Int} (first : Holds decoder read metrics time)
    (second : Holds decoder read metrics' time') : metrics = metrics' ∧ time = time' := by
  rcases first with ⟨⟨text, found, parsed⟩, timed⟩
  rcases second with ⟨⟨text', found', parsed'⟩, timed'⟩
  obtain rfl : text = text' := by simpa using found.symm.trans found'
  obtain rfl : metrics = metrics' := by simpa using parsed.symm.trans parsed'
  exact ⟨rfl, by simpa using timed.symm.trans timed'⟩

theorem blocks_iff_showsFull_iff {opts : HostDisk.Options} (positive : Positive opts)
    (read : String → HostDisk.FileRead) :
    ((HostDisk.check decoder now opts read).1.blocks = true ↔
        ShowsFull decoder opts (read (HostDisk.applyDefaults opts).path) now) ↔
      ¬Misjudged decoder opts (read (HostDisk.applyDefaults opts).path) now := by
  rw [check_blocks_iff positive]
  constructor
  · rintro agrees ⟨metrics, time, holds, fresh, critical, wrong⟩
    rcases agrees.mp ⟨metrics, time, holds, fresh, critical⟩ with
      ⟨other, time', holds', past, _, low⟩
    rcases holds.unique holds' with ⟨rfl, rfl⟩
    omega
  · intro judged
    constructor
    · rintro ⟨metrics, time, holds, fresh, critical⟩
      by_cases wrong : now < time ∨ opts.critFreeGB < metrics.vFreeGB
      · exact absurd ⟨metrics, time, holds, fresh, critical, wrong⟩ judged
      · rw [not_or, Int.not_lt, Int.not_lt] at wrong
        exact ⟨metrics, time, holds, by omega, fresh, wrong.2⟩
    · rintro ⟨metrics, time, holds, _, fresh, low⟩
      exact ⟨metrics, time, holds, fresh, .inr low⟩

/-! ## The hook -/

structure HostRejected (host : HostDisk.Report) (res : Result) : Prop where
  decision : res.decision = .rejected
  exitCode : res.exitCode = 75
  error : res.error = hostRejection host

/-- What a result says about a host that was reported. -/
def Gated (opts : Options) (host : HostDisk.Report) (res : Result) : Prop :=
  res.decision ≠ .error → res.diskUsedPct < opts.hardFailPct →
    (HostRejected host res ↔ host.blocks = true)

theorem gated_gate (opts : Options) (host : HostDisk.Report) {res : Result}
    (undecided : res.decision = .ok ∨ res.decision = .cleanupApplied) :
    Gated opts host (gate opts host res).settled := by
  have accepted : ¬HostRejected host res.settled := by
    rintro ⟨decision, _, _⟩
    rcases undecided with undecided | undecided <;> simp [Result.settled, undecided] at decision
  intro _ below
  unfold gate at below ⊢
  by_cases full : opts.hardFailPct ≤ res.diskUsedPct
  · simp only [full, if_true, Result.settled] at below
    exact absurd full (Int.not_le.mpr below)
  · rw [if_neg full]
    by_cases blocks : host.blocks = true
    · simp only [blocks, if_true, iff_true]
      exact ⟨rfl, rfl, rfl⟩
    · rw [if_neg blocks]
      exact iff_of_false accepted blocks

theorem finish_gated (opts : Options) (host : HostDisk.Report) {res : Result}
    (gated : Gated opts host res.settled) :
    (finish opts res).Ends Program.everything fun result _ => Gated opts host result := by
  refine (finish_ends opts res).mono ?_
  rintro result events ⟨rfl, -⟩
  exact gated

theorem gated_errorResult (opts : Options) (host : HostDisk.Report) (res : Result) (text : String) :
    Gated opts host (errorResult res text).settled := fun accepted => absurd rfl accepted

theorem diskFreeGB_ends (opts : Options) :
    (diskFreeGB opts).Ends Program.everything fun _ _ => True := by
  refine Program.ends_perform.mpr fun answer => ?_
  cases answer with
  | error text | ok sizes => exact Program.ends_pure.mpr trivial

theorem gated_afterCleanup (opts : Options) (host : HostDisk.Report) {res : Result}
    (applied : res.decision = .cleanupApplied) :
    Gated opts host (afterCleanup opts host res).settled := by
  unfold afterCleanup
  split
  · exact gated_gate opts host (.inr applied)
  · split
    · exact gated_gate opts host (.inr applied)
    · exact gated_errorResult opts host res _

theorem startJob_gated (opts : Options) (host : HostDisk.Report) {res : Result}
    (fresh : res.decision = .ok) :
    (startJob opts host res).Ends Program.everything fun result _ => Gated opts host result := by
  have reclaims := (ends_onRoots (reclaimWorkspaceOwnership_reports opts.toOptions)).everything
  have reaps := (reapOrphanCIContainers_accounts opts).everything
  have cleans := (cleanup_reports opts true).everything
  refine reclaims.bind fun reclaimed _ _ => ?_
  refine reaps.bind fun reaped _ _ => ?_
  refine (diskFreeGB_ends opts).bind fun free _ _ => ?_
  rw [Program.ends_ite]
  constructor
  · intro _
    refine cleans.bind fun cleaned _ _ => ?_
    have finishes (measured : Except String Int) (result : Result)
      (applied : result.decision = .cleanupApplied) :
      (finish opts (afterCleanup opts host (result.measured measured))).Ends
        Program.everything fun result _ => Gated opts host result := by
      apply finish_gated
      apply gated_afterCleanup
      cases measured <;> exact applied
    exact diskUsedPct_ends (fun _ _ _ => finishes _ _ rfl) fun _ _ _ => finishes _ _ rfl
  · intro _
    exact finish_gated opts host (gated_gate opts host (.inl fresh))

theorem run_gated (opts : Options) (event : opts.event = .jobStarted) :
    (run opts).Ends Program.everything fun res events =>
      ∀ host, (∀ report, ⟨.hostDisk, report⟩ ∈ events → report = host) →
        Gated (applyDefaults opts) host res := by
  have started : (applyDefaults opts).event = .jobStarted := event
  unfold run runWith
  apply diskUsedPct_ends
  · intro answer text _
    refine (finish_ends _ _).mono ?_
    rintro res events ⟨rfl, -⟩ host _
    exact gated_errorResult _ host _ text
  · intro answer used _
    dsimp only
    rw [started]
    refine Program.ends_perform.mpr fun report => ?_
    refine (startJob_gated _ report rfl).mono fun res events gated host reported => ?_
    rw [← reported report (by simp [Program.everything])]
    exact gated

namespace Sample

def undelivered : HostDisk.Metrics where
  vFreeGB := 200
  vSizeGB := 500
  vhdxMaxSizeGB := 300
  timestamp := "2026-06-10T20:00:00Z"
  deliveryStatus := "failed"

def snapshot : String :=
  "\x7b\"v_free_gb\":200,\"v_size_gb\":500,\"vhdx_max_size_gb\":300," ++
  "\"timestamp\":\"2026-06-10T20:00:00Z\",\"delivery_status\":\"failed\"\x7d"

def written : Int := 63897148800 * 1000000000

def snapshotDecoder : HostDisk.Decoder where
  unmarshal text := if text = snapshot then .ok undelivered else .error "unexpected input"
  parseTime text := if text = undelivered.timestamp then some written else none
  parseTime_empty := by decide

end Sample

end Civm.JobHook
