import Mathlib.Data.Nat.Basic

/-! # The volume of the host

`hostdisk.Check`: the metrics that the host delivers to the guest, and the level of the
host volume that follows from them. Times are nanoseconds. -/

namespace Civm.HostDisk

inductive Level
  | ok
  | warn
  | crit
  deriving DecidableEq

def Level.name : Level → String
  | .ok => "ok"
  | .warn => "warn"
  | .crit => "crit"

structure Metrics where
  vFreeGB : Int
  vSizeGB : Int
  vhdxMaxSizeGB : Int
  timestamp : String
  deliveryStatus : String

def Metrics.none : Metrics := ⟨0, 0, 0, "", ""⟩

structure Report where
  metrics : Metrics
  stale : Bool
  level : Level
  freeHeadroomViolation : Bool := false
  allocationHeadroomViolation : Bool := false
  reason : String

structure Options where
  path : String
  maxAge : Int
  warnFreeGB : Int
  critFreeGB : Int
  headroomGB : Int

def defaultHostMetricsPath : String := "/var/lib/civm/host-metrics.json"

def defaultMaxAge : Int := 30 * 60000000000

def defaultOptions : Options where
  path := defaultHostMetricsPath
  maxAge := defaultMaxAge
  warnFreeGB := 30
  critFreeGB := 10
  headroomGB := 8

def applyDefaults (opts : Options) : Options where
  path := if opts.path = "" then defaultHostMetricsPath else opts.path
  maxAge := if opts.maxAge ≤ 0 then defaultMaxAge else opts.maxAge
  warnFreeGB := if opts.warnFreeGB = 0 then 30 else opts.warnFreeGB
  critFreeGB := if opts.critFreeGB = 0 then 10 else opts.critFreeGB
  headroomGB := if opts.headroomGB = 0 then 8 else opts.headroomGB

inductive FileRead
  | data (text : String)
  | notExist
  | failed (error : String)

/-- `json.Unmarshal` into the metrics, and `time.Parse` with the layout RFC 3339. -/
structure Decoder where
  unmarshal : String → Except String Metrics
  parseTime : String → Option Int
  parseTime_empty : parseTime "" = none

variable (decoder : Decoder) (opts : Options) (now : Int)

/-- The reason why the metrics are stale, if they are. -/
def evaluateFreshness (metrics : Metrics) : Option String :=
  if metrics.timestamp = "" then some "host metrics missing timestamp"
  else match decoder.parseTime metrics.timestamp with
    | none => some "host metrics timestamp not RFC3339"
    | some time =>
      if now - time > opts.maxAge then some "host metrics stale; freshness not guaranteed"
      else none

def levelByFree (freeGB : Int) : Level :=
  if freeGB ≤ opts.critFreeGB then .crit
  else if freeGB ≤ opts.warnFreeGB then .warn
  else .ok

def staleReport (reason : String) : Report where
  metrics := .none
  stale := true
  level := .crit
  reason := reason

def levelReason (freeGB : Int) : String :=
  match levelByFree opts freeGB with
  | .crit => s!"v_free_gb={freeGB} below crit floor {opts.critFreeGB}GB"
  | .warn => s!"v_free_gb={freeGB} below warn floor {opts.warnFreeGB}GB"
  | .ok => ""

/-- The report on metrics that could be read. -/
def evaluate (metrics : Metrics) : Report :=
  let report : Report := {
    metrics := metrics, stale := false, level := .crit, reason := ""
    freeHeadroomViolation := metrics.vFreeGB < opts.headroomGB
    allocationHeadroomViolation := metrics.vSizeGB - metrics.vhdxMaxSizeGB < opts.headroomGB }
  match evaluateFreshness decoder opts now metrics with
  | some reason => { report with stale := true, reason := reason }
  | none =>
    if metrics.deliveryStatus = "failed" then
      { report with reason :=
        "host metrics delivery failed; host-only snapshot, guest values unavailable" }
    else
      { report with
        level := levelByFree opts metrics.vFreeGB, reason := levelReason opts metrics.vFreeGB }

/-- The report and the error of `Check`, from what is read of the metrics file. -/
def check (opts : Options) (read : String → FileRead) : Report × Option String :=
  let opts := applyDefaults opts
  match read opts.path with
  | .notExist =>
    (staleReport "host metrics file absent; delivery not yet observed on guest", none)
  | .failed error =>
    (staleReport "host metrics read failed",
      some ("read host metrics \"" ++ opts.path ++ "\": " ++ error))
  | .data text =>
    match decoder.unmarshal text with
    | .error error =>
      (staleReport "host metrics parse failed",
        some ("parse host metrics \"" ++ opts.path ++ "\": " ++ error))
    | .ok metrics => (evaluate decoder opts now metrics, none)

def Report.wantsCleanup (report : Report) : Bool := report.level = .warn || report.level = .crit

def Report.blocks (report : Report) : Bool := report.level = .crit && !report.stale

end Civm.HostDisk
