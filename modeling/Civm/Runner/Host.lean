import Civm.Runner.Observations

/-! # The host of the ticks

What the ticks of the watchdog read and write: the marker file, the log of the
hooks and the clock, with a record of what the ticks have done so far. -/

namespace Civm.Runner

/-- Something a tick has done, at a time of the clock: a state that took the
place of the one in the marker file, a restart with its result, a run that was
started again, or a look at the queue. -/
inductive Entry
  | saved (time : Int) (previous state : RerunState)
  | restarted (time : Int) (path : RestartPath) (unit : String) (result : Option Error)
  | reran (runID : Int) (headSHA : String)
  | queued (signature : String)

def MarkerFile.current : MarkerFile → RerunState
  | .state current => current
  | _ => .none

/-- The clock shows what was last read from it. `hooks` are the lines of the log of
the hooks as they were last read, and `fresh` the runs that the current tick has
started again. -/
structure Record where
  marker : MarkerFile
  clock : Int
  hooks : List (Option HookLogRecord)
  fresh : List (Int × String)
  log : List Entry

def Record.current (record : Record) : RerunState := record.marker.current

/-- `staged` is what the temporary file beside the marker file holds, if that is
a complete state. -/
structure World extends Record where
  staged : Option RerunState

namespace World

/-- The state has taken the place of the one in the marker file. -/
def saved (world : World) (state : RerunState) : World :=
  { world with
    marker := .state state
    log := world.log ++ [.saved world.clock world.current state] }

/-- The temporary file is renamed to the marker file. -/
def rename (world : World) : World :=
  match world.staged with
  | some state => world.saved state
  | none => { world with marker := .garbled (.text "unexpected end of JSON input") }

end World

/-- What the commands may answer. The clock is not set back, lines are only
added to the log of the hooks, all of which end with a line break, and a rename
that reports success has taken place. Any read or write may fail. -/
def permits (world : World) : (call : Call) → Answer call → Prop
  | .readMarker, .ok file => file = world.marker
  | .now, time => world.clock ≤ time ∧ 0 < time
  | .readHooksLog, .ok lines => ∃ added, lines = world.hooks ++ added ++ [none]
  | .renameMarker, outcome => outcome.error = none → outcome.took = true
  | _, _ => True

def after (world : World) : (call : Call) → Answer call → World
  | .statMaintenance, _ => { world with fresh := [] }
  | .now, time => { world with clock := time }
  | .readHooksLog, .ok lines => { world with hooks := lines.dropLast }
  | .queuedJobs _ _ _, .ok evidence => { world with log := world.log ++ [.queued evidence.signature] }
  | .writeMarker state, none => { world with staged := some state }
  | .writeMarker _, some _ => { world with staged := none }
  | .renameMarker, outcome => if outcome.took then world.rename else world
  | .restartFn path unit, result =>
    { world with log := world.log ++ [.restarted world.clock path unit result] }
  | .rerun _ runID headSHA, none =>
    { world with
      fresh := world.fresh ++ [(runID, headSHA)]
      log := world.log ++ [.reran runID headSHA] }
  | _, _ => world

def host : Outside Answer World where
  permits := permits
  after := after

theorem after_observed {world : World} {call : Call} {answer : Answer call}
    (observes : Observes call) : after world call answer = world := by
  cases call <;> first | rfl | exact observes.elim

end Civm.Runner
