import Civm.Runner.Scenes

/-! # When a tick may act

A tick that finds a maintenance, or no network, only looks, and so does one
that is not to act. -/

namespace Civm.Runner

/-- The commands that change the host. -/
def Call.acts : Call → Bool
  | .mkdirMarker | .writeMarker _ | .renameMarker | .removeMarker => true
  | .freeze _ | .thaw _ | .stop _ | .kill _ | .restart _ | .restartFn _ _ | .rerun _ _ _ => true
  | .hookInstall execute => execute
  | _ => false

def Admits (opts : WatchdogOptions) (before : List (Event Answer)) (event : Event Answer) : Prop :=
  event.call.acts = true → opts.execute = true ∧ admitted <+: before

end Civm.Runner
