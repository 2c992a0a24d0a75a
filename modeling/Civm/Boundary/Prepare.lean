import Civm.Foundation.Bash
import Civm.Foundation.Play

/-! # The boundary between two generations

The script `civm-generation-boundary`: before the machine is powered off every runner
is withdrawn, the caches are swept, and no container may be left. -/

namespace Civm.Boundary

open Bash

/-! ## The commands -/

def civmctl : String := "/usr/local/bin/civmctl"

def docker : String := "/usr/bin/docker"

def marker : List Char := "civm-generation-boundary/v1".toList

def capability : List String := [civmctl, "capability", "generation-clean-boundary"]

def maintenanceEnter : List String :=
  [civmctl, "maintenance", "enter", "--execute", "--strict", "--timeout=120"]

def idleCheck : List String := [civmctl, "idle-check"]

def cleanup : List String := [civmctl, "cleanup", "--execute", "--managed-volumes"]

def vacuum : List String := ["/usr/bin/journalctl", "--vacuum-size=50M"]

def systemPrune : List String := [docker, "system", "prune", "-af", "--volumes"]

def builderPrune : List String := [docker, "builder", "prune", "-af"]

def listing : List String := [docker, "ps", "-aq"]

def fstrim : List String := ["/usr/sbin/fstrim", "-av"]

def poweroff : List String := ["/usr/bin/systemctl", "poweroff", "--no-block"]

def sweep (directory : String) : List String :=
  ["/usr/bin/find", directory, "-xdev", "-mindepth", "1", "-maxdepth", "1", "-exec",
    "/usr/bin/rm", "-rf", "--one-file-system", "--", "\x7b\x7d", "+"]

def complain (message : String) : Statement :=
  command ["printf", "%s\\n", "civm-generation-boundary: " ++ message]

/-! ## The functions of the script -/

def die (message : String) : Statement := sequence [complain message, exit 64]

/-- The function behind the assignment of `got`, which is the status of the assignment. -/
def checkCapability (got : Outcome) : Statement :=
  sequence
    [either (fun suspended => return settle suspended got.status) (exit got.status),
      either (test (return substituted got.output = marker))
        (sequence [complain "incompatible civmctl capability", exit 1])]

def requireCapability : Statement := fun suspended => do
  checkCapability (← perform (.command capability)) suspended

/-- `[ -d path ] && [ ! -L path ]`. -/
def isPlainDirectory (path : String) : Statement :=
  both (test (perform (.isDirectory path))) (test (do return !(← perform (.isLink path))))

def sweepPlain (directory : String) : Statement :=
  conditional (isPlainDirectory directory) (command (sweep directory))

def cleanRunnerState : Statement :=
  forGlob [] "/home/*/actions-runner*" fun runner => sequence
    [either (isPlainDirectory runner) continue_, sweepPlain (runner ++ "/_diag"),
      sweepPlain (runner ++ "/_work")]

def caches : List String :=
  ["/.cache", "/.npm", "/.yarn", "/.local/share/pnpm", "/go/pkg", "/.cargo/registry",
    "/.m2/repository", "/.gradle/caches", "/.nuget/packages"]

def cleanHomeCaches : Statement :=
  forGlob ["/root"] "/home/*" fun home => sequence
    [either (isPlainDirectory home) continue_, forEach sweepPlain (caches.map (home ++ ·))]

def failIfAnyContainerRemains : Statement :=
  conditional (test (do return substituted (← perform (.command listing)).output ≠ []))
    (sequence [complain "Docker containers remain after cleanup", exit 1])

def prepare : Statement :=
  sequence
    [requireCapability, command maintenanceEnter, command idleCheck, command cleanup,
      command idleCheck, cleanRunnerState, cleanHomeCaches, command vacuum, command systemPrune,
      command builderPrune, failIfAnyContainerRemains, command fstrim, exec poweroff]

def usage : String := "expected exactly one of --check|prepare|resume|warn-clean"

def boundary : List String → Statement
  | ["--check"] => sequence [requireCapability, command ["printf", "%s\\n", String.ofList marker]]
  | ["prepare"] => prepare
  | ["resume"] =>
    sequence [requireCapability,
      command [civmctl, "maintenance", "exit", "--execute", "--timeout=120"], exec idleCheck]
  | ["warn-clean"] => sequence [requireCapability, command builderPrune, exec fstrim]
  | _ => die usage

/-! ## What has happened before the power is turned off -/

def commandOf (event : Event Answer) : Option (List String) :=
  match event.call with
  | .command words => some words
  | _ => none

/-- The commands that have been run, in their order. -/
def commandsOf (trace : Trace) : List (List String) := trace.filterMap commandOf

/-- The commands that every preparation runs. -/
def protocol : List (List String) :=
  [capability, maintenanceEnter, idleCheck, cleanup, idleCheck, vacuum, systemPrune, builderPrune,
    listing, fstrim]

/-- The commands of the protocol have been run in their order; no command but perhaps the
listing of the containers has failed; and the script has read what it has to of the
capability and of the listing. -/
structure Progressed (performed : List (List String)) (trace : Trace) : Prop where
  ordered : performed.Sublist (commandsOf trace)
  exited : ∀ words outcome, words ≠ listing → ⟨.command words, outcome⟩ ∈ trace →
    outcome.status = 0
  marked : ∀ outcome, ⟨.command capability, outcome⟩ ∈ trace →
    substituted outcome.output = marker
  listed : ∀ outcome, ⟨.command listing, outcome⟩ ∈ trace → substituted outcome.output = []

/-- What has to have happened before the power is turned off. -/
structure Clean (trace : Trace) : Prop where
  ordered : protocol.Sublist (commandsOf trace)
  exited : ∀ words outcome, ⟨.command words, outcome⟩ ∈ trace → outcome.status = 0
  marked : ∀ outcome, ⟨.command capability, outcome⟩ ∈ trace →
    substituted outcome.output = marker
  empty : ∀ outcome, ⟨.command listing, outcome⟩ ∈ trace → outcome.output = []

section

variable {performed : List (List String)} {trace : Trace} {ready : Trace → Prop}

theorem Progressed.snoc (progressed : Progressed performed trace) {words : List String}
    {outcome : Outcome} (succeeded : words ≠ listing → outcome.status = 0)
    (marked : words = capability → substituted outcome.output = marker)
    (listed : words = listing → substituted outcome.output = []) :
    Progressed (performed ++ [words]) (trace ++ [⟨.command words, outcome⟩]) := by
  constructor
  · rw [commandsOf, List.filterMap_append]
    exact progressed.ordered.append (List.Sublist.refl _)
  · intro other answer different member
    rcases List.mem_append.mp member with earlier | last
    · exact progressed.exited other answer different earlier
    · cases List.mem_singleton.mp last
      exact succeeded different
  · intro answer member
    rcases List.mem_append.mp member with earlier | last
    · exact progressed.marked answer earlier
    · cases List.mem_singleton.mp last
      exact marked rfl
  · intro answer member
    rcases List.mem_append.mp member with earlier | last
    · exact progressed.listed answer earlier
    · cases List.mem_singleton.mp last
      exact listed rfl

theorem Progressed.asked (progressed : Progressed performed trace) {event : Event Answer}
    (question : commandOf event = none) : Progressed performed (trace ++ [event]) := by
  have old : ∀ words outcome, ⟨.command words, outcome⟩ ∈ trace ++ [event] →
    ⟨.command words, outcome⟩ ∈ trace := by
    intro words outcome member
    rcases List.mem_append.mp member with earlier | last
    · exact earlier
    · rw [← List.mem_singleton.mp last] at question
      cases question
  constructor
  · rw [commandsOf, List.filterMap_append]
    exact progressed.ordered.trans (List.sublist_append_left _ _)
  · exact fun words outcome different member =>
      progressed.exited words outcome different (old words outcome member)
  · exact fun outcome member => progressed.marked outcome (old _ outcome member)
  · exact fun outcome member => progressed.listed outcome (old _ outcome member)

theorem Progressed.fewer {others : List (List String)} (progressed : Progressed performed trace)
    (fewer : others.Sublist performed) : Progressed others trace :=
  ⟨fewer.trans progressed.ordered, progressed.exited, progressed.marked, progressed.listed⟩

theorem progressed_nil : Progressed [] [] :=
  ⟨List.Sublist.refl _, nofun, nofun, nofun⟩

/-! ## The statements of the script -/

theorem meets_plain {words : List String} (plain : words ≠ listing ∧ words ≠ capability) :
    Meets poweroff ready (Progressed performed) (Progressed (performed ++ [words]))
      (command words) := by
  apply meets_command
  intro trace outcome progressed zero
  exact progressed.snoc (fun _ => zero) (fun same => absurd same plain.2)
    fun same => absurd same plain.1

theorem keeps_isPlainDirectory (path : String) :
    Keeps poweroff ready (Progressed performed) (isPlainDirectory path) := by
  apply Keeps.both
  · apply keeps_test
    intro trace progressed
    exact ⟨trivial, nofun, nofun, fun _ _ => progressed.asked rfl⟩
  · apply keeps_test
    intro trace progressed
    exact ⟨trivial, nofun, nofun, fun _ _ => progressed.asked rfl⟩

theorem maintains_sweepPlain (directory : String) :
    Maintains poweroff ready (Progressed performed) (sweepPlain directory) := by
  apply Maintains.conditional (keeps_isPlainDirectory directory)
  have plain : sweep directory ≠ listing ∧ sweep directory ≠ capability := by
    simp [sweep, listing, capability]
  intro trace progressed
  apply (meets_plain plain trace progressed).mono
  intro flow trace _ ended
  exact ended.imp_right fun met => met.2.fewer (List.sublist_append_left _ _)

theorem maintains_skip (path : String) :
    Maintains poweroff ready (Progressed performed)
      (either (isPlainDirectory path) continue_) :=
  ((keeps_isPlainDirectory path).either keeps_continue).maintains

theorem meets_cleanRunnerState :
    Meets poweroff ready (Progressed performed) (Progressed performed) cleanRunnerState := by
  apply Maintains.forGlob
  · intro runner
    apply Maintains.sequence
    simp only [List.forall_mem_cons]
    exact ⟨maintains_skip runner, maintains_sweepPlain _, maintains_sweepPlain _, nofun⟩
  · exact fun trace found progressed => progressed.asked rfl

theorem meets_cleanHomeCaches :
    Meets poweroff ready (Progressed performed) (Progressed performed) cleanHomeCaches := by
  apply Maintains.forGlob
  · intro home
    apply Maintains.sequence
    simp only [List.forall_mem_cons]
    exact ⟨maintains_skip home, (Maintains.forEach maintains_sweepPlain _).maintains, nofun⟩
  · exact fun trace found progressed => progressed.asked rfl

theorem meets_complain {pre post : Trace → Prop} (message : String) (status : Nat) :
    Meets poweroff ready pre post (sequence [complain message, exit status]) := by
  have complained : Meets poweroff ready pre (fun _ => True) (complain message) :=
    meets_command fun _ _ _ _ => trivial
  exact complained.sequence_cons (meets_exit status)

theorem checkCapability_eq (got : Outcome) :
    checkCapability got false =
      if got.status ≠ 0 then .done (.exited got.status)
      else if substituted got.output = marker then .done (.normal 0)
      else sequence [complain "incompatible civmctl capability", exit 1] false := by
  rcases got with ⟨status, output⟩
  cases status with
  | zero =>
    by_cases same : substituted output = marker
    · simp [checkCapability, Bash.sequence, either, test, settle, same]
    · simp [checkCapability, Bash.sequence, either, test, settle, same]
  | succ status => rfl

theorem meets_requireCapability :
    Meets poweroff ready (Progressed performed) (Progressed (performed ++ [capability]))
      requireCapability := by
  intro trace progressed
  apply And.intro trivial
  apply And.intro nofun
  apply And.intro nofun
  intro got _
  change (checkCapability got false).Satisfies _ _ _ _ _
  rw [checkCapability_eq]
  split
  · exact .inl ⟨got.status, rfl⟩
  · rename_i zero
    rw [not_not] at zero
    split
    · rename_i same
      exact .inr ⟨⟨0, rfl⟩, progressed.snoc (fun _ => zero) (fun _ => same)
        fun impossible => absurd impossible (by decide : capability ≠ listing)⟩
    · exact @meets_complain _ (fun _ => True) _ _ 1 _ trivial

theorem failIfAnyContainerRemains_eq :
    failIfAnyContainerRemains false = perform (.command listing) >>= fun outcome =>
      if substituted outcome.output ≠ [] then
        sequence [complain "Docker containers remain after cleanup", exit 1] false
      else .done (.normal 0) := by
  simp only [failIfAnyContainerRemains, conditional, test, bind_assoc, pure_bind]
  apply congrArg (Bind.bind (perform (.command listing)))
  funext outcome
  by_cases empty : substituted outcome.output = []
  · simp [settle, empty]
  · simp [settle, empty]

theorem meets_failIfAnyContainerRemains :
    Meets poweroff ready (Progressed performed) (Progressed (performed ++ [listing]))
      failIfAnyContainerRemains := by
  intro trace progressed
  rw [failIfAnyContainerRemains_eq]
  apply And.intro trivial
  apply And.intro nofun
  apply And.intro nofun
  intro outcome _
  change (if substituted outcome.output ≠ [] then _ else _ : Script Flow).Satisfies _ _ _ _ _
  split
  · exact @meets_complain _ (fun _ => True) _ _ 1 _ trivial
  · rename_i empty
    rw [not_not] at empty
    exact .inr ⟨⟨0, rfl⟩, progressed.snoc (fun other => absurd rfl other)
      (fun impossible => absurd impossible (by decide : listing ≠ capability)) fun _ => empty⟩

theorem meets_prepare :
    Meets poweroff (Progressed protocol) (Progressed []) (fun _ => False) prepare := by
  unfold prepare
  apply meets_requireCapability.sequence_cons
  apply (meets_plain (by decide)).sequence_cons
  apply (meets_plain (by decide)).sequence_cons
  apply (meets_plain (by decide)).sequence_cons
  apply (meets_plain (by decide)).sequence_cons
  apply meets_cleanRunnerState.sequence_cons
  apply meets_cleanHomeCaches.sequence_cons
  apply (meets_plain (by decide)).sequence_cons
  apply (meets_plain (by decide)).sequence_cons
  apply (meets_plain (by decide)).sequence_cons
  apply meets_failIfAnyContainerRemains.sequence_cons
  apply (meets_plain (by decide)).sequence_cons
  exact meets_exec fun trace progressed _ => progressed

theorem meets_boundary {arguments : List String} (other : arguments ≠ ["prepare"]) :
    Meets poweroff (fun _ => False) (Progressed []) (fun _ => True) (boundary arguments) := by
  have anything : ∀ {pre : Trace → Prop} {words : List String},
    Meets poweroff (fun _ => False) pre (fun _ => True) (command words) :=
    meets_command fun _ _ _ _ => trivial
  unfold boundary
  split
  · exact meets_requireCapability.sequence_cons anything
  · exact absurd rfl other
  · apply meets_requireCapability.sequence_cons
    apply anything.sequence_cons
    exact meets_exec fun _ _ same => absurd same (by decide)
  · apply meets_requireCapability.sequence_cons
    apply anything.sequence_cons
    exact meets_exec fun _ _ same => absurd same (by decide)
  · exact meets_complain _ _

/-- A listing that fails says so, and one that succeeds prints a container or nothing. -/
def Faithful (outcome : Outcome) : Prop :=
  substituted outcome.output = [] → outcome.status = 0 ∧ outcome.output = []

/-- The power is turned off by `prepare` only, and all has been done before that exactly if
the listing of the containers was faithful. -/
theorem powers_off_cleanly_iff (arguments : List String) (trace : Trace)
    (reached : Reaches Outside.any (boundary arguments false) [] () trace () (.exec poweroff)) :
    arguments = ["prepare"] ∧
      (Clean trace ↔ ∀ outcome, ⟨.command listing, outcome⟩ ∈ trace → Faithful outcome) := by
  by_cases prepared : arguments = ["prepare"]
  · apply And.intro prepared
    rw [prepared] at reached
    have progressed : Progressed protocol trace :=
      ((meets_prepare [] progressed_nil).reaches reached).2 rfl
    constructor
    · intro clean outcome member _
      exact ⟨clean.exited _ outcome member, clean.empty outcome member⟩
    · intro faithful
      constructor
      · exact progressed.ordered
      · intro words outcome member
        by_cases same : words = listing
        · subst same
          exact (faithful outcome member (progressed.listed outcome member)).1
        · exact progressed.exited words outcome same member
      · exact progressed.marked
      · intro outcome member
        exact (faithful outcome member (progressed.listed outcome member)).2
  · exact (((meets_boundary prepared [] progressed_nil).reaches reached).2 rfl).elim

def answers (listingStatus : Nat) : (call : Call) → Answer call
  | .command words =>
    if words = capability then ⟨0, marker ++ ['\n']⟩
    else ⟨if words = listing then listingStatus else 0, []⟩
  | .isDirectory path => path = "/root" || path = "/root/.cache"
  | .isLink _ => false
  | .glob _ => []
  | .exec _ => 1

def preparation (listingStatus : Nat) : Trace :=
  ((boundary ["prepare"] false).play (fun _ _ _ => ()) (fun _ _ => answers listingStatus) 25
    [] ()).1

theorem preparation_reaches (listingStatus : Nat) :
    Reaches Outside.any (boundary ["prepare"] false) [] () (preparation listingStatus) ()
      (.exec poweroff) := by
  have played := (meets_prepare [] progressed_nil).play (fun _ _ => answers listingStatus) 25
    fun _ _ _ _ _ => trivial
  exact played.2 (.exec poweroff) rfl

theorem answer_of_mem {listingStatus : Nat} {words : List String} {outcome : Outcome}
    (member : ⟨.command words, outcome⟩ ∈ preparation listingStatus) :
    outcome = answers listingStatus (.command words) := by
  rcases Program.mem_play member with impossible | answered
  · cases impossible
  · exact answered

theorem empty_host_is_powered_off : Clean (preparation 0) := by
  apply ((powers_off_cleanly_iff ["prepare"] (preparation 0) (preparation_reaches 0)).2).mpr
  intro outcome member _
  have answered : outcome = answers 0 (.command listing) := answer_of_mem member
  rw [answered]
  exact ⟨rfl, rfl⟩

theorem failed_listing_is_powered_off :
    Reaches Outside.any (boundary ["prepare"] false) [] () (preparation 1) () (.exec poweroff) ∧
      ¬Clean (preparation 1) := by
  apply And.intro (preparation_reaches 1)
  intro clean
  have listed : (preparation 1)[23]? = some ⟨.command listing, ⟨1, []⟩⟩ := rfl
  exact absurd (clean.exited listing _ (List.mem_of_getElem? listed)) (by decide)

end

end Civm.Boundary
