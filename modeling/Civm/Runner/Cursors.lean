import Civm.Runner.Scenes

/-! # Restarts of broken runners

A sentinel in the log of the hooks asks for one restart of the unit that owns the
work root. The marker file has a cursor for every unit: the time of the newest
sentinel that was acted on. -/

namespace Civm.Runner

def RerunState.cursor (state : RerunState) (unit : String) : Int :=
  ((state.autoRestarts unit).getD .none).lastActed

def saving (state : RerunState) : List (Event Answer) :=
  [⟨.mkdirMarker, none⟩, ⟨.writeMarker state, none⟩, ⟨.renameMarker, ⟨none, true⟩⟩]

/-- What a tick had read and saved when it asked for the restart of the unit,
after restarts of other units only. -/
structure Grounds (before : List (Event Answer)) (unit : String) (systemd : List Status) (now : Int)
    (lines : List (Option HookLogRecord)) (file : MarkerFile) (state : RerunState) : Prop where
  enriched : Enriched before systemd
  history : ∃ earlier done, before = earlier ++ (findings now lines file ++ saving state) ++ done ∧
    ∀ event ∈ done, ∃ other, other ≠ unit ∧ event.call = .restartFn .sentinel other

/-- The line is a recent sentinel of the unit, newer than the cursor that the tick
had read. -/
def Justifies (before : List (Event Answer)) (unit : String) (line : Nat) : Prop :=
  ∃ systemd now lines file state record workRoot time,
    Grounds before unit systemd now lines file state ∧
    lines.length - 500 ≤ line ∧ lines[line]? = some record ∧
    sentinelOf now record = some (workRoot, time) ∧
    unitForWorkRoot workRoot systemd = some unit ∧ file.current.cursor unit < time

/-- The restart was asked for after a state was saved whose cursor is the time of
the newest sentinel of the unit. -/
structure Reserved (before : List (Event Answer)) (unit : String) (systemd : List Status)
    (now : Int) (lines : List (Option HookLogRecord)) (file : MarkerFile) (state : RerunState)
    (time : Int) : Prop where
  grounds : Grounds before unit systemd now lines file state
  newest : Newest systemd now lines unit time
  older : file.current.cursor unit < time
  cursor : state.cursor unit = time

/-! ## Grounds -/

section

variable {before : List (Event Answer)} {unit : String} {systemd systemd' : List Status}
variable {now now' : Int} {lines lines' : List (Option HookLogRecord)} {file file' : MarkerFile}
variable {state state' : RerunState}

def isSentinelRestart : Event Answer → Bool
  | ⟨.restartFn .sentinel _, _⟩ => true
  | _ => false

theorem rdropWhile_done {earlier done : List (Event Answer)}
    (history : before = earlier ++ (findings now lines file ++ saving state) ++ done)
    (past : ∀ event ∈ done, ∃ other, other ≠ unit ∧ event.call = .restartFn .sentinel other) :
    before.rdropWhile isSentinelRestart = earlier ++ (findings now lines file ++ saving state) := by
  subst history
  induction done using List.reverseRecOn with
  | nil =>
    have last : earlier ++ (findings now lines file ++ saving state) ++ [] =
      (earlier ++ (findings now lines file ++ [⟨.mkdirMarker, none⟩,
        ⟨.writeMarker state, none⟩])) ++ [⟨.renameMarker, ⟨none, true⟩⟩] := by
      simp [saving]
    rw [last, List.rdropWhile_concat_neg _ _ _ (by decide), ← last, List.append_nil]
  | append_singleton rest event induction =>
    rw [List.forall_mem_append, List.forall_mem_singleton] at past
    obtain ⟨other, _, called⟩ := past.2
    have restarts : isSentinelRestart event := by
      rcases event with ⟨call, answer⟩
      cases called
      rfl
    rw [← List.append_assoc, List.rdropWhile_concat_pos _ _ _ restarts]
    exact induction past.1

theorem Grounds.unique (grounds : Grounds before unit systemd now lines file state)
    (grounds' : Grounds before unit systemd' now' lines' file' state') :
    systemd = systemd' ∧ now = now' ∧ lines = lines' ∧ file = file' := by
  rcases grounds.history with ⟨earlier, done, history, past⟩
  rcases grounds'.history with ⟨earlier', done', history', past'⟩
  have dropped := rdropWhile_done history past
  rw [rdropWhile_done history' past'] at dropped
  have same := (List.append_inj' dropped rfl).2
  simp only [findings, saving, List.cons_append, List.nil_append, List.cons.injEq, Event.mk.injEq,
    heq_eq_eq, true_and, Except.ok.injEq] at same
  exact ⟨grounds.enriched.unique grounds'.enriched, same.1.symm, same.2.1.symm, same.2.2.1.symm⟩

end

/-! ## Units that own a work root -/

/-- The unit has a window of its own. -/
def Free (unit : String) : Prop := ∀ other, unit ≠ orgBusyKey other

theorem free_of_valid {unit : String} (valid : validateServiceUnit unit = none) : Free unit := by
  rintro other rfl
  have plain : (orgBusyKey other).toList.all isUnitChar := by
    by_contra strange
    rw [validateServiceUnit, if_neg fun holds => strange holds.1] at valid
    cases valid
  have colon : ':' ∈ (orgBusyKey other).toList := by simp [orgBusyKey]
  exact absurd (List.all_eq_true.mp plain ':' colon) (by decide)

section

variable {systemd : List Status} {workRoot unit : String}

theorem closerUnit_cases {best : Option (String × Nat)} {status : Status} {found : String × Nat}
    (equal : closerUnit workRoot best status = some found) :
    best = some found ∨ (status.unitName = found.1 ∧ status.workingDirectory ≠ "") := by
  unfold closerUnit at equal
  split at equal
  case isTrue => exact .inl equal
  case isFalse named =>
    dsimp only at equal
    split at equal
    case isTrue =>
      split at equal
      case isTrue =>
        cases equal
        exact .inr ⟨rfl, fun absent => named (.inr absent)⟩
      case isFalse => exact .inl equal
    case isFalse => exact .inl equal

theorem foldl_closerUnit {best : Option (String × Nat)} {found : String × Nat}
    (equal : systemd.foldl (closerUnit workRoot) best = some found) :
    best = some found ∨
      ∃ status ∈ systemd, status.unitName = found.1 ∧ status.workingDirectory ≠ "" := by
  induction systemd generalizing best with
  | nil => exact .inl equal
  | cons status rest induction =>
    rcases induction equal with closer | ⟨other, member, holds⟩
    · rcases closerUnit_cases closer with already | holds
      · exact .inl already
      · exact .inr ⟨status, List.mem_cons_self, holds⟩
    · exact .inr ⟨other, List.mem_cons_of_mem _ member, holds⟩

theorem Enriched.free {trace : List (Event Answer)} (enriched : Enriched trace systemd)
    (owner : unitForWorkRoot workRoot systemd = some unit) : Free unit := by
  rcases enriched with ⟨events, after, _, execution⟩
  have located : ∀ status ∈ systemd, Located status :=
    Program.Within.returns enrichedUnits_surveys (fun _ _ _ _ => trivial) execution
  rcases Option.map_eq_some_iff.mp owner with ⟨found, equal, rfl⟩
  rcases foldl_closerUnit equal with none | ⟨status, member, named, present⟩
  · cases none
  · exact named ▸ free_of_valid (located status member present)

end

/-! ## Cursors never go back -/

section

variable {opts : WatchdogOptions} {systemd : List Status} {trace : List (Event Answer)}
variable {record : Record} {unit : String}

theorem AutoRestartWindow.current_lastActed (window : AutoRestartWindow) (now : Int) :
    (window.current now).lastActed = window.lastActed := by
  unfold AutoRestartWindow.current
  split <;> rfl

theorem Reserves.reserved_cursor {now : Int} {lines : List (Option HookLogRecord)}
    {state state' : RerunState} {units : List String}
    (reserves : Reserves opts systemd now lines state units state') (member : unit ∈ units) :
    ∃ time, Newest systemd now lines unit time ∧ state.cursor unit < time ∧
      state'.cursor unit = time := by
  rcases reserves.reserved unit member with ⟨time, newest, window, rfl, older, _, saved⟩
  rw [AutoRestartWindow.current_lastActed] at older
  exact ⟨time, newest, older, congrArg (fun window => (window.getD .none).lastActed) saved⟩

theorem Edit.cursor {state : RerunState} (edit : Edit opts systemd trace record state)
    (free : Free unit) : record.current.cursor unit ≤ state.cursor unit := by
  have unchanged : state.autoRestarts unit = record.current.autoRestarts unit →
    record.current.cursor unit ≤ state.cursor unit := by
    intro same
    apply Int.le_of_eq
    rw [RerunState.cursor, RerunState.cursor, same]
  cases edit with
  | cleared units =>
    refine unchanged (if_neg fun member => ?_)
    rcases List.mem_map.mp member with ⟨other, _, equal⟩
    exact free other equal.symm
  | busy other window =>
    refine unchanged ?_
    simp [RerunState.setWindow, free other]
  | reserved before now lines units _ history reserves =>
    by_cases member : unit ∈ units
    · rcases reserves.reserved_cursor member with ⟨time, _, older, saved⟩
      exact saved ▸ Int.le_of_lt older
    · exact unchanged (reserves.others unit member)
  | reran markers same => exact unchanged (congrFun RerunState.marked_frame.1 unit)
  | _ => exact unchanged rfl

theorem Moves.cursor {record' : Record} (moves : Moves opts trace record record')
    (free : Free unit) : record.current.cursor unit ≤ record'.current.cursor unit := by
  cases moves with
  | still _ marker =>
    apply Int.le_of_eq
    rw [Record.current, Record.current, marker]
  | saved systemd before state enriched longer edit => exact edit.cursor free
  | restarted systemd path unit result enriched restart => exact Int.le_refl _
  | noted _ entry marker =>
    apply Int.le_of_eq
    rw [Record.current, Record.current, marker]

end

/-! ## One tick -/

/-- The lines of a file that has only grown since it was read, without the empty
one after the last line break. -/
def Read (lines hooks : List (Option HookLogRecord)) : Prop :=
  ∃ complete, lines = complete ++ [none] ∧ complete <+: hooks

theorem Read.longer {lines hooks hooks' : List (Option HookLogRecord)} (read : Read lines hooks)
    (longer : hooks <+: hooks') : Read lines hooks' := by
  rcases read with ⟨complete, rfl, start⟩
  exact ⟨complete, rfl, start.trans longer⟩

theorem Read.line {lines hooks : List (Option HookLogRecord)} {line : Nat} {record : HookLogRecord}
    (read : Read lines hooks) (found : lines[line]? = some (some record)) :
    hooks[line]? = some (some record) := by
  rcases read with ⟨complete, rfl, more, rfl⟩
  rw [List.getElem?_append] at found ⊢
  split at found
  case isTrue inside => rw [if_pos inside, found]
  case isFalse outside =>
    have among := List.mem_of_getElem? found
    simp at among

/-- Every restart of a broken runner was reserved, and the cursor has not gone back
behind it, neither in the marker file nor in what was read of it later. -/
def Answered (trace : List (Event Answer)) (later : List (Event Answer)) (world : World) : Prop :=
  ∀ before unit answer after, trace = before ++ ⟨.restartFn .sentinel unit, answer⟩ :: after →
    ∃ systemd now lines file state time, Reserved before unit systemd now lines file state time ∧
      Read lines world.hooks ∧ time ≤ world.current.cursor unit ∧
      ∀ file, ⟨.readMarker, .ok file⟩ ∈ after ++ later → time ≤ file.current.cursor unit

/-- What a tick that begins in the first world keeps. -/
structure Ascending (start : World) (trace : List (Event Answer)) (world : World) : Prop where
  hooks : start.hooks <+: world.hooks
  listed : ∀ lines, ⟨.readHooksLog, .ok lines⟩ ∈ trace → Read lines world.hooks
  cursor : ∀ unit, Free unit → start.current.cursor unit ≤ world.current.cursor unit
  read : ∀ file, ⟨.readMarker, .ok file⟩ ∈ trace → ∀ unit, Free unit →
    start.current.cursor unit ≤ file.current.cursor unit
  answered : Answered trace [] world

theorem Reserved.free {before : List (Event Answer)} {unit : String} {systemd : List Status}
    {now time : Int} {lines : List (Option HookLogRecord)} {file : MarkerFile} {state : RerunState}
    (reserved : Reserved before unit systemd now lines file state time) : Free unit := by
  rcases reserved.newest.found with ⟨_, _, _, _, owner⟩
  exact reserved.grounds.enriched.free owner

theorem Restart.reserved {opts : WatchdogOptions} {systemd : List Status}
    {before : List (Event Answer)} {record : Record} {unit : String}
    (restart : Restart opts systemd before record .sentinel unit)
    (enriched : Enriched before systemd) :
    ∃ now lines file state time, Reserved before unit systemd now lines file state time ∧
      ⟨.readHooksLog, .ok lines⟩ ∈ before ∧ record.current.cursor unit = time := by
  cases restart with
  | sentinel _ earlier done now lines file units state history past reserves member saved =>
    rcases reserves.reserved_cursor member with ⟨time, newest, older, cursor⟩
    have grounds : Grounds before unit systemd now lines file state :=
      ⟨enriched, earlier, done, by simpa [saving] using history, past⟩
    refine ⟨now, lines, file, state, time, ⟨grounds, newest, older, cursor⟩, ?_, ?_⟩
    · simp [history, findings]
    · rw [Record.current, saved]
      exact cursor

section

variable {opts : WatchdogOptions} {start world : World} {trace : List (Event Answer)}
variable {call : Call} {answer : Answer call}

theorem hooks_grow (permitted : permits world call answer) :
    world.hooks <+: (after world call answer).hooks := by
  cases call with
  | readHooksLog =>
    cases answer with
    | error error => exact List.prefix_rfl
    | ok lines =>
      obtain ⟨added, rfl⟩ := permitted
      simp [after]
  | renameMarker =>
    dsimp only [after]
    split
    · unfold World.rename
      split <;> exact List.prefix_rfl
    · exact List.prefix_rfl
  | writeMarker state | rerun repo runID headSHA => cases answer <;> exact List.prefix_rfl
  | queuedJobs repos now maxAge => cases answer <;> exact List.prefix_rfl
  | _ => exact List.prefix_rfl

theorem Ascending.step (ascending : Ascending start trace world)
    (allowed : (tick opts).allows trace world call) (permitted : permits world call answer) :
    Ascending start (trace ++ [⟨call, answer⟩]) (after world call answer) := by
  have moves : Moves opts trace world.toRecord (after world call answer).toRecord :=
    moves_of_allowed allowed
  have grows := hooks_grow permitted
  constructor
  · exact ascending.hooks.trans grows
  · intro lines member
    rcases List.mem_append.mp member with earlier | last
    · exact (ascending.listed lines earlier).longer grows
    · cases List.mem_singleton.mp last
      obtain ⟨added, rfl⟩ := permitted
      exact ⟨world.hooks ++ added, rfl, by simp [after]⟩
  · exact fun unit free => Int.le_trans (ascending.cursor unit free) (moves.cursor free)
  · intro file member unit free
    rcases List.mem_append.mp member with earlier | last
    · exact ascending.read file earlier unit free
    · cases List.mem_singleton.mp last
      have same : file = world.marker := permitted
      exact same ▸ ascending.cursor unit free
  · intro before unit answer' after' split
    rcases snoc_eq_append_cons split with ⟨rfl, rfl, last⟩ | ⟨middle, rfl, rfl⟩
    · cases last
      rcases allowed with observes | ⟨opening, _⟩ | ⟨systemd, enriched, _, restart⟩
      · exact observes.elim
      · cases opening
      · rcases restart.reserved enriched with ⟨now, lines, file, state, time, reserved, listed, cursor⟩
        exact ⟨systemd, now, lines, file, state, time, reserved, ascending.listed lines listed,
          Int.le_of_eq cursor.symm, fun _ member => absurd member List.not_mem_nil⟩
    · rcases ascending.answered before unit answer' middle rfl with
        ⟨systemd, now, lines, file, state, time, reserved, listed, below, later⟩
      refine ⟨systemd, now, lines, file, state, time, reserved, listed.longer grows,
        Int.le_trans below (moves.cursor reserved.free), fun file' member => ?_⟩
      rw [List.append_nil] at member later
      rcases List.mem_append.mp member with earlier | last
      · exact later file' earlier
      · cases List.mem_singleton.mp last
        have same : file' = world.marker := permitted
        exact same ▸ below

theorem watchdog_ascending {world' result}
    (calls : opts.restartFn = fun path unit => perform (.restartFn path unit))
    (execution : Execution host (watchdog opts) [] start trace world' result) :
    Ascending start trace world' := by
  have begins : Ascending start [] start :=
    ⟨List.prefix_rfl, nofun, fun _ _ => Int.le_refl _, nofun, fun before _ _ after split => by
      cases before <;> cases split⟩
  have step : ∀ trace world call answer, Ascending start trace world →
    (tick (applyWatchdogDefaults opts)).allows trace world call → permits world call answer →
    Ascending start (trace ++ [⟨call, answer⟩]) (after world call answer) :=
    fun _ _ _ _ ascending => ascending.step
  exact watchdog_preserves calls step execution begins

end

/-! ## Histories -/

abbrev Runs := List (List (Event Answer) × Option WatchdogReport)

/-- A restart of a broken runner, with the events of its tick before it and the
ticks before that one. -/
def Asked (runs : Runs) (past : Runs) (before : List (Event Answer)) (unit : String) : Prop :=
  ∃ trace result later answer after, runs = past ++ (trace, result) :: later ∧
    trace = before ++ ⟨.restartFn .sentinel unit, answer⟩ :: after

/-- Every work root that is owned in two ticks is owned by the same unit. -/
def Stable (runs : Runs) : Prop :=
  ∀ run ∈ runs, ∀ run' ∈ runs, ∀ systemd systemd', Enriched run.1 systemd →
    Enriched run'.1 systemd' → ∀ workRoot unit unit', unitForWorkRoot workRoot systemd = some unit →
    unitForWorkRoot workRoot systemd' = some unit' → unit = unit'

def Timed (hooks : List (Option HookLogRecord)) : Prop :=
  ∀ record, some record ∈ hooks → hookRecordIsBrokenSentinel record → record.time ≠ 0

def Kept (runs : Runs) (world : World) : Prop :=
  ∀ past trace result later, runs = past ++ (trace, result) :: later →
    Answered trace (later.flatMap Prod.fst) world

theorem Kept.again {runs : Runs} {world world' : World} {trace : List (Event Answer)}
    {result : Option WatchdogReport} (kept : Kept runs world) (ascending : Ascending world trace world') :
    Kept (runs ++ [(trace, result)]) world' := by
  intro past trace' result' later split
  rcases snoc_eq_append_cons split with ⟨rfl, rfl, last⟩ | ⟨middle, rfl, rfl⟩
  · cases last
    exact ascending.answered
  · intro before unit answer after equal
    rcases kept past trace' result' middle rfl before unit answer after equal with
      ⟨systemd, now, lines, file, state, time, reserved, listed, below, later⟩
    refine ⟨systemd, now, lines, file, state, time, reserved, listed.longer ascending.hooks,
      Int.le_trans below (ascending.cursor unit reserved.free), fun file' member => ?_⟩
    rw [List.flatMap_append, ← List.append_assoc, List.mem_append] at member
    rcases member with earlier | last
    · exact later file' earlier
    · rw [List.flatMap_singleton] at last
      exact Int.le_trans below (ascending.read file' last unit reserved.free)

theorem history_kept {opts : WatchdogOptions} {start world : World} {runs : Runs}
    (calls : opts.restartFn = fun path unit => perform (.restartFn path unit))
    (history : Repeated host (watchdog opts) start runs world) : Kept runs world := by
  induction history with
  | none => exact fun past _ _ _ split => by cases past <;> cases split
  | again _ execution induction => exact induction.again (watchdog_ascending calls execution)

/-- What is known of a restart that a line justifies, with the events before it in
its tick and all events after it. -/
structure Cause (world : World) (line : Nat) (before after : List (Event Answer)) (unit : String)
    (record : HookLogRecord) : Prop where
  present : world.hooks[line]? = some (some record)
  owned : ∃ systemd, Enriched before systemd ∧ unitForWorkRoot record.workRoot systemd = some unit
  grounds : ∃ earlier now lines file state done,
    before = earlier ++ (findings now lines file ++ saving state) ++ done ∧
    (∀ event ∈ done, ∃ other, other ≠ unit ∧ event.call = .restartFn .sentinel other) ∧
    file.current.cursor unit < record.time
  passed : ∀ file, ⟨.readMarker, .ok file⟩ ∈ after → record.time ≤ file.current.cursor unit

theorem Kept.cause {runs past later : Runs} {world : World} {trace before after : List (Event Answer)}
    {result : Option WatchdogReport} {unit : String} {answer : Option Error} {line : Nat}
    (kept : Kept runs world) (timed : Timed world.hooks)
    (among : runs = past ++ (trace, result) :: later)
    (asked : trace = before ++ ⟨.restartFn .sentinel unit, answer⟩ :: after)
    (justifies : Justifies before unit line) :
    ∃ record, Cause world line before (after ++ later.flatMap Prod.fst) unit record := by
  rcases justifies with
    ⟨systemd, now, lines, file, state, entry, workRoot, time, grounds, recently, found, sentinel, owner,
      older⟩
  rcases kept past trace result later among before unit answer after asked with
    ⟨systemd', now', lines', file', state', newest, reserved, listed, _, passed⟩
  obtain ⟨rfl, rfl, rfl, rfl⟩ := grounds.unique reserved.grounds
  obtain ⟨record, rfl, rfl, broken, own⟩ := sentinelOf_eq_some sentinel
  have present := listed.line found
  have own := own (timed record (List.mem_of_getElem? present) broken)
  have seen : some record ∈ recent lines := by
    have place : (recent lines)[line - (lines.length - 500)]? = some (some record) := by
      rw [recent, List.getElem?_drop, Nat.add_sub_cancel' recently, found]
    exact List.mem_of_getElem? place
  have below := reserved.newest.newest _ seen _ _ sentinel owner
  rcases grounds.history with ⟨earlier, done, history, others⟩
  refine ⟨record, present, ⟨systemd, grounds.enriched, owner⟩,
    ⟨earlier, now, lines, file, state, done, history, others, own ▸ older⟩, fun file member => ?_⟩
  exact own ▸ Int.le_trans below (passed file member)

/-- The marker file is read after an earlier restart of the unit, or the restart is
one of those before which it was read. -/
theorem reads_after {earlier done before middle : List (Event Answer)} {now : Int}
    {lines : List (Option HookLogRecord)} {file : MarkerFile} {state : RerunState} {unit : String}
    {answer : Option Error}
    (equal : before ++ ⟨.restartFn .sentinel unit, answer⟩ :: middle =
      earlier ++ (findings now lines file ++ saving state) ++ done) :
    ⟨.readMarker, .ok file⟩ ∈ middle ∨ ⟨.restartFn .sentinel unit, answer⟩ ∈ done := by
  rw [List.append_assoc] at equal
  rcases List.append_eq_append_iff.mp equal with ⟨rest, rfl, split⟩ | ⟨rest, rfl, split⟩
  · cases rest with
    | nil => simp [findings] at split
    | cons first more =>
      obtain ⟨rfl, rfl⟩ := List.cons.inj split
      exact .inl (by simp [findings])
  · have member : ⟨.restartFn .sentinel unit, answer⟩ ∈ findings now lines file ++ saving state ++ done := by
      rw [split]
      simp
    exact .inr (by simpa [findings, saving] using member)

variable {world : World} {line : Nat} {unit : String} {record : HookLogRecord}

theorem Cause.read {before after : List (Event Answer)} (cause : Cause world line before after unit record) :
    ∃ file, ⟨.readMarker, .ok file⟩ ∈ before ∧ file.current.cursor unit < record.time := by
  rcases cause.grounds with ⟨earlier, now, lines, file, state, done, rfl, _, older⟩
  exact ⟨file, by simp [findings], older⟩

theorem Cause.not_again {before middle after after' : List (Event Answer)} {answer : Option Error}
    (first : Cause world line before after unit record)
    (second : Cause world line (before ++ ⟨.restartFn .sentinel unit, answer⟩ :: middle) after' unit
      record) (subset : middle ⊆ after) : False := by
  rcases second.grounds with ⟨earlier, now, lines, file, state, done, history, others, older⟩
  rcases reads_after history with read | called
  · exact absurd older (Int.not_lt.mpr (first.passed file (subset read)))
  · rcases others _ called with ⟨other, different, same⟩
    cases same
    exact different rfl

theorem Cause.not_later {before after before' after' : List (Event Answer)}
    (first : Cause world line before after unit record)
    (second : Cause world line before' after' unit record) (subset : before' ⊆ after) : False := by
  rcases second.read with ⟨file, read, older⟩
  exact absurd older (Int.not_lt.mpr (first.passed file (subset read)))

/-- In every history of ticks a restart of a broken runner is preceded by a saved
state whose cursor is the time of its newest sentinel. If no work root changes its
unit, every line justifies at most one restart. -/
theorem sentinels_act_once_while_stable {opts : WatchdogOptions} {start world : World} {runs : Runs}
    (calls : opts.restartFn = fun path unit => perform (.restartFn path unit))
    (history : Repeated host (watchdog opts) start runs world) (timed : Timed world.hooks) :
    (∀ past before unit, Asked runs past before unit →
      ∃ systemd now lines file state time,
        Reserved before unit systemd now lines file state time) ∧
    (Stable runs → ∀ past before unit past' before' unit' line,
      Asked runs past before unit → Asked runs past' before' unit' →
      Justifies before unit line → Justifies before' unit' line → past = past' ∧ before = before') := by
  have kept := history_kept calls history
  constructor
  · rintro past before unit ⟨trace, result, later, answer, after, among, asked⟩
    rcases kept past trace result later among before unit answer after asked with
      ⟨systemd, now, lines, file, state, time, reserved, _⟩
    exact ⟨systemd, now, lines, file, state, time, reserved⟩
  · rintro stable past before unit past' before' unit' line
      ⟨trace, result, later, answer, after, among, asked⟩
      ⟨trace', result', later', answer', after', among', asked'⟩ justifies justifies'
    rcases kept.cause timed among asked justifies with ⟨record, cause⟩
    rcases kept.cause timed among' asked' justifies' with ⟨record', cause'⟩
    obtain rfl : record = record' := by
      have same := cause.present.symm.trans cause'.present
      simpa using same
    obtain rfl : unit = unit' := by
      rcases cause.owned with ⟨systemd, enriched, owner⟩
      rcases cause'.owned with ⟨systemd', enriched', owner'⟩
      refine stable (trace, result) (by simp [among]) (trace', result') (by simp [among']) _ _
        (enriched.longer ?_) (enriched'.longer ?_) _ _ _ owner owner'
      · exact asked ▸ List.prefix_append _ _
      · exact asked' ▸ List.prefix_append _ _
    rcases append_cons_eq_append_cons (among.symm.trans among') with
      ⟨rfl, same, rfl⟩ | ⟨middle, rfl, rfl⟩ | ⟨middle, rfl, rfl⟩
    · obtain ⟨rfl, rfl⟩ := Prod.mk.inj same
      refine ⟨rfl, ?_⟩
      rcases append_cons_eq_append_cons (asked.symm.trans asked') with
        ⟨equal, _, _⟩ | ⟨middle, rfl, rfl⟩ | ⟨middle, rfl, rfl⟩
      · exact equal
      · exact (cause.not_again cause' (by simp)).elim
      · exact (cause'.not_again cause (by simp)).elim
    · refine (cause.not_later cause' fun event member => ?_).elim
      simp [asked', member]
    · refine (cause'.not_later cause fun event member => ?_).elim
      simp [asked, member]

theorem Reserved.justified {before : List (Event Answer)} {systemd : List Status} {now time : Int}
    {lines hooks : List (Option HookLogRecord)} {file : MarkerFile} {state : RerunState}
    (reserved : Reserved before unit systemd now lines file state time) (read : Read lines hooks) :
    ∃ line, line < hooks.length ∧ Justifies before unit line := by
  rcases reserved.newest.found with ⟨entry, seen, workRoot, sentinel, owner⟩
  obtain ⟨record, rfl, _⟩ := sentinelOf_eq_some sentinel
  obtain ⟨place, found⟩ := List.mem_iff_getElem?.mp seen
  rw [recent, List.getElem?_drop] at found
  have inside := (List.getElem?_eq_some_iff.mp (read.line found)).1
  exact ⟨_, inside, systemd, now, lines, file, state, some record, workRoot, time, reserved.grounds,
    Nat.le_add_right _ _, found, sentinel, owner, reserved.older⟩

theorem Kept.single {runs past : Runs} {before : List (Event Answer)} (kept : Kept runs world)
    (single : world.hooks.length = 1) (asked : Asked runs past before unit) :
    Justifies before unit 0 := by
  rcases asked with ⟨trace, result, later, answer, after, among, asked⟩
  rcases kept past trace result later among before unit answer after asked with
    ⟨systemd, now, lines, file, state, time, reserved, read, _⟩
  rcases reserved.justified read with ⟨line, inside, justifies⟩
  obtain rfl : line = 0 := Nat.lt_one_iff.mp (single ▸ inside)
  exact justifies

theorem Asked.of_mem {trace : List (Event Answer)} {answer : Option Error}
    (among : ⟨.restartFn .sentinel unit, answer⟩ ∈ trace) (past later : Runs)
    (result : Option WatchdogReport) :
    ∃ before, Asked (past ++ (trace, result) :: later) past before unit := by
  rcases List.append_of_mem among with ⟨before, after, split⟩
  exact ⟨before, trace, result, later, answer, after, rfl, split⟩

theorem Timed.of_all {hooks : List (Option HookLogRecord)}
    (all : hooks.all fun line => line.all fun record => record.time ≠ 0) : Timed hooks := by
  intro record member _
  simpa using List.all_eq_true.mp all _ member

theorem stable_single {trace : List (Event Answer)} {result : Option WatchdogReport} :
    Stable [(trace, result)] := by
  intro run member run' member' systemd systemd' enriched enriched' workRoot unit unit' owner owner'
  rw [List.mem_singleton] at member member'
  subst member member'
  obtain rfl := enriched.unique enriched'
  exact Option.some.inj (owner.symm.trans owner')

theorem broken_runner_acts_once :
    ∃ runs world, Repeated host (watchdog Sample.watching) Sample.broken runs world ∧
      Timed world.hooks ∧ Stable runs ∧ ∃ past before,
        Asked runs past before Sample.appUnit.unitName ∧
        Justifies before Sample.appUnit.unitName 0 ∧
        ∀ past' before' unit', Asked runs past' before' unit' → Justifies before' unit' 0 →
          past = past' ∧ before = before' := by
  rcases Sample.single_shown.execution (.any (by decide)) Sample.watching_valid
    Sample.broken_sound 40 with ⟨events, _, execution⟩
  have history := Repeated.none.again execution.unlimited
  have outcome : (((Sample.quiet (Sample.unhyphenated.drop 1)).patrolled Sample.watching
    [Sample.appUnit] Sample.broken 40).1.map Scene.restartOf).contains
      (some (.sentinel, Sample.appUnit.unitName)) ∧
    ((Sample.quiet (Sample.unhyphenated.drop 1)).patrolled Sample.watching [Sample.appUnit]
      Sample.broken 40).2.1.hooks.length = 1 ∧
    ((Sample.quiet (Sample.unhyphenated.drop 1)).patrolled Sample.watching [Sample.appUnit]
      Sample.broken 40).2.1.hooks.all (fun line => line.all fun record => record.time ≠ 0) := by
    decide +kernel
  rcases outcome with ⟨called, single, timed⟩
  rcases Scene.restart_of_mem (List.contains_iff_mem.mp called) with ⟨answer, among⟩
  rcases Asked.of_mem (List.mem_append_right (admitted ++ events) among) [] [] _ with
    ⟨before, asked⟩
  have justifies := (history_kept rfl history).single single asked
  exact ⟨_, _, history, .of_all timed, stable_single, [], before, asked, justifies,
    fun past' before' unit' asked' justifies' =>
      (sentinels_act_once_while_stable rfl history (.of_all timed)).2 stable_single _ _ _ _ _ _ _
        asked asked' justifies justifies'⟩

namespace Sample

def renamed : List Row := [row ("acme" ++ "-" ++ "app" ++ "." ++ "civm-new") (by decide +kernel)]

def newUnit : Status :=
  { appUnit with unitName := "actions.runner.acme-app.civm-new.service", name := "civm-new" }

theorem renamed_shown : (quiet renamed).Shows [newUnit] :=
  ⟨[{ newUnit with workingDirectory := "" }], by decide +kernel, by decide +kernel⟩

def acted : World := ((quiet (unhyphenated.drop 1)).patrolled watching [appUnit] broken 40).2.1

theorem acted_sound : Scene.Sound acted := Scene.patrolled_sound (by decide) broken_sound 40

end Sample

/-- A runner that takes over a directory is restarted for an old sentinel. -/
theorem renamed_runner_acts_again :
    ∃ runs world, Repeated host (watchdog Sample.watching) Sample.broken runs world ∧
      Timed world.hooks ∧ ∃ past before unit past' before' unit' line,
        Asked runs past before unit ∧ Asked runs past' before' unit' ∧
        Justifies before unit line ∧ Justifies before' unit' line ∧ past ≠ past' := by
  rcases Sample.single_shown.execution (.any (by decide)) Sample.watching_valid
    Sample.broken_sound 40 with ⟨events, _, first⟩
  rcases Sample.renamed_shown.execution (.any (by decide)) Sample.watching_valid
    Sample.acted_sound 40 with ⟨events', _, second⟩
  have history := (Repeated.none.again first.unlimited).again second.unlimited
  have outcome : (((Sample.quiet (Sample.unhyphenated.drop 1)).patrolled Sample.watching
    [Sample.appUnit] Sample.broken 40).1.map Scene.restartOf).contains
      (some (.sentinel, Sample.appUnit.unitName)) ∧
    (((Sample.quiet Sample.renamed).patrolled Sample.watching [Sample.newUnit] Sample.acted
      40).1.map Scene.restartOf).contains (some (.sentinel, Sample.newUnit.unitName)) ∧
    ((Sample.quiet Sample.renamed).patrolled Sample.watching [Sample.newUnit] Sample.acted
      40).2.1.hooks.length = 1 ∧
    ((Sample.quiet Sample.renamed).patrolled Sample.watching [Sample.newUnit] Sample.acted
      40).2.1.hooks.all (fun line => line.all fun record => record.time ≠ 0) := by
    decide +kernel
  rcases outcome with ⟨called, called', single, timed⟩
  rcases Scene.restart_of_mem (List.contains_iff_mem.mp called) with ⟨answer, among⟩
  rcases Scene.restart_of_mem (List.contains_iff_mem.mp called') with ⟨answer', among'⟩
  rcases Asked.of_mem (List.mem_append_right (admitted ++ events) among) [] [_] _ with
    ⟨before, asked⟩
  rcases Asked.of_mem (List.mem_append_right (admitted ++ events') among') [_] [] _ with
    ⟨before', asked'⟩
  have kept := history_kept rfl history
  exact ⟨_, _, history, .of_all timed, [], before, _, _, before', _, 0, asked, asked',
    kept.single single asked, kept.single single asked', nofun⟩

end Civm.Runner
