import Civm.Foundation.Interleaving
import Civm.Foundation.Play
import Civm.JitDispatcher.Redaction

/-! # The lines of a shared log

The redactors of both streams write to one file, each line with three writes. The lock of
the file is held for a single write. -/

namespace Civm.JitDispatcher.Log

/-- Everything that was written to the file, with the stream it is of. -/
abbrev Record := List (Stream × Bytes)

def content (record : Record) : Bytes := record.flatMap Prod.snd

def written (stream : Stream) (record : Record) : List Bytes :=
  (record.filter (·.1 = stream)).map Prod.snd

/-- The redactor of the stream has written a part of a line. -/
def insideLine (record : Record) (stream : Stream) : Bool :=
  (written stream record).length % 3 ≠ 0

def lockedWriter : Shared Call.Answer Record Stream where
  permits _ _ _ answer := answer = none
  after record stream
    | .write data, _ => record ++ [(stream, data)]
  occurs _ _ := False

abbrev Copying := Pool Call.Answer Record Stream ((Option String × Option String) × Bytes)

/-- Both streams as the driver prints them, with an empty file. -/
def copying (sensitive : List Bytes) (chunks : Stream → List Bytes) : Copying where
  world := []
  programs stream := ((stream.redactor sensitive).copy (chunks stream)).run []

/-- A line is begun only while no other line is unfinished. -/
def Orderly (record : Record) (stream : Stream) (call : Call) (_ : call.Answer) : Prop :=
  insideLine record stream = false → ∀ other, insideLine record other = false

/-- A line as it is meant to stand in the file. -/
def rendered (sensitive : List Bytes) (item : Stream × Bytes) : Bytes :=
  (item.1.redactor sensitive).render item.2

/-! ## What is still to be written -/

/-- What a program goes on to write if no write fails. -/
def pendingWrites : Program Call.Answer α → List Bytes
  | .done _ => []
  | .ask (.write data) next => data :: pendingWrites (next none)
  | .spin => []

theorem run_file {program : Program Call.Answer α} {earlier later : List Bytes} {value : α}
    (ran : program.run file earlier = some (value, later)) :
    later = earlier ++ pendingWrites program := by
  induction program generalizing earlier with
  | done value =>
    cases ran
    exact (List.append_nil _).symm
  | ask call next induction =>
    rcases call with ⟨data⟩
    rw [induction none ran]
    simp [file, pendingWrites]
  | spin => cases ran

section

variable {sensitive : List Bytes} {record more finished : Record} {stream other : Stream}

@[simp] theorem written_append (stream : Stream) (record more : Record) :
    written stream (record ++ more) = written stream record ++ written stream more := by
  simp [written]

@[simp] theorem content_append (record more : Record) :
    content (record ++ more) = content record ++ content more := List.flatMap_append

variable (sensitive) in
def entries (item : Stream × Bytes) : Record :=
  ((item.1.redactor sensitive).writes item.2).map (item.1, ·)

theorem written_tagged (stream : Stream) (writes : List Bytes) :
    written stream (writes.map (stream, ·)) = writes := by
  induction writes with
  | nil => rfl
  | cons data writes induction => simpa [written] using induction

theorem written_tagged_other (different : other ≠ stream) (writes : List Bytes) :
    written stream (writes.map (other, ·)) = [] := by
  simp [written, List.filter_map, Function.comp_def, different]

theorem written_entries (sensitive : List Bytes) (stream : Stream) (finished : Record) :
    written stream (finished.flatMap (entries sensitive)) =
      (written stream finished).flatMap (stream.redactor sensitive).writes := by
  induction finished with
  | nil => rfl
  | cons item finished induction =>
    rw [List.flatMap_cons, written_append, induction]
    rcases item with ⟨owner, line⟩
    by_cases same : owner = stream
    · subst same
      rw [entries, written_tagged]
      simp [written]
    · rw [entries, written_tagged_other same]
      simp [written, same]

theorem content_entries (sensitive : List Bytes) (finished : Record) :
    content (finished.flatMap (entries sensitive)) = finished.flatMap (rendered sensitive) := by
  induction finished with
  | nil => rfl
  | cons item finished induction =>
    rw [List.flatMap_cons, content_append, induction, List.flatMap_cons]
    simp [entries, content, rendered, LineRedactor.writes, LineRedactor.render]

theorem length_flatMap_writes (redactor : LineRedactor) (lines : List Bytes) :
    (lines.flatMap redactor.writes).length = 3 * lines.length := by
  induction lines with
  | nil => rfl
  | cons line lines induction =>
    rw [List.flatMap_cons, List.length_append, induction, List.length_cons]
    simp [LineRedactor.writes]
    omega

/-! ## Tidy records -/

variable (sensitive) in
/-- Finished lines, with at most one that is unfinished behind them. -/
inductive Tidy (lines : Stream → List Bytes) : Record → Prop
  | between (finished : Record) (leads : ∀ stream, written stream finished <+: lines stream) :
    Tidy lines (finished.flatMap (entries sensitive))
  | within (finished : Record) (leads : ∀ stream, written stream finished <+: lines stream)
    (stream : Stream) (line : Bytes) (count : Nat) (started : 0 < count) (unfinished : count < 3)
    (next : written stream finished ++ [line] <+: lines stream) :
    Tidy lines (finished.flatMap (entries sensitive) ++
      (entries sensitive (stream, line)).take count)

variable {lines : Stream → List Bytes} {data : Bytes} {later : List Bytes}

theorem written_within (sensitive : List Bytes) (finished : Record) (stream : Stream) (line : Bytes)
    (count : Nat) :
    written stream (finished.flatMap (entries sensitive) ++
        (entries sensitive (stream, line)).take count) =
      (written stream finished).flatMap (stream.redactor sensitive).writes ++
        ((stream.redactor sensitive).writes line).take count := by
  rw [written_append, written_entries, entries, ← List.map_take, written_tagged]

theorem written_within_other (different : other ≠ stream) (finished : Record) (line : Bytes)
    (count : Nat) :
    written stream (finished.flatMap (entries sensitive) ++
        (entries sensitive (other, line)).take count) =
      (written stream finished).flatMap (stream.redactor sensitive).writes := by
  rw [written_append, written_entries, entries, ← List.map_take, written_tagged_other different,
    List.append_nil]

theorem Tidy.write (tidy : Tidy sensitive lines record)
    (orderly : insideLine record stream = false → ∀ other, insideLine record other = false)
    (remaining : written stream record ++ data :: later =
      (lines stream).flatMap (stream.redactor sensitive).writes) :
    Tidy sensitive lines (record ++ [(stream, data)]) := by
  cases tidy with
  | between finished leads =>
    rw [written_entries] at remaining
    rcases leads stream with ⟨rest, whole⟩
    rw [← whole, List.flatMap_append, List.append_cancel_left_eq] at remaining
    cases rest with
    | nil => cases remaining
    | cons line rest =>
      obtain ⟨rfl, _⟩ := List.cons.inj remaining
      apply Tidy.within finished leads stream line 1 (by decide) (by decide)
      exact ⟨rest, by simpa using whole⟩
  | within finished leads owner line count started unfinished next =>
    have busy : insideLine (finished.flatMap (entries sensitive) ++
      (entries sensitive (owner, line)).take count) owner = true := by
      rw [insideLine, written_within, List.length_append, length_flatMap_writes, List.length_take,
        decide_eq_true_iff]
      have sized : ((owner.redactor sensitive).writes line).length = 3 := rfl
      omega
    by_cases same : owner = stream
    · subst same
      rw [written_within] at remaining
      rcases next with ⟨rest, whole⟩
      rw [← whole, List.append_assoc, List.append_assoc, List.flatMap_append,
        List.append_cancel_left_eq] at remaining
      rcases (show count = 1 ∨ count = 2 by omega) with rfl | rfl
      · obtain ⟨_, remaining⟩ := List.cons.inj remaining
        obtain ⟨rfl, _⟩ := List.cons.inj remaining
        rw [List.append_assoc]
        exact .within finished leads owner line 2 (by decide) (by decide) ⟨rest, whole⟩
      · obtain ⟨_, remaining⟩ := List.cons.inj remaining
        obtain ⟨_, remaining⟩ := List.cons.inj remaining
        obtain ⟨rfl, _⟩ := List.cons.inj remaining
        have complete : ∀ stream, written stream (finished ++ [(owner, line)]) <+: lines stream := by
          intro stream
          by_cases same : owner = stream
          · subst same
            exact ⟨rest, by simpa [written] using whole⟩
          · simpa [written, same] using leads stream
        have grown : Tidy sensitive lines
          ((finished ++ [(owner, line)]).flatMap (entries sensitive)) := .between _ complete
        rw [List.flatMap_append] at grown
        rw [List.append_assoc]
        exact grown
    · have idle : insideLine (finished.flatMap (entries sensitive) ++
        (entries sensitive (owner, line)).take count) stream = false := by
        rw [insideLine, written_within_other same, length_flatMap_writes]
        simp
      cases busy.symm.trans (orderly idle owner)

theorem Tidy.content (tidy : Tidy sensitive lines record) :
    ∃ finished unfinished, Log.content record =
        finished.flatMap (rendered sensitive) ++ unfinished ∧
      (∀ stream, written stream finished <+: lines stream) ∧
      (unfinished = [] ∨ ∃ stream line, written stream finished ++ [line] <+: lines stream ∧
        unfinished <+: rendered sensitive (stream, line)) ∧
      ((∀ stream, written stream record = (lines stream).flatMap (stream.redactor sensitive).writes) →
        unfinished = [] ∧ ∀ stream, written stream finished = lines stream) := by
  cases tidy with
  | between finished leads =>
    refine ⟨finished, [], ?_, leads, .inl rfl, fun complete => ⟨rfl, fun stream => ?_⟩⟩
    · rw [content_entries, List.append_nil]
    · have sized := congrArg List.length (complete stream)
      rw [written_entries, length_flatMap_writes, length_flatMap_writes] at sized
      exact (leads stream).eq_of_length (by omega)
  | within finished leads stream line count started unfinished next =>
    refine ⟨finished, Log.content ((entries sensitive (stream, line)).take count), ?_, leads,
      .inr ⟨stream, line, next, ?_⟩, fun complete => ?_⟩
    · rw [content_append, content_entries]
    · have whole : rendered sensitive (stream, line) =
        Log.content ((entries sensitive (stream, line)).take count) ++
          Log.content ((entries sensitive (stream, line)).drop count) := by
        rw [← content_append, List.take_append_drop]
        simp [rendered, entries, Log.content, LineRedactor.writes, LineRedactor.render]
      rw [whole]
      exact List.prefix_append _ _
    · have sized := congrArg List.length (complete stream)
      rw [written_within, List.length_append, length_flatMap_writes, length_flatMap_writes,
        List.length_take] at sized
      have three : ((stream.redactor sensitive).writes line).length = 3 := rfl
      omega

/-! ## Runs -/

variable {chunks : Stream → List Bytes} {pool pool' : Copying}

variable (sensitive chunks) in
/-- Of each stream, what has been written and what is still to be written are its lines. -/
structure Underway (pool : Copying) : Prop where
  remaining : ∀ stream, written stream pool.world ++ pendingWrites (pool.programs stream) =
    (textLines (chunks stream).flatten).flatMap (stream.redactor sensitive).writes
  tidy : Tidy sensitive (fun stream => textLines (chunks stream).flatten) pool.world

theorem Underway.start (fits : ∀ stream, Fits (chunks stream).flatten) :
    Underway sensitive chunks (copying sensitive chunks) where
  remaining stream := (run_file (copy_run (fits stream))).symm
  tidy := .between [] fun _ => List.nil_prefix

theorem Underway.step (underway : Underway sensitive chunks pool)
    (step : (lockedWriter.limited Orderly fun _ _ => True).Step pool pool') :
    Underway sensitive chunks pool' := by
  cases step with
  | @act stream call next asks answer permitted =>
    rcases call with ⟨data⟩
    rcases permitted with ⟨rfl, orderly⟩
    have remaining := underway.remaining stream
    rw [asks] at remaining
    refine ⟨fun other => ?_, underway.tidy.write orderly remaining⟩
    change written other (pool.world ++ [(stream, data)]) ++ _ = _
    dsimp only
    by_cases same : other = stream
    · subst same
      rw [Function.update_self, written_append, List.append_assoc]
      simpa [written, pendingWrites] using remaining
    · have silent : written other [(stream, data)] = [] := by
        simp [written, Ne.symm same]
      rw [Function.update_of_ne same, written_append, silent, List.append_nil]
      exact underway.remaining other
  | occur occurs => exact occurs.1.elim

theorem pendingWrites_of_value {program : Program Call.Answer α}
    (ended : program.value?.isSome = true) : pendingWrites program = [] := by
  cases program with
  | done value => rfl
  | ask call next => cases ended
  | spin => rfl

end

/-- As long as no line is begun inside of another, the log holds lines of the two streams,
each behind its name and redacted, and in the end all of them. -/
theorem orderly_log_is_line_by_line {sensitive : List Bytes} {chunks : Stream → List Bytes}
    {pool : Copying} (fits : ∀ stream, Fits (chunks stream).flatten)
    (run : (lockedWriter.limited Orderly fun _ _ => True).Run (copying sensitive chunks) pool) :
    ∃ finished unfinished,
      content pool.world = finished.flatMap (rendered sensitive) ++ unfinished ∧
      (∀ stream, written stream finished <+: textLines (chunks stream).flatten) ∧
      (unfinished = [] ∨ ∃ stream line,
        written stream finished ++ [line] <+: textLines (chunks stream).flatten ∧
          unfinished <+: rendered sensitive (stream, line)) ∧
      ((∀ stream, (pool.programs stream).value?.isSome = true) →
        unfinished = [] ∧ ∀ stream, written stream finished = textLines (chunks stream).flatten) := by
  have underway : Underway sensitive chunks pool := by
    induction run with
    | refl => exact .start fits
    | tail _ step induction => exact induction.step step
  rcases underway.tidy.content with ⟨finished, unfinished, whole, leads, part, complete⟩
  refine ⟨finished, unfinished, whole, leads, part, fun ended => complete fun stream => ?_⟩
  have remaining := underway.remaining stream
  rwa [pendingWrites_of_value (ended stream), List.append_nil] at remaining

namespace Sample

def printed : Stream → List Bytes
  | .stdout => [bytesOf "a\n"]
  | .stderr => [bytesOf "b\n"]

theorem printed_fits (stream : Stream) : Fits (printed stream).flatten := by
  rw [Fits]
  cases stream <;> decide +kernel

abbrev orderly : Shared Call.Answer Record Stream := lockedWriter.limited Orderly fun _ _ => True

def inTurn : List (Turn Record Stream) :=
  [.of .stdout, .of .stdout, .of .stdout, .of .stderr, .of .stderr, .of .stderr]

def atOnce : List (Turn Record Stream) :=
  [.of .stdout, .of .stderr, .of .stdout, .of .stderr, .of .stdout, .of .stderr]

def played (shared : Shared Call.Answer Record Stream) (turns : List (Turn Record Stream)) :
    Copying :=
  (copying [] printed).play shared (fun _ _ _ => none) turns

theorem inTurn_legal :
    (copying [] printed).Legal orderly (fun _ _ _ => none) inTurn := by
  refine ⟨⟨rfl, fun _ other => ?_⟩, ⟨rfl, nofun⟩, ⟨rfl, nofun⟩, ⟨rfl, fun _ other => ?_⟩,
    ⟨rfl, nofun⟩, ⟨rfl, nofun⟩, trivial⟩
  all_goals cases other <;> rfl

theorem atOnce_legal :
    (copying [] printed).Legal lockedWriter (fun _ _ _ => none) atOnce :=
  ⟨rfl, rfl, rfl, rfl, rfl, rfl, trivial⟩

end Sample

theorem streams_in_turn_are_line_by_line :
    ∃ pool : Copying, Sample.orderly.Run (copying [] Sample.printed) pool ∧
      ∃ finished, content pool.world = finished.flatMap (rendered []) ∧
        ∀ stream, written stream finished = textLines (Sample.printed stream).flatten := by
  have run := Pool.run_play Sample.inTurn_legal
  rcases orderly_log_is_line_by_line Sample.printed_fits run with
    ⟨finished, unfinished, whole, _, _, complete⟩
  rcases complete (fun stream => by cases stream <;> rfl) with ⟨rfl, all⟩
  exact ⟨_, run, finished, by simpa using whole, all⟩

/-- Both streams begin a line before either has finished one. -/
theorem streams_at_once_mix_lines :
    ∃ pool : Copying, lockedWriter.Run (copying [] Sample.printed) pool ∧
      (∀ stream, (pool.programs stream).value?.isSome = true) ∧
      content pool.world = bytesOf "stdout: stderr: ab\n\n" ∧
      ¬∃ finished : Record, content pool.world = finished.flatMap (rendered []) ∧
        ∀ stream, written stream finished = textLines (Sample.printed stream).flatten := by
  have mixed : content (Sample.played lockedWriter Sample.atOnce).world =
    bytesOf "stdout: stderr: ab\n\n" := by decide +kernel
  refine ⟨_, Pool.run_play Sample.atOnce_legal, fun stream => by cases stream <;> rfl, mixed, ?_⟩
  rintro ⟨finished, whole, all⟩
  have line : bytesOf "a" ∈ written .stdout finished := by
    rw [all .stdout]
    decide +kernel
  rcases List.mem_map.mp line with ⟨⟨stream, text⟩, member, rfl⟩
  rcases List.mem_filter.mp member with ⟨member, ofStdout⟩
  obtain rfl : stream = .stdout := of_decide_eq_true ofStdout
  rcases List.append_of_mem member with ⟨before, after, rfl⟩
  have occurs : rendered [] (.stdout, bytesOf "a") <:+: bytesOf "stdout: stderr: ab\n\n" := by
    rw [← mixed]
    refine ⟨before.flatMap (rendered []), after.flatMap (rendered []), ?_⟩
    rw [List.flatMap_append, List.flatMap_cons, ← List.append_assoc] at whole
    exact whole.symm
  exact absurd occurs (by decide +kernel)

end Civm.JitDispatcher.Log
