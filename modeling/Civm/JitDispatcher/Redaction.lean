import Mathlib.Algebra.Group.Nat.Defs
import Mathlib.Data.List.Sort
import Civm.Foundation.Determined
import Civm.Foundation.Replacing

/-! # The log of a driver

`lineRedactor` collects what the driver prints, replaces the secrets in every line and
writes the line behind the name of its stream. -/

namespace Civm.JitDispatcher.Log

abbrev Bytes := List UInt8

def bytesOf (text : String) : Bytes := text.toList.map fun char => UInt8.ofNat char.toNat

def newline : UInt8 := 10

def maxLogLine : Nat := 2 ^ 20

inductive Stream
  | stdout
  | stderr
  deriving DecidableEq

def Stream.linePrefix : Stream → Bytes
  | .stdout => bytesOf "stdout: "
  | .stderr => bytesOf "stderr: "

/-- A write to the destination. It is answered by its error. -/
inductive Call
  | write (data : Bytes)

abbrev Call.Answer (_ : Call) : Type := Option String

def perform (call : Call) : Program Call.Answer call.Answer := Program.perform call

/-- The fields of `lineRedactor` that do not change. -/
structure LineRedactor where
  linePrefix : Bytes
  redactions : List Bytes

def mark : Bytes := bytesOf "[REDACTED]"

def redact (redactions : List Bytes) (line : Bytes) : Bytes :=
  redactions.foldl (fun line secret =>
    if secret <:+: line then replaceAll line secret mark else line) line

/-- The values of at least four bytes, each once. -/
def distinct : List Bytes → List Bytes → List Bytes
  | result, [] => result
  | result, value :: values =>
    if value.length < 4 then distinct result values
    else if value ∈ result then distinct result values
    else distinct (result ++ [value]) values

def normalizedRedactions (values : List Bytes) : List Bytes :=
  (distinct [] values).insertionSort fun left right => right.length ≤ left.length

namespace LineRedactor

variable (redactor : LineRedactor)

def writeLine (line : Bytes) : Program Call.Answer (Option String) := do
  match ← perform (.write redactor.linePrefix) with
  | some error => return some error
  | none =>
    match ← perform (.write (redact redactor.redactions line)) with
    | some error => return some error
    | none => perform (.write [newline])

/-- The loop of `Write`, with what it has read of a line and what is still to be read. It
returns what stays pending. -/
def drain (line : Bytes) : Bytes → Program Call.Answer (Option String × Bytes)
  | [] => return (none, line)
  | byte :: unread =>
    if byte = newline then do
      match ← redactor.writeLine line with
      | some error => return (some error, unread)
      | none => drain [] unread
    else drain (line ++ [byte]) unread

/-- `Write`. The state is `pending`. -/
def write (data : Bytes) : Routine Call.Answer Bytes (Option String) := do
  modify (· ++ data)
  let pending ← get
  if maxLogLine < pending.length ∧ newline ∉ pending then
    return some "runner log line exceeds safety limit"
  else
    let (error, rest) ← (redactor.drain [] pending : Program Call.Answer _)
    set rest
    return error

def flush : Routine Call.Answer Bytes (Option String) := do
  let pending ← get
  if pending = [] then return none
  else
    set ([] : Bytes)
    redactor.writeLine pending

def writeAll : List Bytes → Routine Call.Answer Bytes (Option String)
  | [] => return none
  | data :: others => do
    match ← redactor.write data with
    | some error => return some error
    | none => writeAll others

def copy (chunks : List Bytes) : Routine Call.Answer Bytes (Option String × Option String) := do
  let written ← redactor.writeAll chunks
  let flushed ← redactor.flush
  return (written, flushed)

end LineRedactor

/-- A file to which all writes succeed, as the list of them. -/
def file : Responder Call.Answer (List Bytes) where
  answer _ _ := none
  after
    | writes, .write data => writes ++ [data]

/-- The errors of the writes and of the flush, and what the file then holds. -/
def logged (redactor : LineRedactor) (chunks : List Bytes) :
    Option ((Option String × Option String) × Bytes) :=
  (((redactor.copy chunks).run []).run file []).map fun (result, writes) =>
    (result.1, writes.flatten)

/-! ## Lines -/

/-- The lines that have been read, and what has been read of the next one. -/
structure Reading where
  lines : List Bytes
  line : Bytes

def Reading.start : Reading := ⟨[], []⟩

def Reading.read (reading : Reading) (byte : UInt8) : Reading :=
  if byte = newline then ⟨reading.lines ++ [reading.line], []⟩
  else ⟨reading.lines, reading.line ++ [byte]⟩

def Reading.all (reading : Reading) (text : Bytes) : Reading := text.foldl Reading.read reading

section

variable {reading : Reading} {lines : List Bytes} {line text : Bytes}

theorem Reading.all_append (reading : Reading) (text more : Bytes) :
    reading.all (text ++ more) = (reading.all text).all more := List.foldl_append

theorem Reading.all_eq (lines : List Bytes) (line text : Bytes) :
    (Reading.mk lines line).all text =
      ⟨lines ++ ((Reading.mk [] line).all text).lines, ((Reading.mk [] line).all text).line⟩ := by
  induction text generalizing lines line with
  | nil => simp [Reading.all]
  | cons byte text induction =>
    simp only [Reading.all, List.foldl_cons, Reading.read] at induction ⊢
    split
    · rw [induction (lines ++ [line]), induction ([] ++ [line])]
      simp
    · exact induction lines _

theorem Reading.pieces (unbroken : newline ∉ line) (text : Bytes) :
    ((Reading.mk lines line).all text).lines ++ [((Reading.mk lines line).all text).line] =
      lines ++ (line ++ text).splitOn newline := by
  have whole {line : Bytes} (unbroken : newline ∉ line) : line.splitOn newline = [line] := by
    rw [List.splitOn_eq_splitOnP]
    apply List.splitOnP_eq_singleton
    intro byte member
    have different : byte ≠ newline := fun same => unbroken (same ▸ member)
    simpa using different
  induction text generalizing lines line with
  | nil => simp [Reading.all, whole unbroken]
  | cons byte text induction =>
    simp only [Reading.all, List.foldl_cons, Reading.read] at induction ⊢
    split
    · rename_i ends
      subst ends
      have broken : (line ++ newline :: text).splitOn newline = line :: text.splitOn newline := by
        have cut := List.splitOnP_append_cons (p := (· == newline)) line text
          (beq_self_eq_true newline)
        rw [← List.splitOn_eq_splitOnP, ← List.splitOn_eq_splitOnP, ← List.splitOn_eq_splitOnP,
          whole unbroken] at cut
        exact cut
      rw [induction List.not_mem_nil, broken]
      simp
    · rename_i continues
      have unbroken' : newline ∉ line ++ [byte] := by
        simp [unbroken, Ne.symm continues]
      rw [induction unbroken']
      simp

theorem Reading.subset_all (reading : Reading) (text : Bytes) :
    reading.lines ⊆ (reading.all text).lines := by
  rw [show reading = ⟨reading.lines, reading.line⟩ from rfl, Reading.all_eq]
  exact List.subset_append_left _ _

theorem Reading.extends_line (reading : Reading) (text : Bytes) :
    ∃ piece ∈ (reading.all text).lines ++ [(reading.all text).line], reading.line <+: piece := by
  induction text generalizing reading with
  | nil => exact ⟨reading.line, by simp [Reading.all], List.prefix_rfl⟩
  | cons byte text induction =>
    change ∃ piece ∈ ((reading.read byte).all text).lines ++ [((reading.read byte).all text).line],
      reading.line <+: piece
    by_cases ends : byte = newline
    · have member : reading.line ∈ (reading.read byte).lines := by simp [Reading.read, ends]
      exact ⟨reading.line, List.mem_append_left _ (Reading.subset_all _ text member),
        List.prefix_rfl⟩
    · rcases induction (reading.read byte) with ⟨piece, member, leads⟩
      have grown : (reading.read byte).line = reading.line ++ [byte] := by
        simp [Reading.read, ends]
      rw [grown] at leads
      exact ⟨piece, member, (List.prefix_append _ _).trans leads⟩

theorem Reading.unbroken (reading : Reading) (unbroken : newline ∉ reading.line) (text : Bytes) :
    newline ∉ (reading.all text).line := by
  induction text generalizing reading with
  | nil => exact unbroken
  | cons byte text induction =>
    apply induction (reading.read byte)
    rw [Reading.read]
    split
    · exact List.not_mem_nil
    · rename_i continues
      simp [unbroken, Ne.symm continues]

theorem Reading.all_unbroken (unbroken : newline ∉ text) (lines : List Bytes) (line : Bytes) :
    (Reading.mk lines line).all text = ⟨lines, line ++ text⟩ := by
  induction text generalizing line with
  | nil => simp [Reading.all]
  | cons byte text induction =>
    rw [List.mem_cons, not_or] at unbroken
    rcases unbroken with ⟨different, unbroken⟩
    have step : (Reading.mk lines line).read byte = ⟨lines, line ++ [byte]⟩ := by
      simp [Reading.read, Ne.symm different]
    change ((Reading.mk lines line).read byte).all text = _
    rw [step, induction unbroken]
    simp

end

/-! ## What is logged -/

def LineRedactor.writes (redactor : LineRedactor) (line : Bytes) : List Bytes :=
  [redactor.linePrefix, redact redactor.redactions line, [newline]]

def LineRedactor.render (redactor : LineRedactor) (line : Bytes) : Bytes :=
  redactor.linePrefix ++ redact redactor.redactions line ++ [newline]

theorem LineRedactor.flatten_writes (redactor : LineRedactor) (lines : List Bytes) :
    (lines.flatMap redactor.writes).flatten = lines.flatMap redactor.render := by
  induction lines with
  | nil => rfl
  | cons line lines induction =>
    rw [List.flatMap_cons, List.flatten_append, induction, List.flatMap_cons]
    simp [LineRedactor.writes, LineRedactor.render]

/-- The lines of a text. After the last newline there is one only if something is there. -/
def textLines (text : Bytes) : List Bytes :=
  (Reading.start.all text).lines ++ [(Reading.start.all text).line].filter (· ≠ [])

section

variable {redactor : LineRedactor} {text line pending : Bytes} {chunks earlier : List Bytes}

theorem writeLine_run (redactor : LineRedactor) (line : Bytes) (earlier : List Bytes) :
    (redactor.writeLine line).run file earlier = some (none, earlier ++ redactor.writes line) := by
  simp [LineRedactor.writeLine, LineRedactor.writes, perform, Program.perform, Program.run, file]

theorem drain_run (redactor : LineRedactor) (line unread : Bytes) (earlier : List Bytes) :
    (redactor.drain line unread).run file earlier =
      some ((none, ((Reading.mk [] line).all unread).line),
        earlier ++ ((Reading.mk [] line).all unread).lines.flatMap redactor.writes) := by
  induction unread generalizing line earlier with
  | nil => simp [LineRedactor.drain, Reading.all]
  | cons byte unread induction =>
    rw [LineRedactor.drain]
    change _ = some ((none, (((Reading.mk [] line).read byte).all unread).line),
      earlier ++ (((Reading.mk [] line).read byte).all unread).lines.flatMap redactor.writes)
    by_cases ends : byte = newline
    · rw [if_pos ends, Program.run_next (writeLine_run redactor line earlier), Reading.read,
        if_pos ends, Reading.all_eq]
      simpa using induction [] (earlier ++ redactor.writes line)
    · rw [if_neg ends, Reading.read, if_neg ends]
      exact induction _ earlier

theorem write_run (redactor : LineRedactor) (earlier : List Bytes)
    (fits : ¬(maxLogLine < (pending ++ text).length ∧ newline ∉ pending ++ text)) :
    ((redactor.write text).run pending).run file earlier =
      some ((none, (Reading.start.all (pending ++ text)).line),
        earlier ++ (Reading.start.all (pending ++ text)).lines.flatMap redactor.writes) := by
  have drained := drain_run redactor [] (pending ++ text) earlier
  simp only [LineRedactor.write, StateT.run_bind, StateT.run_modify, StateT.run_get, pure_bind,
    if_neg fits, StateT.run_monadLift, bind_assoc, StateT.run_set, StateT.run_pure]
  exact Program.run_next drained

theorem flush_run (redactor : LineRedactor) (pending : Bytes) (earlier : List Bytes) :
    ((redactor.flush).run pending).run file earlier =
      some ((none, []), earlier ++ ([pending].filter (· ≠ [])).flatMap redactor.writes) := by
  have written := writeLine_run redactor pending earlier
  simp only [LineRedactor.flush, StateT.run_bind, StateT.run_get, pure_bind]
  by_cases empty : pending = []
  · simp [empty]
  · rw [if_neg empty]
    simp only [StateT.run_bind, StateT.run_set, pure_bind, StateT.run_monadLift]
    apply (Program.run_next written).trans
    simp [empty]

/-- No line of the text is too long. -/
def Fits (text : Bytes) : Prop := ∀ line ∈ text.splitOn newline, line.length ≤ maxLogLine

theorem Fits.started (fits : Fits (text ++ pending)) :
    (Reading.start.all text).line.length ≤ maxLogLine := by
  rcases (Reading.start.all text).extends_line pending with ⟨piece, member, leads⟩
  rw [← Reading.all_append] at member
  have pieces : _ = [] ++ ([] ++ (text ++ pending)).splitOn newline :=
    Reading.pieces List.not_mem_nil (text ++ pending)
  rw [Reading.start, pieces] at member
  exact leads.length_le.trans (fits piece member)

theorem Reading.all_continued (text more : Bytes) :
    Reading.start.all (text ++ more) =
      ⟨(Reading.start.all text).lines ++
          (Reading.start.all ((Reading.start.all text).line ++ more)).lines,
        (Reading.start.all ((Reading.start.all text).line ++ more)).line⟩ := by
  have unbroken : newline ∉ (Reading.start.all text).line :=
    Reading.start.unbroken List.not_mem_nil text
  have resumed : Reading.start.all (Reading.start.all text).line =
    ⟨[], (Reading.start.all text).line⟩ := Reading.all_unbroken unbroken [] []
  rw [Reading.all_append Reading.start text, Reading.all_append Reading.start _ more, resumed]
  exact Reading.all_eq _ _ more

theorem writeAll_run (redactor : LineRedactor) (text : Bytes)
    (fits : Fits (text ++ chunks.flatten)) :
    ((redactor.writeAll chunks).run (Reading.start.all text).line).run file
        ((Reading.start.all text).lines.flatMap redactor.writes) =
      some ((none, (Reading.start.all (text ++ chunks.flatten)).line),
        (Reading.start.all (text ++ chunks.flatten)).lines.flatMap redactor.writes) := by
  induction chunks generalizing text with
  | nil => simp [LineRedactor.writeAll]
  | cons data others induction =>
    rw [List.flatten_cons, ← List.append_assoc] at fits ⊢
    have continued := Reading.all_continued text data
    have allowed : ¬(maxLogLine < ((Reading.start.all text).line ++ data).length ∧
      newline ∉ (Reading.start.all text).line ++ data) := by
      rintro ⟨long, unbroken⟩
      have started : (Reading.start.all (text ++ data)).line.length ≤ maxLogLine := fits.started
      have same : Reading.start.all ((Reading.start.all text).line ++ data) =
        ⟨[], (Reading.start.all text).line ++ data⟩ := Reading.all_unbroken unbroken [] []
      rw [continued, same] at started
      exact absurd long (Nat.not_lt.mpr started)
    have written := write_run redactor ((Reading.start.all text).lines.flatMap redactor.writes)
      allowed
    rw [← List.flatMap_append] at written
    rw [LineRedactor.writeAll, StateT.run_bind, Program.run_next written]
    have followed := induction (text ++ data) fits
    rw [continued] at followed
    exact followed

theorem copy_run (fits : Fits chunks.flatten) :
    ((redactor.copy chunks).run []).run file [] =
      some (((none, none), []), (textLines chunks.flatten).flatMap redactor.writes) := by
  have written := writeAll_run redactor [] fits
  have flushed := flush_run redactor (Reading.start.all chunks.flatten).line
    ((Reading.start.all chunks.flatten).lines.flatMap redactor.writes)
  rw [← List.flatMap_append] at flushed
  simp only [LineRedactor.copy, StateT.run_bind, StateT.run_pure]
  apply (Program.run_next written).trans
  exact Program.run_next flushed

theorem logged_eq (fits : Fits chunks.flatten) :
    logged redactor chunks =
      some ((none, none), (textLines chunks.flatten).flatMap redactor.render) := by
  rw [logged, copy_run fits, ← LineRedactor.flatten_writes]
  rfl

end

/-! ## Secrets -/

def secretAlphabet : Bytes :=
  bytesOf "ABCDEFGHIJKLMNOPQRSTUVWXYZabcdefghijklmnopqrstuvwxyz0123456789+/=_-"

/-- What tokens and JIT configurations are made of. -/
structure IsSecret (secret : Bytes) : Prop where
  alphabet : ∀ byte ∈ secret, byte ∈ secretAlphabet
  long : 16 ≤ secret.length

section

variable {secret line text : Bytes} {redactions values : List Bytes}

theorem mark_eq : mark = 91 :: bytesOf "REDACTED" ++ [93] := rfl

theorem IsSecret.not_infix_of_short (isSecret : IsSecret secret) (short : text.length < 16) :
    ¬secret <:+: text := by
  intro occurs
  have bound := occurs.length_le
  have long := isSecret.long
  omega

theorem IsSecret.of_replaceAll (isSecret : IsSecret secret) {old : Bytes}
    (occurs : secret <:+: replaceAll line old mark) : secret <:+: line := by
  rw [mark_eq] at occurs
  rcases infix_of_replaceAll isSecret.alphabet (by decide) (by decide) occurs with labelled | found
  · exact absurd labelled (isSecret.not_infix_of_short (by decide))
  · exact found

theorem IsSecret.replaced (isSecret : IsSecret secret) : ¬secret <:+: replaceAll line secret mark := by
  intro occurs
  rw [mark_eq] at occurs
  have nonempty : secret ≠ [] := by
    rintro rfl
    have long := isSecret.long
    simp at long
  have labelled := infix_label_of_replaceAll isSecret.alphabet (by decide) (by decide) nonempty
    occurs
  exact isSecret.not_infix_of_short (by decide) labelled

theorem redact_cons (old : Bytes) (redactions : List Bytes) (line : Bytes) :
    redact (old :: redactions) line =
      redact redactions (if old <:+: line then replaceAll line old mark else line) := rfl

theorem IsSecret.of_redact (isSecret : IsSecret secret)
    (occurs : secret <:+: redact redactions line) : secret <:+: line := by
  induction redactions generalizing line with
  | nil => exact occurs
  | cons old redactions induction =>
    rw [redact_cons] at occurs
    have found := induction occurs
    split at found
    · exact isSecret.of_replaceAll found
    · exact found

theorem redact_clear (isSecret : IsSecret secret) (member : secret ∈ redactions) :
    ¬secret <:+: redact redactions line := by
  induction redactions generalizing line with
  | nil => cases member
  | cons old redactions induction =>
    rcases List.mem_cons.mp member with rfl | later
    · intro occurs
      rw [redact_cons] at occurs
      have found := isSecret.of_redact occurs
      split at found
      · exact isSecret.replaced found
      · rename_i absent
        exact absent found
    · exact induction later

theorem mem_distinct {result : List Bytes} :
    secret ∈ distinct result values ↔ secret ∈ result ∨ secret ∈ values ∧ 4 ≤ secret.length := by
  induction values generalizing result with
  | nil => simp [distinct]
  | cons value values induction =>
    rw [distinct]
    split
    · rename_i short
      rw [induction, List.mem_cons]
      constructor
      · exact Or.imp_right fun ⟨member, long⟩ => ⟨.inr member, long⟩
      · rintro (member | ⟨rfl | member, long⟩)
        · exact .inl member
        · omega
        · exact .inr ⟨member, long⟩
    · split
      · rename_i known
        rw [induction, List.mem_cons]
        constructor
        · exact Or.imp_right fun ⟨member, long⟩ => ⟨.inr member, long⟩
        · rintro (member | ⟨rfl | member, long⟩)
          · exact .inl member
          · exact .inl known
          · exact .inr ⟨member, long⟩
      · rename_i long _
        rw [induction, List.mem_cons, List.mem_append, List.mem_singleton]
        constructor
        · rintro ((member | rfl) | ⟨member, long⟩)
          · exact .inl member
          · exact .inr ⟨.inl rfl, by omega⟩
          · exact .inr ⟨.inr member, long⟩
        · rintro (member | ⟨rfl | member, long⟩)
          · exact .inl (.inl member)
          · exact .inl (.inr rfl)
          · exact .inr ⟨member, long⟩

theorem mem_normalizedRedactions :
    secret ∈ normalizedRedactions values ↔ secret ∈ values ∧ 4 ≤ secret.length := by
  rw [normalizedRedactions, List.mem_insertionSort, mem_distinct]
  simp

/-- The redactor that `execDriver` makes for a stream. -/
def Stream.redactor (stream : Stream) (sensitive : List Bytes) : LineRedactor :=
  ⟨stream.linePrefix, normalizedRedactions sensitive⟩

theorem IsSecret.of_rendered (isSecret : IsSecret secret) {stream : Stream} {lines : List Bytes}
    {sensitive : List Bytes}
    (occurs : secret <:+: lines.flatMap (stream.redactor sensitive).render) :
    ∃ line ∈ lines, secret <:+: redact (normalizedRedactions sensitive) line := by
  induction lines with
  | nil =>
    have short : ([] : Bytes).length < 16 := by decide
    exact absurd occurs (isSecret.not_infix_of_short short)
  | cons line lines induction =>
    have short : (stream.linePrefix.take 7).length < 16 := by cases stream <;> decide
    have rendered : (stream.redactor sensitive).render line =
      stream.linePrefix.take 7 ++
        32 :: (redact (normalizedRedactions sensitive) line ++ [newline]) := by
      have named : stream.linePrefix.take 7 ++ [32] = stream.linePrefix := by
        cases stream <;> rfl
      rw [← List.singleton_append (x := 32), ← List.append_assoc, named, ← List.append_assoc]
      rfl
    rw [List.flatMap_cons, rendered, List.append_assoc, List.cons_append, List.append_assoc,
      List.singleton_append] at occurs
    rcases infix_of_separated isSecret.alphabet (by decide) occurs with inName | occurs
    · exact absurd inName (isSecret.not_infix_of_short short)
    · rcases infix_of_separated isSecret.alphabet (by decide) occurs with found | occurs
      · exact ⟨line, List.mem_cons_self, found⟩
      · rcases induction occurs with ⟨other, member, found⟩
        exact ⟨other, List.mem_cons_of_mem _ member, found⟩

end

/-- The log of a stream shows no secret, and does not depend on how the stream is cut into
writes. -/
theorem redactor_hides_secrets {secrets : List Bytes} (areSecrets : ∀ secret ∈ secrets, IsSecret secret)
    (stream : Stream) {chunks : List Bytes} (fits : Fits chunks.flatten) :
    ∃ content, logged (stream.redactor secrets) chunks = some ((none, none), content) ∧
      (∀ secret ∈ secrets, ¬secret <:+: content) ∧
      ∀ others : List Bytes, others.flatten = chunks.flatten →
        logged (stream.redactor secrets) others = some ((none, none), content) := by
  refine ⟨_, logged_eq fits, ?_, ?_⟩
  · intro secret member occurs
    have isSecret := areSecrets secret member
    rcases isSecret.of_rendered occurs with ⟨line, _, found⟩
    have long := isSecret.long
    exact redact_clear isSecret (mem_normalizedRedactions.mpr ⟨member, by omega⟩) found
  · intro others same
    rw [← same]
    exact logged_eq (same ▸ fits)

theorem split_token_is_hidden :
    ∃ content,
      logged (Stream.stdout.redactor [bytesOf "ghs_0123456789abcdef"])
          [bytesOf "token ghs_012345", bytesOf "6789abcdef ok\ndone"] =
        some ((none, none), content) ∧
      ¬bytesOf "ghs_0123456789abcdef" <:+: content := by
  have areSecrets : ∀ secret ∈ [bytesOf "ghs_0123456789abcdef"], IsSecret secret := by
    intro secret member
    rw [List.mem_singleton.mp member]
    exact ⟨by decide +kernel, by decide +kernel⟩
  have fits : Fits [bytesOf "token ghs_012345", bytesOf "6789abcdef ok\ndone"].flatten := by
    rw [Fits]
    decide +kernel
  rcases redactor_hides_secrets areSecrets .stdout fits with ⟨content, written, hidden, _⟩
  exact ⟨content, written, hidden _ (List.mem_singleton_self _)⟩

end Civm.JitDispatcher.Log
