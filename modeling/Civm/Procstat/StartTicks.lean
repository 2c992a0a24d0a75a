import Civm.Foundation.GoBytes

/-! # The start time of a process

The two readers of field 22 of `/proc/<pid>/stat`. Field 2 is the name of the process
between parentheses, any bytes at all, so both look for the last closing one. -/

namespace Civm.Procstat

open GoBytes

def closingParenthesis : UInt8 := 0x29

def procStatPath (pid : Int) : String := "/proc/" ++ toString pid ++ "/stat"

/-! ## The shared reader -/

inductive StatError (ReadError : Type) where
  | ler (pid : Int) (error : ReadError)
  | semCampoComm (stat : List UInt8)
  | poucosCampos (count : Nat)
  | parseStarttime (field : List UInt8)
deriving DecidableEq

variable {ReadError : Type}

def procStatStartTimeFieldIndex : Nat := 19

def truncateStat (stat : List UInt8) : List UInt8 := stat.take 64

def parseStartTicks (stat : List UInt8) : Except (StatError ReadError) Nat :=
  match lastIndexByte stat closingParenthesis with
  | none => .error (.semCampoComm (truncateStat stat))
  | some commEnd =>
    if commEnd + 2 > stat.length then .error (.semCampoComm (truncateStat stat))
    else
      let rest := fields (stat.drop (commEnd + 1))
      match rest[procStatStartTimeFieldIndex]? with
      | none => .error (.poucosCampos rest.length)
      | some field =>
        match parseUint field with
        | none => .error (.parseStarttime field)
        | some ticks => .ok ticks

def pidStartTicks (readFile : String → Except ReadError (List UInt8)) (pid : Int) :
    Except (StatError ReadError) Nat :=
  match readFile (procStatPath pid) with
  | .error error => .error (.ler pid error)
  | .ok data => parseStartTicks data

inductive ProcessError (ReadError : Type) where
  | pidInvalid
  | read (error : ReadError)
  | statMalformed
  | statIncomplete
  | startIdentityInvalid
deriving DecidableEq

def processStartTicks (readFile : String → Except ReadError (List UInt8)) (pid : Int) :
    Except (ProcessError ReadError) Nat :=
  if pid ≤ 1 then .error .pidInvalid
  else
    match readFile (procStatPath pid) with
    | .error error => .error (.read error)
    | .ok data =>
      match lastIndexByte data closingParenthesis with
      | none => .error .statMalformed
      | some closing =>
        if closing + 2 ≥ data.length then .error .statMalformed
        else
          match (fields (data.drop (closing + 2)))[19]? with
          | none => .error .statIncomplete
          | some field =>
            match parseUint field with
            | none => .error .startIdentityInvalid
            | some value =>
              if value = 0 then .error .startIdentityInvalid else .ok value

/-! ## The lines of the kernel -/

/-- A field behind the name: printed, and without a closing parenthesis. -/
def WellFormed (field : List UInt8) : Prop :=
  field ≠ [] ∧ field.all isGraphic = true ∧ closingParenthesis ∉ field

instance (field : List UInt8) : Decidable (WellFormed field) := inferInstanceAs (Decidable (_ ∧ _))

structure StatLine where
  pid : Nat
  name : List UInt8
  /-- The fields from the third one on. -/
  fields : List (List UInt8)
  ending : List UInt8
  startTime : List UInt8
  wellFormed : ∀ field ∈ fields, WellFormed field
  isStartTime : fields[19]? = some startTime
  digits : startTime.all isDigit = true
  positive : 0 < decimalValue startTime
  fits : decimalValue startTime < 2 ^ 64
  white : ending.all isAsciiSpace = true

namespace StatLine

def pidText (line : StatLine) : List UInt8 := (toString line.pid).toUTF8.toList

def fieldsText (line : StatLine) : List UInt8 := joined line.fields ++ line.ending

def bytes (line : StatLine) : List UInt8 :=
  (line.pidText ++ [0x20, 0x28] ++ line.name) ++ closingParenthesis :: 0x20 :: line.fieldsText

variable (line : StatLine)

theorem parseUint_startTime : parseUint line.startTime = some (decimalValue line.startTime) := by
  have present : line.startTime.isEmpty = false := by
    cases text : line.startTime with
    | nil => simpa [text, decimalValue] using line.positive
    | cons => rfl
  rw [parseUint, present, line.digits]
  exact if_pos line.fits

theorem not_mem_joined {words : List (List UInt8)} {byte : UInt8} (notSpace : byte ≠ 0x20)
    (absent : ∀ word ∈ words, byte ∉ word) : byte ∉ joined words := by
  induction words with
  | nil => simp [joined]
  | cons word words induction =>
    have first := absent word List.mem_cons_self
    cases words with
    | nil => exact first
    | cons next words =>
      have others := induction fun word member => absent word (List.mem_cons_of_mem _ member)
      rw [joined, List.mem_append, List.mem_cons]
      simp only [first, notSpace, others, or_self, not_false_eq_true]
      simp

theorem closing_not_mem : closingParenthesis ∉ 0x20 :: line.fieldsText := by
  rw [List.mem_cons, fieldsText, List.mem_append]
  intro found
  rcases found with space | inFields | inEnding
  · cases space
  · exact not_mem_joined (by decide) (fun word member => (line.wellFormed word member).2.2) inFields
  · have white := List.all_eq_true.mp line.white _ inEnding
    cases white

theorem lastIndexByte_bytes :
    ∃ commEnd, lastIndexByte line.bytes closingParenthesis = some commEnd ∧
      line.bytes.drop (commEnd + 1) = 0x20 :: line.fieldsText := by
  refine ⟨_, lastIndexByte_append line.closing_not_mem, ?_⟩
  rw [bytes, List.drop_append, List.drop_eq_nil_of_le (Nat.le_succ _)]
  simp

theorem fields_fieldsText : GoBytes.fields line.fieldsText = line.fields :=
  fields_joined (fun word member => ⟨(line.wellFormed word member).1,
    (line.wellFormed word member).2.1⟩) line.white

theorem fieldsText_ne_nil : line.fieldsText ≠ [] := by
  intro empty
  have noFields := line.fields_fieldsText
  rw [empty] at noFields
  have found := line.isStartTime
  rw [← noFields] at found
  cases found

theorem parseStartTicks_bytes :
    parseStartTicks line.bytes =
      (.ok (decimalValue line.startTime) : Except (StatError ReadError) Nat) := by
  rcases line.lastIndexByte_bytes with ⟨commEnd, found, dropped⟩
  have long := congrArg List.length dropped
  rw [List.length_drop, List.length_cons] at long
  have spaced : GoBytes.fields (0x20 :: line.fieldsText) = line.fields := by
    rw [GoBytes.fields, fieldsFrom_space (by decide)]
    exact line.fields_fieldsText
  rw [parseStartTicks, found]
  dsimp only
  rw [if_neg (by omega), dropped, spaced, procStatStartTimeFieldIndex, line.isStartTime]
  dsimp only
  rw [line.parseUint_startTime]

theorem processStartTicks_bytes {readFile : String → Except ReadError (List UInt8)}
    (ordinary : 1 < line.pid) (read : readFile (procStatPath line.pid) = .ok line.bytes) :
    processStartTicks readFile line.pid = .ok (decimalValue line.startTime) := by
  rcases line.lastIndexByte_bytes with ⟨closing, found, dropped⟩
  have long := congrArg List.length dropped
  rw [List.length_drop, List.length_cons] at long
  have present := List.length_pos_of_ne_nil line.fieldsText_ne_nil
  have rest := congrArg List.tail dropped
  rw [List.tail_drop, List.tail_cons] at rest
  rw [processStartTicks, if_neg (by omega), read]
  dsimp only
  rw [found]
  dsimp only
  rw [if_neg (by omega), rest, fields_fieldsText, line.isStartTime]
  dsimp only
  rw [line.parseUint_startTime]
  dsimp only
  rw [if_neg (Nat.ne_of_gt line.positive)]

end StatLine

/-- Whatever its name, both readers return field 22 of the line of a process, the
dispatcher's for every process but the first. -/
theorem readers_return_startTime (line : StatLine) :
    (parseStartTicks line.bytes : Except (StatError ReadError) Nat) =
        .ok (decimalValue line.startTime) ∧
      ∀ readFile : String → Except ReadError (List UInt8),
        readFile (procStatPath line.pid) = .ok line.bytes →
          pidStartTicks readFile line.pid = .ok (decimalValue line.startTime) ∧
            (1 < line.pid →
              processStartTicks readFile line.pid = .ok (decimalValue line.startTime)) := by
  refine ⟨line.parseStartTicks_bytes, ?_⟩
  intro readFile read
  constructor
  · rw [pidStartTicks, read]
    exact line.parseStartTicks_bytes
  · intro ordinary
    exact line.processStartTicks_bytes ordinary read

def firstProcess : StatLine where
  pid := 1
  name := [0x61, 0x29, 0x20, 0x62]
  fields := [0x53] :: List.replicate 18 [0x30] ++ [[0x37]]
  ending := [0x0a]
  startTime := [0x37]
  wellFormed := by decide
  isStartTime := rfl
  digits := by decide
  positive := by decide
  fits := by decide
  white := by decide

theorem first_process_is_refused :
    processStartTicks (fun _ => (.ok firstProcess.bytes : Except Unit (List UInt8)))
        firstProcess.pid = .error .pidInvalid ∧
      decimalValue firstProcess.startTime = 7 := by
  decide

end Civm.Procstat
