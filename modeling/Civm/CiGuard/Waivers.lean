import Mathlib.Data.List.Nodup
import Civm.Foundation.Lines
import Civm.CiGuard.Heavy

/-! # Rules and waivers

Both scans run the same loop over the lines of a file with their own checks. The
map of waivers is a list of entries with distinct keys, where the key `none` stands for
the placeholder of a waiver without a target. -/

namespace Civm.CiGuard

open Regex

inductive Severity where
  | error
  | warn
deriving DecidableEq

structure Finding where
  file : String
  line : Nat
  rule : String
  severity : Severity
  message : String
  remediation : String
deriving DecidableEq

structure Waiver where
  rule : String
  matched : Bool

/-- A rule with its test and the texts of its finding. -/
structure Check where
  rule : String
  severity : Severity
  message : String
  remediation : String
  violated : List Char → Bool

def Check.finding (check : Check) (path : String) (idx : Nat) : Finding :=
  ⟨path, idx + 1, check.rule, check.severity, check.message, check.remediation⟩

def ruleOrphanWaiver : String := "orphan-waiver"

def waiverPrefix : List Char := "civm:ci-guard-allow".toList

/-! ## The rules -/

def containerNameRe : Regex :=
  all [start, many space, text "container_name", many space, text ":"]

def quoteMark : Regex := .one fun char => char = '"' || char = '\''

def staticHostPortRe : Regex :=
  all [start, many space, text "-", many space, opt quoteMark, oneOrMore digit, text ":",
    oneOrMore digit, opt (all [text "/", oneOrMore word]), opt quoteMark, many space, stop]

def composeInvokeRe : Regex :=
  any [
    all [text "docker", .one fun char => isSpace char || char = '-', text "compose", boundary],
    all [text "docker-compose", boundary]]

def projectNameRe : Regex :=
  any [all [text "-p", boundary], all [text "--project-name", boundary],
    text "COMPOSE_PROJECT_NAME"]

def fileHasProjectScope (lines : List (List Char)) : Bool :=
  lines.any fun raw => Text.contains (String.ofList raw) "COMPOSE_PROJECT_NAME"

def composeChecks : List Check := [
  { rule := "R1-container-name"
    severity := .error
    message := "container_name fixo impede co-residencia entre runners"
    remediation := "remova container_name: nomes fixos impedem co-residencia entre runners"
    violated := containerNameRe.matchString },
  { rule := "R2-static-host-port"
    severity := .error
    message := "host-port estatica colide entre projetos concorrentes"
    remediation :=
      "use $\x7bCIVM_PORT_BASE\x7d+N ou porta ephemeral em vez de host-port estatica"
    violated := staticHostPortRe.matchString }]

def workflowChecks (lines : List (List Char)) : List Check := [
  { rule := "R3-missing-project-name"
    severity := .error
    message := "docker compose sem project-name colide COMPOSE_PROJECT_NAME entre runners"
    remediation := "passe -p/--project-name ou exporte COMPOSE_PROJECT_NAME no escopo do step"
    violated := fun raw => composeInvokeRe.matchString raw && !projectNameRe.matchString raw &&
      !fileHasProjectScope lines },
  { rule := "R4-unlocked-docker-heavy"
    severity := .warn
    message := "passo docker-heavy sem admissao civm pode colidir no daemon"
    remediation := "envolva o mesmo comando em civmctl admit --weight heavy --exclusive docker " ++
      "--exec; flock repo-local nao difere a cleanup"
    violated := fun raw => dockerHeavyUpRe.matchString raw && !protectsDockerHeavy raw }]

/-! ## The scan -/

def parseWaiver (line : List Char) : Option Waiver :=
  match Text.cut '#' line with
  | none => none
  | some (_, after) =>
    let comment := Text.trim Text.isSpace after
    if waiverPrefix.isPrefixOf comment then
      match Text.fields comment with
      | _ :: rule :: _ => some ⟨String.ofList rule, false⟩
      | _ => none
    else none

def isSignificant (line : List Char) : Bool :=
  let trimmed := Text.trim Text.isSpace line
  !(trimmed.isEmpty || trimmed.head? = some '#')

def nextSignificantLine (lines : List (List Char)) (idx : Nat) : Option Nat :=
  ((lines.drop (idx + 1)).findIdx? isSignificant).map (idx + 1 + ·)

structure State where
  waivers : List (Option Nat × Waiver)
  findings : List Finding

def appendIfActive (state : State) (finding : Finding) (idx : Nat) (matched : Bool) : State :=
  if !matched then state
  else if state.waivers.any fun entry => entry.1 = some idx && entry.2.rule = finding.rule then
    { state with
      waivers := state.waivers.map fun entry =>
        if entry.1 = some idx && entry.2.rule = finding.rule then
          (entry.1, { entry.2 with matched := true })
        else entry }
  else { state with findings := state.findings ++ [finding] }

def setWaiver (waivers : List (Option Nat × Waiver)) (target : Option Nat) (waiver : Waiver) :
    List (Option Nat × Waiver) :=
  (target, waiver) :: waivers.filter (·.1 ≠ target)

/-- The text of `%q` is a parameter of the scan. -/
def orphanFinding (quote : String → String) (path : String) (lines : List (List Char))
    (orphan : Option Nat × String) : Finding where
  file := path
  line := match orphan.1 with
    | some target => if target < lines.length then target + 1 else 0
    | none => 0
  rule := ruleOrphanWaiver
  severity := .warn
  message := "waiver para " ++ quote orphan.2 ++ " nao casou nenhum finding"
  remediation := "remova o waiver: a regra citada nao casou nenhum finding na proxima linha"

section Scan

variable (checks : List Check) (quote : String → String) (path : String)
  (lines : List (List Char))

def scanLine (state : State) (idx : Nat) (raw : List Char) : State :=
  match parseWaiver raw with
  | some waiver =>
    { state with
      waivers := setWaiver state.waivers (nextSignificantLine lines idx) waiver }
  | none =>
    checks.foldl (fun state check =>
      appendIfActive state (check.finding path idx) idx (check.violated raw)) state

def scanFrom : State → Nat → List (List Char) → State
  | state, _, [] => state
  | state, idx, raw :: rest => scanFrom (scanLine checks path lines state idx raw) (idx + 1) rest

def orphanWaiverFindings (waivers : List (Option Nat × Waiver)) : List Finding :=
  (waivers.filter fun entry => !entry.2.matched).map fun entry =>
    orphanFinding quote path lines (entry.1, entry.2.rule)

def scan : List Finding :=
  let final := scanFrom checks path lines ⟨[], []⟩ 0 lines
  final.findings ++ orphanWaiverFindings quote path lines final.waivers

end Scan

def scanComposeFile (quote : String → String) (path : String) (data : List Char) : List Finding :=
  let lines := data.splitOn '\n'
  scan composeChecks quote path lines

def scanWorkflowFile (quote : String → String) (path : String) (data : List Char) : List Finding :=
  let lines := data.splitOn '\n'
  scan (workflowChecks lines) quote path lines

/-! ## What exact waivers are -/

/-- The rule that the waiver comment on a line names. -/
def waiverAt (lines : List (List Char)) (idx : Nat) : Option String :=
  (lines[idx]?.bind parseWaiver).map Waiver.rule

def reported (findings : List Finding) (idx : Nat) (rule : String) : Bool :=
  findings.any fun finding => finding.line = idx + 1 && finding.rule = rule

section Exact

variable (checks : List Check) (lines : List (List Char))

def violates (idx : Nat) (rule : String) : Bool :=
  checks.any fun check => rule = check.rule && lines[idx]?.any check.violated

/-- Whether the target of a waiver is a line that the rules are applied to and that
violates the rule. -/
def covers (target : Option Nat) (rule : String) : Bool :=
  target.any fun idx => (waiverAt lines idx).isNone && violates checks lines idx rule

/-- The waiver comments that suppress no finding, with their targets. -/
def idleWaivers (findings : List Finding) : List (Option Nat × String) :=
  (List.range lines.length).filterMap fun idx =>
    (waiverAt lines idx).bind fun rule =>
      let target := nextSignificantLine lines idx
      if covers checks lines target rule && !(target.any fun line => reported findings line rule)
      then none else some (target, rule)

structure Exact (quote : String → String) (path : String) (findings : List Finding) : Prop where
  unreported : ∀ idx rule, violates checks lines idx rule = true →
    reported findings idx rule = false →
      ∃ comment, waiverAt lines comment = some rule ∧ nextSignificantLine lines comment = some idx
  orphans : (findings.filter (·.rule = ruleOrphanWaiver)).Perm
    ((idleWaivers checks lines findings).map (orphanFinding quote path lines))

/-- A line with a waiver behind its code violates only rules that are waived for it, and
waivers that share a target name one rule, which the target violates. -/
structure Tidy : Prop where
  inline : ∀ idx rule, waiverAt lines idx ≠ none → violates checks lines idx rule = true →
    ∃ comment, waiverAt lines comment = some rule ∧ nextSignificantLine lines comment = some idx
  shared : ∀ first second rule other, first < second → waiverAt lines first = some rule →
    waiverAt lines second = some other →
    nextSignificantLine lines first = nextSignificantLine lines second →
      rule = other ∧ covers checks lines (nextSignificantLine lines first) rule = true

end Exact

/-! ## What a run of the loop has recorded -/

/-- The rule of the last of the first `count` lines that waives for the target. -/
def latest (lines : List (List Char)) (target : Option Nat) : Nat → Option String
  | 0 => none
  | count + 1 =>
    match waiverAt lines count with
    | none => latest lines target count
    | some rule =>
      if nextSignificantLine lines count = target then some rule
      else latest lines target count

section Latest

variable {lines : List (List Char)} {target : Option Nat} {rule : String}

theorem nextSignificantLine_bounds {idx next : Nat}
    (found : nextSignificantLine lines idx = some next) : idx < next ∧ next < lines.length := by
  rw [nextSignificantLine, Option.map_eq_some_iff] at found
  rcases found with ⟨offset, found, rfl⟩
  have inside := (List.findIdx?_eq_some_iff_getElem.mp found).1
  rw [List.length_drop] at inside
  omega

theorem latest_of_le {idx count : Nat} (passed : idx ≤ count) :
    latest lines (some idx) count = latest lines (some idx) idx := by
  induction count, passed using Nat.le_induction with
  | base => rfl
  | succ count passed induction =>
    rw [latest]
    split
    · exact induction
    · rw [if_neg, induction]
      intro found
      have bounds := nextSignificantLine_bounds found
      omega

theorem latest_eq_some_iff {count : Nat} :
    latest lines target count = some rule ↔
      ∃ idx < count, waiverAt lines idx = some rule ∧ nextSignificantLine lines idx = target ∧
        ∀ later, idx < later → later < count → waiverAt lines later ≠ none →
          nextSignificantLine lines later ≠ target := by
  induction count with
  | zero => simp [latest]
  | succ count induction =>
    constructor
    · intro found
      by_cases here : waiverAt lines count ≠ none ∧ nextSignificantLine lines count = target
      · rcases Option.ne_none_iff_exists'.mp here.1 with ⟨other, named⟩
        rw [latest, named] at found
        simp only [here.2, if_true, Option.some.injEq] at found
        exact ⟨count, by omega, by rw [named, found], here.2, by omega⟩
      · have earlier : latest lines target count = some rule := by
          rw [latest] at found
          split at found
          case h_1 => exact found
          case h_2 other named =>
            rwa [if_neg (by simpa [named] using here)] at found
        rcases induction.mp earlier with ⟨idx, small, named, aimed, last⟩
        refine ⟨idx, by omega, named, aimed, ?_⟩
        intro later after before isWaiver
        by_cases same : later = count
        · intro hit
          exact here ⟨same ▸ isWaiver, same ▸ hit⟩
        · exact last later after (by omega) isWaiver
    · intro given
      rcases given with ⟨idx, small, named, aimed, last⟩
      by_cases same : idx = count
      · rw [latest, ← same, named]
        simp [aimed]
      · have earlier := induction.mpr ⟨idx, by omega, named, aimed, fun later after before =>
          last later after (by omega)⟩
        rw [latest]
        split
        case h_1 => exact earlier
        case h_2 other isWaiver =>
          rw [if_neg (last count (by omega) (by omega) (by simp [isWaiver])), earlier]

end Latest

section Scan

variable {checks : List Check} {path : String} {lines : List (List Char)}

def mark (idx : Nat) (hit : String → Bool) (entry : Option Nat × Waiver) : Option Nat × Waiver :=
  if entry.1 = some idx && hit entry.2.rule then (entry.1, { entry.2 with matched := true })
  else entry

def named (waivers : List (Option Nat × Waiver)) (idx : Nat) (rule : String) : Bool :=
  waivers.any fun entry => entry.1 = some idx && entry.2.rule = rule

theorem mark_rule (idx : Nat) (hit : String → Bool) (entry : Option Nat × Waiver) :
    (mark idx hit entry).1 = entry.1 ∧ (mark idx hit entry).2.rule = entry.2.rule := by
  rw [mark]
  split <;> simp

theorem named_mark (waivers : List (Option Nat × Waiver)) (idx : Nat) (hit : String → Bool) :
    named (waivers.map (mark idx hit)) idx = named waivers idx := by
  funext rule
  simp [named, List.any_map, Function.comp_def, mark_rule]

theorem map_mark_eq {waivers : List (Option Nat × Waiver)} {idx : Nat} {hit : String → Bool}
    (missed : ∀ rule, hit rule = true → named waivers idx rule = false) :
    waivers.map (mark idx hit) = waivers := by
  rw [List.map_congr_left (g := id), List.map_id]
  intro entry member
  rw [mark, if_neg, id]
  intro both
  rw [Bool.and_eq_true, decide_eq_true_eq] at both
  have absent := missed entry.2.rule both.2
  rw [named, List.any_eq_false] at absent
  exact absent entry member (by simp [both.1])

theorem mark_mark (idx : Nat) (hit other : String → Bool) (entry : Option Nat × Waiver) :
    mark idx hit (mark idx other entry) = mark idx (fun rule => other rule || hit rule) entry := by
  by_cases target : entry.1 = some idx
  · cases first : other entry.2.rule <;> cases second : hit entry.2.rule <;>
      simp [mark, target, first, second]
  · simp [mark, target]

theorem appendIfActive_eq (state : State) (finding : Finding) (idx : Nat) (matched : Bool) :
    appendIfActive state finding idx matched =
      ⟨state.waivers.map (mark idx fun rule => decide (rule = finding.rule) && matched),
        state.findings ++ if matched && !named state.waivers idx finding.rule then [finding]
          else []⟩ := by
  cases matched with
  | false => simp [appendIfActive, map_mark_eq]
  | true =>
    rw [appendIfActive]
    change (if named state.waivers idx finding.rule then _ else _) = _
    simp only [Bool.and_true, Bool.true_and]
    cases isNamed : named state.waivers idx finding.rule with
    | false =>
      rw [map_mark_eq]
      · rfl
      · intro rule same
        rw [decide_eq_true_eq.mp same, isNamed]
    | true =>
      simp only [Bool.not_true, Bool.false_eq_true, if_false, if_true, List.append_nil]
      rfl

theorem checks_eq (state : State) (idx : Nat) (raw : List Char) :
    checks.foldl (fun state check =>
        appendIfActive state (check.finding path idx) idx (check.violated raw)) state =
      ⟨state.waivers.map (mark idx fun rule =>
          checks.any fun check => decide (rule = check.rule) && check.violated raw),
        state.findings ++ (checks.filter fun check =>
          check.violated raw && !named state.waivers idx check.rule).map
            fun check => check.finding path idx⟩ := by
  induction checks generalizing state with
  | nil => simp [map_mark_eq]
  | cons check rest induction =>
    rw [List.foldl_cons, induction, appendIfActive_eq]
    simp only [named_mark, List.map_map, State.mk.injEq]
    constructor
    · congr 1
      funext entry
      exact mark_mark idx _ _ entry
    · by_cases active : (check.violated raw && !named state.waivers idx check.rule) = true
      · simp [Check.finding, active]
      · simp [Check.finding, active]

variable (checks lines) in
/-- Whether one of the first `count` lines has used the waiver. -/
def used (count : Nat) (target : Option Nat) (rule : String) : Bool :=
  target.any (· < count) && covers checks lines target rule

variable (checks path lines) in
/-- The loop behind its first `count` lines. -/
structure Recorded (count : Nat) (state : State) : Prop where
  distinct : (state.waivers.map Prod.fst).Nodup
  waivers : ∀ target waiver, (target, waiver) ∈ state.waivers ↔
    latest lines target count = some waiver.rule ∧
      waiver.matched = used checks lines count target waiver.rule
  findings : ∀ finding, finding ∈ state.findings ↔
    ∃ idx < count, waiverAt lines idx = none ∧
      ∃ check ∈ checks, lines[idx]?.any check.violated = true ∧
        latest lines (some idx) idx ≠ some check.rule ∧ finding = check.finding path idx

variable {count : Nat} {state : State}

theorem Recorded.named_iff (recorded : Recorded checks path lines count state) {rule : String} :
    named state.waivers count rule = true ↔ latest lines (some count) count = some rule := by
  rw [named, List.any_eq_true]
  constructor
  · intro given
    rcases given with ⟨⟨target, waiver⟩, member, same⟩
    rw [Bool.and_eq_true, decide_eq_true_eq, decide_eq_true_eq] at same
    rcases same with ⟨rfl, rfl⟩
    exact ((recorded.waivers _ _).mp member).1
  · intro found
    exact ⟨(some count, ⟨rule, used checks lines count (some count) rule⟩),
      (recorded.waivers _ _).mpr ⟨found, rfl⟩, by simp⟩

theorem unmatched_of_parseWaiver {raw : List Char} {waiver : Waiver}
    (parsed : parseWaiver raw = some waiver) : waiver.matched = false := by
  rw [parseWaiver] at parsed
  split at parsed
  · cases parsed
  · dsimp only at parsed
    split at parsed
    · split at parsed
      · cases parsed
        rfl
      · cases parsed
    · cases parsed

theorem Recorded.setWaiver {raw : List Char} (read : lines[count]? = some raw) {waiver : Waiver}
    (parsed : parseWaiver raw = some waiver) (recorded : Recorded checks path lines count state) :
    Recorded checks path lines (count + 1)
      { state with
        waivers := setWaiver state.waivers (nextSignificantLine lines count) waiver } := by
  have isWaiver : waiverAt lines count = some waiver.rule := by simp [waiverAt, read, parsed]
  constructor
  · have kept := (List.filter_sublist (p := fun entry : Option Nat × Waiver =>
      entry.1 ≠ nextSignificantLine lines count) (l := state.waivers)).map Prod.fst
    rw [CiGuard.setWaiver, List.map_cons, List.nodup_cons]
    exact ⟨by simp, recorded.distinct.sublist kept⟩
  · intro target other
    simp only [CiGuard.setWaiver, List.mem_cons, List.mem_filter, decide_eq_true_eq, latest,
      isWaiver, Prod.mk.injEq, recorded.waivers]
    by_cases same : nextSignificantLine lines count = target
    · have unused : ∀ rule, used checks lines (count + 1) target rule = false := by
        intro rule
        rw [← same, used]
        cases found : nextSignificantLine lines count with
        | none => rfl
        | some next =>
          have bounds := nextSignificantLine_bounds found
          simp
          omega
      have unmatched := unmatched_of_parseWaiver parsed
      rcases waiver with ⟨rule, matched⟩
      rcases other with ⟨otherRule, otherMatched⟩
      dsimp only at unmatched
      simp only [same, true_and, ne_eq, not_true_eq_false, and_false, or_false, if_true, unused,
        Waiver.mk.injEq, Option.some.injEq, unmatched]
      exact and_congr_left' eq_comm
    · have kept : used checks lines (count + 1) target other.rule =
        used checks lines count target other.rule := by
        rcases target with _ | next
        · rfl
        · by_cases here : next = count
          · simp [used, covers, here, isWaiver]
          · have order : next < count + 1 ↔ next < count := by omega
            simp only [used, Option.any_some, order]
      simp [same, Ne.symm same, kept]
  · intro finding
    rw [recorded.findings]
    constructor
    · intro given
      rcases given with ⟨idx, small, rest⟩
      exact ⟨idx, by omega, rest⟩
    · intro given
      rcases given with ⟨idx, small, plain, rest⟩
      have before : idx ≠ count := by
        rintro rfl
        rw [isWaiver] at plain
        cases plain
      exact ⟨idx, by omega, plain, rest⟩

theorem mem_map_mark {waivers : List (Option Nat × Waiver)} {idx : Nat} {hit : String → Bool}
    {target : Option Nat} {waiver : Waiver} :
    (target, waiver) ∈ waivers.map (mark idx hit) ↔
      ∃ old, (target, old) ∈ waivers ∧ old.rule = waiver.rule ∧
        waiver.matched = (old.matched || (decide (target = some idx) && hit waiver.rule)) := by
  rcases waiver with ⟨rule, matched⟩
  rw [List.mem_map]
  constructor
  · intro given
    rcases given with ⟨⟨key, old⟩, member, same⟩
    rw [mark] at same
    split at same
    case isTrue both =>
      cases same
      exact ⟨old, member, rfl, by simp [both]⟩
    case isFalse neither =>
      cases same
      exact ⟨_, member, rfl, by simp [Bool.eq_false_iff.mpr neither]⟩
  · intro given
    rcases given with ⟨⟨oldRule, oldMatched⟩, member, same, flag⟩
    dsimp only at same flag
    subst same
    refine ⟨_, member, ?_⟩
    rw [mark]
    dsimp only
    split
    case isTrue both => simp [flag, both]
    case isFalse neither => simp [flag, Bool.eq_false_iff.mpr neither]

theorem Recorded.checked {raw : List Char} (read : lines[count]? = some raw)
    (parsed : parseWaiver raw = none) (recorded : Recorded checks path lines count state) :
    Recorded checks path lines (count + 1)
      (checks.foldl (fun state check =>
        appendIfActive state (check.finding path count) count (check.violated raw)) state) := by
  have plain : waiverAt lines count = none := by simp [waiverAt, read, parsed]
  have same : (fun rule => checks.any fun check =>
    decide (rule = check.rule) && check.violated raw) = violates checks lines count := by
    funext rule
    simp [violates, read]
  rw [checks_eq, same]
  constructor
  · have keys : (state.waivers.map (mark count (violates checks lines count))).map Prod.fst =
      state.waivers.map Prod.fst := by
      simp [mark_rule]
    rw [keys]
    exact recorded.distinct
  · intro target waiver
    simp only [mem_map_mark, recorded.waivers, latest, plain]
    have grown : used checks lines (count + 1) target waiver.rule =
      (used checks lines count target waiver.rule ||
        (decide (target = some count) && violates checks lines count waiver.rule)) := by
      rcases target with _ | next
      · rfl
      · rcases Nat.lt_trichotomy next count with before | here | after
        · have passed : next < count + 1 := by omega
          simp only [used, Option.any_some, passed, before, Option.some.injEq, Nat.ne_of_lt before,
            decide_true, decide_false, Bool.false_and, Bool.or_false]
        · simp [used, here, covers, plain]
        · have ahead : ¬ next < count + 1 := by omega
          simp only [used, Option.any_some, ahead, Nat.not_lt_of_lt after, Option.some.injEq,
            Nat.ne_of_gt after, decide_false, Bool.false_and, Bool.or_false]
    rw [grown]
    constructor
    · intro given
      rcases given with ⟨old, ⟨found, flag⟩, rule, matched⟩
      rw [rule] at found flag
      exact ⟨found, by rw [matched, flag]⟩
    · intro given
      exact ⟨⟨waiver.rule, used checks lines count target waiver.rule⟩, ⟨given.1, rfl⟩, rfl,
        given.2⟩
  · intro finding
    simp only [List.mem_append, recorded.findings, List.mem_map, List.mem_filter,
      Bool.and_eq_true, Bool.not_eq_true', Bool.eq_false_iff, ne_eq, recorded.named_iff]
    constructor
    · intro given
      rcases given with ⟨idx, small, rest⟩ | ⟨check, ⟨member, violated, free⟩, rfl⟩
      · exact ⟨idx, by omega, rest⟩
      · exact ⟨count, by omega, plain, check, member, by simp [read, violated], free, rfl⟩
    · intro given
      rcases given with ⟨idx, small, unwaived, check, member, violated, free, rfl⟩
      by_cases here : idx = count
      · subst here
        exact Or.inr ⟨check, ⟨member, by simpa [read] using violated, free⟩, rfl⟩
      · exact Or.inl ⟨idx, by omega, unwaived, check, member, violated, free, rfl⟩

theorem Recorded.scanFrom {rest : List (List Char)} (bounded : count ≤ lines.length)
    (left : lines.drop count = rest) (recorded : Recorded checks path lines count state) :
    Recorded checks path lines lines.length (scanFrom checks path lines state count rest) := by
  induction rest generalizing count state with
  | nil =>
    have passed := List.drop_eq_nil_iff.mp left
    rw [show lines.length = count by omega]
    exact recorded
  | cons raw rest induction =>
    have read : lines[count]? = some raw := by
      rw [← Nat.add_zero count, ← List.getElem?_drop, left]
      rfl
    apply induction (List.getElem?_eq_some_iff.mp read).1
    · rw [Nat.succ_eq_add_one, ← List.drop_drop, left]
      rfl
    · rw [scanLine]
      split
      case h_1 waiver parsed => exact recorded.setWaiver read parsed
      case h_2 parsed => exact recorded.checked read parsed

theorem recorded_scan (checks : List Check) (path : String) (lines : List (List Char)) :
    Recorded checks path lines lines.length
      (CiGuard.scanFrom checks path lines ⟨[], []⟩ 0 lines) := by
  apply Recorded.scanFrom (Nat.zero_le _) rfl
  constructor
  · exact List.nodup_nil
  · simp [latest]
  · simp

end Scan

/-! ## When the waivers of a file are exact -/

section Exact

variable {checks : List Check} {quote : String → String} {path : String}
  {lines : List (List Char)} (ordinary : ∀ check ∈ checks, check.rule ≠ ruleOrphanWaiver)

theorem lt_length_of_violates {idx : Nat} {rule : String}
    (violated : violates checks lines idx rule = true) : idx < lines.length := by
  by_contra beyond
  simp [violates, List.getElem?_eq_none (Nat.le_of_not_lt beyond)] at violated

theorem mem_scan {finding : Finding} :
    finding ∈ scan checks quote path lines ↔
      (∃ idx < lines.length, waiverAt lines idx = none ∧
        ∃ check ∈ checks, lines[idx]?.any check.violated = true ∧
          latest lines (some idx) idx ≠ some check.rule ∧ finding = check.finding path idx) ∨
      finding ∈ orphanWaiverFindings quote path lines
        (scanFrom checks path lines ⟨[], []⟩ 0 lines).waivers := by
  rw [scan, List.mem_append, (recorded_scan checks path lines).findings]

theorem rule_of_orphan {waivers : List (Option Nat × Waiver)} {finding : Finding}
    (member : finding ∈ orphanWaiverFindings quote path lines waivers) :
    finding.rule = ruleOrphanWaiver := by
  rcases List.mem_map.mp member with ⟨entry, _, rfl⟩
  rfl

include ordinary

theorem reported_iff {idx : Nat} {rule : String}
    (violated : violates checks lines idx rule = true) :
    reported (scan checks quote path lines) idx rule = true ↔
      waiverAt lines idx = none ∧ latest lines (some idx) lines.length ≠ some rule := by
  have bounded := lt_length_of_violates violated
  rw [violates, List.any_eq_true] at violated
  rcases violated with ⟨check, member, violated⟩
  rw [Bool.and_eq_true, decide_eq_true_eq] at violated
  rcases violated with ⟨rfl, violated⟩
  rw [latest_of_le (Nat.le_of_lt bounded), reported, List.any_eq_true]
  constructor
  · intro given
    rcases given with ⟨finding, listed, same⟩
    rw [Bool.and_eq_true, decide_eq_true_eq, decide_eq_true_eq] at same
    rcases mem_scan.mp listed with ⟨other, _, unwaived, second, _, _, free, rfl⟩ | orphan
    · obtain rfl : other = idx := Nat.succ.inj same.1
      exact ⟨unwaived, same.2 ▸ free⟩
    · exact absurd (same.2.symm.trans (rule_of_orphan orphan)) (ordinary check member)
  · intro given
    exact ⟨check.finding path idx, mem_scan.mpr (Or.inl ⟨idx, bounded, given.1, check, member,
      violated, given.2, rfl⟩), by simp [Check.finding]⟩

theorem suppressed_iff (target : Option Nat) (rule : String) :
    (covers checks lines target rule && !(target.any fun line =>
        reported (scan checks quote path lines) line rule)) = true ↔
      covers checks lines target rule = true ∧ latest lines target lines.length = some rule := by
  rw [Bool.and_eq_true]
  apply and_congr_right
  intro covered
  rcases target with _ | idx
  · cases covered
  · rw [covers, Option.any_some, Bool.and_eq_true, Option.isNone_iff_eq_none] at covered
    rw [Option.any_some, Bool.not_eq_true', Bool.eq_false_iff, ne_eq,
      reported_iff ordinary covered.2]
    simp [covered.1]

omit ordinary

def orphanEntries (waivers : List (Option Nat × Waiver)) : List (Option Nat × String) :=
  (waivers.filter fun entry => !entry.2.matched).map fun entry => (entry.1, entry.2.rule)

variable (checks path lines) in
abbrev orphansOf : List (Option Nat × String) :=
  orphanEntries (scanFrom checks path lines ⟨[], []⟩ 0 lines).waivers

include ordinary in
theorem filter_scan :
    (scan checks quote path lines).filter (·.rule = ruleOrphanWaiver) =
      (orphansOf checks path lines).map (orphanFinding quote path lines) := by
  have none : (scanFrom checks path lines ⟨[], []⟩ 0 lines).findings.filter
    (·.rule = ruleOrphanWaiver) = [] := by
    rw [List.filter_eq_nil_iff]
    intro finding listed
    rcases ((recorded_scan checks path lines).findings finding).mp listed with
      ⟨_, _, _, check, member, _, _, rfl⟩
    rw [decide_eq_true_eq]
    exact ordinary check member
  have all : ∀ waivers, (orphanWaiverFindings quote path lines waivers).filter
    (·.rule = ruleOrphanWaiver) = orphanWaiverFindings quote path lines waivers := by
    intro waivers
    rw [List.filter_eq_self]
    intro finding listed
    simpa using rule_of_orphan listed
  rw [scan, List.filter_append, none, all, List.nil_append, orphanWaiverFindings, orphansOf,
    orphanEntries, List.map_map]
  rfl

theorem mem_orphansOf {target : Option Nat} {rule : String} :
    (target, rule) ∈ orphansOf checks path lines ↔
      latest lines target lines.length = some rule ∧ covers checks lines target rule = false := by
  have finished : used checks lines lines.length target rule = covers checks lines target rule := by
    rw [used]
    cases covered : covers checks lines target rule with
    | false => simp
    | true =>
      rcases target with _ | idx
      · cases covered
      · rw [covers, Option.any_some, Bool.and_eq_true] at covered
        simp [lt_length_of_violates covered.2]
  simp only [orphanEntries, List.mem_map, List.mem_filter, Prod.exists, Prod.mk.injEq,
    (recorded_scan checks path lines).waivers, Bool.not_eq_true']
  constructor
  · intro given
    rcases given with ⟨_, waiver, ⟨⟨found, flag⟩, unmatched⟩, rfl, rfl⟩
    exact ⟨found, by rw [← finished, ← flag, unmatched]⟩
  · intro given
    exact ⟨target, ⟨rule, false⟩, ⟨⟨given.1, by rw [finished, given.2]⟩, rfl⟩, rfl, rfl⟩

theorem orphansOf_pairwise :
    (orphansOf checks path lines).Pairwise fun first second => first.1 ≠ second.1 := by
  rw [orphansOf, orphanEntries, List.pairwise_map]
  have distinct := (recorded_scan checks path lines).distinct
  rw [List.Nodup, List.pairwise_map] at distinct
  exact distinct.filter _

theorem target_of_line {first second : Nat} {rule other : String}
    (same : (orphanFinding quote path lines (nextSignificantLine lines first, rule)).line =
      (orphanFinding quote path lines (nextSignificantLine lines second, other)).line) :
    nextSignificantLine lines first = nextSignificantLine lines second := by
  have line : ∀ {idx rule}, (orphanFinding quote path lines
    (nextSignificantLine lines idx, rule)).line =
      ((nextSignificantLine lines idx).map (· + 1)).getD 0 := by
    intro idx rule
    rw [orphanFinding]
    cases found : nextSignificantLine lines idx with
    | none => rfl
    | some next => simp [(nextSignificantLine_bounds found).2]
  rw [line, line] at same
  cases found : nextSignificantLine lines first <;>
    cases other : nextSignificantLine lines second <;> simp_all

variable (checks lines) in
/-- A comment that suppresses a finding. -/
def Serves (idx : Nat) (rule : String) : Prop :=
  covers checks lines (nextSignificantLine lines idx) rule = true ∧
    latest lines (nextSignificantLine lines idx) lines.length = some rule

include ordinary in
theorem idle_step {idx : Nat} {idle : Option Nat × String} :
    ((waiverAt lines idx).bind fun rule =>
      let target := nextSignificantLine lines idx
      if covers checks lines target rule && !(target.any fun line =>
          reported (scan checks quote path lines) line rule)
      then none else some (target, rule)) = some idle ↔
    idle.1 = nextSignificantLine lines idx ∧ waiverAt lines idx = some idle.2 ∧
      ¬ Serves checks lines idx idle.2 := by
  rcases idle with ⟨target, rule⟩
  simp only [suppressed_iff ordinary, Option.bind_eq_some_iff, Option.ite_none_left_eq_some,
    Option.some.injEq, Prod.mk.injEq, Serves]
  constructor
  · intro given
    rcases given with ⟨_, named, unused, rfl, rfl⟩
    exact ⟨rfl, named, unused⟩
  · intro given
    rcases given with ⟨rfl, named, unused⟩
    exact ⟨rule, named, unused, rfl, rfl⟩

theorem lt_length_of_waiverAt {idx : Nat} {rule : String}
    (named : waiverAt lines idx = some rule) : idx < lines.length := by
  by_contra beyond
  simp [waiverAt, List.getElem?_eq_none (Nat.le_of_not_lt beyond)] at named

include ordinary in
theorem mem_idleWaivers {target : Option Nat} {rule : String} :
    (target, rule) ∈ idleWaivers checks lines (scan checks quote path lines) ↔
      ∃ idx, nextSignificantLine lines idx = target ∧ waiverAt lines idx = some rule ∧
        ¬ Serves checks lines idx rule := by
  simp only [idleWaivers, List.mem_filterMap, List.mem_range, idle_step ordinary]
  constructor
  · intro given
    rcases given with ⟨idx, _, aimed, rest⟩
    exact ⟨idx, aimed.symm, rest⟩
  · intro given
    rcases given with ⟨idx, aimed, named, unused⟩
    exact ⟨idx, lt_length_of_waiverAt named, aimed.symm, named, unused⟩

theorem latest_ne_none {idx count : Nat} {rule : String} (small : idx < count)
    (named : waiverAt lines idx = some rule) :
    latest lines (nextSignificantLine lines idx) count ≠ none := by
  induction count, small using Nat.le_induction with
  | base => simp [latest, named]
  | succ count _ induction =>
    rw [latest]
    split
    · exact induction
    · split <;> simp [induction]

theorem exists_last {idx : Nat} {rule : String} (named : waiverAt lines idx = some rule) :
    ∃ last other, waiverAt lines last = some other ∧
      nextSignificantLine lines last = nextSignificantLine lines idx ∧
      latest lines (nextSignificantLine lines idx) lines.length = some other ∧
      ∀ second rule, waiverAt lines second = some rule →
        nextSignificantLine lines second = nextSignificantLine lines idx → second ≤ last := by
  rcases Option.ne_none_iff_exists'.mp
    (latest_ne_none (lt_length_of_waiverAt named) named) with ⟨other, found⟩
  rcases latest_eq_some_iff.mp found with ⟨last, _, lastNamed, aimed, final⟩
  refine ⟨last, other, lastNamed, aimed, found, ?_⟩
  intro second rule secondNamed same
  by_contra after
  exact final second (by omega) (lt_length_of_waiverAt secondNamed) (by simp [secondNamed]) same

theorem serves_of_tidy (tidy : Tidy checks lines) {first second : Nat} {rule other : String}
    (order : first < second) (named : waiverAt lines first = some rule)
    (otherNamed : waiverAt lines second = some other)
    (same : nextSignificantLine lines first = nextSignificantLine lines second) :
    Serves checks lines first rule := by
  rcases exists_last named with ⟨last, lastRule, lastNamed, aimed, found, final⟩
  have after := final second other otherNamed same.symm
  have shared := tidy.shared first last rule lastRule (by omega) named lastNamed aimed.symm
  exact ⟨shared.2, by rw [found, shared.1]⟩

include ordinary in
theorem idleWaivers_pairwise (tidy : Tidy checks lines) :
    (idleWaivers checks lines (scan checks quote path lines)).Pairwise
      fun first second => first.1 ≠ second.1 := by
  rw [idleWaivers, List.pairwise_filterMap]
  apply List.pairwise_lt_range.imp
  intro first second order idle isIdle other isOther same
  rw [idle_step ordinary] at isIdle isOther
  exact isIdle.2.2 (serves_of_tidy tidy order isIdle.2.1 isOther.2.1
    (by rw [← isIdle.1, ← isOther.1, same]))

include ordinary in
theorem perm_of_tidy (tidy : Tidy checks lines) :
    (orphansOf checks path lines).Perm
      (idleWaivers checks lines (scan checks quote path lines)) := by
  have nodup : ∀ {entries : List (Option Nat × String)},
    (entries.Pairwise fun first second => first.1 ≠ second.1) → entries.Nodup := by
    intro entries distinct
    exact distinct.imp fun different same => different (congrArg Prod.fst same)
  rw [List.perm_ext_iff_of_nodup (nodup orphansOf_pairwise)
    (nodup (idleWaivers_pairwise ordinary tidy))]
  intro entry
  rcases entry with ⟨target, rule⟩
  rw [mem_orphansOf, mem_idleWaivers ordinary]
  constructor
  · intro given
    rcases latest_eq_some_iff.mp given.1 with ⟨idx, _, named, rfl, _⟩
    exact ⟨idx, rfl, named, fun serves => by simp [serves.1] at given⟩
  · intro given
    rcases given with ⟨idx, rfl, named, unused⟩
    rcases exists_last named with ⟨last, lastRule, lastNamed, aimed, found, final⟩
    rcases Nat.eq_or_lt_of_le (final idx rule named rfl) with rfl | before
    · rw [named, Option.some.injEq] at lastNamed
      rw [← lastNamed] at found
      refine ⟨found, ?_⟩
      by_contra covered
      exact unused ⟨by simpa using covered, found⟩
    · exact absurd (serves_of_tidy tidy before named lastNamed aimed.symm) unused

theorem orphan_lines_nodup :
    ((orphansOf checks path lines).map fun entry =>
      (orphanFinding quote path lines entry).line).Nodup := by
  rw [List.Nodup, List.pairwise_map]
  apply orphansOf_pairwise.imp_of_mem
  intro first second firstListed secondListed different same
  rcases latest_eq_some_iff.mp (mem_orphansOf.mp firstListed).1 with ⟨idx, _, _, aimed, _⟩
  rcases latest_eq_some_iff.mp (mem_orphansOf.mp secondListed).1 with ⟨other, _, _, hit, _⟩
  rcases first with ⟨target, rule⟩
  rcases second with ⟨otherTarget, otherRule⟩
  dsimp only at aimed hit
  subst aimed hit
  exact different (target_of_line same)

include ordinary in
theorem serves_of_exact (exact : Exact checks lines quote path (scan checks quote path lines))
    {first second : Nat} {rule other : String} (order : first < second)
    (named : waiverAt lines first = some rule) (otherNamed : waiverAt lines second = some other)
    (same : nextSignificantLine lines first = nextSignificantLine lines second) :
    Serves checks lines first rule := by
  have orphans := exact.orphans
  rw [filter_scan ordinary] at orphans
  have linesPerm := orphans.map Finding.line
  rw [List.map_map, List.map_map] at linesPerm
  have distinct := linesPerm.nodup_iff.mp orphan_lines_nodup
  by_contra idle
  -- The orphan of the first comment is that of its target, whose last comment is idle too.
  have listed := linesPerm.mem_iff.mpr (List.mem_map_of_mem
    ((mem_idleWaivers ordinary).mpr ⟨first, rfl, named, idle⟩))
  rcases List.mem_map.mp listed with ⟨⟨target, orphanRule⟩, isOrphan, sameLine⟩
  have orphan := mem_orphansOf.mp isOrphan
  rcases latest_eq_some_iff.mp orphan.1 with ⟨idx, _, _, rfl, _⟩
  have aimed := target_of_line sameLine
  rcases exists_last named with ⟨last, lastRule, lastNamed, lastAimed, found, final⟩
  have after := final second other otherNamed same.symm
  have lastIdle : ¬ Serves checks lines last lastRule := by
    rw [aimed, found, Option.some.injEq] at orphan
    intro serves
    rw [Serves, lastAimed, orphan.1, orphan.2] at serves
    cases serves.1
  -- Two idle comments of one target are two orphans with one line.
  rw [List.Nodup, List.pairwise_map, idleWaivers, List.pairwise_filterMap,
    List.pairwise_iff_getElem] at distinct
  have bounded := lt_length_of_waiverAt lastNamed
  have different := distinct first last (by simp; omega) (by simpa using bounded) (by omega)
  simp only [List.getElem_range, idle_step ordinary] at different
  apply different (nextSignificantLine lines first, rule) ⟨rfl, named, idle⟩
    (nextSignificantLine lines last, lastRule) ⟨rfl, lastNamed, lastIdle⟩
  simp [orphanFinding, lastAimed]

include ordinary in
theorem exact_iff_tidy :
    Exact checks lines quote path (scan checks quote path lines) ↔ Tidy checks lines := by
  constructor
  · intro exact
    constructor
    · intro idx rule isWaiver violated
      apply exact.unreported idx rule violated
      rw [Bool.eq_false_iff, ne_eq, reported_iff ordinary violated]
      exact fun given => isWaiver given.1
    · intro first second rule other order named otherNamed same
      have serves := serves_of_exact ordinary exact order named otherNamed same
      refine ⟨?_, serves.1⟩
      rcases exists_last otherNamed with ⟨last, lastRule, lastNamed, aimed, found, final⟩
      have ruled : lastRule = rule := by
        have firstFound := serves.2
        rw [same, found, Option.some.injEq] at firstFound
        exact firstFound
      rcases Nat.eq_or_lt_of_le (final second other otherNamed rfl) with rfl | before
      · rw [otherNamed, Option.some.injEq] at lastNamed
        rw [lastNamed, ruled]
      · have secondFound :=
          (serves_of_exact ordinary exact before otherNamed lastNamed aimed.symm).2
        rw [found, Option.some.injEq] at secondFound
        rw [← ruled, secondFound]
  · intro tidy
    constructor
    · intro idx rule violated unreported
      rw [Bool.eq_false_iff, ne_eq, reported_iff ordinary violated] at unreported
      by_cases isWaiver : waiverAt lines idx = none
      · have found : latest lines (some idx) lines.length = some rule := by
          by_contra free
          exact unreported ⟨isWaiver, free⟩
        rcases latest_eq_some_iff.mp found with ⟨comment, _, named, aimed, _⟩
        exact ⟨comment, named, aimed⟩
      · exact tidy.inline idx rule isWaiver violated
    · rw [filter_scan ordinary]
      exact (perm_of_tidy ordinary tidy).map _

end Exact

theorem waivers_are_exact_iff (quote : String → String) (path : String) (data : List Char) :
    let lines := data.splitOn '\n'
    (Exact composeChecks lines quote path (scanComposeFile quote path data) ↔
        Tidy composeChecks lines) ∧
      (Exact (workflowChecks lines) lines quote path (scanWorkflowFile quote path data) ↔
        Tidy (workflowChecks lines) lines) := by
  constructor
  · apply exact_iff_tidy
    intro check member
    simp only [composeChecks, List.mem_cons, List.not_mem_nil, or_false] at member
    rcases member with rfl | rfl <;> simp [ruleOrphanWaiver]
  · apply exact_iff_tidy
    intro check member
    simp only [workflowChecks, List.mem_cons, List.not_mem_nil, or_false] at member
    rcases member with rfl | rfl <;> simp [ruleOrphanWaiver]

/-- The second waiver takes the place of the first in the map, which then neither
suppresses the finding nor is an orphan. -/
theorem first_waiver_is_lost :
    let data := "# civm:ci-guard-allow R1-container-name a\n".toList ++
      "# civm:ci-guard-allow R2-static-host-port b\ncontainer_name: db".toList
    ¬ Exact composeChecks (data.splitOn '\n') id "compose.yml"
      (scanComposeFile id "compose.yml" data) := by
  intro data exact
  have counted := exact.orphans.length_eq
  revert counted
  decide +kernel

end Civm.CiGuard
