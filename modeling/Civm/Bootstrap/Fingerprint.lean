import Civm.Foundation.Lines

/-! # The fingerprint of a signing key

`VerifyGPGFingerprint` looks for the expected fingerprint in all letters and digits of
what `gpg --show-keys --with-colons` prints. -/

namespace Civm.Bootstrap

/-- `unicode.ToUpper` as far as it leads into ASCII. Two letters outside of ASCII have their
capitals in it; all others stay outside. -/
def toUpper (char : Char) : Char :=
  if char = 'ı' then 'I' else if char = 'ſ' then 'S' else char.toUpper

def isKept (char : Char) : Bool :=
  ('A' ≤ char && char ≤ 'Z') || ('0' ≤ char && char ≤ '9')

def normalizeFingerprint (value : String) : String :=
  String.ofList ((value.toList.map toUpper).filter isKept)

/-- The error text, or `none` for an accepted key. -/
def verifyGPGFingerprint (output expected label : String) : Option String :=
  let actual := normalizeFingerprint output
  let expected := normalizeFingerprint expected
  if expected = "" then some ("fingerprint esperado ausente para " ++ label)
  else if ¬Text.contains actual expected then
    some ("fingerprint mismatch for " ++ label ++ ": got output without " ++ expected)
  else none

/-! ## Records -/

def fingerprintDigits : List Char := "0123456789abcdefABCDEF".toList

/-- A fingerprint as it is pinned: 40 hexadecimal digits. -/
def isFingerprint (value : String) : Bool :=
  value.toList.length = 40 && value.toList.all fingerprintDigits.contains

/-- A line of the listing with `fpr` in its first field and the fingerprint in its tenth. -/
def isRecordOf (expected : String) (line : List Char) : Bool :=
  (line.splitOn ':')[0]? = some "fpr".toList &&
    (line.splitOn ':')[9]?.any fun field =>
      field.map Char.toUpper = expected.toList.map Char.toUpper

def hasRecord (output expected : String) : Bool :=
  (output.toList.splitOn '\n').any (isRecordOf expected)

/-- The digits follow one another in the text, with only characters between them that are
neither letters nor digits. -/
inductive Spelled : List Char → List Char → Prop
  | done : Spelled [] []
  | digit {digit char : Char} {digits text : List Char} (same : char.toUpper = digit.toUpper)
    (rest : Spelled digits text) : Spelled (digit :: digits) (char :: text)
  | between {char : Char} {digits text : List Char} (dropped : isKept (toUpper char) = false)
    (rest : Spelled digits text) : Spelled digits (char :: text)

section

variable {digit char : Char} {digits text : List Char} {output expected label : String}

theorem facts_of_digit (isDigit : fingerprintDigits.contains digit = true) :
    isKept digit.toUpper = true ∧ toUpper digit = digit.toUpper ∧
      digit.toUpper ≠ 'I' ∧ digit.toUpper ≠ 'S' ∧ digit.toUpper ≠ 'ı' ∧ digit.toUpper ≠ 'ſ' := by
  have checked : (fingerprintDigits.all fun digit => isKept digit.toUpper &&
    toUpper digit = digit.toUpper && digit.toUpper ≠ 'I' && digit.toUpper ≠ 'S' &&
    digit.toUpper ≠ 'ı' && digit.toUpper ≠ 'ſ') = true := by decide
  have facts := List.all_eq_true.mp checked digit (List.contains_iff_mem.mp isDigit)
  simpa [and_assoc] using facts

theorem toUpper_eq_digit (isDigit : fingerprintDigits.contains digit = true) :
    toUpper char = digit.toUpper ↔ char.toUpper = digit.toUpper := by
  rcases facts_of_digit isDigit with ⟨_, _, notI, notS, notDotless, notLong⟩
  unfold toUpper
  split_ifs with dotless long
  · subst dotless
    exact ⟨fun same => absurd same.symm notI, fun same => absurd same.symm notDotless⟩
  · subst long
    exact ⟨fun same => absurd same.symm notS, fun same => absurd same.symm notLong⟩
  · exact Iff.rfl

theorem spelled_iff (areDigits : ∀ digit ∈ digits, fingerprintDigits.contains digit = true) :
    (text.map toUpper).filter isKept = digits.map Char.toUpper ↔ Spelled digits text := by
  induction text generalizing digits with
  | nil =>
    cases digits with
    | nil => exact ⟨fun _ => .done, fun _ => rfl⟩
    | cons digit digits => exact ⟨nofun, nofun⟩
  | cons char text induction =>
    rw [List.map_cons]
    cases kept : isKept (toUpper char) with
    | false =>
      rw [List.filter_cons_of_neg (by simp [kept]), induction areDigits]
      constructor
      · exact .between kept
      · intro spelled
        cases spelled with
        | between _ rest => exact rest
        | @digit digit _ _ _ same rest =>
          have isDigit := areDigits digit List.mem_cons_self
          rw [(toUpper_eq_digit isDigit).mpr same, (facts_of_digit isDigit).1] at kept
          cases kept
    | true =>
      rw [List.filter_cons_of_pos kept]
      cases digits with
      | nil =>
        refine ⟨nofun, fun spelled => ?_⟩
        cases spelled with
        | between dropped _ => cases kept.symm.trans dropped
      | cons digit digits =>
        have isDigit := areDigits digit List.mem_cons_self
        have others := fun other member => areDigits other (List.mem_cons_of_mem digit member)
        rw [List.map_cons, List.cons.injEq, toUpper_eq_digit isDigit, induction others]
        constructor
        · exact fun ⟨same, rest⟩ => .digit same rest
        · intro spelled
          cases spelled with
          | digit same rest => exact ⟨same, rest⟩
          | between dropped _ => cases kept.symm.trans dropped

theorem infix_kept_iff (areDigits : ∀ digit ∈ digits, fingerprintDigits.contains digit = true) :
    digits.map Char.toUpper <:+: (text.map toUpper).filter isKept ↔
      ∃ part, part <:+: text ∧ Spelled digits part := by
  constructor
  · rintro ⟨before, after, split⟩
    rcases List.filter_eq_append_iff.mp split.symm with ⟨front, back, whole, left, _⟩
    rcases List.filter_eq_append_iff.mp left with ⟨first, middle, rfl, _, kept⟩
    rcases List.map_eq_append_iff.mp whole with ⟨front, back, rfl, fronts, _⟩
    rcases List.map_eq_append_iff.mp fronts with ⟨first, part, rfl, _, rfl⟩
    exact ⟨part, ⟨first, back, rfl⟩, (spelled_iff areDigits).mp kept⟩
  · rintro ⟨part, ⟨before, after, rfl⟩, spelled⟩
    rw [← (spelled_iff areDigits).mpr spelled]
    exact ⟨(before.map toUpper).filter isKept, (after.map toUpper).filter isKept, by simp⟩

theorem digits_of_isFingerprint (pinned : isFingerprint expected = true) :
    (∀ digit ∈ expected.toList, fingerprintDigits.contains digit = true) ∧
      expected.toList.length = 40 := by
  rw [isFingerprint, Bool.and_eq_true, decide_eq_true_iff] at pinned
  exact ⟨List.all_eq_true.mp pinned.2, pinned.1⟩

theorem toList_normalize_digits
    (areDigits : ∀ digit ∈ expected.toList, fingerprintDigits.contains digit = true) :
    (normalizeFingerprint expected).toList = expected.toList.map Char.toUpper := by
  have capitals : expected.toList.map toUpper = expected.toList.map Char.toUpper :=
    List.map_congr_left fun digit member => (facts_of_digit (areDigits digit member)).2.1
  rw [normalizeFingerprint, String.toList_ofList, capitals, List.filter_eq_self]
  intro char member
  rcases List.mem_map.mp member with ⟨digit, among, rfl⟩
  exact (facts_of_digit (areDigits digit among)).1

/-- A key is accepted just if the fingerprint is spelled somewhere in the listing. -/
theorem accepts_iff_spelled (pinned : isFingerprint expected = true) :
    verifyGPGFingerprint output expected label = none ↔
      ∃ part, part <:+: output.toList ∧ Spelled expected.toList part := by
  rcases digits_of_isFingerprint pinned with ⟨areDigits, sized⟩
  have capitals := toList_normalize_digits areDigits
  have present : normalizeFingerprint expected ≠ "" := by
    intro empty
    rw [empty] at capitals
    have := congrArg List.length capitals
    simp [sized] at this
  rw [← infix_kept_iff areDigits, ← capitals, verifyGPGFingerprint]
  have actual : ((output.toList.map toUpper).filter isKept) =
    (normalizeFingerprint output).toList := String.toList_ofList.symm
  rw [actual, ← Text.contains_iff, if_neg present]
  split <;> simp_all

theorem spelled_self (same : text.map Char.toUpper = digits.map Char.toUpper) :
    Spelled digits text := by
  induction digits generalizing text with
  | nil =>
    rw [List.map_nil, List.map_eq_nil_iff] at same
    subst same
    exact .done
  | cons digit digits induction =>
    rcases List.map_eq_cons_iff.mp same with ⟨char, rest, rfl, head, tail⟩
    exact .digit head (induction tail)

theorem spelled_of_hasRecord (found : hasRecord output expected = true) :
    ∃ part, part <:+: output.toList ∧ Spelled expected.toList part := by
  rcases List.any_eq_true.mp found with ⟨line, member, record⟩
  rcases Option.any_eq_true _ _ |>.mp (Bool.and_eq_true_iff.mp record).2 with ⟨field, tenth, same⟩
  have inLine := Text.infix_of_mem_splitOn (List.mem_of_getElem? tenth)
  have inOutput := Text.infix_of_mem_splitOn member
  exact ⟨field, inLine.trans inOutput, spelled_self (of_decide_eq_true same)⟩

end

/-- That an accepted key has its fingerprint in a record of the listing holds just of the
listings that have such a record or nowhere spell the fingerprint. -/
theorem accepted_has_record_iff {expected : String} (pinned : isFingerprint expected = true)
    (output label : String) :
    (verifyGPGFingerprint output expected label = none → hasRecord output expected = true) ↔
      hasRecord output expected = true ∨
        ¬∃ part, part <:+: output.toList ∧ Spelled expected.toList part := by
  rw [accepts_iff_spelled pinned]
  by_cases spelled : ∃ part, part <:+: output.toList ∧ Spelled expected.toList part
  · simp only [spelled, forall_const, not_true_eq_false, or_false]
  · simp only [spelled, not_false_eq_true, or_true, false_imp_iff]

namespace Sample

def docker : String := "9DC858229FC7DD38854AE2D88D81803C0EBFCD88"

theorem docker_pinned : isFingerprint docker = true := by decide

def genuine : String := "fpr:::::::::" ++ docker ++ ":\n"

def foreign : String := "fpr:::::::::0011223344556677889900112233445566778899:\nuid:-::::::::"

def forged : String := foreign ++ docker ++ ":\n"

end Sample

theorem genuine_key_has_record :
    verifyGPGFingerprint Sample.genuine Sample.docker "docker" = none ∧
      hasRecord Sample.genuine Sample.docker = true := by
  have record : hasRecord Sample.genuine Sample.docker = true := by decide +kernel
  have accepted : verifyGPGFingerprint Sample.genuine Sample.docker "docker" = none :=
    (accepts_iff_spelled Sample.docker_pinned).mpr (spelled_of_hasRecord record)
  exact ⟨accepted, (accepted_has_record_iff Sample.docker_pinned _ _).mpr (.inl record) accepted⟩

theorem user_id_is_accepted :
    isFingerprint Sample.docker = true ∧
      verifyGPGFingerprint Sample.forged Sample.docker "docker" = none ∧
      hasRecord Sample.forged Sample.docker = false := by
  refine ⟨Sample.docker_pinned, (accepts_iff_spelled Sample.docker_pinned).mpr ?_, ?_⟩
  · refine ⟨Sample.docker.toList, ?_, spelled_self rfl⟩
    have split : Sample.forged.toList =
      Sample.foreign.toList ++ Sample.docker.toList ++ ":\n".toList := by
      simp only [Sample.forged, String.toList_append]
    exact ⟨_, _, split.symm⟩
  · decide +kernel

end Civm.Bootstrap
