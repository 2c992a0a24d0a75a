import Civm.Foundation.Regex

/-! # Docker-heavy commands under a central wrapper

A workflow line is a list of characters and every expression of the source is a
`Regex`. What the wrappers of a line really run is stated over all their
invocations and compared with the check, which looks at first matches. -/

namespace Civm.CiGuard

open Regex

def dockerHeavyUpRe : Regex :=
  any [
    all [text "docker", .one fun char => isSpace char || char = '-', text "compose", boundary,
      many dot, boundary, text "up", boundary],
    all [text "--build", boundary],
    all [boundary, text "make", oneOrMore space, text "up", boundary],
    all [boundary, text "devctl", boundary, many dot, boundary, text "ci", oneOrMore space,
      text "up", boundary]]

def legacyLockWrapRe : Regex := all [text "civmctl", oneOrMore space, text "lock", boundary]

def legacyLockSubcmdRe : Regex :=
  all [start, many space, any [text "acquire", text "release"], boundary]

def admitWrapRe : Regex := all [text "civmctl", oneOrMore space, text "admit", boundary]

/-- The option that both admission flags are instances of: `--flag=value` or `--flag value`. -/
def flagRe (flag value : String) : Regex :=
  all [text flag, any [text "=", oneOrMore space], text value, any [space, stop]]

def heavyWeightRe : Regex := flagRe "--weight" "heavy"

def dockerExclusiveRe : Regex := flagRe "--exclusive" "docker"

def execWrapRe : Regex := all [text "--exec", boundary]

def payloadSeparatorRe : Regex := all [any [start, space], text "--", any [space, stop]]

def shellControlRe : Regex := any [text "&&", text "||", text ";", text "|"]

/-! ## The check -/

def wrapperPayload (line : List Char) (wrapper : Regex) : Option (List Char × List Char) :=
  match wrapper.find line with
  | none => none
  | some found =>
    let args := line.drop found.2
    match payloadSeparatorRe.find args with
    | none => none
    | some separator => some (args.take separator.1, args.drop separator.2)

def payloadStartsWithDockerHeavy (payload : List Char) : Bool :=
  match dockerHeavyUpRe.find payload with
  | none => false
  | some heavy =>
    match shellControlRe.find payload with
    | none => true
    | some control => heavy.1 < control.1

def legacyLockProtectsDockerHeavy (line : List Char) : Bool :=
  match wrapperPayload line legacyLockWrapRe with
  | none => false
  | some (options, payload) =>
    if legacyLockSubcmdRe.matchString options then false
    else execWrapRe.matchString options && payloadStartsWithDockerHeavy payload

def admitProtectsDockerHeavy (line : List Char) : Bool :=
  match wrapperPayload line admitWrapRe with
  | none => false
  | some (options, payload) =>
    heavyWeightRe.matchString options && dockerExclusiveRe.matchString options &&
      execWrapRe.matchString options && payloadStartsWithDockerHeavy payload

def protectsDockerHeavy (line : List Char) : Bool :=
  if legacyLockProtectsDockerHeavy line then true else admitProtectsDockerHeavy line

/-! ## What a line runs under a wrapper -/

inductive Wrapper where
  | lock
  | admission

namespace Wrapper

def pattern : Wrapper → Regex
  | lock => legacyLockWrapRe
  | admission => admitWrapRe

/-- The options under which an invocation executes its payload in the central slot. -/
def accepts : Wrapper → List Char → Bool
  | lock, options => !legacyLockSubcmdRe.matchString options && execWrapRe.matchString options
  | admission, options =>
    heavyWeightRe.matchString options && dockerExclusiveRe.matchString options &&
      execWrapRe.matchString options

def protects : Wrapper → List Char → Bool
  | lock => legacyLockProtectsDockerHeavy
  | admission => admitProtectsDockerHeavy

/-- The part of the line that an invocation runs, given where its name ends: from
behind the separator to the first shell control operator. -/
def handedOver (wrapper : Wrapper) (line : List Char) (nameEnd : Nat) : Option (Nat × Nat) := do
  let separator ← payloadSeparatorRe.find (line.drop nameEnd)
  if wrapper.accepts ((line.drop nameEnd).take separator.1) then
    let first := nameEnd + separator.2
    match shellControlRe.find (line.drop first) with
    | none => some (first, line.length)
    | some control => some (first, first + control.1)
  else none

/-- Where the first docker-heavy command behind the separator of the first invocation
starts. -/
def lead (wrapper : Wrapper) (line : List Char) : Option Nat := do
  let name ← wrapper.pattern.find line
  let separator ← payloadSeparatorRe.find (line.drop name.2)
  let heavy ← dockerHeavyUpRe.find (line.drop (name.2 + separator.2))
  some (name.2 + separator.2 + heavy.1)

end Wrapper

/-- The parts that the invocations of the line run, wherever they stand. -/
def handedOverParts (line : List Char) : List (Nat × Nat) :=
  [Wrapper.lock, Wrapper.admission].flatMap fun wrapper =>
    (wrapper.pattern.allMatches line).filterMap fun name => wrapper.handedOver line name.2

def Guarded (line : List Char) (command : Nat × Nat) : Prop :=
  ∃ part ∈ handedOverParts line, part.1 ≤ command.1 ∧ command.2 ≤ part.2

instance (line : List Char) (command : Nat × Nat) : Decidable (Guarded line command) :=
  inferInstanceAs (Decidable (∃ part ∈ handedOverParts line, _))

def Unbroken (line : List Char) (command : Nat × Nat) : Prop :=
  ∀ operator ∈ shellControlRe.allMatches line,
    ¬ (command.1 ≤ operator.1 ∧ operator.1 < command.2)

/-- The one command that the check looks at, with no operator inside. -/
def Examined (line : List Char) (command : Nat × Nat) : Prop :=
  ∃ wrapper : Wrapper, wrapper.protects line = true ∧ wrapper.lead line = some command.1 ∧
    Unbroken line command

theorem Wrapper.protects_eq (wrapper : Wrapper) (line : List Char) :
    wrapper.protects line = (wrapperPayload line wrapper.pattern).any fun found =>
      wrapper.accepts found.1 && payloadStartsWithDockerHeavy found.2 := by
  cases wrapper with
  | lock =>
    rw [protects, legacyLockProtectsDockerHeavy, pattern]
    rcases wrapperPayload line legacyLockWrapRe with _ | ⟨options, payload⟩
    · rfl
    · cases nested : legacyLockSubcmdRe.matchString options <;> simp [accepts, nested]
  | admission =>
    rw [protects, admitProtectsDockerHeavy, pattern]
    rcases wrapperPayload line admitWrapRe with _ | ⟨options, payload⟩ <;> rfl

theorem guarded_of_examined {line : List Char} {command : Nat × Nat}
    (inside : command.2 ≤ line.length) (examined : Examined line command) :
    Guarded line command := by
  rcases examined with ⟨wrapper, protects, isLead, unbroken⟩
  rw [wrapper.protects_eq, wrapperPayload] at protects
  rw [Wrapper.lead] at isLead
  rcases nameFound : wrapper.pattern.find line with _ | name
  · simp [nameFound] at protects
  rcases separatorFound : payloadSeparatorRe.find (line.drop name.2) with _ | separator
  · simp [nameFound, separatorFound] at protects
  simp only [nameFound, separatorFound, List.drop_drop, Option.any_some, Bool.and_eq_true]
    at protects
  rcases protects with ⟨accepted, starts⟩
  rw [payloadStartsWithDockerHeavy] at starts
  rcases heavyFound : dockerHeavyUpRe.find (line.drop (name.2 + separator.2)) with _ | heavy
  · simp [heavyFound] at starts
  have isStart : name.2 + separator.2 + heavy.1 = command.1 := by
    simpa [nameFound, separatorFound, heavyFound] using isLead
  have handed : ∀ part, wrapper.handedOver line name.2 = some part →
    part ∈ handedOverParts line := by
    intro part given
    apply List.mem_flatMap.mpr
    exact ⟨wrapper, by cases wrapper <;> simp,
      List.mem_filterMap.mpr ⟨name, mem_of_find nameFound, given⟩⟩
  rw [Wrapper.handedOver, separatorFound] at handed
  simp only [Option.bind_eq_bind, Option.bind_some, accepted, if_true] at handed
  rcases controlFound : shellControlRe.find (line.drop (name.2 + separator.2)) with _ | control
  · rw [controlFound] at handed
    exact ⟨_, handed _ rfl, by dsimp only; omega, inside⟩
  · rw [controlFound] at handed
    simp only [heavyFound, controlFound, decide_eq_true_eq] at starts
    have within : name.2 + separator.2 ≤ line.length := by
      by_contra outside
      rw [List.drop_eq_nil_of_le (by omega)] at controlFound
      cases controlFound
    -- The payload's first operator is an operator of the line, so the command ends before it.
    rcases mem_allMatches_of_drop (by rfl) within (mem_of_find controlFound) with ⟨last, operator⟩
    have outside := unbroken _ operator
    exact ⟨_, handed _ rfl, by dsimp only; omega, by dsimp only at outside ⊢; omega⟩

end Civm.CiGuard
