import Civm.JitDispatcher.Types

/-! # The dispatcher's own checks

The checks of `config.go`, `identity.go` and `state.go`, with their messages. -/

namespace Civm.JitDispatcher

/-! ## Character classes and patterns -/

def isAlphanumeric (char : Char) : Bool :=
  (char ≥ 'A' && char ≤ 'Z') || (char ≥ 'a' && char ≤ 'z') || (char ≥ '0' && char ≤ '9')

def isOneOf (chars : String) (char : Char) : Bool := chars.toList.contains char

def matchesSHA (value : String) : Bool := Text.isHex 40 value || Text.isHex 64 value

def matchesDigest (value : String) : Bool := Text.isHex 64 value

/-- A first alphanumeric character, then between `least` and `most` characters
that are alphanumeric or in `extra`. -/
def matchesName (extra : String) (least most : Nat) : List Char → Bool
  | [] => false
  | first :: rest =>
    isAlphanumeric first && least ≤ rest.length && rest.length ≤ most &&
      rest.all fun char => isAlphanumeric char || isOneOf extra char

def matchesWorkflow (value : String) : Bool :=
  Text.hasPrefix value ".github/workflows/" &&
    [".yml", ".yaml"].any fun ending =>
      let name := (Text.trimPrefix value ".github/workflows/").toList
      ending.toList.isSuffixOf name &&
        matchesName "._-" 0 99 (name.take (name.length - ending.toList.length))

def matchesIdempotency (value : String) : Bool := matchesName "._:-" 15 127 value.toList

def matchesJobName (value : String) : Bool := matchesName " ._:/()-" 0 99 value.toList

theorem reject_eq_none {condition : Prop} [Decidable condition] {error : α} {rest : Option α} :
    (if condition then some error else rest) = none ↔ ¬condition ∧ rest = none := by
  by_cases holds : condition <;> simp [holds]

/-! ## Repositories, refs, policies and requests -/

def invalid (detail : String) : Error := .because .invalid detail

def safeName (value : List Char) : Bool :=
  value.all (fun char => (char ≥ 'a' && char ≤ 'z') || (char ≥ '0' && char ≤ '9') ||
    isOneOf "._-" char) &&
  value.head? != some '.' && value.getLast? != some '.'

/-- `validateRepository`. Letters outside ASCII are refused by `safeName`. -/
def validateRepository (repository : String) : Option Error :=
  let parts := Text.splitPath repository.toList
  if parts.length ≠ 2 ∨ repository.toList.any Char.isUpper then
    some (invalid "repository must be lowercase owner/repo")
  else if parts.any fun part =>
    part = [] || (String.ofList part).utf8ByteSize > 100 || !safeName part then
    some (invalid "repository contains an unsafe segment")
  else none

def validateRef (ref : String) : Option Error :=
  let name := Text.trimPrefix ref "refs/heads/"
  if ref.utf8ByteSize < 12 ∨ ref.utf8ByteSize > 240 ∨ ¬Text.hasPrefix ref "refs/heads/" then
    some (invalid "ref must be an exact branch ref")
  else if Text.contains name ".." || Text.contains name "//" || Text.contains name "@\x7b" ||
    Text.hasPrefix name "." || Text.hasSuffix name "." || Text.hasSuffix name "/" ||
    Text.hasSuffix name ".lock" then
    some (invalid "ref contains an unsafe sequence")
  else if name.toList.all fun char => isAlphanumeric char || isOneOf "._/-" char then none
  else some (invalid "ref contains an unsafe character")

def validateCandidateRefs : List String → List String → Option Error
  | [], _ => none
  | ref :: refs, seen =>
    match validateRef ref with
    | some error => some error
    | none =>
      if ref ∈ seen then some (invalid "duplicate candidate ref")
      else validateCandidateRefs refs (ref :: seen)

def validatePolicy (policy : RepositoryPolicy) : Option Error :=
  match validateRepository policy.repository with
  | some error => some error
  | none =>
    if (validateRef policy.trustedRef).isSome ∨
      ¬Text.hasPrefix policy.trustedRef "refs/heads/" then
      some (invalid "trusted_ref must be a safe branch ref")
    else if ¬matchesWorkflow policy.workflow ∨ ¬matchesDigest policy.workflowSHA256 then
      some (invalid "workflow path or SHA-256 is invalid")
    else if policy.runnerGroupID ≤ 0 ∨ ¬matchesJobName policy.jobName then
      some (invalid "runner_group_id or job_name is invalid")
    else if policy.candidateRefs.length = 0 ∨ policy.candidateRefs.length > 128 then
      some (invalid "candidate_refs must contain 1..128 entries")
    else validateCandidateRefs policy.candidateRefs []

/-- The configuration that `validateConfig` returns, with what it has checked
of the fields the dispatcher uses. -/
structure Config where
  guardExecutable : String
  isolationDriver : String
  driverSHA256 : String
  baseImageSHA256 : String
  runnerDirectory : String
  shutdownGrace : Nat
  repositories : List RepositoryPolicy
  driverDigest : matchesDigest driverSHA256 = true
  baseDigest : matchesDigest baseImageSHA256 = true
  graceBounds : 0 < shutdownGrace ∧ shutdownGrace ≤ 60000000000
  policiesValid : ∀ policy ∈ repositories, validatePolicy policy = none
  policiesDistinct : (repositories.map RepositoryPolicy.repository).Nodup

def Config.policy (config : Config) (repository : String) : Option RepositoryPolicy :=
  config.repositories.find? fun policy => policy.repository = repository

def validateRequest (request : Request) (policy : RepositoryPolicy) : Option Error :=
  if request.repository ≠ policy.repository then
    some (invalid "repository is not allowlisted")
  else match validateRepository request.repository with
    | some error => some error
    | none =>
      match validateRef request.candidateRef with
      | some error => some error
      | none =>
        if request.candidateRef ∉ policy.candidateRefs ∨
          ¬matchesSHA request.candidateSHA ∨ ¬matchesIdempotency request.idempotency then
          some (invalid "candidate ref, SHA or idempotency key is invalid")
        else none

theorem validateRequest_eq_none {request : Request} {policy : RepositoryPolicy}
    (accepted : validateRequest request policy = none) :
    validateRepository request.repository = none ∧ validateRef request.candidateRef = none ∧
      matchesSHA request.candidateSHA = true := by
  rw [validateRequest, reject_eq_none] at accepted
  rcases accepted with ⟨_, accepted⟩
  split at accepted
  · cases accepted
  · rename_i repository
    split at accepted
    · cases accepted
    · rename_i ref
      rw [reject_eq_none] at accepted
      simp only [not_or, Decidable.not_not] at accepted
      exact ⟨repository, ref, accepted.1.2.1⟩

theorem validatePolicy_eq_none {policy : RepositoryPolicy}
    (accepted : validatePolicy policy = none) :
    matchesWorkflow policy.workflow = true ∧ matchesDigest policy.workflowSHA256 = true := by
  rw [validatePolicy] at accepted
  split at accepted
  · cases accepted
  · rw [reject_eq_none, reject_eq_none] at accepted
    simp only [not_or, Decidable.not_not] at accepted
    exact accepted.2.1

/-! ## Identities -/

/-- `NewIdentity` on the 32 random bytes it has read. -/
def newIdentity (value : List UInt8) : Identity :=
  let nonce := Text.hexEncode value
  { nonce := nonce
    label := "civm-jit-" ++ nonce
    runnerName := "civm-jit-" ++ String.ofList (nonce.toList.take 16)
    workFolder := "_work/jit-" ++ nonce }

def validIdentity (identity : Identity) : Bool :=
  matchesDigest identity.nonce &&
    identity.label = "civm-jit-" ++ identity.nonce &&
    identity.runnerName = "civm-jit-" ++ String.ofList (identity.nonce.toList.take 16) &&
    identity.workFolder = "_work/jit-" ++ identity.nonce

theorem validIdentity_newIdentity {value : List UInt8} (sized : value.length = 32) :
    validIdentity (newIdentity value) = true := by
  have digest : Text.isHex 64 (Text.hexEncode value) = true :=
    Text.isHex_hexEncode (by omega)
  simp [validIdentity, newIdentity, matchesDigest, digest]

/-! ## Driver receipts -/

def safeOpaqueID (value : String) : Bool :=
  16 ≤ value.utf8ByteSize && value.utf8ByteSize ≤ 128 &&
    value.toList.all fun char => isAlphanumeric char || isOneOf "._:-" char

def validReadyReceipt (receipt : IsolationReceipt) (leaseID baseSHA256 : String) : Bool :=
  receipt.protocol = 1 && receipt.event = "ready" && receipt.leaseID = leaseID &&
    safeOpaqueID receipt.isolationID && receipt.baseSHA256 = baseSHA256 &&
    receipt.disposable && !receipt.hostMounts && !receipt.hostDocker &&
    !receipt.productSecrets && !receipt.destroyed && !receipt.resetVerified

def validDestroyedReceipt (receipt : IsolationReceipt)
    (leaseID isolationID baseSHA256 : String) : Bool :=
  receipt.protocol = 1 && receipt.event = "destroyed" && receipt.leaseID = leaseID &&
    receipt.isolationID ≠ "" && (isolationID = "" || receipt.isolationID = isolationID) &&
    receipt.baseSHA256 = baseSHA256 && receipt.disposable && !receipt.hostMounts &&
    !receipt.hostDocker && !receipt.productSecrets && receipt.destroyed &&
    receipt.resetVerified

/-! ## Ledgers -/

def ledgerVersion : Int := 2

def validateLedger (ledger : Ledger) (expectedID : String) : Option Error :=
  if ledger.version ≠ ledgerVersion ∨ ledger.requestID ≠ expectedID ∨
    ¬Text.isHex 64 ledger.requestID then
    some (.text "ledger identity or version is invalid")
  else if (validateRepository ledger.repository).isSome ∨
    (validateRef ledger.candidateRef).isSome ∨ ¬matchesSHA ledger.candidateSHA ∨
    ¬matchesSHA ledger.trustedSHA ∨ ¬matchesWorkflow ledger.workflow ∨
    ¬matchesDigest ledger.workflowSHA256 then
    some (.text "ledger request fields are invalid")
  else if ¬validIdentity ledger.identity ∨ ledger.leaseID ≠ ledger.nonce then
    some (.text "ledger runner or lease identity is invalid")
  else if ledger.createdAt = 0 ∨ ledger.updatedAt < ledger.createdAt then
    some (.text "ledger timestamps or status are invalid")
  else if ledger.runID < 0 ∨ ledger.jobID < 0 ∨ ledger.runnerID < 0 ∨
    ledger.processPID < 0 ∨ ledger.processGroup < 0 then
    some (.text "ledger numeric identity is invalid")
  else if (ledger.runID = 0 ∧ (ledger.jobID ≠ 0 ∨ ledger.runnerID ≠ 0)) ∨
    (ledger.jobID = 0 ∧ ledger.runnerID ≠ 0) then
    some (.text "ledger remote identity ordering is invalid")
  else if ledger.processPID = 0 ∧
    (ledger.processStart ≠ 0 ∨ ledger.processGroup ≠ 0 ∨ ledger.cgroupPath ≠ "") then
    some (.text "ledger process identity is incomplete")
  else if ledger.processPID > 0 ∧
    (ledger.runnerID = 0 ∨ ledger.processStart = 0 ∨ ledger.processGroup ≠ ledger.processPID ∨
      ¬Text.isAbs ledger.cgroupPath ∨ Text.clean ledger.cgroupPath ≠ ledger.cgroupPath ∨
      Text.base ledger.cgroupPath ≠ "civm-jit-" ++ ledger.leaseID) then
    some (.text "ledger process identity is incomplete")
  else if ¬(ledger.isolationID = "" ↔ ledger.isolationBase = "") ∨
    (ledger.isolationID ≠ "" ∧ (¬safeOpaqueID ledger.isolationID ∨
      ¬matchesDigest ledger.isolationBase ∨ ledger.runnerID = 0)) then
    some (.text "ledger isolation base identity is invalid")
  else if ledger.isolationGone ∧ ledger.processPID ≠ 0 then
    some (.text "ledger marks isolation gone while its process remains")
  else if ledger.cleanupComplete ∧
    (¬ledger.runTerminal ∨ ¬ledger.runnerGone ∨ ¬ledger.isolationGone) then
    some (.text "ledger cleanup proof is incomplete")
  else none

/-- What `validateLedger` accepts, constraint by constraint. -/
structure ValidLedger (ledger : Ledger) (expectedID : String) : Prop where
  version : ledger.version = ledgerVersion
  named : ledger.requestID = expectedID
  requestID : Text.isHex 64 ledger.requestID = true
  repository : validateRepository ledger.repository = none
  candidateRef : validateRef ledger.candidateRef = none
  candidateSHA : matchesSHA ledger.candidateSHA = true
  trustedSHA : matchesSHA ledger.trustedSHA = true
  workflow : matchesWorkflow ledger.workflow = true
  workflowSHA256 : matchesDigest ledger.workflowSHA256 = true
  identity : validIdentity ledger.identity = true
  lease : ledger.leaseID = ledger.nonce
  created : ledger.createdAt ≠ 0
  updated : ledger.createdAt ≤ ledger.updatedAt
  nonnegative : 0 ≤ ledger.runID ∧ 0 ≤ ledger.jobID ∧ 0 ≤ ledger.runnerID ∧
    0 ≤ ledger.processPID ∧ 0 ≤ ledger.processGroup
  ordered : (ledger.runID = 0 → ledger.jobID = 0 ∧ ledger.runnerID = 0) ∧
    (ledger.jobID = 0 → ledger.runnerID = 0)
  noProcess : ledger.processPID = 0 →
    ledger.processStart = 0 ∧ ledger.processGroup = 0 ∧ ledger.cgroupPath = ""
  process : ledger.processPID > 0 →
    ledger.runnerID ≠ 0 ∧ ledger.processStart ≠ 0 ∧ ledger.processGroup = ledger.processPID ∧
    Text.isAbs ledger.cgroupPath = true ∧ Text.clean ledger.cgroupPath = ledger.cgroupPath ∧
    Text.base ledger.cgroupPath = "civm-jit-" ++ ledger.leaseID
  isolationPaired : ledger.isolationID = "" ↔ ledger.isolationBase = ""
  isolation : ledger.isolationID ≠ "" → safeOpaqueID ledger.isolationID = true ∧
    matchesDigest ledger.isolationBase = true ∧ ledger.runnerID ≠ 0
  gone : ledger.isolationGone = true → ledger.processPID = 0
  complete : ledger.cleanupComplete = true →
    ledger.runTerminal = true ∧ ledger.runnerGone = true ∧ ledger.isolationGone = true

theorem validateLedger_eq_none {ledger : Ledger} {expectedID : String} :
    validateLedger ledger expectedID = none ↔ ValidLedger ledger expectedID := by
  simp only [validateLedger, reject_eq_none, not_or, not_and, Decidable.not_not, ne_eq,
    Option.not_isSome_iff_eq_none, Int.not_lt, Nat.not_lt, gt_iff_lt, and_true]
  constructor
  · rintro ⟨⟨version, named, requestID⟩, ⟨repository, candidateRef, candidateSHA, trustedSHA,
      workflow, workflowSHA256⟩, ⟨identity, lease⟩, ⟨created, updated⟩, nonnegative, ordered,
      noProcess, process, ⟨isolationPaired, isolation⟩, gone, complete⟩
    exact ⟨version, named, requestID, repository, candidateRef, candidateSHA, trustedSHA,
      workflow, workflowSHA256, identity, lease, created, updated, nonnegative,
      ordered, noProcess, process, isolationPaired, isolation, gone, complete⟩
  · intro valid
    exact ⟨⟨valid.version, valid.named, valid.requestID⟩, ⟨valid.repository, valid.candidateRef,
      valid.candidateSHA, valid.trustedSHA, valid.workflow, valid.workflowSHA256⟩,
      ⟨valid.identity, valid.lease⟩, ⟨valid.created, valid.updated⟩, valid.nonnegative,
      valid.ordered, valid.noProcess, valid.process, ⟨valid.isolationPaired, valid.isolation⟩,
      valid.gone, valid.complete⟩

end Civm.JitDispatcher
