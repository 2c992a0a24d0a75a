import Mathlib.Data.List.Perm.Basic
import Civm.Foundation.Play
import Civm.JitDispatcher.Store

/-! # What an interrupted save leaves behind

`Save` may stop after any of its file operations. `List` reads the directory
afterwards: it does not care about the order of the entries, so a directory
counts by the ledgers stored in its entries. -/

namespace Civm.JitDispatcher.Store

variable {Data : Type} {store : Store Data} {directory : Directory Data}

/-! ## Directories as collections of ledgers -/

/-- The entry holds the ledger, under the ledger's name. -/
structure Stored (store : Store Data) (entry : Entry Data) (ledger : Ledger) : Prop where
  name : entry.1 = ledger.requestID ++ extension
  valid : validateLedger ledger ledger.requestID = none
  content : ∃ data, readOwnerOnlyRegular store.codec.size (Text.join store.ledgerDir entry.1)
    (some entry.2) maxLedger = .ok (some data) ∧ store.codec.decode data = .ok ledger

theorem hasSuffix_append (requestID : String) :
    Text.hasSuffix (requestID ++ extension) extension = true := by
  simp [Text.hasSuffix, List.isSuffixOf_iff_suffix]

theorem requestIDOfName_append (requestID : String) :
    requestIDOfName (requestID ++ extension) = requestID := by
  rw [requestIDOfName, Text.trimSuffix, if_pos (hasSuffix_append requestID)]
  simp

theorem append_requestIDOfName {name : String} (suffix : Text.hasSuffix name extension = true) :
    requestIDOfName name ++ extension = name := by
  rcases List.isSuffixOf_iff_suffix.mp suffix with ⟨start, split⟩
  have named : name = String.ofList start ++ extension := by
    rw [← String.toList_inj, String.toList_append, String.toList_ofList, split]
  rw [named, requestIDOfName_append]

theorem ledgerPath_of_valid {ledger : Ledger} {requestID : String}
    (valid : validateLedger ledger requestID = none) :
    ledgerPath requestID = .ok (requestID ++ extension) := by
  have valid := validateLedger_eq_none.mp valid
  exact if_pos (valid.named ▸ valid.requestID)

theorem load_eq_ok {requestID : String} {ledger : Ledger} :
    store.load directory requestID = .ok (some ledger) ↔
      ∃ data, readOwnerOnlyRegular store.codec.size
          (Text.join store.ledgerDir (requestID ++ extension))
          (directory.lookup (requestID ++ extension)) maxLedger = .ok (some data) ∧
        store.codec.decode data = .ok ledger ∧ validateLedger ledger requestID = none := by
  constructor
  · intro loaded
    unfold load ledgerPath at loaded
    split at loaded
    case h_1 => cases loaded
    case h_2 name path =>
    have named : name = requestID ++ extension := by
      split at path <;> cases path
      rfl
    subst named
    split at loaded
    case h_1 => cases loaded
    case h_2 => cases loaded
    case h_3 data read =>
    split at loaded
    case h_1 => cases loaded
    case h_2 found decoded =>
    split at loaded
    case h_1 => cases loaded
    case h_2 valid =>
    cases loaded
    exact ⟨data, read, decoded, valid⟩
  · rintro ⟨data, read, decoded, valid⟩
    simp only [load, ledgerPath_of_valid valid, read, decoded, valid]

theorem not_symlink_of_read {file : File Data} {path : String} {size : Data → Nat} {limit : Nat}
    {data : Data} (read : readOwnerOnlyRegular size path (some file) limit = .ok (some data)) :
    file.kind ≠ .symlink := by
  intro link
  unfold readOwnerOnlyRegular at read
  split at read
  · cases read
  · simp [link] at read

theorem loadEntry_eq_ok {entry : Entry Data} {ledger : Ledger}
    (present : entry ∈ directory.entries) :
    store.loadEntry directory entry = .ok ledger ↔ store.Stored entry ledger := by
  have found : directory.lookup entry.1 = some entry.2 :=
    AList.mem_lookup_iff.mpr present
  constructor
  · intro loaded
    unfold loadEntry at loaded
    split at loaded
    case isTrue => cases loaded
    case isFalse expected =>
    simp only [not_or, not_not] at expected
    dsimp only at loaded
    split at loaded
    case h_2 => cases loaded
    case h_3 => cases loaded
    case h_1 stored read =>
    cases loaded
    rcases load_eq_ok.mp read with ⟨data, content, decoded, valid⟩
    rw [append_requestIDOfName expected.2, found] at content
    have same := (validateLedger_eq_none.mp valid).named
    exact ⟨by rw [same, append_requestIDOfName expected.2], same ▸ valid, data, content, decoded⟩
  · intro stored
    rcases stored.content with ⟨data, content, decoded⟩
    have loaded : store.load directory ledger.requestID = .ok (some ledger) :=
      load_eq_ok.mpr ⟨data, by rw [← stored.name, found, content], decoded, stored.valid⟩
    have expected : ¬(entry.2.kind = .symlink ∨ ¬Text.hasSuffix entry.1 extension = true) := by
      rw [stored.name, hasSuffix_append]
      simpa using not_symlink_of_read content
    rw [loadEntry, if_neg expected]
    simp only [stored.name, requestIDOfName_append, loaded]

theorem loadAll_eq_ok {entries : List (Entry Data)} {ledgers : List Ledger}
    (present : entries ⊆ directory.entries) :
    store.loadAll directory entries = .ok ledgers ↔
      List.Forall₂ store.Stored entries ledgers := by
  induction entries generalizing ledgers with
  | nil => cases ledgers <;> simp [loadAll]
  | cons entry rest induction =>
    have head {ledger} : store.loadEntry directory entry = .ok ledger ↔ _ :=
      loadEntry_eq_ok (present List.mem_cons_self)
    have tail {ledgers} : store.loadAll directory rest = .ok ledgers ↔ _ :=
      induction fun _ member => present (List.mem_cons_of_mem _ member)
    constructor
    · intro loaded
      unfold loadAll at loaded
      split at loaded
      case h_1 => cases loaded
      case h_2 ledger first =>
      split at loaded
      case h_1 => cases loaded
      case h_2 others remaining =>
      cases loaded
      exact .cons (head.mp first) (tail.mp remaining)
    · rintro (_ | ⟨first, remaining⟩)
      simp only [loadAll, head.mpr first, tail.mpr remaining]

theorem stored_of_list {ledgers : List Ledger} (listed : store.list directory = .ok ledgers) :
    ∃ stored, List.Forall₂ store.Stored directory.entries stored ∧ ledgers.Perm stored := by
  unfold list at listed
  dsimp only at listed
  split at listed
  case h_1 => cases listed
  case h_2 found loaded =>
  cases listed
  have each := (loadAll_eq_ok (List.mergeSort_perm _ _).subset).mp loaded
  rcases List.perm_comp_forall₂ (List.mergeSort_perm directory.entries _).symm each with
    ⟨stored, all, reordered⟩
  exact ⟨stored, all, (List.mergeSort_perm _ _).trans reordered.symm⟩

theorem list_of_stored {stored : List Ledger}
    (all : List.Forall₂ store.Stored directory.entries stored) :
    ∃ ledgers, store.list directory = .ok ledgers ∧ ledgers.Perm stored := by
  have sorted := List.mergeSort_perm directory.entries fun first second => first.1 ≤ second.1
  rcases List.perm_comp_forall₂ sorted all with ⟨found, each, reordered⟩
  have loaded := (loadAll_eq_ok sorted.subset).mpr each
  exact ⟨_, by simp only [list, loaded]; rfl, (List.mergeSort_perm found _).trans reordered⟩

/-! ## Publishing a file in a directory -/

/-- A name that `os.CreateTemp` makes of the pattern `.ledger-*`. -/
def Temporary (name : String) : Prop :=
  ∃ digits : List Char, digits.all Char.isDigit ∧ name = ".ledger-" ++ String.ofList digits

theorem Temporary.not_json {name : String} (temporary : Temporary name) (requestID : String) :
    name ≠ requestID ++ extension := by
  rcases temporary with ⟨digits, numeric, rfl⟩
  intro same
  -- the last characters differ
  have ends : (".ledger-".toList ++ digits).getLast? = some 'n' := by
    have chars := congrArg String.toList same
    rw [String.toList_append, String.toList_append, @String.toList_ofList digits] at chars
    rw [chars, List.getLast?_append]
    rfl
  rw [List.getLast?_append] at ends
  cases last : digits.getLast? with
  | none =>
    rw [last] at ends
    exact absurd ends (by decide)
  | some char =>
    rw [last] at ends
    cases ends
    have digit := List.all_eq_true.mp numeric _ (List.mem_of_getLast? last)
    exact absurd digit (by decide)

theorem list_of_temporary {name : String} {file : File Data} {ledgers : List Ledger}
    (temporary : Temporary name) : store.list (directory.insert name file) ≠ .ok ledgers := by
  intro listed
  rcases stored_of_list listed with ⟨stored, all, _⟩
  rw [AList.entries_insert] at all
  cases all with
  | cons first _ => exact temporary.not_json _ first.name

theorem append_extension_injective {first second : String}
    (same : first ++ extension = second ++ extension) : first = second := by
  rw [← requestIDOfName_append first, same, requestIDOfName_append]

theorem stored_kerase {entries : List (Entry Data)} {stored : List Ledger}
    (requestID : String) (all : List.Forall₂ store.Stored entries stored) (unique : entries.NodupKeys) :
    List.Forall₂ store.Stored (entries.kerase (requestID ++ extension))
      (stored.filter fun ledger => ledger.requestID ≠ requestID) := by
  induction all with
  | nil => exact .nil
  | @cons entry ledger entries stored first rest induction =>
    rw [List.nodupKeys_cons] at unique
    by_cases same : ledger.requestID = requestID
    · have named : requestID ++ extension = entry.1 := by rw [first.name, same]
      rw [List.kerase_cons_eq named, List.filter_cons_of_neg (by simpa using same)]
      have others := induction unique.2
      rwa [named, List.kerase_of_notMem_keys unique.1] at others
    · have named : requestID ++ extension ≠ entry.1 := by
        rw [first.name]
        exact fun equal => same (append_extension_injective equal).symm
      rw [List.kerase_cons_ne named, List.filter_cons_of_pos (by simpa using same)]
      exact .cons first (induction unique.2)

/-- The ledgers are the previous ones, or the previous ones with `ledger` in the
place of any earlier ledger of its request. -/
def OldOrNew (ledger : Ledger) (previous ledgers : List Ledger) : Prop :=
  ledgers.Perm previous ∨
    ledgers.Perm (ledger :: previous.filter fun other => other.requestID ≠ ledger.requestID)

def Atomic (store : Store Data) (ledger : Ledger) (previous : List Ledger)
    (directory : Directory Data) : Prop :=
  ∃ ledgers, store.list directory = .ok ledgers ∧ OldOrNew ledger previous ledgers

theorem stored_ownerOnly_iff {ledger : Ledger} {data : Data}
    (valid : validateLedger ledger ledger.requestID = none)
    (encoded : store.codec.encode ledger = .ok data) :
    (∃ found, store.Stored ⟨ledger.requestID ++ extension, .ownerOnly data⟩ found) ↔
      store.codec.size data ≤ maxLedger := by
  have limit : maxLedger ≠ 0 := by decide
  constructor
  · rintro ⟨found, stored⟩
    rcases stored.content with ⟨read, content, _⟩
    rw [readOwnerOnlyRegular_ownerOnly limit] at content
    split at content
    case isTrue => cases content
    case isFalse small => exact Nat.not_lt.mp fun large => small (.inr large)
  · intro small
    refine ⟨ledger, rfl, valid, data, ?_, store.codec.decode_encode encoded⟩
    rw [readOwnerOnlyRegular_ownerOnly limit, if_neg]
    exact not_or.mpr ⟨store.codec.size_encode encoded, Nat.not_lt.mpr small⟩

/-- A published ledger is listed if it is not too large to be read. -/
theorem atomic_insert_iff {ledger : Ledger} {previous : List Ledger} {data : Data}
    (listed : store.list directory = .ok previous)
    (valid : validateLedger ledger ledger.requestID = none)
    (encoded : store.codec.encode ledger = .ok data) :
    store.Atomic ledger previous
        (directory.insert (ledger.requestID ++ extension) (.ownerOnly data)) ↔
      store.codec.size data ≤ maxLedger := by
  rw [← stored_ownerOnly_iff valid encoded]
  constructor
  · rintro ⟨ledgers, found, _⟩
    rcases stored_of_list found with ⟨stored, all, _⟩
    rw [AList.entries_insert] at all
    cases all with
    | cons first _ => exact ⟨_, first⟩
  · rintro ⟨found, first⟩
    have same : found = ledger := by
      rcases first.content with ⟨read, content, decoded⟩
      rw [readOwnerOnlyRegular_ownerOnly (by decide)] at content
      split at content
      case isTrue => cases content
      case isFalse =>
      cases content
      exact Except.ok.inj (decoded.symm.trans (store.codec.decode_encode encoded))
    subst same
    rcases stored_of_list listed with ⟨stored, all, reordered⟩
    have everything := List.Forall₂.cons first (stored_kerase found.requestID all directory.nodupKeys)
    rw [← AList.entries_insert] at everything
    rcases list_of_stored everything with ⟨ledgers, found, reordered'⟩
    exact ⟨ledgers, found, .inr (reordered'.trans ((reordered.symm.filter _).cons _))⟩

/-! ## The file system under a save -/

/-- Changes the file of that name. -/
def update (directory : Directory Data) (name : String) (change : File Data → File Data) :
    Directory Data :=
  match directory.lookup name with
  | none => directory
  | some file => directory.insert name (change file)

/-- What the file operations may answer. Each of them may fail. -/
def permits (directory : Directory Data) : (call : Call Data) → Answer call → Prop
  | .createTemp, .ok name => Temporary name ∧ name ∉ directory
  | .rename source _, none => source ∈ directory
  | .remove name, none => name ∈ directory
  | _, _ => True

def after (store : Store Data) (directory : Directory Data) :
    (call : Call Data) → Answer call → Directory Data
  | .createTemp, .ok name => directory.insert name (.ownerOnly store.codec.empty)
  | .chmod name permissions, none =>
    update directory name fun file => { file with permissions := permissions }
  | .write name data, .all => update directory name fun file => { file with data := data }
  | .write name _, .part data _ => update directory name fun file => { file with data := data }
  | .rename source target, none =>
    match directory.lookup source with
    | none => directory
    | some file => (directory.erase source).insert target file
  | .remove name, none => directory.erase name
  | _, _ => directory

def fileSystem (store : Store Data) : Outside (@Answer Data) (Directory Data) where
  permits := permits
  after := store.after

abbrev Trace (Data : Type) := List (Civm.Event (@Answer Data))

def creates : Civm.Event (@Answer Data) → Bool
  | ⟨.createTemp, .ok _⟩ => true
  | _ => false

def publishes : Civm.Event (@Answer Data) → Bool
  | ⟨.rename _ _, none⟩ => true
  | _ => false

def removes : Civm.Event (@Answer Data) → Bool
  | ⟨.remove _, none⟩ => true
  | _ => false

/-- A temporary file was made and is still there. -/
def leavesTemporary (trace : Trace Data) : Bool :=
  trace.any creates && !trace.any publishes && !trace.any removes

/-- What a save has made of `directory` so far. -/
inductive Stage (directory : Directory Data) (name : String) (data : Data) (trace : Trace Data) :
    Directory Data → Prop
  | old : leavesTemporary trace = false → trace.any publishes = false →
    Stage directory name data trace directory
  | temporary {temporary : String} {file : File Data} : Temporary temporary →
    leavesTemporary trace = true →
    Stage directory name data trace (directory.insert temporary file)
  | new : trace.any publishes = true →
    Stage directory name data trace (directory.insert name (.ownerOnly data))

def staged (directory : Directory Data) (name : String) (data : Data) :
    Contract (@Answer Data) (Directory Data) where
  keeps := Stage directory name data
  allows _ _ _ := True
  progress := False

section Saving

variable {name temporary : String} {data : Data} {file : File Data} {trace : Trace Data}
variable {world : Directory Data}

abbrev Sound (store : Store Data) (directory : Directory Data) (name : String) (data : Data)
    (script : Script Data (Option Error)) (trace : Trace Data) (world : Directory Data) : Prop :=
  script.Satisfies store.fileSystem (staged directory name data)
    (fun _ trace world => Stage directory name data trace world) trace world

theorem perform_sound {call : Call Data} {next : Answer call → Script Data (Option Error)}
    (stage : Stage directory name data trace world)
    (continues : ∀ answer, permits world call answer →
      store.Sound directory name data (next answer) (trace ++ [⟨call, answer⟩])
        (store.after world call answer)) :
    store.Sound directory name data (perform call >>= next) trace world :=
  ⟨stage, trivial, False.elim, continues⟩

/-- The temporary file is there and holds `file`. -/
structure Holding (directory : Directory Data) (temporary : String) (file : File Data)
    (trace : Trace Data) (world : Directory Data) : Prop where
  named : Temporary temporary
  fresh : temporary ∉ directory
  left : leavesTemporary trace = true
  world : world = directory.insert temporary file

namespace Holding

variable (holding : Holding directory temporary file trace world)

include holding

theorem stage : Stage directory name data trace world :=
  holding.world ▸ .temporary holding.named holding.left

theorem unpublished : trace.any publishes = false := by
  have left := holding.left
  simp only [leavesTemporary, Bool.and_eq_true, Bool.not_eq_true'] at left
  exact left.1.2

theorem step {file' : File Data} {world' : Directory Data} (event : Civm.Event (@Answer Data))
    (stays : (publishes event || removes event) = false)
    (changed : world' = directory.insert temporary file') :
    Holding directory temporary file' (trace ++ [event]) world' := by
  refine ⟨holding.named, holding.fresh, ?_, changed⟩
  have left := holding.left
  simp only [leavesTemporary, Bool.and_eq_true, Bool.not_eq_true'] at left
  simp only [Bool.or_eq_false_iff] at stays
  simp [leavesTemporary, left, stays]

theorem still (event : Civm.Event (@Answer Data))
    (stays : (publishes event || removes event) = false) :
    Holding directory temporary file (trace ++ [event]) world :=
  holding.step event stays holding.world

theorem update (event : Civm.Event (@Answer Data)) (change : File Data → File Data)
    (stays : (publishes event || removes event) = false) :
    Holding directory temporary (change file) (trace ++ [event])
      (Store.update world temporary change) := by
  refine holding.step event stays ?_
  rw [Store.update, holding.world, AList.lookup_insert]
  exact AList.insert_insert directory

theorem erase : world.erase temporary = directory := by
  rw [holding.world]
  apply AList.ext
  change List.kerase temporary (AList.insert temporary file directory).entries = _
  rw [AList.entries_insert_of_notMem holding.fresh]
  exact List.kerase_cons_eq rfl

theorem rename (target : String) :
    store.after world (.rename temporary target) none = directory.insert target file := by
  have present : world.lookup temporary = some file := by
    rw [holding.world, AList.lookup_insert]
  simp only [after, present, holding.erase]

theorem finish_sound (error : Error) :
    store.Sound directory name data (finish temporary (some error)) trace world := by
  refine perform_sound holding.stage fun closing _ => ?_
  have closed := holding.still ⟨.close temporary, closing⟩ rfl
  refine perform_sound closed.stage fun removing _ => ?_
  cases removing with
  | some failure => exact (closed.still ⟨.remove temporary, some failure⟩ rfl).stage
  | none =>
    change Stage _ _ _ _ (world.erase temporary)
    rw [holding.erase]
    refine .old ?_ ?_
    · simp [leavesTemporary, removes]
    · simpa [publishes] using closed.unpublished

end Holding

theorem finish_sound_of_new {error : Option Error} (published : trace.any publishes = true)
    (gone : temporary ∉ directory.insert name (.ownerOnly data)) :
    store.Sound directory name data (finish temporary error) trace
      (directory.insert name (.ownerOnly data)) := by
  have still (event : Civm.Event (@Answer Data)) : (trace ++ [event]).any publishes = true := by
    simp [published]
  refine perform_sound (.new published) fun closing _ => ?_
  cases error with
  | none => exact .new (still _)
  | some error =>
    refine perform_sound (.new (still _)) fun removing permitted => ?_
    cases removing with
    | some failure => exact .new (by simp [published])
    | none => exact absurd permitted gone

theorem Holding.publish_sound {requestID : String}
    (holding : Holding directory temporary (.ownerOnly data) trace world) :
    store.Sound directory (requestID ++ extension) data
      (publish temporary (requestID ++ extension)) trace world := by
  refine perform_sound holding.stage fun moving _ => ?_
  cases moving with
  | some error => exact (holding.still ⟨.rename temporary _, some error⟩ rfl).finish_sound _
  | none =>
    rw [holding.rename]
    have published : publishes (⟨.rename temporary (requestID ++ extension), none⟩ :
      Civm.Event (@Answer Data)) = true := rfl
    have gone : temporary ∉ directory.insert (requestID ++ extension) (.ownerOnly data) := by
      rw [AList.mem_insert, not_or]
      exact ⟨holding.named.not_json _, holding.fresh⟩
    refine perform_sound (.new (by simp [published])) fun syncing _ => ?_
    cases syncing <;> exact finish_sound_of_new (by simp [published]) gone

theorem Holding.fill_sound {requestID : String}
    (holding : Holding directory temporary (.ownerOnly store.codec.empty) trace world) :
    store.Sound directory (requestID ++ extension) data
      (fill temporary (requestID ++ extension) data) trace world := by
  refine perform_sound holding.stage fun restricting _ => ?_
  rcases restricting with _ | error
  case some => exact (holding.still ⟨.chmod temporary 0o600, some error⟩ rfl).finish_sound _
  have restricted := holding.update ⟨.chmod temporary 0o600, none⟩
    (fun file => { file with permissions := 0o600 }) rfl
  refine perform_sound restricted.stage fun writing _ => ?_
  rcases writing with _ | ⟨part, error⟩
  case part =>
    exact (restricted.update ⟨.write temporary data, .part part error⟩
      (fun file => { file with data := part }) rfl).finish_sound _
  have written := restricted.update ⟨.write temporary data, .all⟩
    (fun file => { file with data := data }) rfl
  refine perform_sound written.stage fun syncing _ => ?_
  rcases syncing with _ | error
  case some => exact (written.still ⟨.sync temporary, some error⟩ rfl).finish_sound _
  have synced := written.still ⟨.sync temporary, none⟩ rfl
  refine perform_sound synced.stage fun closing _ => ?_
  rcases closing with _ | error
  case some => exact (synced.still ⟨.close temporary, some error⟩ rfl).finish_sound _
  exact Holding.publish_sound (synced.still ⟨.close temporary, none⟩ rfl)

theorem save_sound {ledger : Ledger}
    (valid : validateLedger ledger ledger.requestID = none)
    (encoded : store.codec.encode ledger = .ok data) :
    store.Sound directory (ledger.requestID ++ extension) data (store.save ledger) [] directory := by
  have old {trace : Trace Data} (events : trace.any creates = false ∧ trace.any publishes = false) :
    Stage directory (ledger.requestID ++ extension) data trace directory :=
    .old (by simp [leavesTemporary, events.1]) events.2
  simp only [save, valid, ledgerPath_of_valid valid, encoded]
  refine perform_sound (old ⟨rfl, rfl⟩) fun answer permitted => ?_
  cases answer with
  | error error => exact old ⟨rfl, rfl⟩
  | ok temporary => exact Holding.fill_sound ⟨permitted.1, permitted.2, rfl, rfl⟩

end Saving

theorem Stage.atomic_iff {ledger : Ledger} {previous : List Ledger} {data : Data}
    {trace : Trace Data} {world : Directory Data}
    (stage : Stage directory (ledger.requestID ++ extension) data trace world)
    (listed : store.list directory = .ok previous)
    (valid : validateLedger ledger ledger.requestID = none)
    (encoded : store.codec.encode ledger = .ok data) :
    store.Atomic ledger previous world ↔ leavesTemporary trace = false ∧
      (trace.any publishes = true → store.codec.size data ≤ maxLedger) := by
  cases stage with
  | old nothing unpublished =>
    have holds : store.Atomic ledger previous directory := ⟨previous, listed, .inl .rfl⟩
    simp [holds, nothing, unpublished]
  | @temporary temporary file named left =>
    have fails : ¬store.Atomic ledger previous (directory.insert temporary file) :=
      fun ⟨_, found, _⟩ => list_of_temporary named found
    simp [fails, left]
  | new published =>
    rw [atomic_insert_iff listed valid encoded]
    simp [leavesTemporary, published]

/-- Wherever a save stops, `List` finds the old or the new ledgers, unless the
temporary file is still there or the published ledger is too large to be read. -/
theorem save_is_atomic_iff {ledger : Ledger} {previous : List Ledger} {trace : Trace Data}
    {directory' : Directory Data} {result : Option (Option Error)}
    (listed : store.list directory = .ok previous)
    (valid : validateLedger ledger ledger.requestID = none)
    (execution : Execution store.fileSystem (store.save ledger) [] directory trace directory' result) :
    store.Atomic ledger previous directory' ↔ leavesTemporary trace = false ∧
      (trace.any publishes = true → ∀ data, store.codec.encode ledger = .ok data →
        store.codec.size data ≤ maxLedger) := by
  cases encoded : store.codec.encode ledger with
  | error error =>
    simp only [save, valid, ledgerPath_of_valid valid, encoded] at execution
    rcases execution.of_done with ⟨rfl, rfl⟩
    have holds : store.Atomic ledger previous directory' := ⟨previous, listed, .inl .rfl⟩
    simp [holds, leavesTemporary]
  | ok data =>
    have stage := (save_sound valid encoded).stops (fun _ _ _ stage => stage) execution
    simpa using stage.atomic_iff listed valid encoded

/-! ## A death between the creation and the rename -/

namespace Sample

def digest : String := "4bf5122f344554c53bde2ebb8cd2b7e3d1600ad631c385a5d7cce23c7785459a"

def commit : String := "0123456789abcdef0123456789abcdef01234567"

def identity : Identity := newIdentity (List.replicate 32 0)

def ledger : Ledger where
  version := ledgerVersion
  requestID := digest
  repository := "owner/repo"
  candidateRef := "refs/heads/topic"
  candidateSHA := commit
  trustedSHA := commit
  workflow := ".github/workflows/jit.yml"
  workflowSHA256 := digest
  nonce := identity.nonce
  runnerLabel := identity.label
  runnerName := identity.runnerName
  workFolder := identity.workFolder
  runID := 0
  jobID := 0
  runnerID := 0
  leaseID := identity.nonce
  processPID := 0
  processStart := 0
  processGroup := 0
  cgroupPath := ""
  isolationID := ""
  isolationBase := ""
  runTerminal := true
  runnerGone := true
  isolationGone := true
  cleanupComplete := false
  status := .prepared
  createdAt := 1
  updatedAt := 1
  failureCode := ""

def codec : Codec Ledger (Option Ledger) where
  empty := none
  size data := if data.isSome then 1024 else 0
  encode ledger := .ok (some ledger)
  decode
    | some ledger => .ok ledger
    | none => .error (.text "EOF")
  size_empty := rfl
  size_encode := by
    rintro ledger _ ⟨⟩
    simp
  decode_encode := by
    rintro ledger _ ⟨⟩
    rfl

def ledgers : Store (Option Ledger) where
  ledgerDir := "/var/lib/civm/ledgers"
  codec := codec

theorem ledger_valid : validateLedger ledger ledger.requestID = none := by decide +kernel

theorem temporary : Temporary ".ledger-1" := ⟨['1'], by decide, by decide⟩

def interrupted : Directory (Option Ledger) :=
  AList.insert ".ledger-1" (.ownerOnly none) ∅

theorem save_created {trace : Trace (Option Ledger)} {directory : Directory (Option Ledger)}
    {result : Option (Option Error)}
    (rest : Execution ledgers.fileSystem
      (fill ".ledger-1" (ledger.requestID ++ extension) (some ledger))
      [⟨.createTemp, .ok ".ledger-1"⟩] interrupted trace directory result) :
    Execution ledgers.fileSystem (ledgers.save ledger) [] ∅ trace directory result := by
  have encoded : ledgers.codec.encode ledger = .ok (some ledger) := rfl
  simp only [save, ledger_valid, ledgerPath_of_valid ledger_valid, encoded]
  exact .answered (.ok ".ledger-1") ⟨temporary, AList.notMem_empty _⟩ rest

theorem nothing_listed : ledgers.list ∅ = .ok [] := by decide +kernel

end Sample

open Sample in
/-- A process that dies right after `os.CreateTemp` leaves a file that `List`
refuses from then on. -/
theorem interrupted_save_blocks_list :
    ledgers.list ∅ = .ok [] ∧ validateLedger ledger ledger.requestID = none ∧
    ∃ trace directory, Execution ledgers.fileSystem (ledgers.save ledger) [] ∅ trace directory none ∧
      ledgers.list directory =
        .error (.text "ledger directory contains an unexpected entry") ∧
      ¬ledgers.Atomic ledger [] directory := by
  have refused : ledgers.list interrupted =
    .error (.text "ledger directory contains an unexpected entry") := by
    decide +kernel
  refine ⟨nothing_listed, ledger_valid, _, interrupted, save_created .died, refused, ?_⟩
  rintro ⟨found, listed, _⟩
  rw [refused] at listed
  cases listed

open Sample in
theorem completed_save_is_atomic : ∃ trace directory,
    Execution ledgers.fileSystem (ledgers.save ledger) [] ∅ trace directory (some none) ∧
      ledgers.Atomic ledger [] directory := by
  have execution := save_created <| .answered none trivial <| .answered .all trivial <|
    .answered none trivial <| .answered none trivial <| .answered none (AList.lookup_isSome.mp (by decide +kernel)) <|
    .answered none trivial <| .answered none trivial .done
  refine ⟨_, _, execution, ?_⟩
  apply (save_is_atomic_iff nothing_listed ledger_valid execution).mpr
  refine ⟨rfl, fun _ data encoded => ?_⟩
  cases encoded
  decide

end Civm.JitDispatcher.Store
