import Civm.Foundation.Determined
import Civm.HookInstall.Environment

/-! # The reconciled environment file

What `upsertEnv` makes of any file, and of its own output. -/

namespace Civm.HookInstall

/-- An accepted map of settings that fit into lines. -/
structure Extra where
  settings : List (String × String)
  distinct : (settings.map Prod.fst).Nodup
  accepted : (settings.any fun setting => Text.hasPrefix setting.1 "ACTIONS_RUNNER_HOOK_") = false
  plain : ∀ setting ∈ settings, '=' ∉ setting.1.toList
  oneLine : ∀ setting ∈ settings, '\n' ∉ setting.1.toList ∧ '\n' ∉ setting.2.toList

def solid (line : List Char) : Bool := Text.trimSpace (String.ofList line) != ""

/-- The non-blank lines with a key. -/
def keyLines (content : List Char) (key : String) : List (List Char) :=
  (content.splitOn '\n').filter fun line => solid line && lineKey line = key.toList

/-- The non-blank lines with none of the keys. -/
def otherLines (content : List Char) (keys : List String) : List (List Char) :=
  (content.splitOn '\n').filter fun line =>
    solid line && !keys.contains (String.ofList (lineKey line))

def managedKeys (extra : Extra) : List String := hookKeys ++ extra.settings.map Prod.fst

def rewritten (opts : InstallOptions) (data : List Char) (extra : Extra) : List Char :=
  ['\n'].intercalate (envLines opts data extra.settings) ++ ['\n']

/-! ## Lines of settings -/

section

variable {opts : InstallOptions} {data : List Char} {extra : Extra} {setting : String × String}

theorem lineKey_settingLine (plain : '=' ∉ setting.1.toList) :
    lineKey (settingLine setting) = setting.1.toList := by
  rw [lineKey, settingLine, Text.cut_append plain]

theorem trimSpace_ne_empty {value : List Char} {char : Char} (member : char ∈ value)
    (solid : Text.isSpace char = false) : Text.trimSpace (String.ofList value) ≠ "" := by
  intro blank
  rw [Text.trimSpace_ofList, String.ofList_eq_empty_iff, List.rdropWhile_eq_nil_iff] at blank
  have spaces : ∀ char ∈ value, Text.isSpace char = true := by
    rw [← List.dropWhile_eq_nil_iff]
    cases rest : value.dropWhile Text.isSpace with
    | nil => rfl
    | cons first later =>
      have starts := List.head?_dropWhile_not Text.isSpace value
      rw [rest] at starts blank
      exact absurd (blank first List.mem_cons_self) (by simpa using starts)
  rw [spaces char member] at solid
  exact absurd solid (by decide)

theorem solid_settingLine (setting : String × String) : solid (settingLine setting) = true := by
  have equals : '=' ∈ settingLine setting := by simp [settingLine]
  exact bne_iff_ne.mpr (trimSpace_ne_empty equals (by decide))

theorem not_solid_nil : solid [] = false := by decide

theorem Extra.notMem_hookKeys (member : setting ∈ extra.settings) : setting.1 ∉ hookKeys := by
  intro hook
  have free := List.any_eq_false.mp extra.accepted setting member
  simp only [hookKeys, List.mem_cons, List.not_mem_nil, or_false] at hook
  rcases hook with named | named
  · exact free (by rw [named]; decide)
  · exact free (by rw [named]; decide)

def writtenSettings (opts : InstallOptions) (extra : Extra) : List (String × String) :=
  hookSettings opts ++ extra.settings.insertionSort fun first second => first.1 ≤ second.1

theorem mem_writtenSettings : setting ∈ writtenSettings opts extra ↔
    setting ∈ hookSettings opts ++ extra.settings := by
  rw [writtenSettings, List.mem_append, List.mem_append, List.mem_insertionSort]

theorem writtenSettings_plain (member : setting ∈ writtenSettings opts extra) :
    '=' ∉ setting.1.toList := by
  rcases List.mem_append.mp (mem_writtenSettings.mp member) with hook | given
  · simp only [hookSettings, List.mem_cons, List.not_mem_nil, or_false] at hook
    rcases hook with rfl | rfl <;> simp
  · exact extra.plain setting given

theorem writtenSettings_managed (member : setting ∈ writtenSettings opts extra) :
    setting.1 ∈ managedKeys extra := by
  rcases List.mem_append.mp (mem_writtenSettings.mp member) with hook | given
  · simp only [hookSettings, List.mem_cons, List.not_mem_nil, or_false] at hook
    rcases hook with rfl | rfl <;> simp [managedKeys, hookKeys]
  · exact List.mem_append_right _ (List.mem_map_of_mem given)

theorem writtenSettings_distinct (opts : InstallOptions) (extra : Extra) :
    ((writtenSettings opts extra).map Prod.fst).Nodup := by
  have sorted : (hookKeys ++ extra.settings.map Prod.fst).Perm
    ((writtenSettings opts extra).map Prod.fst) := by
    rw [writtenSettings, List.map_append]
    exact (List.Perm.refl hookKeys).append
      ((List.perm_insertionSort _ extra.settings).symm.map Prod.fst)
  apply sorted.nodup
  rw [List.nodup_append']
  apply And.intro (by decide)
  apply And.intro extra.distinct
  intro key hook given
  rcases List.mem_map.mp given with ⟨setting, member, rfl⟩
  exact extra.notMem_hookKeys member hook

theorem filter_key {written : List (String × String)} (distinct : (written.map Prod.fst).Nodup)
    (member : setting ∈ written) : written.filter (·.1 = setting.1) = [setting] := by
  induction written with
  | nil => exact absurd member List.not_mem_nil
  | cons first rest induction =>
    rw [List.map_cons, List.nodup_cons] at distinct
    rcases List.mem_cons.mp member with rfl | later
    · have others : rest.filter (·.1 = setting.1) = [] := by
        rw [List.filter_eq_nil_iff]
        intro other among same
        exact distinct.1 (of_decide_eq_true same ▸ List.mem_map_of_mem among)
      rw [List.filter_cons_of_pos (by simp), others]
    · have different : first.1 ≠ setting.1 := fun same =>
        distinct.1 (same ▸ List.mem_map_of_mem later)
      rw [List.filter_cons_of_neg (by simpa using different), induction distinct.2 later]

theorem filter_settingLine (key : String) (written : List (String × String))
    (plain : ∀ setting ∈ written, '=' ∉ setting.1.toList) :
    (written.map settingLine).filter (fun line => solid line && lineKey line = key.toList) =
      (written.filter (·.1 = key)).map settingLine := by
  rw [List.filter_map]
  apply congrArg
  apply List.filter_congr
  intro setting member
  simp [lineKey_settingLine (plain setting member), solid_settingLine, String.toList_inj]

/-! ## What is written -/

theorem envLines_eq (opts : InstallOptions) (data : List Char) (extra : Extra) :
    envLines opts data extra.settings = otherLines data (managedKeys extra) ++
      (writtenSettings opts extra).map settingLine := by
  have kept : otherLines data (managedKeys extra) =
    (data.splitOn '\n').filter (keepsLine extra.settings) := rfl
  rw [kept, envLines, writtenSettings, List.map_append, List.append_assoc]

variable (hooksDir : '\n' ∉ opts.hooksDir.toList)

include hooksDir

theorem splitOn_rewritten (data : List Char) (extra : Extra) :
    (rewritten opts data extra).splitOn '\n' = otherLines data (managedKeys extra) ++
      (writtenSettings opts extra).map settingLine ++ [[]] := by
  rw [rewritten, splitOn_envLines hooksDir, envLines_eq]
  intro setting member
  exact newline_notMem_settingLine (extra.oneLine setting member).1
    (extra.oneLine setting member).2

theorem otherLines_rewritten (data : List Char) (extra : Extra) :
    otherLines (rewritten opts data extra) (managedKeys extra) =
      otherLines data (managedKeys extra) := by
  have none : ((writtenSettings opts extra).map settingLine).filter (fun line =>
    solid line && !(managedKeys extra).contains (String.ofList (lineKey line))) = [] := by
    rw [List.filter_eq_nil_iff]
    intro line member
    rcases List.mem_map.mp member with ⟨setting, among, rfl⟩
    rw [lineKey_settingLine (writtenSettings_plain among), String.ofList_toList]
    simp [writtenSettings_managed among]
  conv_lhs => rw [otherLines, splitOn_rewritten hooksDir]
  rw [List.filter_append, List.filter_append, none, List.append_nil, otherLines, List.filter_filter]
  simp only [Bool.and_self]
  rw [List.filter_cons_of_neg (by simp [not_solid_nil]), List.filter_nil, List.append_nil]

theorem rewritten_rewritten (data : List Char) (extra : Extra) :
    rewritten opts (rewritten opts data extra) extra = rewritten opts data extra := by
  rw [rewritten, envLines_eq, otherLines_rewritten hooksDir, ← envLines_eq, rewritten]

theorem keyLines_rewritten (data : List Char)
    (member : setting ∈ hookSettings opts ++ extra.settings) :
    keyLines (rewritten opts data extra) setting.1 = [settingLine setting] := by
  have written := mem_writtenSettings.mpr member
  have kept : (otherLines data (managedKeys extra)).filter (fun line =>
    solid line && lineKey line = setting.1.toList) = [] := by
    rw [List.filter_eq_nil_iff]
    intro line among named
    have other := (List.mem_filter.mp among).2
    simp only [Bool.and_eq_true, decide_eq_true_eq] at named
    rw [named.2, String.ofList_toList] at other
    simp [writtenSettings_managed written] at other
  have lines := filter_settingLine setting.1 (writtenSettings opts extra)
    fun other => writtenSettings_plain
  rw [keyLines, splitOn_rewritten hooksDir, List.filter_append, List.filter_append, kept, lines,
    filter_key (writtenSettings_distinct opts extra) written,
    List.filter_cons_of_neg (by simp [not_solid_nil]), List.filter_nil, List.append_nil,
    List.nil_append, List.map_singleton]

end

/-! ## The calls -/

section

variable {Piece : Type}

/-- The environment file at a path, beside anything else the calls may reach. -/
def envFile (path : String) (others : (call : Call Piece) → Answer call) :
    Responder (@Answer Piece) (Option (List Char)) where
  answer
    | file, .readFile other =>
      if other = path then
        match file with
        | none => .missing
        | some data => .content data
      else others (.readFile other)
    | _, .writeFile other content =>
      if other = path then none else others (.writeFile other content)
    | _, call => others call
  after
    | file, .writeFile other content => if other = path then some content else file
    | file, _ => file

/-- `upsertEnv` succeeds and leaves this file. -/
def Upserts (opts : InstallOptions) (path : String) (others : (call : Call Piece) → Answer call)
    (extra : Extra) (file : Option (List Char)) (written : List Char) : Prop :=
  (upsertEnv opts path extra.settings).run (envFile path others) file = some (none, some written)

theorem upserts_rewritten (opts : InstallOptions) (path : String)
    (others : (call : Call Piece) → Answer call) (extra : Extra) (file : Option (List Char)) :
    Upserts opts path others extra file (rewritten opts (file.getD []) extra) := by
  have accepted := extra.accepted
  have writes (data : List Char) : (writeEnv opts path extra.settings data).run
    (envFile path others) file = some (none, some (rewritten opts data extra)) := by
    have written : (writeEnv opts path extra.settings data).run (envFile path others) file =
      some (if path = path then none else others (.writeFile path (rewritten opts data extra)),
        if path = path then some (rewritten opts data extra) else file) := rfl
    rw [written, if_pos rfl, if_pos rfl]
  rw [Upserts, upsertEnv, if_neg (by simp [accepted]), Program.run_perform]
  cases file with
  | none =>
    have read : (envFile path others).answer none (.readFile path) = .missing := if_pos rfl
    rw [read]
    exact writes []
  | some data =>
    have read : (envFile path others).answer (some data) (.readFile path) = .content data :=
      if_pos rfl
    rw [read]
    exact writes data

end

/-- The file is rewritten to the same text again, has each managed key on one line with its
value and keeps the other lines; a later map has the last word. -/
theorem upsertEnv_reconciles {Piece : Type} {opts : InstallOptions}
    (hooksDir : '\n' ∉ opts.hooksDir.toList) (path : String)
    (others : (call : Call Piece) → Answer call) (extra : Extra) (file : Option (List Char)) :
    ∃ written, Upserts opts path others extra file written ∧
      Upserts opts path others extra (some written) written ∧
      (∀ setting ∈ hookSettings opts ++ extra.settings,
        keyLines written setting.1 = [settingLine setting]) ∧
      otherLines written (managedKeys extra) = otherLines (file.getD []) (managedKeys extra) ∧
      ∀ later : Extra, ∃ result, Upserts opts path others later (some written) result ∧
        ∀ setting ∈ later.settings, setting.1 ∈ extra.settings.map Prod.fst →
          keyLines result setting.1 = [settingLine setting] := by
  apply Exists.intro (rewritten opts (file.getD []) extra)
  apply And.intro (upserts_rewritten opts path others extra file)
  constructor
  · have again := upserts_rewritten opts path others extra
      (some (rewritten opts (file.getD []) extra))
    rwa [Option.getD_some, rewritten_rewritten hooksDir] at again
  apply And.intro fun setting member => keyLines_rewritten hooksDir _ member
  apply And.intro (otherLines_rewritten hooksDir _ extra)
  intro later
  apply Exists.intro _
  apply And.intro (upserts_rewritten opts path others later _)
  intro setting member _
  exact keyLines_rewritten hooksDir _ (List.mem_append_right _ member)

namespace Sample

def runnerExtra (slot : String) (base : Int) (oneLine : '\n' ∉ slot.toList) : Extra where
  settings := extraSettings slot base
  distinct := by simp [extraSettings]
  accepted := by
    simp only [extraSettings, List.any_cons, List.any_nil, Bool.or_false]
    decide
  plain := by simp [extraSettings]
  oneLine := by
    intro setting member
    simp only [extraSettings, List.mem_cons, List.not_mem_nil, or_false] at member
    rcases member with rfl | rfl | rfl
    · exact ⟨by simp, oneLine⟩
    · exact ⟨by simp, newline_notMem_repr base⟩
    · exact ⟨by simp, oneLine⟩

def options : InstallOptions where
  execute := true
  hooksDir := "/opt/hooks"
  civmctlPath := "/usr/local/bin/civmctl"
  runnerGlob := "/home/ci/actions-runner*"
  restartRunners := false
  deploySourceDir := ""
  skipScopedSudoers := true

def quiet : (call : Call Unit) → Answer call
  | .mkdirAll _ | .writeFile _ _ | .rename _ _ => none
  | .remove _ => .missing
  | .readFile _ => .missing
  | .command _ _ => ([], none)
  | .glob _ => .ok []
  | .port (.readFile _) => .missing
  | .port (.mkdirAll _) | .port (.openLock _) | .port (.flock _) | .port (.unlock _)
  | .port (.close _) | .port (.create _) | .port (.append _ _) | .port (.rename _ _) => none

end Sample

open Sample in
theorem stale_slot_is_replaced : ∃ written,
    Upserts options "/home/ci/actions-runner-cmpx/.env" quiet (runnerExtra "cmpx" 20000 (by decide))
      (some "LANG=C\nCIVM_RUNNER_SLOT=old".toList) written ∧
    keyLines written "CIVM_RUNNER_SLOT" = ["CIVM_RUNNER_SLOT=cmpx".toList] ∧
    otherLines written (managedKeys (runnerExtra "cmpx" 20000 (by decide))) =
      ["LANG=C".toList] := by
  have plain : '\n' ∉ options.hooksDir.toList := by decide
  rcases upsertEnv_reconciles plain "/home/ci/actions-runner-cmpx/.env" quiet
    (runnerExtra "cmpx" 20000 (by decide)) (some "LANG=C\nCIVM_RUNNER_SLOT=old".toList) with
    ⟨written, upserts, _, keys, others, _⟩
  apply Exists.intro written
  apply And.intro upserts
  apply And.intro
  · exact keys ("CIVM_RUNNER_SLOT", "cmpx") (by simp [runnerExtra, extraSettings])
  · rw [others]
    decide +kernel

end Civm.HookInstall
