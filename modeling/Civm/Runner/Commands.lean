import Civm.Common.Validate
import Civm.Foundation.GoQuote
import Civm.Foundation.Paths

/-! # The shell commands of a runner

`runner.Add` and `runner.Remove` configure a runner and its service by texts that
they hand to `sh -c`. Each text changes to the directory of the runner and starts
one program there, with its arguments written by the verb `%q`. -/

namespace Civm.Runner.Commands

open Common
open GoQuote (Item)

structure AddOptions where
  repo : String
  token : String
  short : String
  label : String
  runnerVersion : String
  runnerSHA256 : String
  baseDir : String
  runAsUser : String

structure RemoveOptions where
  short : String
  token : String
  baseDir : String

def validateOptions (opts : AddOptions) : Option Error :=
  (validateRepo opts.repo).or <|
  (if opts.token = "" then some (.text "--token obrigatorio") else none).or <|
  (validateShort opts.short).or <|
  (validateLabels opts.label).or <|
  (validateSemver opts.runnerVersion "--runner-version").or <|
  (if Text.trimSpace opts.runnerSHA256 = "" then
    some (.text ("--runner-sha256 obrigatorio para actions/runner v" ++ opts.runnerVersion))
  else none).or <|
  (validateDir opts.baseDir "--base-dir").or <|
  validateUserName opts.runAsUser

def validateRemoveOptions (opts : RemoveOptions) : Option Error :=
  (validateShort opts.short).or <|
  (validateDir opts.baseDir "--base-dir").or <|
  if opts.token = "" then
    some (.text "--token obrigatorio (gh api -X POST .../actions/runners/remove-token)")
  else none

def runnerDir (baseDir short : String) : List Char :=
  (Text.join baseDir ("actions-runner-" ++ short)).toList

/-- A change of directory, and the argument vector of the one command after it. -/
structure Invocation where
  dir : List Char
  vector : List (List Char)
  deriving DecidableEq

/-- What a shell does with a text of that form; a directory with a leading dash is an
option of `cd`. -/
def performs (source : List Char) : Option Invocation :=
  match Shell.commands [] source with
  | some [[[name, dir], vector]] =>
    if name = "cd".toList ∧ dir.head? ≠ some '-' then some ⟨dir, vector⟩ else none
  | _ => none

section

variable (table : Char → Bool)

/-- The verb `%q`. -/
def q (value : List Char) : List Char := GoQuote.quote table value

/-! ## The texts -/

def configRunner (opts : AddOptions) : List Char :=
  "cd ".toList ++ q table (runnerDir opts.baseDir opts.short) ++
    " && ./config.sh --unattended --url ".toList ++
    q table ("https://github.com/".toList ++ opts.repo.toList) ++
    " --token ".toList ++ q table opts.token.toList ++
    " --labels ".toList ++ q table opts.label.toList ++
    " --name ".toList ++ q table ("civm-".toList ++ opts.short.toList) ++
    " --work _work --replace".toList

def installService (opts : AddOptions) : List Char :=
  "cd ".toList ++ q table (runnerDir opts.baseDir opts.short) ++ " && ./svc.sh install ".toList ++
    q table opts.runAsUser.toList

def startService (opts : AddOptions) : List Char :=
  "cd ".toList ++ q table (runnerDir opts.baseDir opts.short) ++ " && ./svc.sh start".toList

def uninstallService (opts : RemoveOptions) : List Char :=
  "cd ".toList ++ q table (runnerDir opts.baseDir opts.short) ++ " && ./svc.sh uninstall".toList

def configRemove (opts : RemoveOptions) : List Char :=
  "cd ".toList ++ q table (runnerDir opts.baseDir opts.short) ++
    " && ./config.sh remove --token ".toList ++ q table opts.token.toList

def configVector (opts : AddOptions) : List (List Char) :=
  ["./config.sh".toList, "--unattended".toList,
    "--url".toList, "https://github.com/".toList ++ opts.repo.toList,
    "--token".toList, opts.token.toList, "--labels".toList, opts.label.toList,
    "--name".toList, "civm-".toList ++ opts.short.toList,
    "--work".toList, "_work".toList, "--replace".toList]

/-- Each text of `Add` with the arguments that are meant. -/
def addCommands (opts : AddOptions) : List (List Char × List (List Char)) :=
  [(configRunner table opts, configVector opts),
    (installService table opts, ["./svc.sh".toList, "install".toList, opts.runAsUser.toList]),
    (startService table opts, ["./svc.sh".toList, "start".toList])]

def removeCommands (opts : RemoveOptions) : List (List Char × List (List Char)) :=
  [(uninstallService table opts, ["./svc.sh".toList, "uninstall".toList]),
    (configRemove table opts,
      ["./config.sh".toList, "remove".toList, "--token".toList, opts.token.toList])]

theorem performs_eq_some {source dir : List Char} {vector : List (List Char)} :
    performs source = some ⟨dir, vector⟩ ↔
      Shell.commands [] source = some [[["cd".toList, dir], vector]] ∧ dir.head? ≠ some '-' := by
  unfold performs
  constructor
  · intro performed
    split at performed
    · rename_i name target arguments parsed
      split at performed
      · rename_i changes
        cases performed
        exact ⟨changes.1 ▸ parsed, changes.2⟩
      · cases performed
    · cases performed
  · intro parsed
    simp [parsed.1, parsed.2]

variable {table}

theorem performs_iff {dir : List Char} {name : List Char} {items : List Item}
    (ready : ∀ item ∈ .bare name :: items, item.ready = true) (free : name ∉ Shell.reserved) :
    performs ("cd ".toList ++ q table dir ++ " && ".toList ++
        GoQuote.render table (.bare name :: items)) =
        some ⟨dir, name :: items.map Item.value⟩ ↔
      GoQuote.literal table dir = true ∧ dir.head? ≠ some '-' ∧
        ∀ item ∈ items, item.isLiteral table = true := by
  have firstReady : ∀ item ∈ [Item.bare "cd".toList, .quoted dir], item.ready = true := by
    rw [List.forall_mem_cons]
    exact ⟨by decide, by simp [Item.ready]⟩
  have parsed := @GoQuote.commands_render_iff table _ _ firstReady ready
    ⟨"cd".toList, [dir], rfl, by decide⟩ ⟨name, items.map Item.value, rfl, free⟩
  have written : "cd ".toList ++ q table dir =
    GoQuote.render table [.bare "cd".toList, .quoted dir] := rfl
  rw [performs_eq_some, written]
  simp only [List.map_cons, List.map_nil, Item.value] at parsed
  rw [parsed]
  simp [Item.isLiteral]
  tauto

/-! ## Checked values -/

theorem calm_of_isRepoChar {extra : List Char} {char : Char}
    (calmed : extra.all GoQuote.calm = true) (checked : isRepoChar extra char = true) :
    GoQuote.calm char = true := by
  simp only [isRepoChar, Bool.or_eq_true] at checked
  rcases checked with alphanumeric | listed
  · exact GoQuote.calm_of_isAlphanum (by simpa [Char.isAlphanum] using alphanumeric)
  · exact List.all_eq_true.mp calmed char (List.contains_iff_mem.mp listed)

theorem calm_of_chars {extra value : List Char} (calmed : extra.all GoQuote.calm = true)
    (checked : ∀ char ∈ value, isRepoChar extra char = true) :
    value.all GoQuote.calm = true := by
  rw [List.all_eq_true]
  exact fun char member => calm_of_isRepoChar calmed (checked char member)

theorem plain_runnerName {short : String} (accepted : validateShort short = none) :
    Text.Plain ("actions-runner-".toList ++ short.toList) := by
  have clear : '/' ∉ "actions-runner-".toList ++ short.toList := by
    rw [List.mem_append, not_or]
    apply And.intro (by decide)
    intro slash
    exact absurd (chars_of_validateShort accepted '/' slash) (by decide)
  exact ⟨nofun, nofun, nofun, clear⟩

theorem runnerDir_of_validate {baseDir short : String}
    (shortAccepted : validateShort short = none)
    (dirAccepted : validateDir baseDir "--base-dir" = none) :
    GoQuote.literal table (runnerDir baseDir short) = GoQuote.literal table baseDir.toList ∧
      ((runnerDir baseDir short).head? = some '-' ↔ baseDir.toList.head? = some '-') := by
  rcases clean_of_validateDir dirAccepted with ⟨cleaned, notDot⟩
  have base : Text.cleanChars baseDir.toList = baseDir.toList := by
    simpa [Text.clean] using congrArg String.toList cleaned
  have other : baseDir.toList ≠ ['.'] := fun dot => notDot (by simpa using congrArg String.ofList dot)
  have calmed : ("actions-runner-".toList ++ short.toList).all GoQuote.calm = true := by
    rw [List.all_append, calm_of_chars (by decide) (chars_of_validateShort shortAccepted)]
    decide
  have joined : runnerDir baseDir short =
    (if baseDir.toList = ['/'] then [] else baseDir.toList) ++
      '/' :: ("actions-runner-".toList ++ short.toList) := by
    rw [← Text.cleanChars_append_name base other (plain_runnerName shortAccepted)]
    simp [runnerDir, Text.join, Text.clean]
  have root : GoQuote.literal table ['/'] = true := GoQuote.literal_of_calm (by decide)
  rw [joined, GoQuote.literal_append_slash, GoQuote.literal_of_calm calmed, Bool.and_true]
  split
  · rename_i equal
    rw [equal, root]
    exact ⟨rfl, by simp⟩
  · have nonempty : baseDir.toList ≠ [] := base ▸ Text.cleanChars_ne_nil _
    cases chars : baseDir.toList with
    | nil => exact absurd chars nonempty
    | cons first rest => exact ⟨rfl, Iff.rfl⟩

/-! ## The texts of `Add` and of `Remove` -/

/-- What the options have to be for the shell to read every value as it is. -/
def AddOptions.isLiteral (table : Char → Bool) (opts : AddOptions) : Bool :=
  GoQuote.literal table opts.baseDir.toList && opts.baseDir.toList.head? ≠ some '-' &&
    GoQuote.literal table opts.token.toList && GoQuote.literal table opts.label.toList

def RemoveOptions.isLiteral (table : Char → Bool) (opts : RemoveOptions) : Bool :=
  GoQuote.literal table opts.baseDir.toList && opts.baseDir.toList.head? ≠ some '-' &&
    GoQuote.literal table opts.token.toList

section

variable {opts : AddOptions}

/-- The arguments of `config.sh`, as they are written. -/
def configItems (opts : AddOptions) : List Item :=
  [.bare "--unattended".toList, .bare "--url".toList,
    .quoted ("https://github.com/".toList ++ opts.repo.toList), .bare "--token".toList,
    .quoted opts.token.toList, .bare "--labels".toList, .quoted opts.label.toList,
    .bare "--name".toList, .quoted ("civm-".toList ++ opts.short.toList), .bare "--work".toList,
    .bare "_work".toList, .bare "--replace".toList]

theorem configRunner_eq : configRunner table opts =
    "cd ".toList ++ q table (runnerDir opts.baseDir opts.short) ++ " && ".toList ++
      GoQuote.render table (.bare "./config.sh".toList :: configItems opts) := by
  delta configRunner configItems
  generalize runnerDir opts.baseDir opts.short = dir
  simp [GoQuote.render, Item.write, q]

theorem performs_configRunner (repoCalm : opts.repo.toList.all GoQuote.calm = true)
    (shortCalm : opts.short.toList.all GoQuote.calm = true) :
    performs (configRunner table opts) =
        some ⟨runnerDir opts.baseDir opts.short, configVector opts⟩ ↔
      GoQuote.literal table (runnerDir opts.baseDir opts.short) = true ∧
        (runnerDir opts.baseDir opts.short).head? ≠ some '-' ∧
        GoQuote.literal table opts.token.toList = true ∧
        GoQuote.literal table opts.label.toList = true := by
  have ready : ∀ item ∈ Item.bare "./config.sh".toList :: configItems opts,
    item.ready = true := by
    simp only [configItems, List.forall_mem_cons, Item.ready]
    decide
  have url : GoQuote.literal table ("https://github.com/".toList ++ opts.repo.toList) = true :=
    GoQuote.literal_of_calm (by rw [List.all_append, repoCalm]; decide)
  have name : GoQuote.literal table ("civm-".toList ++ opts.short.toList) = true :=
    GoQuote.literal_of_calm (by rw [List.all_append, shortCalm]; decide)
  have performed := @performs_iff table (runnerDir opts.baseDir opts.short) _ _ ready (by decide)
  rw [configRunner_eq]
  apply performed.trans
  simp only [configItems, List.forall_mem_cons, Item.isLiteral, url, name]
  simp

theorem performs_installService (userCalm : opts.runAsUser.toList.all GoQuote.calm = true) :
    performs (installService table opts) = some ⟨runnerDir opts.baseDir opts.short,
        ["./svc.sh".toList, "install".toList, opts.runAsUser.toList]⟩ ↔
      GoQuote.literal table (runnerDir opts.baseDir opts.short) = true ∧
        (runnerDir opts.baseDir opts.short).head? ≠ some '-' := by
  have written : installService table opts =
    "cd ".toList ++ q table (runnerDir opts.baseDir opts.short) ++ " && ".toList ++
      GoQuote.render table [.bare "./svc.sh".toList, .bare "install".toList,
        .quoted opts.runAsUser.toList] := by
    delta installService
    generalize runnerDir opts.baseDir opts.short = dir
    simp [GoQuote.render, Item.write, q]
  have ready : ∀ item ∈ [Item.bare "./svc.sh".toList, .bare "install".toList,
    .quoted opts.runAsUser.toList], item.ready = true := by
    simp only [List.forall_mem_cons, Item.ready]
    decide
  have user : GoQuote.literal table opts.runAsUser.toList = true :=
    GoQuote.literal_of_calm userCalm
  have performed := @performs_iff table (runnerDir opts.baseDir opts.short) _ _ ready (by decide)
  rw [written]
  apply performed.trans
  simp [Item.isLiteral, user]

theorem performs_service {source dir action : List Char}
    (written : source = "cd ".toList ++ q table dir ++ " && ".toList ++
      GoQuote.render table [.bare "./svc.sh".toList, .bare action])
    (actionReady : (Item.bare action).ready = true) :
    performs source = some ⟨dir, ["./svc.sh".toList, action]⟩ ↔
      GoQuote.literal table dir = true ∧ dir.head? ≠ some '-' := by
  have ready : ∀ item ∈ [Item.bare "./svc.sh".toList, .bare action], item.ready = true := by
    simp only [List.forall_mem_cons, actionReady]
    decide
  have performed := @performs_iff table dir _ _ ready (by decide)
  rw [written]
  apply performed.trans
  simp [Item.isLiteral]

theorem performs_startService :
    performs (startService table opts) = some ⟨runnerDir opts.baseDir opts.short,
        ["./svc.sh".toList, "start".toList]⟩ ↔
      GoQuote.literal table (runnerDir opts.baseDir opts.short) = true ∧
        (runnerDir opts.baseDir opts.short).head? ≠ some '-' := by
  apply performs_service
  · delta startService
    generalize runnerDir opts.baseDir opts.short = dir
    simp [GoQuote.render, Item.write, q]
  · decide

end

section

variable {opts : RemoveOptions}

theorem performs_uninstallService :
    performs (uninstallService table opts) = some ⟨runnerDir opts.baseDir opts.short,
        ["./svc.sh".toList, "uninstall".toList]⟩ ↔
      GoQuote.literal table (runnerDir opts.baseDir opts.short) = true ∧
        (runnerDir opts.baseDir opts.short).head? ≠ some '-' := by
  apply performs_service
  · delta uninstallService
    generalize runnerDir opts.baseDir opts.short = dir
    simp [GoQuote.render, Item.write, q]
  · decide

theorem performs_configRemove :
    performs (configRemove table opts) = some ⟨runnerDir opts.baseDir opts.short,
        ["./config.sh".toList, "remove".toList, "--token".toList, opts.token.toList]⟩ ↔
      GoQuote.literal table (runnerDir opts.baseDir opts.short) = true ∧
        (runnerDir opts.baseDir opts.short).head? ≠ some '-' ∧
        GoQuote.literal table opts.token.toList = true := by
  have written : configRemove table opts =
    "cd ".toList ++ q table (runnerDir opts.baseDir opts.short) ++ " && ".toList ++
      GoQuote.render table [.bare "./config.sh".toList, .bare "remove".toList,
        .bare "--token".toList, .quoted opts.token.toList] := by
    delta configRemove
    generalize runnerDir opts.baseDir opts.short = dir
    simp [GoQuote.render, Item.write, q]
  have ready : ∀ item ∈ [Item.bare "./config.sh".toList, .bare "remove".toList,
    .bare "--token".toList, .quoted opts.token.toList], item.ready = true := by
    simp only [List.forall_mem_cons, Item.ready]
    decide
  have performed := @performs_iff table (runnerDir opts.baseDir opts.short) _ _ ready (by decide)
  rw [written]
  apply performed.trans
  simp [Item.isLiteral]

end

/-- Every text performs what is meant exactly if the options are literal. -/
theorem commands_are_literal_iff (table : Char → Bool) :
    (∀ opts : AddOptions, validateOptions opts = none →
      ((∀ command ∈ addCommands table opts,
          performs command.1 = some ⟨runnerDir opts.baseDir opts.short, command.2⟩) ↔
        opts.isLiteral table = true)) ∧
    ∀ opts : RemoveOptions, validateRemoveOptions opts = none →
      ((∀ command ∈ removeCommands table opts,
          performs command.1 = some ⟨runnerDir opts.baseDir opts.short, command.2⟩) ↔
        opts.isLiteral table = true) := by
  constructor
  · intro opts accepted
    simp only [validateOptions, Option.or_eq_none_iff] at accepted
    rcases accepted with ⟨repo, _, short, _, _, _, dir, user⟩
    have config := @performs_configRunner table opts
      (calm_of_chars (by decide) (chars_of_validateRepo repo))
      (calm_of_chars (by decide) (chars_of_validateShort short))
    have install := @performs_installService table opts
      (calm_of_chars (by decide) (chars_of_validateUserName user))
    rcases @runnerDir_of_validate table _ _ short dir with ⟨same, head⟩
    have each := and_congr config (and_congr install (@performs_startService table opts))
    apply (List.forall_mem_cons.trans (and_congr_right' (List.forall_mem_cons.trans
      (and_congr_right' List.forall_mem_singleton)))).trans
    apply each.trans
    rw [same, ne_eq, head, AddOptions.isLiteral]
    simp only [Bool.and_eq_true, decide_eq_true_eq]
    constructor
    · intro each
      exact ⟨⟨⟨each.2.1.1, each.2.1.2⟩, each.1.2.2.1⟩, each.1.2.2.2⟩
    · intro all
      exact ⟨⟨all.1.1.1, all.1.1.2, all.1.2, all.2⟩, all.1.1, all.1.1⟩
  · intro opts accepted
    simp only [validateRemoveOptions, Option.or_eq_none_iff] at accepted
    rcases accepted with ⟨short, dir, _⟩
    rcases @runnerDir_of_validate table _ _ short dir with ⟨same, head⟩
    have each := and_congr (@performs_uninstallService table opts)
      (@performs_configRemove table opts)
    apply (List.forall_mem_cons.trans (and_congr_right' List.forall_mem_singleton)).trans
    apply each.trans
    rw [same, ne_eq, head, RemoveOptions.isLiteral]
    simp only [Bool.and_eq_true, decide_eq_true_eq]
    constructor
    · intro each
      exact ⟨each.1, each.2.2.2⟩
    · intro all
      exact ⟨all.1, all.1.1, all.1.2, all.2⟩

def sampleOptions (token : String) : AddOptions :=
  { repo := "acme/app", token := token, short := "peer", label := "civm", runnerVersion := "2.336.0"
    runnerSHA256 := "04cf0be1", baseDir := "/home/ci", runAsUser := "ci" }

theorem plain_token_is_passed :
    validateOptions (sampleOptions "AXV3") = none ∧
      ∀ command ∈ addCommands (fun _ => true) (sampleOptions "AXV3"),
        performs command.1 = some ⟨"/home/ci/actions-runner-peer".toList, command.2⟩ := by
  have accepted : validateOptions (sampleOptions "AXV3") = none := by decide +kernel
  exact ⟨accepted, ((commands_are_literal_iff fun _ => true).1 _ accepted).mpr (by decide +kernel)⟩

/-- A token with a command substitution is accepted, and the shell does not read it as
it is. -/
theorem token_is_expanded :
    validateOptions (sampleOptions "$(id)") = none ∧
      Shell.commands [] (configRunner (fun _ => true) (sampleOptions "$(id)")) = none ∧
      performs (configRunner (fun _ => true) (sampleOptions "$(id)")) = none := by
  decide +kernel

end

end Civm.Runner.Commands
