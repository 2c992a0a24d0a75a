import Civm.Foundation.Outcomes
import Civm.JobHook.Run

/-! # The failures of a cleanup

Whatever fails in a cleanup is carried by one of its actions, as its error or in its
warning. -/

namespace Civm.JobHook

open Hook (Action)
open Program (Ends)

/-! ## Failures and where they are reported -/

/-- What is noted of a run: the texts of errors, and the lines of the log. -/
inductive Note
  | failure (text : String)
  | logged (res : Result)

def rootNotes : (call : Hook.Call) → Hook.Answer call → List Note
  | .readDir _, .failed error => [.failure (message error)]
  | .remove _, (some error, _) => [.failure (message error)]
  | .chown _, (some error, _) => [.failure (message error)]
  | .mkdirAll _, (some error, _) => [.failure (message error)]
  | _, _ => []

/-- A removal of what is not there has not failed. -/
def cacheNotes : (call : CacheTrim.Call) → CacheTrim.Answer call → List Note
  | .removeAll _ _, some failure => if failure.notExist then [] else [.failure failure.text]
  | _, _ => []

def notes : (call : Call) → Answer call → List Note
  | .command _ _, .error text => [.failure text]
  | .roots call, answer => rootNotes call answer
  | .caches call, answer => cacheNotes call answer
  | .log _ res, _ => [.logged res]
  | _, _ => []

def warningText (action : Action) : String := (action.warning.map message).getD ""

/-- The action has the text as its error or in its warning. -/
def Carries (action : Action) (text : String) : Prop :=
  errorText action = text ∨ Text.contains (warningText action) (Text.trimSpace text) = true

/-- All that is noted are failures, and the actions carry them. -/
def Reports (actions : List Action) (seen : List Note) : Prop :=
  ∀ note ∈ seen, ∃ text, note = .failure text ∧ ∃ action ∈ actions, Carries action text

theorem Reports.nothing (actions : List Action) : Reports actions [] := List.forall_mem_nil _

theorem Reports.within {some actions : List Action} {seen : List Note}
    (reports : Reports some seen) (among : some ⊆ actions) : Reports actions seen := by
  intro note member
  rcases reports note member with ⟨text, same, action, inside, carries⟩
  exact ⟨text, same, action, among inside, carries⟩

theorem Reports.append {actions : List Action} {seen more : List Note}
    (first : Reports actions seen) (second : Reports actions more) :
    Reports actions (seen ++ more) :=
  List.forall_mem_append.mpr ⟨first, second⟩

theorem Reports.cons {action : Action} {actions : List Action} {text : String}
    {seen : List Note} (reports : Reports actions seen) (carries : Carries action text) :
    Reports (action :: actions) (.failure text :: seen) :=
  List.forall_mem_cons.mpr ⟨⟨text, rfl, action, List.mem_cons_self, carries⟩,
    reports.within (List.subset_cons_self _ _)⟩

theorem Reports.single {action : Action} {text : String} (carries : Carries action text) :
    Reports [action] [.failure text] :=
  (Reports.nothing []).cons carries

theorem carries_error (action : Action) (error : Cleanup.Error) :
    Carries { action with error := some error } (message error) :=
  .inl rfl

theorem carries_warning (action : Action) (error : Cleanup.Error) :
    Carries { action with warning := some error } (message error) :=
  .inr (Text.contains_iff.mpr (Text.trimSpace_infix _))

/-- All that is noted are failures, and the warning has their texts. -/
def Warns (warning : String) (seen : List Note) : Prop :=
  ∀ note ∈ seen, ∃ text, note = .failure text ∧ (Text.trimSpace text).toList <:+: warning.toList

theorem Warns.reports {action : Action} {seen : List Note}
    (warns : Warns (warningText action) seen) : Reports [action] seen := by
  intro note member
  rcases warns note member with ⟨text, same, occurs⟩
  exact ⟨text, same, action, List.mem_singleton_self _, .inr (Text.contains_iff.mpr occurs)⟩

theorem warns_append (before text : String) : Warns (before ++ text) [.failure text] := by
  intro note member
  refine ⟨text, List.mem_singleton.mp member, ?_⟩
  rw [String.toList_append]
  exact (Text.trimSpace_infix text).trans (List.suffix_append _ _).isInfix

theorem Warns.more {warning : String} {seen : List Note} (warns : Warns warning seen)
    (between text : String) :
    Warns (Text.trimSpace (warning ++ between ++ text)) (seen ++ [.failure text]) := by
  intro note member
  rcases List.mem_append.mp member with earlier | last
  · rcases warns note earlier with ⟨other, same, occurs⟩
    refine ⟨other, same, Text.infix_trimSpace ?_⟩
    simp only [String.toList_append, List.append_assoc]
    exact occurs.trans (List.prefix_append _ _).isInfix
  · rcases warns_append (warning ++ between) text note last with ⟨other, same, occurs⟩
    exact ⟨other, same, Text.infix_trimSpace occurs⟩

theorem reports_warned (action : Action) (before text : String) :
    Reports [warned action (before ++ text)] [.failure text] :=
  Warns.reports (warns_append before text)

theorem warningText_noted {action : Action} (clear : action.warning = none) (warning : String) :
    warningText (noted action warning) = warning := by
  by_cases empty : warning = ""
  · simp [noted, empty, warningText, clear]
  · simp [noted, empty, warningText, warned, message]

/-! ## Commands -/

theorem ends_command {name : String} {arguments : List String}
    {next : Except String String → Script α} {post : α → List Note → Prop} :
    (perform (.command name arguments) >>= next).Ends notes post ↔
      (∀ text, (next (.error text)).Ends notes fun value seen => post value (.failure text :: seen)) ∧
        ∀ out, (next (.ok out)).Ends notes post := by
  rw [Program.ends_perform]
  constructor
  · exact fun ends => ⟨fun text => ends (.error text), fun out => ends (.ok out)⟩
  · rintro ⟨failed, succeeded⟩ (text | out)
    · exact failed text
    · exact succeeded out

/-- The script returns one action that carries whatever has failed. -/
abbrev Accounts (script : Script Action) : Prop :=
  script.Ends notes fun action seen => Reports [action] seen

theorem commandActionWarn_accounts (opts : Options) (actionName name : String)
    (arguments : List String) : Accounts (commandActionWarn opts actionName name arguments) := by
  unfold commandActionWarn
  rw [Accounts, Program.ends_ite, ends_command]
  simp only [Program.ends_pure]
  constructor
  · exact fun _ => ⟨fun text => reports_warned _ "" text, fun _ => .nothing _⟩
  · exact fun _ => .nothing _

theorem killWorkRootContainers_accounts (opts : Options) (root : String) :
    Accounts (killWorkRootContainers opts root) := by
  unfold killWorkRootContainers
  rw [Accounts, Program.ends_ite, ends_command]
  simp only [Program.ends_pure]
  refine ⟨fun _ => .nothing _, fun _ => ⟨fun text => reports_warned _ _ _, fun out => ?_⟩⟩
  rw [Program.ends_ite, ends_command]
  simp only [Program.ends_pure]
  refine ⟨fun _ => .nothing _, fun _ => ⟨fun text => reports_warned _ _ _, fun out => ?_⟩⟩
  rw [Program.ends_ite, ends_command]
  simp only [Program.ends_pure]
  exact ⟨fun _ => .nothing _, fun _ => ⟨fun text => reports_warned _ _ _,
    fun _ => .nothing _⟩⟩

theorem reapImages_reports (opts : Options) (scopes : List String) :
    (reapImages opts scopes).Ends notes Reports := by
  induction scopes with
  | nil => exact Program.ends_pure.mpr (.nothing _)
  | cons scope rest induction =>
    refine (commandActionWarn_accounts opts _ _ _).bind fun action seen reported => ?_
    refine induction.bind fun actions more others => ?_
    rw [Program.ends_pure, List.append_nil]
    exact (reported.within (by simp)).append (others.within (by simp))

theorem reapRunImages_reports (opts : Options) : (reapRunImages opts).Ends notes Reports := by
  unfold reapRunImages
  split
  · exact Program.ends_pure.mpr (.nothing _)
  · exact reapImages_reports opts _

theorem listContainers_warns {warning : String} {seen : List Note}
    (warns : Warns warning seen) (scopes ids : List String) :
    (listContainers scopes warning ids).Ends notes fun found more =>
      Warns found.1 (seen ++ more) := by
  induction scopes generalizing warning seen ids with
  | nil =>
    rw [← List.append_nil seen] at warns
    exact Program.ends_pure.mpr warns
  | cons scope rest induction =>
    unfold listContainers
    rw [ends_command]
    constructor
    · intro text
      apply (induction (warns.more (" list " ++ scope ++ ": ") text) ids).mono
      intro found more
      simp
    · intro out
      exact induction warns _

theorem reapRunContainers_accounts (opts : Options) : Accounts (reapRunContainers opts) := by
  unfold reapRunContainers
  split
  · exact Program.ends_pure.mpr (.nothing _)
  · rw [Accounts, Program.ends_ite, Program.ends_pure]
    refine ⟨fun _ => .nothing _, fun _ => ?_⟩
    have start : Warns "" [] := List.forall_mem_nil _
    refine (listContainers_warns start _ []).bind fun found seen warns => ?_
    rcases found with ⟨warning, ids⟩
    rw [List.nil_append] at warns
    dsimp only at warns ⊢
    generalize named : Action.named "docker_run_container_reap" "" opts.execute = action
    have clear : action.warning = none := by rw [← named, Action.named]
    have noting : Warns (warningText (noted action warning)) seen := by
      rw [warningText_noted clear]
      exact warns
    rw [Program.ends_ite, ends_command]
    simp only [Program.ends_pure, List.append_nil]
    refine ⟨fun _ => noting.reports, fun _ => ⟨fun text => ?_, fun _ => ?_⟩⟩
    · exact Warns.reports (warns.more " remove: " text)
    · apply Warns.reports
      exact noting

theorem removeOrphans_reports {action : Action} {seen : List Note}
    (warns : Warns (warningText action) seen) (orphans : List String) :
    (removeOrphans action (warningText action) orphans).Ends notes fun action more =>
      Reports [action] (seen ++ more) := by
  unfold removeOrphans
  rw [ends_command]
  simp only [Program.ends_pure, List.append_nil]
  refine ⟨fun text => Warns.reports (warns.more _ text), fun _ => ?_⟩
  apply Warns.reports
  exact warns

theorem stopOrphans_accounts {action : Action} (clear : action.warning = none)
    (orphans : List String) : Accounts (stopOrphans action orphans) := by
  unfold stopOrphans
  rw [Accounts, ends_command]
  constructor
  · intro text
    have warns := warns_append ("docker stop " ++ orphanCount orphans) text
    dsimp only
    generalize "docker stop " ++ orphanCount orphans ++ text = warning at warns ⊢
    have carried : Warns (warningText (warned action warning)) [.failure text] := warns
    exact removeOrphans_reports carried orphans
  · intro _
    have quiet : warningText action = "" := by rw [warningText, clear]; rfl
    have warns : Warns (warningText action) [] := List.forall_mem_nil _
    have removes := removeOrphans_reports warns orphans
    rw [quiet] at removes
    exact removes

theorem reapOrphanCIContainers_accounts (opts : Options) :
    Accounts (reapOrphanCIContainers opts) := by
  unfold reapOrphanCIContainers
  rw [Accounts, Program.ends_ite, ends_command]
  simp only [Program.ends_pure]
  refine ⟨fun _ => .nothing _, fun _ => ⟨fun text => reports_warned _ _ _, fun out => ?_⟩⟩
  rw [Program.ends_ite, ends_command]
  simp only [Program.ends_pure]
  refine ⟨fun _ => .nothing _, fun _ => ⟨fun text => reports_warned _ _ _, fun out => ?_⟩⟩
  rw [Program.ends_ite, Program.ends_pure]
  exact ⟨fun _ => .nothing _, fun _ => stopOrphans_accounts rfl _⟩

/-! ## Roots and caches -/

theorem ends_onRoots {script : Hook.Script α} {post : α → List Note → Prop}
    (ends : script.Ends rootNotes post) : (onRoots script).Ends notes post :=
  ends.embed fun _ _ => rfl

theorem ends_onCaches {script : CacheTrim.Script α} {post : α → List Note → Prop}
    (ends : script.Ends cacheNotes post) : (onCaches script).Ends notes post :=
  ends.embed fun _ _ => rfl

theorem cleanEntries_accounts (opts : Hook.Options) (root : String) (skip : List Char → Bool)
    (names : List (List Char)) (action : Action) :
    (Hook.cleanEntries opts root skip names action).Ends rootNotes fun action seen =>
      Reports [action] seen := by
  induction names with
  | nil => exact Program.ends_pure.mpr (.nothing _)
  | cons name rest induction =>
    unfold Hook.cleanEntries
    rw [Program.ends_ite, Program.ends_ite, Program.ends_perform]
    refine ⟨fun _ => induction, fun _ => ⟨fun _ => ?_, fun _ => induction⟩⟩
    rintro ⟨_ | error, machine⟩
    · exact induction
    · exact Program.ends_pure.mpr (.single (carries_error action error))

theorem cleanWorkRoot_accounts (opts : Hook.Options) (root : String) (preserve : Bool) :
    (Hook.cleanWorkRoot opts root preserve).Ends rootNotes fun action seen =>
      Reports [action] seen := by
  unfold Hook.cleanWorkRoot
  rw [Program.ends_ite, Program.ends_perform]
  refine ⟨fun _ => Program.ends_pure.mpr (.nothing _), fun _ => ?_⟩
  rintro (names | _ | error)
  · exact cleanEntries_accounts opts root _ names _
  · exact Program.ends_pure.mpr (.nothing _)
  · exact Program.ends_pure.mpr (.single (carries_error _ error))

theorem ensureWorkspaceStub_accounts (opts : Hook.Options) (root : String) :
    (Hook.ensureWorkspaceStub opts root).Ends rootNotes fun action seen =>
      Reports [action] seen := by
  unfold Hook.ensureWorkspaceStub
  rw [Program.ends_ite, Program.ends_ite, Program.ends_perform]
  simp only [Program.ends_pure]
  refine ⟨fun _ => .nothing _, fun _ => ⟨fun _ => ?_, fun _ => .nothing _⟩⟩
  rintro ⟨_ | error, machine⟩
  · exact .nothing _
  · exact .single (carries_error _ error)

theorem cleanRoots_reports (opts : Options) (purgeCaches : Bool) (roots : List String) :
    (cleanRoots opts purgeCaches roots).Ends notes Reports := by
  induction roots with
  | nil => exact Program.ends_pure.mpr (.nothing _)
  | cons root rest induction =>
    have cleans := ends_onRoots (cleanWorkRoot_accounts opts.toOptions root purgeCaches)
    have stubs := ends_onRoots (ensureWorkspaceStub_accounts opts.toOptions root)
    refine (killWorkRootContainers_accounts opts root).bind fun killed ofKilled killing => ?_
    refine cleans.bind fun cleaned ofCleaned cleaning => ?_
    refine stubs.bind fun stub ofStub making => ?_
    refine induction.bind fun others ofOthers reported => ?_
    rw [Program.ends_pure, List.append_nil]
    exact (killing.within (by simp)).append ((cleaning.within (by simp)).append
      ((making.within (by simp)).append (reported.within fun _ inside => by simp [inside])))

theorem reclaimRoots_reports (opts : Hook.Options) (roots : List String) :
    (Hook.reclaimRoots opts roots).Ends rootNotes Reports := by
  induction roots with
  | nil => exact Program.ends_pure.mpr (.nothing _)
  | cons root rest induction =>
    unfold Hook.reclaimRoots
    split
    · exact induction
    · refine Program.ends_perform.mpr ?_
      rintro ⟨warning, machine⟩
      refine induction.bind fun actions seen reported => ?_
      rw [Program.ends_pure]
      rw [List.append_nil]
      cases warning with
      | none => exact reported.within (List.subset_cons_self _ _)
      | some error => exact reported.cons (carries_warning _ error)

theorem reclaimWorkspaceOwnership_reports (opts : Hook.Options) :
    (Hook.reclaimWorkspaceOwnership opts).Ends rootNotes Reports := by
  unfold Hook.reclaimWorkspaceOwnership
  rw [Program.ends_ite, Program.ends_pure]
  exact ⟨fun _ => reclaimRoots_reports opts _, fun _ => .nothing _⟩

theorem purgeCacheAtIdle_accounts (opts : Options) (path : String) :
    (purgeCacheAtIdle opts path).Ends cacheNotes fun action seen =>
      Reports [action] seen := by
  unfold purgeCacheAtIdle
  rw [Program.ends_ite, Program.ends_ite, Program.ends_perform]
  simp only [Program.ends_pure]
  refine ⟨fun _ => .nothing _, fun _ => ⟨fun _ => .nothing _, fun _ => ?_⟩⟩
  rintro (_ | failure)
  · exact Program.ends_pure.mpr (.nothing _)
  · by_cases absent : failure.notExist = true
    · simp only [cacheNotes, absent, if_true, Program.ends_pure]
      exact .nothing _
    · simp only [cacheNotes, absent, Program.ends_ite, Program.ends_pure]
      exact ⟨nofun, fun _ => .single (carries_error _ (.text failure.text))⟩

/-- The error of a trim is the only failure. -/
def Explains (error : Option CacheTrim.Failure) (seen : List Note) : Prop :=
  ∀ note ∈ seen, ∃ failure, error = some failure ∧ note = .failure failure.text

theorem Explains.nothing (error : Option CacheTrim.Failure) : Explains error [] :=
  List.forall_mem_nil _

theorem remove_ends {opts : CacheTrim.Options} {cap : CacheTrim.Cap} {path : Path}
    {next : Option CacheTrim.Failure → CacheTrim.Script α} {post : α → List Note → Prop}
    (removed : (next none).Ends cacheNotes post)
    (absent : ∀ failure, failure.notExist = true → (next (some failure)).Ends cacheNotes post)
    (failed : ∀ failure, failure.notExist = false → (next (some failure)).Ends cacheNotes
      fun value seen => post value (.failure failure.text :: seen)) :
    (CacheTrim.remove opts cap path >>= next).Ends cacheNotes post := by
  unfold CacheTrim.remove
  split
  · refine Program.ends_perform.mpr fun answer => ?_
    cases answer with
    | none => exact removed
    | some failure =>
      cases missing : failure.notExist with
      | true =>
        simp only [cacheNotes, missing, if_true]
        exact absent failure missing
      | false =>
        simp only [cacheNotes, missing]
        exact failed failure missing
  · exact removed

theorem trimEntries_explains (opts : CacheTrim.Options) (cap : CacheTrim.Cap) (target : Int)
    (allowProtected : Bool) (entries : List (CacheTrim.CacheEntry × Bool)) (freed : Int) :
    (CacheTrim.trimEntries opts cap target allowProtected entries freed).Ends cacheNotes
      fun trimmed seen => Explains trimmed.error seen := by
  induction entries generalizing freed with
  | nil => exact Program.ends_pure.mpr (.nothing _)
  | cons unit rest induction =>
    rcases unit with ⟨entry, removed⟩
    have goesOn (unit : CacheTrim.CacheEntry × Bool) (freed : Int) :
      (CacheTrim.trimEntries opts cap target allowProtected rest freed >>=
        fun trimmed => pure (trimmed.after unit)).Ends cacheNotes
        fun trimmed seen => Explains trimmed.error seen := by
      refine (induction freed).bind fun trimmed seen explains => ?_
      rw [Program.ends_pure, List.append_nil]
      exact explains
    unfold CacheTrim.trimEntries
    rw [Program.ends_ite, Program.ends_ite, Program.ends_pure]
    refine ⟨fun _ => .nothing _, fun _ => ⟨fun _ => goesOn _ _, fun _ => ?_⟩⟩
    apply remove_ends
    · exact goesOn _ _
    · intro failure missing
      dsimp only
      rw [if_pos missing]
      exact goesOn _ _
    · intro failure present
      dsimp only
      rw [if_neg (by simp [present]), Program.ends_pure]
      exact List.forall_mem_singleton.mpr ⟨failure, rfl, rfl⟩

theorem collectUnits_unfailing (cap : CacheTrim.Cap) :
    (CacheTrim.collectUnits cap).Ends cacheNotes fun _ seen => seen = [] := by
  unfold CacheTrim.collectUnits
  refine Program.ends_perform.mpr fun visits => ?_
  split
  · exact Program.ends_pure.mpr rfl
  · exact Program.ends_pure.mpr rfl

theorem trimGuards_explains (opts : CacheTrim.Options) (cap : CacheTrim.Cap) :
    (CacheTrim.trimGuards opts cap).Ends cacheNotes fun outcome seen =>
      match outcome with
      | .error result => Explains result.error seen
      | .ok _ => seen = [] := by
  unfold CacheTrim.trimGuards
  rw [Program.ends_ite, Program.ends_pure]
  refine ⟨fun _ => .nothing _, fun _ => ?_⟩
  refine (collectUnits_unfailing cap).bind ?_
  rintro (failure | ⟨entries, total⟩) _ rfl
  · exact Program.ends_pure.mpr (.nothing _)
  · dsimp only
    rw [Program.ends_ite, Program.ends_ite, Program.ends_ite]
    simp only [Program.ends_pure]
    refine ⟨fun _ => .nothing _, fun _ => ⟨fun _ => .nothing _, fun _ => ⟨fun _ => ?_, fun _ => rfl⟩⟩⟩
    apply remove_ends
    · exact Program.ends_pure.mpr (.nothing _)
    · intro failure missing
      dsimp only
      rw [if_pos missing]
      exact Program.ends_pure.mpr (.nothing _)
    · intro failure present
      dsimp only
      rw [if_neg (by simp [present]), Program.ends_pure]
      exact List.forall_mem_singleton.mpr ⟨failure, rfl, rfl⟩

theorem trimByAge_explains (opts : CacheTrim.Options) (cap : CacheTrim.Cap) :
    (CacheTrim.trimByAge opts cap).Ends cacheNotes fun result seen =>
      Explains result.error seen := by
  unfold CacheTrim.trimByAge
  refine (trimGuards_explains opts cap).bind ?_
  rintro (result | ⟨entries, total⟩) seen explains
  · rw [Program.ends_pure, List.append_nil]
    exact explains
  · obtain rfl : seen = [] := explains
    refine (trimEntries_explains _ _ _ _ _ _).bind fun first seen firstExplains => ?_
    rw [Program.ends_ite, Program.ends_pure]
    refine ⟨fun _ => ?_, fun goesOn => ?_⟩
    · rw [List.append_nil]
      exact firstExplains
    · -- Without an error nothing has failed in the first pass.
      obtain rfl : seen = [] := by
        rw [List.eq_nil_iff_forall_not_mem]
        intro note member
        rcases firstExplains note member with ⟨failure, failed, _⟩
        exact goesOn (.inl (by simp [failed]))
      refine (trimEntries_explains _ _ _ _ _ _).bind fun second seen secondExplains => ?_
      rw [Program.ends_pure, List.append_nil]
      exact secondExplains

theorem trimCacheByAge_accounts (opts : Options) (root : String) (maxBytes minProtect : Int) :
    (trimCacheByAge opts root maxBytes minProtect).Ends cacheNotes fun action seen =>
      Reports [action] seen := by
  refine (trimByAge_explains _ _).bind fun result seen explains => ?_
  rw [Program.ends_pure, List.append_nil]
  intro note member
  rcases explains note member with ⟨failure, failed, rfl⟩
  refine ⟨_, rfl, _, List.mem_singleton_self _, .inl ?_⟩
  simp [errorText, failed, message]

theorem trimCaches_reports (opts : Options) (purgeCaches : Bool) (caps : List CacheCap) :
    (trimCaches opts purgeCaches caps).Ends cacheNotes Reports := by
  induction caps with
  | nil => exact Program.ends_pure.mpr (.nothing _)
  | cons cap rest induction =>
    have accounts : (trimCache opts purgeCaches cap).Ends cacheNotes fun action seen =>
      Reports [action] seen := by
      unfold trimCache
      split
      · exact trimCacheByAge_accounts opts _ _ _
      · exact purgeCacheAtIdle_accounts opts _
    refine accounts.bind fun action seen reported => ?_
    refine induction.bind fun others ofOthers reportedOthers => ?_
    rw [Program.ends_pure, List.append_nil]
    exact (reported.within (by simp)).append (reportedOthers.within (by simp))

/-! ## The budgets of the caches -/

/-- Nothing fails in the script. -/
def Unfailing (script : CacheTrim.Script α) : Prop :=
  script.Ends cacheNotes fun _ seen => seen = []

theorem unfailing_pure (value : α) : Unfailing (pure value) := Program.ends_pure.mpr rfl

theorem Unfailing.bind {script : CacheTrim.Script α} {next : α → CacheTrim.Script β}
    (first : Unfailing script) (second : ∀ value, Unfailing (next value)) :
    Unfailing (script >>= next) := by
  apply Ends.bind first
  rintro value _ rfl
  exact second value

theorem unfailing_glob (pattern : String) : Unfailing (CacheTrim.perform (.glob pattern)) :=
  Program.ends_perform.mpr fun _ => Program.ends_pure.mpr rfl

theorem existingDirs_unfailing (paths out : List String) :
    Unfailing (CacheTrim.existingDirs paths out) := by
  induction paths generalizing out with
  | nil => exact unfailing_pure _
  | cons path rest induction =>
    unfold CacheTrim.existingDirs
    rw [Unfailing, Program.ends_ite, Program.ends_perform]
    refine ⟨fun _ => induction out, fun _ found => ?_⟩
    cases found with
    | true | false => exact induction _

theorem extraDirs_unfailing (home : String) (subs : List String) :
    Unfailing (CacheTrim.extraDirs home subs) := by
  induction subs with
  | nil => exact unfailing_pure _
  | cons sub rest induction =>
    apply Unfailing.bind
    · unfold CacheTrim.extraDir
      split
      · exact unfailing_glob _
      · exact unfailing_pure _
    · exact fun _ => induction.bind fun _ => unfailing_pure _

theorem familyDirs_unfailing (family : CacheTrim.Family) (homes : List String) :
    Unfailing (CacheTrim.familyDirs family homes) := by
  induction homes with
  | nil => exact unfailing_pure _
  | cons home rest induction =>
    unfold CacheTrim.familyDirs
    split
    · exact induction
    · exact (unfailing_glob _).bind fun _ => (extraDirs_unfailing home _).bind fun _ =>
        induction.bind fun _ => unfailing_pure _

theorem familyCaps_unfailing (homes : List String) (family : CacheTrim.Family) :
    Unfailing (CacheTrim.familyCaps homes family) :=
  (familyDirs_unfailing family homes).bind fun _ =>
    (existingDirs_unfailing _ _).bind fun _ => unfailing_pure _

theorem cacheCaps_unfailing (home : String) : Unfailing (cacheCaps home) := by
  apply Unfailing.bind
  · apply (familyCaps_unfailing _ _).bind
    intro goBuild
    apply (familyCaps_unfailing _ _).bind
    intro yarn
    apply (familyCaps_unfailing _ _).bind
    intro golangciLint
    exact (familyCaps_unfailing _ _).bind fun _ => unfailing_pure _
  · exact fun _ => unfailing_pure _

/-! ## The cleanup -/

theorem cacheTrimIsIdle_unfailing (ownDirs : List String) :
    (cacheTrimIsIdle ownDirs).Ends notes fun _ seen => seen = [] := by
  unfold cacheTrimIsIdle
  rw [Program.ends_ite, Program.ends_pure, Program.ends_perform]
  refine ⟨fun _ => rfl, fun _ answer => ?_⟩
  cases answer with
  | none | some activities => exact Program.ends_pure.mpr rfl

theorem pruneIdleImages_reports (opts : Options) (isIdle : Bool) :
    (pruneIdleImages opts isIdle).Ends notes Reports := by
  unfold pruneIdleImages
  rw [Program.ends_ite, Program.ends_pure]
  refine ⟨fun _ => ?_, fun _ => .nothing _⟩
  refine (commandActionWarn_accounts opts _ _ _).bind fun action seen reported => ?_
  rw [Program.ends_pure, List.append_nil]
  exact reported

theorem reapRun_reports (opts : Options) (purgeCaches isIdle : Bool) :
    (reapRun opts purgeCaches isIdle).Ends notes Reports := by
  unfold reapRun
  rw [Program.ends_ite, Program.ends_pure]
  refine ⟨fun _ => .nothing _, fun _ => ?_⟩
  refine (reapRunContainers_accounts opts).bind fun containers ofContainers removing => ?_
  refine (reapRunImages_reports opts).bind fun images ofImages pruning => ?_
  refine (pruneIdleImages_reports opts isIdle).bind fun idle ofIdle reported => ?_
  rw [Program.ends_pure, List.append_nil]
  exact (removing.within (by simp)).append ((pruning.within (by simp)).append
    (reported.within (by simp)))

theorem pruneVolumes_accounts (opts : Options) (purgeCaches isIdle : Bool) :
    Accounts (pruneVolumes opts purgeCaches isIdle) := by
  unfold pruneVolumes
  split
  · exact commandActionWarn_accounts opts _ _ _
  · exact commandActionWarn_accounts opts _ _ _

theorem cleanCaches_reports (opts : Options) (purgeCaches isIdle : Bool) (caps : List CacheCap) :
    (cleanCaches opts purgeCaches isIdle caps).Ends notes Reports := by
  unfold cleanCaches
  rw [Program.ends_ite, Program.ends_pure]
  exact ⟨fun _ => ends_onCaches (trimCaches_reports opts purgeCaches caps), fun _ => .nothing _⟩

/-- Whatever fails in the cleanup is carried by one of its actions. -/
theorem cleanup_reports (opts : Options) (purgeCaches : Bool) :
    (cleanup opts purgeCaches).Ends notes Reports := by
  have budgets := ends_onCaches (cacheCaps_unfailing opts.home)
  have command := commandActionWarn_accounts opts
  unfold cleanup
  refine budgets.bind ?_
  rintro caps _ rfl
  refine (cleanRoots_reports opts purgeCaches _).bind fun ofRoots texts1 roots => ?_
  refine (cacheTrimIsIdle_unfailing _).bind ?_
  rintro isIdle _ rfl
  refine (cleanCaches_reports opts purgeCaches isIdle caps).bind fun ofCaches texts2 caches => ?_
  refine (command _ _ _).bind fun buildx texts3 building => ?_
  refine (command _ _ _).bind fun image texts4 pruning => ?_
  refine (reapRun_reports opts purgeCaches isIdle).bind fun ofRun texts5 run => ?_
  refine (command _ _ _).bind fun container texts6 removing => ?_
  refine (pruneVolumes_accounts opts purgeCaches isIdle).bind fun volume texts7 volumes => ?_
  refine (command _ _ _).bind fun apt texts8 cleaning => ?_
  refine (command _ _ _).bind fun journal texts9 vacuuming => ?_
  refine (command _ _ _).bind fun fstrim texts10 trimming => ?_
  simp only [Program.ends_pure, List.append_nil, List.nil_append]
  apply (roots.within (by simp)).append
  apply (caches.within (by simp)).append
  apply (building.within (by simp)).append
  apply (pruning.within (by simp)).append
  apply (run.within fun _ inside => by simp [inside]).append
  apply (removing.within (by simp)).append
  apply (volumes.within (by simp)).append
  apply (cleaning.within (by simp)).append
  exact (vacuuming.within (by simp)).append (trimming.within (by simp))

end Civm.JobHook
