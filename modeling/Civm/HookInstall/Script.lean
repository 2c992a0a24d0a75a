import Civm.Foundation.Shell
import Civm.Hook.WorkRoots

/-! # The hook scripts

`hook.ScriptContent`: the script that a runner starts before and after every job,
with the path of the program quoted for the shell. -/

namespace Civm.HookInstall

def eventName : Hook.Event → String
  | .jobStarted => "job-started"
  | .jobCompleted => "job-completed"
  | .unsupported name => name

def replaceQuotes (value : List Char) : List Char :=
  value.flatMap fun char => if char = '\'' then "'\"'\"'".toList else [char]

def shellQuote (value : String) : String :=
  String.ofList ('\'' :: (replaceQuotes value.toList ++ ['\'']))

def scriptContent (civmctlPath : String) (event : Hook.Event) : String :=
  "#!/usr/bin/env bash\nset -euo pipefail\nexec " ++ shellQuote civmctlPath ++ " hook " ++
    eventName event ++ " --execute \"$@\"\n"

/-- The argument vector that `exec` hands over; a leading dash would be an option of its
own. -/
def execVector : List (List Char) → Option (List (List Char))
  | name :: program :: arguments =>
    if name = "exec".toList ∧ program.head? ≠ some '-' then some (program :: arguments) else none
  | _ => none

/-! ## The quoted path -/

theorem lex_replaceQuotes (word : Shell.Word) (value rest : List Char) :
    Shell.lex .single (some word) (replaceQuotes value ++ '\'' :: rest) =
      Shell.lex .bare (some (word ++ Shell.text value)) rest := by
  induction value generalizing word with
  | nil => simp [replaceQuotes, Shell.lex, Shell.text]
  | cons char others induction =>
    by_cases quote : char = '\''
    · -- the quotation is left, a double-quoted quote is read, and it is entered again
      subst quote
      have reentered : Shell.lex .single (some word)
        (replaceQuotes ('\'' :: others) ++ '\'' :: rest) =
          Shell.lex .single (some (word ++ [.char '\'']))
            (replaceQuotes others ++ '\'' :: rest) := rfl
      rw [reentered, induction]
      simp [Shell.text]
    · have kept : replaceQuotes (char :: others) = char :: replaceQuotes others := by
        simp [replaceQuotes, quote]
      rw [kept, List.cons_append, Shell.lex, if_neg quote, Shell.push, Option.getD_some,
        induction]
      simp [Shell.text]

theorem lex_shellQuote (value : String) (rest : List Char) :
    Shell.lex .bare none ((shellQuote value).toList ++ rest) =
      Shell.lex .bare (some (Shell.text value.toList)) rest := by
  have entered : Shell.lex .bare none
    ('\'' :: (replaceQuotes value.toList ++ '\'' :: rest)) =
      Shell.lex .single (some []) (replaceQuotes value.toList ++ '\'' :: rest) := rfl
  rw [shellQuote, String.toList_ofList, List.cons_append, List.append_assoc, List.singleton_append,
    entered, lex_replaceQuotes, List.nil_append]

theorem mem_replaceQuotes {value : List Char} {char : Char}
    (member : char ∈ replaceQuotes value) : char ∈ value ∨ char = '\'' ∨ char = '"' := by
  rcases List.mem_flatMap.mp member with ⟨source, among, written⟩
  split at written
  · have quotes : ("'\"'\"'".toList.all fun char => char = '\'' || char = '"') = true := by decide
    have quote := List.all_eq_true.mp quotes char written
    simp only [Bool.or_eq_true, decide_eq_true_eq] at quote
    exact .inr quote
  · rw [List.mem_singleton] at written
    exact .inl (written ▸ among)

/-! ## The script -/

theorem lex_header (rest : List Char) :
    Shell.lex .bare none ("#!/usr/bin/env bash\nset -euo pipefail\nexec ".toList ++ rest) =
      (Shell.lex .bare none rest).map
        ([.newline, .word (Shell.text "set".toList), .word (Shell.text "-euo".toList),
          .word (Shell.text "pipefail".toList), .newline,
          .word (Shell.text "exec".toList)] ++ ·) := by
  have commented : Shell.lex .bare none
    ("#!/usr/bin/env bash\nset -euo pipefail\nexec ".toList ++ rest) =
      (Shell.lex .bare none ("set".toList ++ ' ' :: ("-euo".toList ++ ' ' ::
        ("pipefail".toList ++ '\n' :: ("exec".toList ++ ' ' :: rest))))).map
          (.newline :: ·) := rfl
  rw [commented, Shell.lex_word_blank (by decide) (by decide),
    Shell.lex_word_blank (by decide) (by decide), Shell.lex_word_newline (by decide) (by decide),
    Shell.lex_word_blank (by decide) (by decide)]
  simp [Function.comp_def]

theorem lex_trailer {event : List Char} (nonempty : event ≠ [])
    (plain : event.all Shell.ordinary = true) :
    Shell.lex .bare none ("hook ".toList ++ (event ++ " --execute \"$@\"\n".toList)) =
      some [.word (Shell.text "hook".toList), .word (Shell.text event),
        .word (Shell.text "--execute".toList), .word [.arguments], .newline] := by
  have last : Shell.lex .bare none "\"$@\"\n".toList =
    some [.word [.arguments], .newline] := by decide
  have opened : "hook ".toList ++ (event ++ " --execute \"$@\"\n".toList) =
    "hook".toList ++ ' ' :: (event ++ ' ' ::
      ("--execute".toList ++ ' ' :: "\"$@\"\n".toList)) := by simp
  rw [opened, Shell.lex_word_blank (by decide) (by decide),
    Shell.lex_word_blank nonempty plain, Shell.lex_word_blank (by decide) (by decide), last]
  rfl

theorem toList_appends (first second third fourth fifth : String) :
    (first ++ second ++ third ++ fourth ++ fifth).toList =
      first.toList ++ (second.toList ++ (third.toList ++ (fourth.toList ++ fifth.toList))) := by
  simp

theorem toList_scriptContent (civmctlPath : String) (event : Hook.Event) :
    (scriptContent civmctlPath event).toList =
      "#!/usr/bin/env bash\nset -euo pipefail\nexec ".toList ++
        ((shellQuote civmctlPath).toList ++ (" hook ".toList ++
          ((eventName event).toList ++ " --execute \"$@\"\n".toList))) :=
  toList_appends _ _ _ _ _

theorem tokens_scriptContent {civmctlPath : String} {event : Hook.Event}
    (known : event ∈ [.jobStarted, .jobCompleted]) (noNul : '\x00' ∉ civmctlPath.toList) :
    Shell.tokens (scriptContent civmctlPath event).toList =
      some [.newline, .word (Shell.text "set".toList), .word (Shell.text "-euo".toList),
        .word (Shell.text "pipefail".toList), .newline, .word (Shell.text "exec".toList),
        .word (Shell.text civmctlPath.toList), .word (Shell.text "hook".toList),
        .word (Shell.text (eventName event).toList), .word (Shell.text "--execute".toList),
        .word [.arguments], .newline] := by
  have named : (eventName event).toList ≠ [] ∧
    (eventName event).toList.all Shell.ordinary = true ∧ '\x00' ∉ (eventName event).toList := by
    rcases List.mem_pair.mp known with rfl | rfl <;> decide
  have readable : '\x00' ∉ (scriptContent civmctlPath event).toList := by
    have quoted : '\x00' ∉ replaceQuotes civmctlPath.toList := by
      intro member
      rcases mem_replaceQuotes member with member | equal | equal
      · exact noNul member
      · cases equal
      · cases equal
    have path : '\x00' ∉ (shellQuote civmctlPath).toList := by
      simpa only [shellQuote, String.toList_ofList, List.mem_cons, List.mem_append,
        List.not_mem_nil, or_false, not_or] using ⟨by decide, quoted, by decide⟩
    simp only [toList_scriptContent, List.mem_append, not_or]
    exact ⟨by decide, path, by decide, named.2.2, by decide⟩
  have spaced : ∀ rest, " hook ".toList ++ rest = ' ' :: ("hook ".toList ++ rest) := fun _ => rfl
  rw [Shell.tokens, if_neg readable, toList_scriptContent, lex_header, lex_shellQuote, spaced,
    Shell.lex_blank, lex_trailer named.1 named.2.1]
  rfl

/-- The commands of the script, for every program path and every vector of arguments. -/
theorem script_hands_over (civmctlPath : String) (event : Hook.Event)
    (known : event ∈ [.jobStarted, .jobCompleted]) (absolute : Text.isAbs civmctlPath = true)
    (noNul : '\x00' ∉ civmctlPath.toList) (arguments : List (List Char)) :
    (∃ handover,
      Shell.commands arguments (scriptContent civmctlPath event).toList =
          some [[["set", "-euo", "pipefail"].map String.toList], [handover]] ∧
        execVector handover =
          some (civmctlPath.toList :: "hook".toList :: (eventName event).toList ::
            "--execute".toList :: arguments)) ∧
      ∀ value, Shell.lex .bare none (shellQuote value).toList =
        some [.word (Shell.text value.toList)] := by
  constructor
  · have dashless : civmctlPath.toList.head? ≠ some '-' := by
      rw [show civmctlPath.toList.head? = some '/' from of_decide_eq_true absolute]
      decide
    apply Exists.intro ("exec".toList :: civmctlPath.toList :: "hook".toList ::
      (eventName event).toList :: "--execute".toList :: arguments)
    constructor
    · have settings := Shell.vector_texts arguments (by decide : "set".toList ∉ Shell.reserved)
        ["-euo".toList, "pipefail".toList]
      have handover := Shell.vector_texts_arguments arguments
        (by decide : "exec".toList ∉ Shell.reserved)
        [civmctlPath.toList, "hook".toList, (eventName event).toList, "--execute".toList]
      rw [Shell.commands_of_tokens arguments (tokens_scriptContent known noNul) rfl]
      change List.mapM _ [[_], [_]] = _
      simp only [List.mapM_cons, List.mapM_nil]
      simp only [List.map_cons, List.map_nil, List.cons_append, List.nil_append] at settings handover
      rw [settings, handover]
      rfl
    · simp [execVector, dashless]
  · intro value
    have read := lex_shellQuote value []
    rw [List.append_nil] at read
    rw [read]
    rfl

theorem quoted_program_is_handed_over :
    Text.isAbs "/opt/it's here/civmctl" = true ∧
      ∃ handover,
        Shell.commands ["1".toList]
            (scriptContent "/opt/it's here/civmctl" .jobStarted).toList =
          some [[["set", "-euo", "pipefail"].map String.toList], [handover]] ∧
          execVector handover = some (["/opt/it's here/civmctl", "hook", "job-started",
            "--execute", "1"].map String.toList) :=
  ⟨by decide, (script_hands_over "/opt/it's here/civmctl" .jobStarted (by decide) (by decide)
    (by decide) ["1".toList]).1⟩

end Civm.HookInstall
