import Civm.Foundation.Lines
import Civm.Foundation.Paths
import Civm.HookInstall.Install

/-! # The environment files

What `upsertEnv` writes are lines: no setting has a newline in it. -/

namespace Civm.HookInstall

variable {opts : InstallOptions} {slot : String} {base : Int} {data : List Char}

theorem newline_notMem_clean {path : String} (oneLine : '\n' ∉ path.toList) :
    '\n' ∉ (Text.clean path).toList := by
  intro newline
  rw [Text.clean, String.toList_ofList] at newline
  rcases Text.mem_of_mem_cleanChars newline with member | slash | dot
  · exact oneLine member
  · exact absurd slash (by decide)
  · exact absurd dot (by decide)

theorem newline_notMem_repr (base : Int) : '\n' ∉ base.repr.toList := by
  have digits (number : Nat) : '\n' ∉ number.repr.toList := by
    intro newline
    rw [Nat.repr, String.toList_ofList] at newline
    exact absurd (Nat.isDigit_of_mem_toDigits (by decide) (by decide) newline) (by decide)
  cases base with
  | ofNat number => exact digits number
  | negSucc number =>
    rw [Int.repr, String.toList_append]
    intro newline
    rcases List.mem_append.mp newline with sign | newline
    · exact absurd sign (by decide)
    · exact digits _ newline

theorem newline_notMem_settingLine {key value : String} (plain : '\n' ∉ key.toList)
    (oneLine : '\n' ∉ value.toList) : '\n' ∉ settingLine (key, value) := by
  rw [settingLine, List.mem_append, List.mem_cons]
  rintro (newline | newline | newline)
  · exact plain newline
  · exact absurd newline (by decide)
  · exact oneLine newline

theorem newline_notMem_hookSettings (hooksDir : '\n' ∉ opts.hooksDir.toList) :
    ∀ setting ∈ hookSettings opts, '\n' ∉ settingLine setting := by
  intro setting among
  have hooks (name : String) (plain : '\n' ∉ name.toList) :
    '\n' ∉ (Text.join opts.hooksDir name).toList := by
    apply newline_notMem_clean
    simpa [hooksDir] using plain
  simp only [hookSettings, List.mem_cons, List.not_mem_nil, or_false] at among
  rcases among with rfl | rfl
  · exact newline_notMem_settingLine (by decide) (hooks _ (by decide))
  · exact newline_notMem_settingLine (by decide) (hooks _ (by decide))

theorem envLines_oneLine {extra : List (String × String)}
    (hooksDir : '\n' ∉ opts.hooksDir.toList)
    (oneLine : ∀ setting ∈ extra, '\n' ∉ settingLine setting) :
    ∀ line ∈ envLines opts data extra, '\n' ∉ line := by
  intro line member
  rcases List.mem_append.mp member with member | extra
  · rcases List.mem_append.mp member with kept | hook
    · exact Text.oneLine_of_mem_splitOn (List.mem_filter.mp kept).1
    · rcases List.mem_map.mp hook with ⟨setting, among, rfl⟩
      exact newline_notMem_hookSettings hooksDir setting among
  · rcases List.mem_map.mp extra with ⟨setting, among, rfl⟩
    rw [List.mem_insertionSort] at among
    exact oneLine setting among

theorem splitOn_envLines {extra : List (String × String)}
    (hooksDir : '\n' ∉ opts.hooksDir.toList)
    (oneLine : ∀ setting ∈ extra, '\n' ∉ settingLine setting) :
    (['\n'].intercalate (envLines opts data extra) ++ ['\n']).splitOn '\n' =
      envLines opts data extra ++ [[]] := by
  apply Text.splitOn_intercalate_newline
  · simp [envLines, hookSettings]
  · exact envLines_oneLine hooksDir oneLine

end Civm.HookInstall
