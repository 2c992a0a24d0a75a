import Civm.Foundation.GoError
import Civm.Foundation.Words

/-! # Checks of names

The checks of package `civm` that several commands make of what they are given. -/

namespace Civm.Common

abbrev Error := GoError Empty Empty

def isRepoChar (extra : List Char) (char : Char) : Bool :=
  char.isAlpha || char.isDigit || extra.contains char

/-- `^[A-Za-z0-9][A-Za-z0-9-]{0,38}/[A-Za-z0-9._-]{1,100}$`. -/
def validateRepo (repo : String) : Option Error :=
  let matches_ := match Text.cut '/' repo.toList with
    | some (first :: owner, name) =>
      isRepoChar [] first && owner.all (isRepoChar ['-']) && owner.length ≤ 38 &&
        name.all (isRepoChar ['.', '_', '-']) && 1 ≤ name.length && name.length ≤ 100
    | _ => false
  if matches_ then none
  else some (.text ("repo deve ter formato owner/repo seguro, got \"" ++ repo ++ "\""))

/-- `^[A-Za-z0-9][A-Za-z0-9_-]{0,63}$`, the form of shorts and of labels. -/
def isShort (value : List Char) : Bool :=
  match value with
  | [] => false
  | first :: rest => isRepoChar [] first && rest.all (isRepoChar ['_', '-']) && rest.length ≤ 63

def validateShort (short : String) : Option Error :=
  if isShort short.toList then none
  else some (.text ("short deve conter apenas letras, numeros, _ ou -, got \"" ++ short ++ "\""))

def validateLabel (label : List Char) : Option Error :=
  let label := Text.trimSpace (String.ofList label)
  if isShort label.toList then none else some (.text ("label invalido \"" ++ label ++ "\""))

def validateLabels (labels : String) : Option Error :=
  if labels = "" then some (.text "label obrigatorio")
  else (labels.toList.splitOn ',').findSome? validateLabel

/-- `^[0-9]+[.][0-9]+[.][0-9]+$`. -/
def validateSemver (value field : String) : Option Error :=
  let parts := value.toList.splitOn '.'
  if parts.length = 3 ∧ parts.all fun part => part ≠ [] && part.all Char.isDigit then none
  else some (.text (field ++ " deve usar semver x.y.z, got \"" ++ value ++ "\""))

/-- `^[A-Za-z_][A-Za-z0-9_-]{0,63}$`. -/
def isUserName (name : List Char) : Bool :=
  match name with
  | [] => false
  | first :: rest =>
    (first.isAlpha || first = '_') && rest.all (isRepoChar ['_', '-']) && rest.length ≤ 63

def validateUserName (name : String) : Option Error :=
  if isUserName name.toList then none else some (.text ("run-as invalido: \"" ++ name ++ "\""))

def cleanDir (path field : String) : Except Error String :=
  if Text.trimSpace path = "" then .error (.text (field ++ " obrigatorio"))
  else if path.toList.contains '\x00' then .error (.text (field ++ " contem byte NUL"))
  else if Text.clean path = "." then .error (.text (field ++ " nao pode ser diretorio atual"))
  else .ok (Text.clean path)

/-- A directory that has to be given as `filepath.Clean` leaves it. -/
def validateDir (path field : String) : Option Error :=
  match cleanDir path field with
  | .error error => some error
  | .ok cleaned =>
    if cleaned = path then none
    else
      some (.text (field ++ " deve estar normalizado, got \"" ++ path ++ "\" want \"" ++
        cleaned ++ "\""))

/-! ## What the checks accept -/

theorem isRepoChar_of_nil {extra : List Char} {char : Char} (checked : isRepoChar [] char = true) :
    isRepoChar extra char = true := by
  simp only [isRepoChar, List.contains_nil, Bool.or_false] at checked
  simp [isRepoChar, checked]

theorem chars_of_isShort {value : List Char} (checked : isShort value = true) :
    ∀ char ∈ value, isRepoChar ['_', '-'] char = true := by
  cases value with
  | nil => cases checked
  | cons first rest =>
    simp only [isShort, Bool.and_eq_true, List.all_eq_true] at checked
    exact List.forall_mem_cons.mpr ⟨isRepoChar_of_nil checked.1.1, checked.1.2⟩

theorem chars_of_validateShort {short : String} (accepted : validateShort short = none) :
    ∀ char ∈ short.toList, isRepoChar ['_', '-'] char = true := by
  unfold validateShort at accepted
  split at accepted
  · rename_i checked
    exact chars_of_isShort checked
  · cases accepted

theorem chars_of_isUserName {value : List Char} (checked : isUserName value = true) :
    ∀ char ∈ value, isRepoChar ['_', '-'] char = true := by
  cases value with
  | nil => cases checked
  | cons first rest =>
    simp only [isUserName, Bool.and_eq_true, Bool.or_eq_true, decide_eq_true_eq,
      List.all_eq_true] at checked
    have head : isRepoChar ['_', '-'] first = true := by
      rcases checked.1.1 with alphabetic | equal
      · simp [isRepoChar, alphabetic]
      · rw [equal]
        decide
    exact List.forall_mem_cons.mpr ⟨head, checked.1.2⟩

theorem chars_of_validateUserName {name : String} (accepted : validateUserName name = none) :
    ∀ char ∈ name.toList, isRepoChar ['_', '-'] char = true := by
  unfold validateUserName at accepted
  split at accepted
  · rename_i checked
    exact chars_of_isUserName checked
  · cases accepted

theorem chars_of_validateRepo {repo : String} (accepted : validateRepo repo = none) :
    ∀ char ∈ repo.toList, isRepoChar ['/', '.', '_', '-'] char = true := by
  have wider : ∀ extra ⊆ ['/', '.', '_', '-'], ∀ char, isRepoChar extra char = true →
    isRepoChar ['/', '.', '_', '-'] char = true := by
    intro extra among char checked
    simp only [isRepoChar, Bool.or_eq_true, List.contains_iff_mem] at checked ⊢
    exact checked.imp_right fun member => among member
  unfold validateRepo at accepted
  dsimp only at accepted
  split at accepted
  · rename_i first owner name split
    split at accepted
    · rename_i checked
      simp only [Bool.and_eq_true, List.all_eq_true] at checked
      rcases checked with ⟨⟨⟨⟨⟨firstChecked, ownerChecked⟩, _⟩, nameChecked⟩, _⟩, _⟩
      intro char member
      rw [(Text.eq_of_cut split).1] at member
      rcases List.mem_append.mp member with inOwner | inName
      · rcases List.mem_cons.mp inOwner with equal | member
        · exact isRepoChar_of_nil (equal ▸ firstChecked)
        · exact wider _ (by decide) _ (ownerChecked char member)
      · rcases List.mem_cons.mp inName with equal | member
        · rw [equal]
          decide
        · exact wider _ (by decide) _ (nameChecked char member)
    · cases accepted
  · cases accepted

theorem clean_of_validateDir {path field : String} (accepted : validateDir path field = none) :
    Text.clean path = path ∧ path ≠ "." := by
  unfold validateDir cleanDir at accepted
  split at accepted
  · cases accepted
  · rename_i cleaned found
    split at accepted
    · rename_i same
      subst same
      split at found
      · cases found
      · split at found
        · cases found
        · split at found
          · cases found
          · rename_i notDot
            have equal : Text.clean cleaned = cleaned := Except.ok.inj found
            exact ⟨equal, equal ▸ notDot⟩
    · cases accepted

end Civm.Common
