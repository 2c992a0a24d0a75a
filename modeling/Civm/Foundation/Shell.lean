import Mathlib.Data.List.Infix

/-! # The commands of a shell text

How a POSIX shell takes a text apart: blanks, single and double quotes, comments,
and lists of simple commands joined by `&&`. The reader follows a text only where
nothing is expanded but the positional parameters `"$@"`, and gives up at
everything else. -/

namespace Civm.Shell

inductive Piece
  | char (value : Char)
  | arguments
  deriving DecidableEq

def Piece.char? : Piece → Option Char
  | .char value => some value
  | .arguments => none

abbrev Word := List Piece

def text (value : List Char) : Word := value.map .char

inductive Token
  | word (pieces : Word)
  | and
  | newline
  deriving DecidableEq

/-- Where the reader stands. In `escape` it has read a backslash between double
quotes, in `parameters` the dollar sign of `$@`, and in `operator` the first half of
`&&`. -/
inductive Quoting
  | bare
  | operator
  | comment
  | single
  | double
  | escape
  | parameters
  deriving DecidableEq

/-- Whether a dollar sign before this text begins an expansion. -/
def startsExpansion : List Char → Bool
  | [] => false
  | char :: _ => char.isAlphanum || "_\x7b(@*#?-$!".toList.contains char

/-- The characters that a backslash quotes between double quotes. -/
def escapable : List Char := ['$', '\x60', '"', '\\']

/-- The unquoted characters at which the reader gives up: other operators,
expansions and assignments. -/
def special : List Char := "\\$\x60|;<>()*?[]{}~!=".toList

/-- The word read so far, and none between two words. -/
def push (word : Option Word) (piece : Piece) : Option Word := some (word.getD [] ++ [piece])

def flush : Option Word → List Token
  | none => []
  | some pieces => [.word pieces]

def lex : Quoting → Option Word → List Char → Option (List Token)
  | .bare, word, [] => some (flush word)
  | .comment, _, [] => some []
  | _, _, [] => none
  | .bare, word, char :: rest =>
    if char = ' ' ∨ char = '\t' then (lex .bare none rest).map (flush word ++ ·)
    else if char = '\n' then (lex .bare none rest).map (flush word ++ .newline :: ·)
    else if char = '\'' then lex .single (some (word.getD [])) rest
    else if char = '"' then lex .double (some (word.getD [])) rest
    else if char = '#' ∧ word = none then lex .comment none rest
    else if char = '&' then
      if rest.head? = some '&' then (lex .operator none rest).map (flush word ++ ·) else none
    else if char ∈ special then none
    else lex .bare (push word (.char char)) rest
  | .operator, _, _ :: rest => (lex .bare none rest).map (.and :: ·)
  | .comment, _, char :: rest =>
    if char = '\n' then (lex .bare none rest).map (.newline :: ·) else lex .comment none rest
  | .single, word, char :: rest =>
    if char = '\'' then lex .bare word rest else lex .single (push word (.char char)) rest
  | .double, word, char :: rest =>
    if char = '"' then lex .bare word rest
    else if char = '\\' then lex .escape word rest
    else if char = '\x60' then none
    else if char = '$' then
      if rest.head? = some '@' then lex .parameters word rest
      else if startsExpansion rest then none
      else lex .double (push word (.char '$')) rest
    else lex .double (push word (.char char)) rest
  | .escape, word, char :: rest =>
    if char = '\n' then lex .double word rest
    else if char ∈ escapable then lex .double (push word (.char char)) rest
    else lex .double (push (push word (.char '\\')) (.char char)) rest
  | .parameters, word, _ :: rest => lex .double (push word .arguments) rest

/-- The tokens of a text without NUL bytes. -/
def tokens (source : List Char) : Option (List Token) :=
  if '\x00' ∈ source then none else lex .bare none source

/-! ## Simple commands -/

/-- The lines of a text, each a list of simple commands joined by `&&`. -/
def lines : List Token → List (List (List Word))
  | [] => [[[]]]
  | .newline :: rest => [[]] :: lines rest
  | .and :: rest =>
    match lines rest with
    | [] => [[[], []]]
    | line :: others => ([] :: line) :: others
  | .word word :: rest =>
    match lines rest with
    | (command :: line) :: others => ((word :: command) :: line) :: others
    | others => [[word]] :: others

/-- The fields a word stands for, given the positional parameters. -/
def fields (parameters : List (List Char)) (word : Word) : Option (List (List Char)) :=
  if word = [.arguments] then some parameters
  else (word.mapM Piece.char?).map ([·])

/-- The words that begin a compound command. -/
def reserved : List (List Char) :=
  ["if", "then", "else", "elif", "fi", "do", "done", "case", "esac", "while", "until", "for",
    "in", "function", "select", "time", "coproc"].map String.toList

/-- The argument vector of a simple command. -/
def vector (parameters : List (List Char)) (command : List Word) :
    Option (List (List Char)) :=
  match (command.mapM (fields parameters)).map List.flatten with
  | some (name :: arguments) => if name ∈ reserved then none else some (name :: arguments)
  | _ => none

/-- The commands of a text, line by line. -/
def commands (parameters : List (List Char)) (source : List Char) :
    Option (List (List (List (List Char)))) :=
  match tokens source with
  | none => none
  | some read =>
    ((lines read).filter (· ≠ [[]])).mapM fun line => line.mapM (vector parameters)

/-! ## Reading one word -/

/-- A character that a bare word may hold. -/
def ordinary (char : Char) : Bool :=
  !(" \t\n'\"#&".toList ++ special).contains char

section

variable {value rest : List Char} {word : Word} {char : Char}

theorem lex_ordinary (word : Option Word) (plain : ordinary char = true) :
    lex .bare word (char :: rest) = lex .bare (push word (.char char)) rest := by
  simp [ordinary] at plain
  rw [lex]
  simp [plain]

theorem lex_bare (plain : value.all ordinary = true) :
    lex .bare (some word) (value ++ rest) = lex .bare (some (word ++ text value)) rest := by
  induction value generalizing word with
  | nil => simp [text]
  | cons char others induction =>
    rw [List.all_cons, Bool.and_eq_true] at plain
    rw [List.cons_append, lex_ordinary _ plain.1, push, Option.getD_some, induction plain.2]
    simp [text]

theorem lex_word (nonempty : value ≠ []) (plain : value.all ordinary = true) :
    lex .bare none (value ++ rest) = lex .bare (some (text value)) rest := by
  cases value with
  | nil => exact absurd rfl nonempty
  | cons char others =>
    rw [List.all_cons, Bool.and_eq_true] at plain
    rw [List.cons_append, lex_ordinary _ plain.1, push, lex_bare plain.2]
    rfl

theorem lex_blank :
    lex .bare (some word) (' ' :: rest) = (lex .bare none rest).map (.word word :: ·) := by
  simp [lex, flush]

theorem lex_newline :
    lex .bare (some word) ('\n' :: rest) =
      (lex .bare none rest).map (.word word :: .newline :: ·) := by
  simp [lex, flush]

theorem lex_word_blank (nonempty : value ≠ []) (plain : value.all ordinary = true) :
    lex .bare none (value ++ ' ' :: rest) =
      (lex .bare none rest).map (.word (text value) :: ·) := by
  rw [lex_word nonempty plain, lex_blank]

theorem lex_word_newline (nonempty : value ≠ []) (plain : value.all ordinary = true) :
    lex .bare none (value ++ '\n' :: rest) =
      (lex .bare none rest).map (.word (text value) :: .newline :: ·) := by
  rw [lex_word nonempty plain, lex_newline]

theorem lex_and :
    lex .bare none ('&' :: '&' :: ' ' :: rest) = (lex .bare none rest).map (.and :: ·) := by
  have first : lex .bare none ('&' :: '&' :: ' ' :: rest) =
    (lex .operator none ('&' :: ' ' :: rest)).map (flush none ++ ·) := rfl
  have second : lex .operator none ('&' :: ' ' :: rest) =
    (lex .bare none (' ' :: rest)).map (.and :: ·) := rfl
  have third : lex .bare none (' ' :: rest) = (lex .bare none rest).map (flush none ++ ·) := rfl
  rw [first, second, third]
  simp [flush, Function.comp_def]

theorem fields_text (parameters : List (List Char)) (value : List Char) :
    fields parameters (text value) = some [value] := by
  have mapped : (text value).mapM Piece.char? = some value := by
    induction value with
    | nil => rfl
    | cons char others induction => simp_all [text, List.mapM_cons, Piece.char?]
  have different : text value ≠ [.arguments] := by
    cases value <;> simp [text]
  simp [fields, different, mapped]

end

/-! ## Commands of literal words -/

section

variable (parameters : List (List Char))

theorem commands_of_tokens {source : List Char} {read : List Token}
    {parsed : List (List (List Word))} (lexed : tokens source = some read)
    (grouped : (lines read).filter (· ≠ [[]]) = parsed) :
    commands parameters source = parsed.mapM fun line => line.mapM (vector parameters) := by
  rw [commands, lexed, ← grouped]

theorem lines_words (words : List Word) : lines (words.map .word) = [[words]] := by
  induction words with
  | nil => rfl
  | cons word others induction => rw [List.map_cons, lines, induction]

theorem lines_and (before after : List Word) :
    lines (before.map .word ++ .and :: after.map .word) = [[before, after]] := by
  induction before with
  | nil => rw [List.map_nil, List.nil_append, lines, lines_words]
  | cons word others induction => rw [List.map_cons, List.cons_append, lines, induction]

theorem mapM_fields_texts (values : List (List Char)) :
    (values.map text).mapM (fields parameters) = some (values.map fun value => [value]) := by
  induction values with
  | nil => rfl
  | cons value others induction => simp [List.mapM_cons, fields_text, induction]

theorem vector_texts {name : List Char} (free : name ∉ reserved) (values : List (List Char)) :
    vector parameters (text name :: values.map text) = some (name :: values) := by
  have mapped := mapM_fields_texts parameters (name :: values)
  rw [List.map_cons] at mapped
  simp [vector, mapped, free, ← List.flatMap_def]

theorem vector_texts_arguments {name : List Char} (free : name ∉ reserved)
    (values : List (List Char)) :
    vector parameters (text name :: (values.map text ++ [[.arguments]])) =
      some (name :: (values ++ parameters)) := by
  have mapped := mapM_fields_texts parameters (name :: values)
  rw [List.map_cons] at mapped
  have all : (text name :: (values.map text ++ [[.arguments]])).mapM (fields parameters) =
    some ((name :: values).map (fun value => [value]) ++ [parameters]) := by
    rw [← List.cons_append, List.mapM_append, mapped]
    simp [fields]
  simp [vector, all, free, ← List.flatMap_def]

end

/-! ## Words from fields -/

theorem eq_text_of_mapM {word : Word} {value : List Char}
    (spelled : word.mapM Piece.char? = some value) : word = text value := by
  induction word generalizing value with
  | nil =>
    cases spelled
    rfl
  | cons piece others induction =>
    rw [List.mapM_cons] at spelled
    cases piece with
    | arguments => cases spelled
    | char first =>
      cases rest : others.mapM Piece.char? with
      | none => simp [rest, Piece.char?] at spelled
      | some tail =>
        simp only [rest, Piece.char?] at spelled
        cases spelled
        rw [induction rest]
        rfl

/-- Without parameters a word stands for one field, unless it is `"$@"`. -/
theorem eq_text_of_fields {word : Word} {read : List (List Char)}
    (expanded : fields [] word = some read) :
    read = [] ∨ ∃ value, read = [value] ∧ word = text value := by
  unfold fields at expanded
  split at expanded
  · exact .inl (Option.some.inj expanded).symm
  · rcases Option.map_eq_some_iff.mp expanded with ⟨value, spelled, rfl⟩
    exact .inr ⟨value, rfl, eq_text_of_mapM spelled⟩

theorem eq_texts_of_mapM {words : List Word} {parts : List (List (List Char))}
    (expanded : words.mapM (fields []) = some parts) :
    parts.flatten.length ≤ words.length ∧
      (words.length = parts.flatten.length → words = parts.flatten.map text) := by
  induction words generalizing parts with
  | nil =>
    cases expanded
    simp
  | cons word others induction =>
    rw [List.mapM_cons] at expanded
    cases here : fields [] word with
    | none => simp [here] at expanded
    | some read =>
      cases rest : others.mapM (fields []) with
      | none => simp [here, rest] at expanded
      | some tail =>
        simp only [here, rest] at expanded
        cases expanded
        rcases induction rest with ⟨shorter, exact⟩
        rcases eq_text_of_fields here with rfl | ⟨value, rfl, rfl⟩
        · simp only [List.flatten_cons, List.nil_append, List.length_cons]
          omega
        · simp only [List.flatten_cons, List.singleton_append, List.length_cons,
            List.map_cons]
          exact ⟨by omega, fun same => by rw [← exact (by omega)]⟩

theorem eq_texts_of_vector {words : List Word} {values : List (List Char)}
    (run : vector [] words = some values) (same : words.length = values.length) :
    words = values.map text := by
  unfold vector at run
  split at run
  · rename_i name arguments flattened
    split at run
    · cases run
    · cases run
      rcases Option.map_eq_some_iff.mp flattened with ⟨parts, expanded, flat⟩
      rw [← flat]
      exact (eq_texts_of_mapM expanded).2 (by rw [flat, same])
  · cases run

theorem vector_texts_iff {values : List (List Char)} {words : List Word}
    (free : ∃ name arguments, values = name :: arguments ∧ name ∉ reserved)
    (same : words.length = values.length) :
    vector [] words = some values ↔ words = values.map text := by
  constructor
  · exact fun run => eq_texts_of_vector run same
  · rcases free with ⟨name, arguments, rfl, free⟩
    intro spelled
    rw [spelled, List.map_cons, vector_texts [] free]

end Civm.Shell
