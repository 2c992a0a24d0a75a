import Mathlib.Algebra.Group.Nat.Defs
import Civm.Foundation.Shell
import Civm.Foundation.Text

/-! # Go's quotation read by a shell

The verb `%q` writes a text in double quotes as a Go string literal. A shell reads
the same quotes by its own rules: a dollar sign or a backtick between them begins
an expansion, and of the escapes of Go it knows only those of the quote and the
backslash. -/

namespace Civm.GoQuote

/-- `strconv.IsPrint`, with the table for the characters outside ASCII as a
parameter. -/
def isPrint (table : Char → Bool) (char : Char) : Bool :=
  if char.toNat < 0x80 then 0x20 ≤ char.toNat && char.toNat < 0x7f else table char

def hexadecimal (width value : Nat) : List Char :=
  (List.range width).reverse.map fun position => Text.hexDigit (value / 16 ^ position % 16)

def namedEscapes : List (Char × Char) :=
  [('\x07', 'a'), ('\x08', 'b'), ('\x0c', 'f'), ('\n', 'n'), ('\r', 'r'), ('\t', 't'),
    ('\x0b', 'v')]

/-- How a character that cannot be printed is written, after the backslash. -/
def escape (char : Char) : List Char :=
  match namedEscapes.lookup char with
  | some name => [name]
  | none =>
    if char.toNat < 0x20 ∨ char.toNat = 0x7f then 'x' :: hexadecimal 2 char.toNat
    else if char.toNat < 0x10000 then 'u' :: hexadecimal 4 char.toNat
    else 'U' :: hexadecimal 8 char.toNat

/-- `strconv.appendEscapedRune` for double quotes. -/
def quoteChar (table : Char → Bool) (char : Char) : List Char :=
  if char = '"' ∨ char = '\\' then ['\\', char]
  else if isPrint table char then [char]
  else '\\' :: escape char

/-- `strconv.Quote`. -/
def quote (table : Char → Bool) (value : List Char) : List Char :=
  '"' :: (value.flatMap (quoteChar table) ++ ['"'])

/-! ## What a shell makes of it -/

section

variable (table : Char → Bool)

/-- What a shell reads between the double quotes, unless it comes to an expansion; the
flag is set behind the dollar sign of `$@`. -/
def heard : Bool → List Char → Option Shell.Word
  | _, [] => some []
  | true, _ :: rest => (heard false rest).map (.arguments :: ·)
  | false, char :: rest =>
    if char = '\x60' then none
    else if char = '$' then
      if rest.head? = some '@' then heard true rest
      else if Shell.startsExpansion rest then none
      else (heard false rest).map (.char '$' :: ·)
    else if isPrint table char then (heard false rest).map (.char char :: ·)
    else (heard false rest).map (Shell.text ('\\' :: escape char) ++ ·)

/-- A text without characters that cannot be printed, and without a backtick or the
beginning of an expansion. -/
def literal : List Char → Bool
  | [] => true
  | char :: rest =>
    isPrint table char && !(char = '\x60' || char = '$' && Shell.startsExpansion rest) &&
      literal rest

variable {table}

theorem toNat_of_isAlphanum {char : Char} (alphanumeric : char.isAlphanum = true) :
    0x30 ≤ char.toNat ∧ char.toNat ≤ 0x39 ∨ 0x41 ≤ char.toNat ∧ char.toNat ≤ 0x5a ∨
      0x61 ≤ char.toNat ∧ char.toNat ≤ 0x7a := by
  delta Char.isAlphanum Char.isAlpha Char.isUpper Char.isLower Char.isDigit at alphanumeric
  simp [UInt32.le_iff_toNat_le] at alphanumeric
  have same : char.toNat = char.val.toNat := rfl
  omega

theorem isPrint_of_starts {char : Char} {rest : List Char}
    (starts : Shell.startsExpansion (char :: rest) = true) : isPrint table char = true := by
  rw [Shell.startsExpansion, Bool.or_eq_true] at starts
  rcases starts with alphanumeric | special
  · have range := toNat_of_isAlphanum alphanumeric
    have ascii : char.toNat < 0x80 := by omega
    simp only [isPrint, ascii, if_true, Bool.and_eq_true, decide_eq_true_eq]
    omega
  · have printed : ("_\x7b(@*#?-$!".toList.all fun char =>
      char.toNat < 0x80 && 0x20 ≤ char.toNat && char.toNat < 0x7f) = true := by decide
    have range := List.all_eq_true.mp printed char (List.contains_iff_mem.mp special)
    simp only [Bool.and_eq_true, decide_eq_true_eq] at range
    simp [isPrint, range.1, range.2]

/-- A shell reads the text itself exactly if it is literal. -/
theorem heard_eq_text_iff (value : List Char) :
    heard table false value = some (Shell.text value) ↔ literal table value = true := by
  induction value with
  | nil => simp [heard, literal, Shell.text]
  | cons char rest induction =>
    have mapped : ∀ first, (heard table false rest).map (first :: ·) =
      some (.char char :: Shell.text rest) ↔
        first = .char char ∧ heard table false rest = some (Shell.text rest) := by
      intro first
      cases heard table false rest <;> simp
    have shown : Shell.text (char :: rest) = .char char :: Shell.text rest := rfl
    rw [heard, literal, shown, Bool.and_eq_true, Bool.and_eq_true]
    split
    · simp_all
    · split
      · rename_i dollar
        subst dollar
        split
        · rename_i parameters
          have starts : Shell.startsExpansion rest = true := by
            cases rest with
            | nil => cases parameters
            | cons next others =>
              cases parameters
              rfl
          have different : heard table true rest ≠ some (.char '$' :: Shell.text rest) := by
            cases rest with
            | nil => cases parameters
            | cons next others => cases read : heard table false others <;> simp [heard, read]
          simp [different, starts]
        · split
          · simp_all
          · have printed : isPrint table '$' = true := by simp [isPrint]
            simp_all
      · split
        · simp_all
        · -- the escape begins with a backslash, which can be printed
          rename_i unprintable
          have different : char ≠ '\\' := by
            intro backslash
            subst backslash
            exact unprintable (by simp [isPrint])
          have escaped : (heard table false rest).map (Shell.text ('\\' :: escape char) ++ ·) ≠
            some (.char char :: Shell.text rest) := by
            cases heard table false rest <;> simp [Shell.text, Ne.symm different]
          simp [escaped, unprintable]

/-- A printable ASCII character that begins no expansion. -/
def calm (char : Char) : Bool :=
  0x20 ≤ char.toNat && char.toNat < 0x7f && char ≠ '$' && char ≠ '\x60'

theorem calm_of_isAlphanum {char : Char} (alphanumeric : char.isAlphanum = true) :
    calm char = true := by
  have others : (['$', '\x60'].all fun other => !other.isAlphanum) = true := by decide
  have different : ∀ other ∈ ['$', '\x60'], char ≠ other := by
    intro other member equal
    have no := List.all_eq_true.mp others other member
    rw [← equal, alphanumeric] at no
    cases no
  have range := toNat_of_isAlphanum alphanumeric
  simp only [calm, Bool.and_eq_true, decide_eq_true_eq]
  exact ⟨⟨⟨by omega, by omega⟩, different _ (by simp)⟩, different _ (by simp)⟩

theorem literal_of_calm {value : List Char} (calmed : value.all calm = true) :
    literal table value = true := by
  induction value with
  | nil => rfl
  | cons char rest induction =>
    rw [List.all_cons, Bool.and_eq_true] at calmed
    have here := calmed.1
    simp only [calm, Bool.and_eq_true, decide_eq_true_eq] at here
    have ascii : char.toNat < 0x80 := by omega
    simp [literal, isPrint, ascii, here, induction calmed.2]

theorem literal_append_slash (value rest : List Char) :
    literal table (value ++ '/' :: rest) = (literal table value && literal table rest) := by
  induction value with
  | nil =>
    have slash : literal table ('/' :: rest) = literal table rest := by simp [literal, isPrint]
    simpa [literal] using slash
  | cons char others induction =>
    have same : Shell.startsExpansion (others ++ '/' :: rest) =
      Shell.startsExpansion others := by
      cases others <;> rfl
    rw [List.cons_append, literal, literal, induction, same]
    simp only [Bool.and_assoc]

/-! ## The quotation as a shell word -/

/-- A character that stands for itself between double quotes. -/
def inner (char : Char) : Bool := !(['"', '\\', '\x60', '$'].contains char)

theorem lex_inner {word : Shell.Word} {value rest : List Char} (plain : value.all inner = true) :
    Shell.lex .double (some word) (value ++ rest) =
      Shell.lex .double (some (word ++ Shell.text value)) rest := by
  induction value generalizing word with
  | nil => simp [Shell.text]
  | cons char others induction =>
    rw [List.all_cons, Bool.and_eq_true] at plain
    have here := plain.1
    simp [inner] at here
    rw [List.cons_append, Shell.lex, if_neg here.1, if_neg here.2.1, if_neg here.2.2.1,
      if_neg here.2.2.2, Shell.push, Option.getD_some, induction plain.2]
    simp [Shell.text]

theorem escape_alphanumeric (char : Char) :
    ∃ first others, escape char = first :: others ∧ (first :: others).all Char.isAlphanum := by
  have digits : ∀ width value, (hexadecimal width value).all Char.isAlphanum = true := by
    intro width value
    have checked : ∀ digit : Fin 16, (Text.hexDigit digit).isAlphanum = true := by decide
    simp only [hexadecimal, List.all_map, List.all_eq_true, Function.comp_apply]
    intro position _
    exact checked ⟨value / 16 ^ position % 16, Nat.mod_lt _ (by decide)⟩
  unfold escape
  split
  · rename_i name found
    have named : ∀ entry ∈ namedEscapes, entry.2.isAlphanum = true := by decide
    rcases List.lookup_eq_some_iff.mp found with ⟨before, after, equal, _⟩
    have here := named (char, name) (by simp [equal])
    exact ⟨name, [], rfl, by simpa using here⟩
  · split
    · exact ⟨_, _, rfl, by simp [digits, Char.isAlphanum]⟩
    · split
      · exact ⟨_, _, rfl, by simp [digits, Char.isAlphanum]⟩
      · exact ⟨_, _, rfl, by simp [digits, Char.isAlphanum]⟩

theorem inner_of_isAlphanum {char : Char} (alphanumeric : char.isAlphanum = true) :
    inner char = true ∧ char ≠ '\n' := by
  have others : (['"', '\\', '\x60', '$', '\n'].all fun other => !other.isAlphanum) = true := by decide
  have different : ∀ other ∈ ['"', '\\', '\x60', '$', '\n'], char ≠ other := by
    intro other member equal
    have no := List.all_eq_true.mp others other member
    rw [← equal, alphanumeric] at no
    cases no
  simp_all [inner]

theorem lex_escape {word : Shell.Word} (char : Char) (rest : List Char) :
    Shell.lex .double (some word) ('\\' :: escape char ++ rest) =
      Shell.lex .double (some (word ++ Shell.text ('\\' :: escape char))) rest := by
  rcases escape_alphanumeric char with ⟨first, others, escaped, alphanumeric⟩
  rw [List.all_cons, Bool.and_eq_true] at alphanumeric
  rcases inner_of_isAlphanum alphanumeric.1 with ⟨plain, unbroken⟩
  have kept : first ∉ Shell.escapable := by
    simp [inner] at plain
    simp [Shell.escapable, plain]
  have innerOthers : others.all inner = true := by
    rw [List.all_eq_true] at alphanumeric ⊢
    exact fun other member => (inner_of_isAlphanum (alphanumeric.2 other member)).1
  have entered : Shell.lex .double (some word) ('\\' :: (first :: others) ++ rest) =
    Shell.lex .escape (some word) (first :: (others ++ rest)) := rfl
  rw [escaped, entered, Shell.lex, if_neg unbroken, if_neg kept, Shell.push, Shell.push,
    Option.getD_some, Option.getD_some, lex_inner innerOthers]
  simp [Shell.text]

theorem head_quoted (value rest : List Char) :
    ((value.flatMap (quoteChar table) ++ '"' :: rest).head? = some '@' ↔
        value.head? = some '@') ∧
      Shell.startsExpansion (value.flatMap (quoteChar table) ++ '"' :: rest) =
        Shell.startsExpansion value := by
  cases value with
  | nil => exact ⟨by simp, rfl⟩
  | cons char others =>
    rw [List.flatMap_cons, List.append_assoc]
    unfold quoteChar
    split
    · rename_i quoted
      rcases quoted with rfl | rfl
      · exact ⟨by simp, rfl⟩
      · exact ⟨by simp, rfl⟩
    · split
      · exact ⟨by simp, rfl⟩
      · rename_i unprintable
        have silent : Shell.startsExpansion (char :: others) = false := by
          by_contra starts
          rw [Bool.not_eq_false] at starts
          exact unprintable (isPrint_of_starts starts)
        have different : char ≠ '@' := by
          intro equal
          rw [equal] at silent
          cases silent
        constructor
        · simp [different]
        · rw [silent]
          rfl

theorem lex_dollar (word : Shell.Word) (rest : List Char) :
    Shell.lex .double (some word) ('$' :: rest) =
      if rest.head? = some '@' then Shell.lex .parameters (some word) rest
      else if Shell.startsExpansion rest then none
      else Shell.lex .double (some (word ++ [.char '$'])) rest := rfl

theorem lex_quoted (value rest : List Char) (word : Shell.Word) :
    (Shell.lex .double (some word) (value.flatMap (quoteChar table) ++ '"' :: rest) =
      (heard table false value).bind fun read => Shell.lex .bare (some (word ++ read)) rest) ∧
    (value.head? = some '@' →
      Shell.lex .parameters (some word) (value.flatMap (quoteChar table) ++ '"' :: rest) =
        (heard table true value).bind fun read => Shell.lex .bare (some (word ++ read)) rest) := by
  induction value generalizing word with
  | nil => exact ⟨by simp [Shell.lex, heard], nofun⟩
  | cons char others induction =>
    have mapped : ∀ first, ((heard table false others).map (first ++ ·)).bind
      (fun read => Shell.lex .bare (some (word ++ read)) rest) =
        (heard table false others).bind fun read =>
          Shell.lex .bare (some (word ++ first ++ read)) rest := by
      intro first
      cases heard table false others <;> simp
    rw [List.flatMap_cons, List.append_assoc]
    constructor
    · by_cases quoted : char = '"' ∨ char = '\\'
      · rw [quoteChar, if_pos quoted]
        have read : heard table false (char :: others) =
          (heard table false others).map ([.char char] ++ ·) := by
          rcases quoted with rfl | rfl <;> simp [heard, isPrint]
        have pushed : Shell.lex .double (some word)
          (['\\', char] ++ (others.flatMap (quoteChar table) ++ '"' :: rest)) =
            Shell.lex .double (some (word ++ [.char char]))
              (others.flatMap (quoteChar table) ++ '"' :: rest) := by
          rcases quoted with rfl | rfl <;> rfl
        rw [pushed, read, mapped, (induction _).1]
      · rw [quoteChar, if_neg quoted]
        rw [not_or] at quoted
        by_cases backtick : char = '\x60'
        · subst backtick
          simp [heard, isPrint, Shell.lex]
        · by_cases dollar : char = '$'
          · subst dollar
            have printed : isPrint table '$' = true := by simp [isPrint]
            have read : heard table false ('$' :: others) =
              if others.head? = some '@' then heard table true others
              else if Shell.startsExpansion others then none
              else (heard table false others).map ([.char '$'] ++ ·) := rfl
            rcases @head_quoted table others rest with ⟨head, starts⟩
            rw [if_pos printed, List.singleton_append, lex_dollar, read, starts]
            simp only [head]
            split
            · rename_i parameters
              exact (induction word).2 parameters
            · split
              · rfl
              · rw [(induction _).1, mapped]
          · have plain : inner char = true := by simp [inner, quoted, backtick, dollar]
            rw [heard, if_neg backtick, if_neg dollar]
            split
            · rw [lex_inner (by simpa using plain), (induction _).1]
              exact (mapped [.char char]).symm
            · rw [lex_escape, (induction _).1, mapped]
    · intro parameters
      cases parameters
      have printed : quoteChar table '@' = ['@'] := by simp [quoteChar, isPrint]
      have pushed : Shell.lex .parameters (some word)
        ('@' :: (others.flatMap (quoteChar table) ++ '"' :: rest)) =
          Shell.lex .double (some (word ++ [.arguments]))
            (others.flatMap (quoteChar table) ++ '"' :: rest) := rfl
      rw [printed, List.singleton_append, pushed, (induction _).1, heard]
      exact (mapped [.arguments]).symm

theorem lex_quote (value rest : List Char) :
    Shell.lex .bare none (quote table value ++ rest) =
      (heard table false value).bind fun read => Shell.lex .bare (some read) rest := by
  have opened : Shell.lex .bare none (quote table value ++ rest) =
    Shell.lex .double (some []) (value.flatMap (quoteChar table) ++ '"' :: rest) := by
    rw [quote, List.cons_append, List.append_assoc]
    rfl
  rw [opened, (lex_quoted value rest []).1]
  rfl

theorem readable_quote (value : List Char) : '\x00' ∉ quote table value := by
  have readable : ∀ char, '\x00' ∉ quoteChar table char := by
    intro char member
    unfold quoteChar at member
    split at member
    · rename_i quoted
      rcases quoted with rfl | rfl <;> cases member <;> contradiction
    · split at member
      · rename_i printed
        rw [List.mem_singleton] at member
        subst member
        cases printed
      · rcases escape_alphanumeric char with ⟨first, others, escaped, alphanumeric⟩
        rw [escaped] at member
        rcases List.mem_cons.mp member with equal | member
        · cases equal
        · exact absurd (List.all_eq_true.mp alphanumeric _ member) (by decide)
  simp [quote, readable]

end

/-! ## Sentences of bare and quoted words -/

inductive Item
  | bare (value : List Char)
  | quoted (value : List Char)

def Item.value : Item → List Char
  | .bare value => value
  | .quoted value => value

section

variable (table : Char → Bool)

def Item.write : Item → List Char
  | .bare value => value
  | .quoted value => quote table value

/-- The items with blanks between them. -/
def render : List Item → List Char
  | [] => []
  | [item] => item.write table
  | item :: rest => item.write table ++ ' ' :: render rest

/-- What a shell reads of an item. -/
def Item.word : Item → Option Shell.Word
  | .bare value => some (Shell.text value)
  | .quoted value => heard table false value

/-- A bare word that needs no quotes. -/
def Item.ready : Item → Bool
  | .bare value => value ≠ [] && value.all Shell.ordinary && '\x00' ∉ value
  | .quoted _ => true

def Item.isLiteral : Item → Bool
  | .bare _ => true
  | .quoted value => literal table value

variable {table} {item : Item} {items : List Item}

theorem lex_write (ready : item.ready = true) (rest : List Char) :
    Shell.lex .bare none (item.write table ++ rest) =
      (item.word table).bind fun word => Shell.lex .bare (some word) rest := by
  cases item with
  | bare value =>
    simp only [Item.ready, Bool.and_eq_true, decide_eq_true_eq] at ready
    exact Shell.lex_word ready.1.1 ready.1.2
  | quoted value => exact lex_quote value rest

theorem lex_render (ready : ∀ item ∈ items, item.ready = true) :
    Shell.lex .bare none (render table items) =
      (items.mapM (Item.word table)).map (List.map .word) := by
  induction items with
  | nil => rfl
  | cons item rest induction =>
    have tail := induction fun other member => ready other (List.mem_cons_of_mem _ member)
    have here := ready item List.mem_cons_self
    rw [List.mapM_cons]
    cases rest with
    | nil =>
      have alone : render table [item] = item.write table ++ [] := by simp [render]
      rw [alone, lex_write here]
      cases item.word table <;> rfl
    | cons next others =>
      have apart : render table (item :: next :: others) =
        item.write table ++ ' ' :: render table (next :: others) := rfl
      rw [apart, lex_write here]
      simp only [Shell.lex_blank, tail]
      cases item.word table with
      | none => rfl
      | some word => cases (next :: others).mapM (Item.word table) <;> rfl

theorem lex_render_append (nonempty : items ≠ []) (ready : ∀ item ∈ items, item.ready = true)
    (rest : List Char) :
    Shell.lex .bare none (render table items ++ ' ' :: rest) =
      (items.mapM (Item.word table)).bind fun words =>
        (Shell.lex .bare none rest).map (words.map .word ++ ·) := by
  induction items with
  | nil => exact absurd rfl nonempty
  | cons item others induction =>
    have here := ready item List.mem_cons_self
    rw [List.mapM_cons]
    cases others with
    | nil =>
      have alone : render table [item] = item.write table := rfl
      rw [alone, lex_write here]
      simp only [Shell.lex_blank]
      cases item.word table <;> rfl
    | cons next others =>
      have tail := induction (List.cons_ne_nil _ _) fun other member =>
        ready other (List.mem_cons_of_mem _ member)
      have apart : render table (item :: next :: others) ++ ' ' :: rest =
        item.write table ++ ' ' :: (render table (next :: others) ++ ' ' :: rest) := by
        simp [render]
      rw [apart, lex_write here]
      simp only [Shell.lex_blank, tail]
      cases item.word table with
      | none => rfl
      | some word =>
        cases (next :: others).mapM (Item.word table) with
        | none => rfl
        | some words => cases Shell.lex .bare none rest <;> rfl

theorem readable_render (ready : ∀ item ∈ items, item.ready = true) :
    '\x00' ∉ render table items := by
  induction items with
  | nil => exact List.not_mem_nil
  | cons item rest induction =>
    have tail := induction fun other member => ready other (List.mem_cons_of_mem _ member)
    have here : '\x00' ∉ item.write table := by
      have checked := ready item List.mem_cons_self
      cases item with
      | bare value =>
        simp only [Item.ready, Bool.and_eq_true, decide_eq_true_eq] at checked
        exact checked.2
      | quoted value => exact readable_quote value
    cases rest with
    | nil => exact here
    | cons next others =>
      rw [render]
      · simp [here, tail]
      · nofun

theorem mapM_word_iff :
    items.mapM (Item.word table) = some (items.map fun item => Shell.text item.value) ↔
      ∀ item ∈ items, item.isLiteral table = true := by
  induction items with
  | nil => simp
  | cons item rest induction =>
    have here : item.word table = some (Shell.text item.value) ↔ item.isLiteral table = true := by
      cases item with
      | bare value => simp [Item.word, Item.value, Item.isLiteral]
      | quoted value => exact heard_eq_text_iff value
    rw [List.forall_mem_cons, ← here, ← induction, List.mapM_cons, List.map_cons]
    cases item.word table with
    | none => simp
    | some word => cases rest.mapM (Item.word table) <;> simp

/-! ## Two commands joined by `&&` -/

variable {first second : List Item}

theorem commands_render (nonempty : first ≠ []) (firstReady : ∀ item ∈ first, item.ready = true)
    (secondReady : ∀ item ∈ second, item.ready = true) :
    Shell.commands [] (render table first ++ " && ".toList ++ render table second) =
      (first.mapM (Item.word table)).bind fun before =>
        (second.mapM (Item.word table)).bind fun after =>
          (Shell.vector [] before).bind fun left =>
            (Shell.vector [] after).map fun right => [[left, right]] := by
  have readable : '\x00' ∉ render table first ++ " && ".toList ++ render table second := by
    simp [readable_render firstReady, readable_render secondReady]
  have apart : render table first ++ " && ".toList ++ render table second =
    render table first ++ ' ' :: ('&' :: '&' :: ' ' :: render table second) := by simp
  rw [Shell.commands, Shell.tokens, if_neg readable, apart, lex_render_append nonempty firstReady,
    Shell.lex_and, lex_render secondReady]
  cases first.mapM (Item.word table) with
  | none => rfl
  | some before =>
    cases second.mapM (Item.word table) with
    | none => rfl
    | some after =>
      simp [Shell.lines_and]
      cases Shell.vector [] before with
      | none => rfl
      | some left => cases Shell.vector [] after <;> rfl

theorem length_mapM_word {words : List Shell.Word}
    (read : items.mapM (Item.word table) = some words) : words.length = items.length := by
  induction items generalizing words with
  | nil =>
    cases read
    rfl
  | cons item rest induction =>
    rw [List.mapM_cons] at read
    cases here : item.word table with
    | none => simp [here] at read
    | some word =>
      cases tail : rest.mapM (Item.word table) with
      | none => simp [here, tail] at read
      | some others =>
        simp only [here, tail] at read
        cases read
        simp [induction tail]

/-- The items are the fields of the command exactly if they are literal. -/
theorem vector_word_iff
    (free : ∃ name arguments, items.map Item.value = name :: arguments ∧ name ∉ Shell.reserved) :
    (items.mapM (Item.word table)).bind (Shell.vector []) = some (items.map Item.value) ↔
      ∀ item ∈ items, item.isLiteral table = true := by
  rw [← mapM_word_iff]
  cases read : items.mapM (Item.word table) with
  | none => simp
  | some words =>
    have same : words.length = (items.map Item.value).length := by
      rw [length_mapM_word read, List.length_map]
    rw [Option.bind_some, Shell.vector_texts_iff free same, List.map_map, Option.some.injEq]
    rfl

theorem commands_render_iff
    (firstReady : ∀ item ∈ first, item.ready = true)
    (secondReady : ∀ item ∈ second, item.ready = true)
    (firstFree : ∃ name arguments, first.map Item.value = name :: arguments ∧
      name ∉ Shell.reserved)
    (secondFree : ∃ name arguments, second.map Item.value = name :: arguments ∧
      name ∉ Shell.reserved) :
    Shell.commands [] (render table first ++ " && ".toList ++ render table second) =
        some [[first.map Item.value, second.map Item.value]] ↔
      ∀ item ∈ first ++ second, item.isLiteral table = true := by
  have nonempty : first ≠ [] := by
    intro empty
    rcases firstFree with ⟨name, arguments, named, _⟩
    simp [empty] at named
  rw [commands_render nonempty firstReady secondReady, List.forall_mem_append,
    ← vector_word_iff firstFree, ← vector_word_iff secondFree]
  cases first.mapM (Item.word table) with
  | none => simp
  | some before =>
    cases second.mapM (Item.word table) with
    | none => simp
    | some after =>
      simp only [Option.bind_some]
      cases Shell.vector [] before with
      | none => simp
      | some left => cases Shell.vector [] after <;> simp

end

end Civm.GoQuote
