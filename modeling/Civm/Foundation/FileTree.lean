import Civm.Foundation.Paths

/-! # File trees with symbolic links

A file tree, the resolution of paths through its links, and the walk over a
directory that follows none. Paths are the lists of their pieces below the
root; `Info` is whatever is recorded of an entry. -/

namespace Civm

abbrev Path := List (List Char)

inductive FileTree (Info : Type)
  | file (info : Info)
  | link (info : Info) (target : List Char)
  | directory (info : Info) (entries : List (List Char × FileTree Info))

namespace FileTree

variable {Info : Type}

def info : FileTree Info → Info
  | .file info => info
  | .link info _ => info
  | .directory info _ => info

def isLink : FileTree Info → Bool
  | .link _ _ => true
  | _ => false

def isDirectory : FileTree Info → Bool
  | .directory _ _ => true
  | _ => false

/-- Names are plain and distinct in every directory. -/
inductive WellFormed : FileTree Info → Prop
  | file {info} : WellFormed (.file info)
  | link {info target} : WellFormed (.link info target)
  | directory {info entries} : (∀ entry ∈ entries, Text.Plain entry.1) →
    (entries.map Prod.fst).Nodup → (∀ entry ∈ entries, WellFormed entry.2) →
    WellFormed (.directory info entries)

def isPlain (name : List Char) : Bool :=
  name ≠ [] && name ≠ ['.'] && name ≠ ['.', '.'] && !name.contains '/'

theorem plain_of_isPlain {name : List Char} (checks : isPlain name = true) : Text.Plain name := by
  simp only [isPlain, Bool.and_eq_true, decide_eq_true_eq, Bool.not_eq_true',
    List.contains_eq_mem, decide_eq_false_iff_not] at checks
  exact ⟨checks.1.1.1, checks.1.1.2, checks.1.2, checks.2⟩

mutual

/-- Decides well-formedness. -/
def check : FileTree Info → Bool
  | .file _ => true
  | .link _ _ => true
  | .directory _ entries => decide (entries.map Prod.fst).Nodup && checkEntries entries

def checkEntries : List (List Char × FileTree Info) → Bool
  | [] => true
  | (name, node) :: rest => isPlain name && check node && checkEntries rest

end

theorem of_checkEntries {entries : List (List Char × FileTree Info)}
    (checks : checkEntries entries = true) :
    ∀ entry ∈ entries, Text.Plain entry.1 ∧ entry.2.check = true := by
  induction entries with
  | nil => exact List.forall_mem_nil _
  | cons entry rest induction =>
    simp only [checkEntries, Bool.and_eq_true] at checks
    exact List.forall_mem_cons.mpr
      ⟨⟨plain_of_isPlain checks.1.1, checks.1.2⟩, induction checks.2⟩

theorem wellFormed_of_check (tree : FileTree Info) (checks : tree.check = true) :
    tree.WellFormed := by
  match tree with
  | .file _ => exact .file
  | .link _ _ => exact .link
  | .directory info entries =>
    simp only [check, Bool.and_eq_true, decide_eq_true_eq] at checks
    refine .directory (fun entry member => (of_checkEntries checks.2 entry member).1) checks.1 ?_
    intro entry member
    have smaller := List.sizeOf_lt_of_mem member
    exact wellFormed_of_check entry.2 (of_checkEntries checks.2 entry member).2
termination_by sizeOf tree
decreasing_by
  rcases entry with ⟨name, node⟩
  simp only [Prod.mk.sizeOf_spec] at smaller
  simp
  omega

def entry? (name : List Char) : FileTree Info → Option (FileTree Info)
  | .directory _ entries => entries.lookup name
  | _ => none

/-- The node at a path, through directories only. -/
def lookup (tree : FileTree Info) : Path → Option (FileTree Info)
  | [] => some tree
  | name :: rest => (tree.entry? name).bind fun node => node.lookup rest

theorem lookup_append (tree : FileTree Info) (path rest : Path) :
    tree.lookup (path ++ rest) = (tree.lookup path).bind fun node => node.lookup rest := by
  induction path generalizing tree with
  | nil => rfl
  | cons name path induction =>
    simp only [List.cons_append, lookup, Option.bind_assoc]
    exact congrArg _ (funext fun node => induction node)

theorem isDirectory_of_lookup {node child : FileTree Info} {name : List Char} {rest : Path}
    (found : node.lookup (name :: rest) = some child) : node.isDirectory = true := by
  cases node with
  | file info | link info target => cases found
  | directory info entries => rfl

/-! ## Resolving links -/

/-- Where the resolution of a path gets to without following a link. -/
inductive Stop
  | arrived (real : Path)
  | missing
  | notDirectory
  | link (parent : Path) (target : List Char) (rest : Path)

def advance (tree : FileTree Info) (real : Path) : Path → Stop
  | [] => .arrived real
  | name :: rest =>
    if name = [] ∨ name = ['.'] then tree.advance real rest
    else if name = ['.', '.'] then tree.advance real.dropLast rest
    else match tree.lookup (real ++ [name]) with
      | none => .missing
      | some (.link _ target) => .link real target rest
      | some (.file _) => if rest = [] then .arrived (real ++ [name]) else .notDirectory
      | some (.directory _ _) => tree.advance (real ++ [name]) rest

inductive Resolution
  | real (path : Path)
  | notExist
  | failed (message : String)
  deriving DecidableEq

/-- `filepath.EvalSymlinks` with a limit on the links it follows. -/
def resolve (tree : FileTree Info) (links : Nat) (real pending : Path) : Resolution :=
  match tree.advance real pending with
  | .arrived path => .real path
  | .missing => .notExist
  | .notDirectory => .failed "not a directory"
  | .link parent target rest =>
    match links with
    | 0 => .failed "EvalSymlinks: too many links"
    | links + 1 =>
      tree.resolve links (if target.head? = some '/' then [] else parent)
        (Text.splitPath target ++ rest)

/-- The directory entry that a path names: links are followed up to its last
piece. -/
def locate (tree : FileTree Info) (links : Nat) (start path : Path) : Resolution :=
  match path.getLast? with
  | none => .real start
  | some last =>
    match tree.resolve links start path.dropLast with
    | .real parent =>
      if last = [] ∨ last = ['.'] then .real parent
      else if last = ['.', '.'] then .real parent.dropLast
      else .real (parent ++ [last])
    | other => other

theorem advance_plain_cons {tree : FileTree Info} {real rest : Path} {name : List Char}
    (plain : Text.Plain name) :
    tree.advance real (name :: rest) = match tree.lookup (real ++ [name]) with
      | none => .missing
      | some (.link _ target) => .link real target rest
      | some (.file _) => if rest = [] then .arrived (real ++ [name]) else .notDirectory
      | some (.directory _ _) => tree.advance (real ++ [name]) rest := by
  simp [advance, plain.nonempty, plain.notDot, plain.notDotDot]

/-- A path through directories is its own resolution, unless a link is at its
end. -/
theorem advance_of_lookup {tree node : FileTree Info} {real path : Path}
    (plain : ∀ name ∈ path, Text.Plain name) (found : tree.lookup (real ++ path) = some node)
    (notLink : path ≠ [] → node.isLink = false) :
    tree.advance real path = .arrived (real ++ path) := by
  induction path generalizing real with
  | nil => simp [advance]
  | cons name rest induction =>
    have extended : real ++ name :: rest = (real ++ [name]) ++ rest := by simp
    rw [extended] at found ⊢
    have isLeaf := notLink (List.cons_ne_nil _ _)
    have tail := induction (fun other member => plain other (List.mem_cons_of_mem _ member))
      found fun _ => isLeaf
    rw [lookup_append] at found
    rcases Option.bind_eq_some_iff.mp found with ⟨child, here, below⟩
    rw [advance_plain_cons (plain name List.mem_cons_self), here]
    cases child with
    | directory info entries => exact tail
    | link info target =>
      cases rest with
      | nil =>
        cases below
        cases isLeaf
      | cons next rest => cases below
    | file info =>
      cases rest with
      | nil => simp
      | cons next rest => cases below

theorem advance_append {tree node : FileTree Info} {real first arrived : Path} (second : Path)
    (arrives : tree.advance real first = .arrived arrived)
    (found : tree.lookup arrived = some node) (directory : node.isDirectory = true) :
    tree.advance real (first ++ second) = tree.advance arrived second := by
  induction first generalizing real with
  | nil =>
    cases arrives
    rfl
  | cons name rest induction =>
    unfold advance at arrives
    rw [List.cons_append, advance]
    split at arrives
    · rename_i skipped
      rw [if_pos skipped]
      exact induction arrives
    · rename_i kept
      rw [if_neg kept]
      split at arrives
      · rename_i up
        rw [if_pos up]
        exact induction arrives
      · rename_i down
        rw [if_neg down]
        cases here : tree.lookup (real ++ [name]) with
        | none => simp [here] at arrives
        | some child =>
          rw [here] at arrives
          cases child with
          | link info target => cases arrives
          | directory info entries => exact induction arrives
          | file info =>
            -- A file is no directory to go on from.
            simp only at arrives
            split at arrives
            · cases arrives
              cases here.symm.trans found
              cases directory
            · cases arrives

theorem advance_append_link {tree : FileTree Info} {real first parent rest : Path}
    {target : List Char} (second : Path)
    (meets : tree.advance real first = .link parent target rest) :
    tree.advance real (first ++ second) = .link parent target (rest ++ second) := by
  induction first generalizing real with
  | nil => cases meets
  | cons name others induction =>
    unfold advance at meets
    rw [List.cons_append, advance]
    split at meets
    · rename_i skipped
      rw [if_pos skipped]
      exact induction meets
    · rename_i kept
      rw [if_neg kept]
      split at meets
      · rename_i up
        rw [if_pos up]
        exact induction meets
      · rename_i down
        rw [if_neg down]
        cases here : tree.lookup (real ++ [name]) with
        | none => simp [here] at meets
        | some child =>
          rw [here] at meets
          cases child with
          | directory info entries => exact induction meets
          | link info target =>
            cases meets
            rfl
          | file info =>
            simp only at meets
            split at meets <;> cases meets

theorem resolve_append {tree node : FileTree Info} {links : Nat} {real first parent : Path}
    {second path : Path} (resolves : tree.resolve links real first = .real parent)
    (found : tree.lookup parent = some node) (directory : node.isDirectory = true)
    (arrives : tree.advance parent second = .arrived path) :
    tree.resolve links real (first ++ second) = .real path := by
  fun_induction tree.resolve links real first with
  | case1 links real first reached stop =>
    cases resolves
    unfold resolve
    rw [advance_append second stop found directory, arrives]
  | case2 | case3 | case4 => cases resolves
  | case5 real first inside target rest stop links induction =>
    unfold resolve
    simp only [advance_append_link second stop, ← List.append_assoc]
    exact induction resolves

/-! ## Real paths -/

/-- A path that leads through directories to something that is no link. -/
structure Real (tree : FileTree Info) (path : Path) : Prop where
  plain : ∀ name ∈ path, Text.Plain name
  found : ∃ node, tree.lookup path = some node ∧ node.isLink = false

theorem Real.parent {tree : FileTree Info} {path : Path} {name : List Char}
    (real : tree.Real (path ++ [name])) : tree.Real path := by
  rcases real.found with ⟨node, found, _⟩
  rw [lookup_append] at found
  rcases Option.bind_eq_some_iff.mp found with ⟨parent, here, below⟩
  refine ⟨fun other member => real.plain other (List.mem_append_left _ member), parent, here, ?_⟩
  cases parent with
  | link info target => cases below
  | file info | directory info entries => rfl

theorem Real.dropLast {tree : FileTree Info} {path : Path} (real : tree.Real path) :
    tree.Real path.dropLast := by
  rcases List.eq_nil_or_concat path with rfl | ⟨parent, name, rfl⟩
  · exact real
  · rw [List.concat_eq_append] at real ⊢
    rw [List.dropLast_concat]
    exact real.parent

theorem Real.advance {tree : FileTree Info} {path : Path} (real : tree.Real path) :
    tree.advance [] path = .arrived path := by
  rcases real.found with ⟨node, found, notLink⟩
  exact advance_of_lookup real.plain found fun _ => notLink

theorem Real.locate {tree : FileTree Info} {path : Path} (links : Nat) (real : tree.Real path) :
    tree.locate links [] path = .real path := by
  rcases List.eq_nil_or_concat path with rfl | ⟨parent, name, rfl⟩
  · rfl
  · rw [List.concat_eq_append] at real ⊢
    have plain := real.plain name (by simp)
    have above : tree.resolve links [] parent = .real parent := by
      unfold resolve
      rw [real.parent.advance]
    simp [FileTree.locate, above, plain.nonempty, plain.notDot, plain.notDotDot]

theorem Real.of_advance {tree : FileTree Info} {real pending : Path} (started : tree.Real real)
    (noSlash : ∀ name ∈ pending, '/' ∉ name) :
    (∀ path, tree.advance real pending = .arrived path → tree.Real path) ∧
    ∀ parent target rest, tree.advance real pending = .link parent target rest →
      tree.Real parent ∧ ∀ name ∈ rest, '/' ∉ name := by
  induction pending generalizing real with
  | nil =>
    refine ⟨fun path arrives => ?_, nofun⟩
    cases arrives
    exact started
  | cons name rest induction =>
    have others : ∀ other ∈ rest, '/' ∉ other := fun other member =>
      noSlash other (List.mem_cons_of_mem _ member)
    unfold FileTree.advance
    split
    · exact induction started others
    · rename_i kept
      split
      · exact induction started.dropLast others
      · rename_i down
        have plain : Text.Plain name := ⟨fun empty => kept (.inl empty), fun dot =>
          kept (.inr dot), down, noSlash name List.mem_cons_self⟩
        have plains : ∀ other ∈ real ++ [name], Text.Plain other := by
          intro other member
          rcases List.mem_append.mp member with above | here
          · exact started.plain other above
          · exact List.mem_singleton.mp here ▸ plain
        cases here : tree.lookup (real ++ [name]) with
        | none => exact ⟨nofun, nofun⟩
        | some child =>
          cases child with
          | directory info entries => exact induction ⟨plains, _, here, rfl⟩ others
          | link info target =>
            refine ⟨nofun, ?_⟩
            rintro _ _ _ ⟨⟩
            exact ⟨started, others⟩
          | file info =>
            dsimp only
            split
            · refine ⟨?_, nofun⟩
              rintro _ ⟨⟩
              exact ⟨plains, _, here, rfl⟩
            · exact ⟨nofun, nofun⟩

theorem Real.of_resolve {tree : FileTree Info} (top : tree.Real []) {links : Nat}
    {real pending path : Path} (started : tree.Real real)
    (noSlash : ∀ name ∈ pending, '/' ∉ name)
    (resolves : tree.resolve links real pending = .real path) : tree.Real path := by
  fun_induction tree.resolve links real pending with
  | case1 links real pending reached stop =>
    cases resolves
    exact (of_advance started noSlash).1 _ stop
  | case2 | case3 | case4 => cases resolves
  | case5 real pending inside target rest stop links induction =>
    rcases (of_advance started noSlash).2 _ _ _ stop with ⟨parent, others⟩
    refine induction ?_ ?_ resolves
    · split
      · exact top
      · exact parent
    · intro name member
      rcases List.mem_append.mp member with inTarget | inRest
      · exact Text.noSlash_of_mem_splitPath inTarget
      · exact others name inRest

theorem resolve_nil_cons (tree : FileTree Info) (links : Nat) (real path : Path) :
    tree.resolve links real ([] :: path) = tree.resolve links real path := by
  have same : tree.advance real ([] :: path) = tree.advance real path := by simp [advance]
  unfold resolve
  rw [same]

theorem locate_nil_cons (tree : FileTree Info) (links : Nat) (start : Path) {path : Path}
    (nonempty : path ≠ []) :
    tree.locate links start ([] :: path) = tree.locate links start path := by
  have last : ([] :: path).getLast? = path.getLast? := by
    cases path with
    | nil => exact absurd rfl nonempty
    | cons name rest => rfl
  unfold locate
  rw [last, List.dropLast_cons_of_ne_nil nonempty, resolve_nil_cons]

theorem locate_append {tree node leaf : FileTree Info} {links : Nat} {start first parent : Path}
    {second : Path} (resolves : tree.resolve links start first = .real parent)
    (found : tree.lookup parent = some node) (directory : node.isDirectory = true)
    (plain : ∀ name ∈ second, Text.Plain name) (below : node.lookup second = some leaf)
    (nonempty : second ≠ []) :
    tree.locate links start (first ++ second) = .real (parent ++ second) := by
  rcases List.eq_nil_or_concat second with rfl | ⟨above, name, rfl⟩
  · exact absurd rfl nonempty
  · rw [List.concat_eq_append] at plain below ⊢
    rw [lookup_append] at below
    rcases Option.bind_eq_some_iff.mp below with ⟨child, here, inside⟩
    have isDirectory := isDirectory_of_lookup inside
    have arrives : tree.advance parent above = .arrived (parent ++ above) := by
      have reached : tree.lookup (parent ++ above) = some child := by
        rw [lookup_append, found]
        exact here
      refine advance_of_lookup (fun other member => plain other (List.mem_append_left _ member))
        reached ?_
      · intro _
        cases child with
        | directory info entries => rfl
        | file info | link info target => cases isDirectory
    have up := resolve_append resolves found directory arrives
    have plainName := plain name (by simp)
    rw [← List.append_assoc]
    simp [locate, up, plainName.nonempty, plainName.notDot, plainName.notDotDot]

theorem resolve_of_locate {tree node : FileTree Info} {links : Nat} {start path real : Path}
    (nonempty : path ≠ []) (plain : ∀ name ∈ path, Text.Plain name)
    (located : tree.locate links start path = .real real) (found : tree.lookup real = some node)
    (notLink : node.isLink = false) : tree.resolve links start path = .real real := by
  rcases List.eq_nil_or_concat path with rfl | ⟨above, name, rfl⟩
  · exact absurd rfl nonempty
  · rw [List.concat_eq_append] at plain located ⊢
    have plainName := plain name (by simp)
    simp only [locate, List.getLast?_concat, List.dropLast_concat, plainName.nonempty,
      plainName.notDot, plainName.notDotDot, or_self, if_false] at located
    cases up : tree.resolve links start above with
    | notExist | failed message => simp [up] at located
    | real parent =>
      simp only [up, Resolution.real.injEq] at located
      subst located
      have below := found
      rw [lookup_append] at below
      rcases Option.bind_eq_some_iff.mp below with ⟨child, here, inside⟩
      refine resolve_append up here (isDirectory_of_lookup inside) ?_
      exact advance_of_lookup (List.forall_mem_singleton.mpr plainName) found fun _ => notLink

theorem WellFormed.lookup {tree node : FileTree Info} {path : Path} (wellFormed : tree.WellFormed)
    (found : tree.lookup path = some node) : node.WellFormed := by
  induction path generalizing tree with
  | nil =>
    cases found
    exact wellFormed
  | cons name rest induction =>
    rcases Option.bind_eq_some_iff.mp found with ⟨child, here, below⟩
    cases wellFormed with
    | file | link => cases here
    | directory plain distinct inside =>
      rcases List.lookup_eq_some_iff.mp here with ⟨before, after, rfl, _⟩
      exact induction (inside (name, child) (by simp)) below

/-! ## Walking -/

/-- What a walk does at an entry: take it, pass over it with all below it, or
go on into it. -/
inductive Verdict
  | take
  | skip
  | enter
  deriving DecidableEq

mutual

/-- The entries a walk takes, at or below the entry at `path`. -/
def collect (verdict : Path → FileTree Info → Verdict) (path : Path)
    (node : FileTree Info) : List (Path × FileTree Info) :=
  match verdict path node, node with
  | .take, node => [(path, node)]
  | .enter, .directory _ entries => collectEntries verdict path entries
  | _, _ => []

/-- The entries a walk takes below a directory at `path`. -/
def collectEntries (verdict : Path → FileTree Info → Verdict) (path : Path) :
    List (List Char × FileTree Info) → List (Path × FileTree Info)
  | [] => []
  | (name, node) :: rest =>
    collect verdict (path ++ [name]) node ++ collectEntries verdict path rest

end

theorem lookup_of_mem {entries : List (List Char × FileTree Info)} {name : List Char}
    {node : FileTree Info} (distinct : (entries.map Prod.fst).Nodup)
    (member : (name, node) ∈ entries) : entries.lookup name = some node := by
  induction entries with
  | nil => cases member
  | cons entry rest induction =>
    rcases List.nodup_cons.mp distinct with ⟨fresh, distinct⟩
    rcases List.mem_cons.mp member with rfl | member
    · simp
    · have different : name ≠ entry.1 := by
        rintro rfl
        exact fresh (List.mem_map.mpr ⟨_, member, rfl⟩)
      rw [List.lookup_cons, beq_false_of_ne different]
      exact induction distinct member

theorem mem_collectEntries {verdict : Path → FileTree Info → Verdict} {path : Path}
    {entries : List (List Char × FileTree Info)} {taken : Path × FileTree Info}
    (member : taken ∈ collectEntries verdict path entries) :
    ∃ entry ∈ entries, taken ∈ collect verdict (path ++ [entry.1]) entry.2 := by
  induction entries with
  | nil => cases member
  | cons entry rest induction =>
    rcases List.mem_append.mp member with inside | later
    · exact ⟨entry, List.mem_cons_self, inside⟩
    · rcases induction later with ⟨other, inside, taken⟩
      exact ⟨other, List.mem_cons_of_mem _ inside, taken⟩

theorem mem_collect_cases {verdict : Path → FileTree Info → Verdict} {path : Path}
    {node : FileTree Info} {taken : Path × FileTree Info}
    (member : taken ∈ collect verdict path node) :
    taken = (path, node) ∧ verdict path node = .take ∨
      ∃ info entries, node = .directory info entries ∧ taken ∈ collectEntries verdict path entries := by
  unfold collect at member
  split at member
  · rename_i takes
    exact .inl ⟨List.mem_singleton.mp member, takes⟩
  · exact .inr ⟨_, _, rfl, member⟩
  · cases member

/-- Whatever a walk takes is reached from where it started through directories. -/
theorem mem_collect {verdict : Path → FileTree Info → Verdict} {path taken : Path}
    {node leaf : FileTree Info} (wellFormed : node.WellFormed)
    (member : (taken, leaf) ∈ collect verdict path node) :
    verdict taken leaf = .take ∧ ∃ rest, taken = path ++ rest ∧
      node.lookup rest = some leaf ∧ ∀ name ∈ rest, Text.Plain name := by
  induction wellFormed generalizing path with
  | file | link =>
    rcases mem_collect_cases member with ⟨equal, takes⟩ | ⟨_, _, impossible, _⟩
    · cases equal
      exact ⟨takes, [], (List.append_nil _).symm, rfl, List.forall_mem_nil _⟩
    · cases impossible
  | directory plain distinct below induction =>
    rcases mem_collect_cases member with ⟨equal, takes⟩ | ⟨_, _, same, later⟩
    · cases equal
      exact ⟨takes, [], (List.append_nil _).symm, rfl, List.forall_mem_nil _⟩
    · cases same
      rcases mem_collectEntries later with ⟨⟨name, child⟩, inside, taken⟩
      rcases induction _ inside taken with ⟨takes, rest, rfl, found, names⟩
      refine ⟨takes, name :: rest, by simp, ?_, List.forall_mem_cons.mpr ⟨plain _ inside, names⟩⟩
      simpa [lookup, entry?, lookup_of_mem distinct inside] using found

end FileTree

end Civm
