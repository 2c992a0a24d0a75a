import Mathlib.Data.List.Basic

/-! # JSON documents and what they are decoded into

Documents as trees that keep all members of an object in their order, and the decoding of a
document into a value of a given shape, as the list of the fields it assigns. A member is
matched with a field by name, or else by the name up to its case. -/

namespace Civm

inductive Json
  | null
  | bool (value : Bool)
  | number (text : String)
  | string (text : String)
  | array (items : List Json)
  | object (members : List (String × Json))

namespace Json

theorem induct {motive : Json → Prop} (null : motive .null) (bool : ∀ value, motive (.bool value))
    (number : ∀ text, motive (.number text)) (string : ∀ text, motive (.string text))
    (array : ∀ items, (∀ item ∈ items, motive item) → motive (.array items))
    (object : ∀ members, (∀ member ∈ members, motive member.2) → motive (.object members))
    (json : Json) : motive json :=
  @Json.rec motive (fun items => ∀ item ∈ items, motive item)
    (fun members => ∀ member ∈ members, motive member.2) (fun member => motive member.2)
    null bool number string array object
    (List.forall_mem_nil _) (fun _ _ head tail => List.forall_mem_cons.mpr ⟨head, tail⟩)
    (List.forall_mem_nil _) (fun _ _ head tail => List.forall_mem_cons.mpr ⟨head, tail⟩)
    (fun _ _ value => value) json

/-- No object has two members with the same key. -/
inductive Distinct : Json → Prop
  | null : Distinct .null
  | bool (value : Bool) : Distinct (.bool value)
  | number (text : String) : Distinct (.number text)
  | string (text : String) : Distinct (.string text)
  | array {items : List Json} (inside : ∀ item ∈ items, Distinct item) : Distinct (.array items)
  | object {members : List (String × Json)} (keys : (members.map Prod.fst).Nodup)
    (inside : ∀ member ∈ members, Distinct member.2) : Distinct (.object members)

/-- The type of a target. What a scalar accepts is left open; `nullable` is a pointer. -/
inductive Shape
  | scalar (nullable : Bool) (accepts : Json → Bool)
  | any
  | list (element : Shape)
  | map (element : Shape)
  | record (nullable : Bool) (fields : List (String × Shape))

namespace Shape

/-- Whether `null` sets a value of this shape or leaves it as it is. -/
def takesNull : Shape → Bool
  | .scalar nullable _ | .record nullable _ => nullable
  | .any | .list _ | .map _ => true

def takes (shape : Shape) : Json → Bool
  | .null => shape.takesNull
  | _ => true

/-- A value that is neither an array nor an object, or that does not suit its target. -/
def leaf (shape : Shape) (json : Json) : Except String Unit :=
  match shape with
  | .any => .ok ()
  | .scalar _ accepts =>
    if accepts json then .ok () else .error "json: cannot unmarshal value"
  | _ => .error "json: cannot unmarshal value"

end Shape

/-! ## Decoding -/

/-- A step from a value of the target to a part of it. -/
inductive Step
  | field (index : Nat)
  | item (index : Nat)
  | entry (key : String)
  deriving DecidableEq

/-- A field of the target, and the member of the document it was assigned from. -/
structure Assignment where
  target : List Step
  source : List Nat
  deriving DecidableEq

/-- The folding of names, and `DisallowUnknownFields`. -/
structure Decoder where
  fold : String → String
  strict : Bool

namespace Decoder

variable (decoder : Decoder)

/-- The field for a key, with its place. -/
def matchField (fields : List (String × Shape)) (key : String) : Option (Nat × Shape) :=
  ((fields.zipIdx.find? fun field => field.1.1 = key) <|>
    fields.zipIdx.find? fun field => decoder.fold field.1.1 = decoder.fold key).map
      fun field => (field.2, field.1.2)

/-- The first error, or both lists. -/
def joined {α : Type} (first second : Except String (List α)) : Except String (List α) :=
  match first with
  | .error error => .error error
  | .ok front =>
    match second with
    | .error error => .error error
    | .ok back => .ok (front ++ back)

mutual

def decode (shape : Shape) (target : List Step) (source : List Nat) :
    Json → Except String (List Assignment)
  | .null => .ok []
  | .array items =>
    match shape with
    | .list element => decodeItems element target source 0 items
    | shape => (shape.leaf (.array items)).map fun _ => []
  | .object members =>
    match shape with
    | .record _ fields => decodeMembers fields target source 0 members
    | .map element => decodeEntries element target source 0 members
    | shape => (shape.leaf (.object members)).map fun _ => []
  | json => (shape.leaf json).map fun _ => []

def decodeItems (element : Shape) (target : List Step) (source : List Nat) (position : Nat) :
    List Json → Except String (List Assignment)
  | [] => .ok []
  | item :: rest =>
    joined (decode element (target ++ [.item position]) (source ++ [position]) item)
      (decodeItems element target source (position + 1) rest)

def decodeEntries (element : Shape) (target : List Step) (source : List Nat) (position : Nat) :
    List (String × Json) → Except String (List Assignment)
  | [] => .ok []
  | (key, value) :: rest =>
    joined (decode element (target ++ [.entry key]) (source ++ [position]) value)
      (decodeEntries element target source (position + 1) rest)

def decodeMembers (fields : List (String × Shape)) (target : List Step) (source : List Nat)
    (position : Nat) : List (String × Json) → Except String (List Assignment)
  | [] => .ok []
  | (key, value) :: rest =>
    match decoder.matchField fields key with
    | none =>
      if decoder.strict then .error ("json: unknown field " ++ key)
      else decodeMembers fields target source (position + 1) rest
    | some (index, shape) =>
      joined
        ((decode shape (target ++ [.field index]) (source ++ [position]) value).map fun inner =>
          (if shape.takes value then [⟨target ++ [.field index], source ++ [position]⟩] else []) ++
            inner)
        (decodeMembers fields target source (position + 1) rest)

end

/-- Decoding comes to an object with these members, into a struct with these fields. -/
inductive Meets : Shape → Json → List (String × Shape) → List (String × Json) → Prop
  | here {nullable : Bool} {fields : List (String × Shape)} {members : List (String × Json)} :
    Meets (.record nullable fields) (.object members) fields members
  | member {nullable : Bool} {fields fields' : List (String × Shape)}
    {members members' : List (String × Json)} {key : String} {value : Json} {index : Nat}
    {shape : Shape} (among : (key, value) ∈ members)
    (matched : decoder.matchField fields key = some (index, shape))
    (inside : Meets shape value fields' members') :
    Meets (.record nullable fields) (.object members) fields' members'
  | entry {element : Shape} {fields : List (String × Shape)} {members members' : List (String × Json)}
    {key : String} {value : Json} (among : (key, value) ∈ members)
    (inside : Meets element value fields members') :
    Meets (.map element) (.object members) fields members'
  | item {element : Shape} {fields : List (String × Shape)} {members : List (String × Json)}
    {items : List Json} {value : Json} (among : value ∈ items)
    (inside : Meets element value fields members) :
    Meets (.list element) (.array items) fields members

/-- Two members that set the same field. -/
def Clash (fields : List (String × Shape)) (first second : String × Json) : Prop :=
  ∃ index shape shape', decoder.matchField fields first.1 = some (index, shape) ∧
    decoder.matchField fields second.1 = some (index, shape') ∧
    shape.takes first.2 = true ∧ shape'.takes second.2 = true

/-- In no object that is decoded into a struct do two members set the same field. -/
def Unambiguous (shape : Shape) (json : Json) : Prop :=
  ∀ fields members, decoder.Meets shape json fields members →
    members.Pairwise fun first second => ¬decoder.Clash fields first second

end Decoder

/-- No field is assigned from two members. -/
def SingleSource (log : List Assignment) : Prop :=
  ∀ first ∈ log, ∀ second ∈ log, first.target = second.target → first.source = second.source

namespace Decoder

section

variable {decoder : Decoder} {shape element : Shape} {fields : List (String × Shape)}
variable {target : List Step} {source : List Nat} {position : Nat} {log : List Assignment}
variable {items : List Json} {members : List (String × Json)} {assignment : Assignment}

/-! ### Parts -/

/-- The parts one after the other, if there is no error. -/
def collect {α : Type} : List (Except String (List α)) → Except String (List α)
  | [] => .ok []
  | first :: rest => joined first (collect rest)

theorem collect_ok {α : Type} {parts : List (Except String (List α))} {whole : List α}
    (collected : collect parts = .ok whole) :
    (∀ part ∈ parts, ∃ piece, part = .ok piece ∧ piece ⊆ whole) ∧
      ∀ value ∈ whole, ∃ piece, .ok piece ∈ parts ∧ value ∈ piece := by
  induction parts generalizing whole with
  | nil =>
    cases collected
    exact ⟨List.forall_mem_nil _, List.forall_mem_nil _⟩
  | cons first rest induction =>
    rw [collect, joined.eq_def] at collected
    split at collected
    · cases collected
    split at collected
    · cases collected
    · rename_i front _ back restCollected
      cases collected
      rcases induction restCollected with ⟨within, origin⟩
      refine ⟨List.forall_mem_cons.mpr ⟨⟨front, rfl, List.subset_append_left _ _⟩, ?_⟩, ?_⟩
      · intro part member
        rcases within part member with ⟨piece, equal, subset⟩
        exact ⟨piece, equal, List.subset_append_of_subset_right _ subset⟩
      · intro value member
        rcases List.mem_append.mp member with early | late
        · exact ⟨front, List.mem_cons_self, early⟩
        · rcases origin value late with ⟨piece, among, inside⟩
          exact ⟨piece, List.mem_cons_of_mem _ among, inside⟩

variable (decoder) in
/-- What a member adds. -/
def decodeMember (fields : List (String × Shape)) (target : List Step) (source : List Nat)
    (member : String × Json) (position : Nat) : Except String (List Assignment) :=
  match decoder.matchField fields member.1 with
  | none => if decoder.strict then .error ("json: unknown field " ++ member.1) else .ok []
  | some (index, shape) =>
    (decoder.decode shape (target ++ [.field index]) (source ++ [position]) member.2).map fun inner =>
      (if shape.takes member.2 then [⟨target ++ [.field index], source ++ [position]⟩] else []) ++
        inner

theorem decodeItems_eq : decoder.decodeItems element target source position items =
    collect ((items.zipIdx position).map fun (item, place) =>
      decoder.decode element (target ++ [.item place]) (source ++ [place]) item) := by
  induction items generalizing position with
  | nil => rfl
  | cons item rest induction =>
    rw [decodeItems, induction]
    rfl

theorem decodeEntries_eq : decoder.decodeEntries element target source position members =
    collect ((members.zipIdx position).map fun (member, place) =>
      decoder.decode element (target ++ [.entry member.1]) (source ++ [place]) member.2) := by
  induction members generalizing position with
  | nil => rfl
  | cons member rest induction =>
    rw [decodeEntries, induction]
    rfl

theorem decodeMembers_eq : decoder.decodeMembers fields target source position members =
    collect ((members.zipIdx position).map fun (member, place) =>
      decoder.decodeMember fields target source member place) := by
  induction members generalizing position with
  | nil => rfl
  | cons member rest induction =>
    rw [decodeMembers, induction, List.zipIdx_cons, List.map_cons, collect]
    generalize collect _ = others
    dsimp only
    rw [decodeMember.eq_def]
    cases decoder.matchField fields member.1 with
    | some matched => rfl
    | none => cases decoder.strict <;> cases others <;> rfl

theorem collect_zipIdx {α β : Type} {list : List α} {part : α → Nat → Except String (List β)}
    {whole : List β} (collected : collect (list.zipIdx.map fun (value, place) => part value place) =
      .ok whole) :
    (∀ (place : Nat) (value : α), list[place]? = some value →
      ∃ piece, part value place = .ok piece ∧ piece ⊆ whole) ∧
      ∀ result ∈ whole, ∃ (place : Nat) (value : α) (piece : List β), list[place]? = some value ∧
        part value place = .ok piece ∧ result ∈ piece := by
  rcases collect_ok collected with ⟨within, origin⟩
  constructor
  · intro place value found
    exact within _ (List.mem_map.mpr
      ⟨(value, place), List.mem_zipIdx_iff_getElem?.mpr found, rfl⟩)
  · intro result member
    rcases origin result member with ⟨piece, among, inside⟩
    rcases List.mem_map.mp among with ⟨⟨value, place⟩, found, equal⟩
    exact ⟨place, value, piece, List.mem_zipIdx_iff_getElem?.mp found, equal, inside⟩

theorem decodeMember_ok {member : String × Json}
    (decoded : decoder.decodeMember fields target source member position = .ok log)
    (assigned : assignment ∈ log) :
    ∃ index shape inner, decoder.matchField fields member.1 = some (index, shape) ∧
      decoder.decode shape (target ++ [.field index]) (source ++ [position]) member.2 =
        .ok inner ∧
      (shape.takes member.2 = true ∧
          assignment = ⟨target ++ [.field index], source ++ [position]⟩ ∨
        assignment ∈ inner) := by
  rw [decodeMember.eq_def] at decoded
  split at decoded
  · split at decoded
    · cases decoded
    · cases decoded
      cases assigned
  · rename_i index shape matched
    cases inner : decoder.decode shape (target ++ [.field index]) (source ++ [position])
      member.2 with
    | error error =>
      rw [inner] at decoded
      cases decoded
    | ok inner' =>
      rw [inner] at decoded
      cases decoded
      refine ⟨index, shape, inner', matched, inner, ?_⟩
      rcases List.mem_append.mp assigned with own | later
      · split at own
        · rename_i takes
          exact .inl ⟨takes, List.mem_singleton.mp own⟩
        · cases own
      · exact .inr later

theorem decodeMember_matched {member : String × Json} {index : Nat}
    (decoded : decoder.decodeMember fields target source member position = .ok log)
    (matched : decoder.matchField fields member.1 = some (index, shape)) :
    (∃ inner, decoder.decode shape (target ++ [.field index]) (source ++ [position]) member.2 =
        .ok inner ∧ inner ⊆ log) ∧
      (shape.takes member.2 = true →
        ⟨target ++ [.field index], source ++ [position]⟩ ∈ log) := by
  rw [decodeMember.eq_def, matched] at decoded
  dsimp only at decoded
  cases inner : decoder.decode shape (target ++ [.field index]) (source ++ [position])
    member.2 with
  | error error =>
    rw [inner] at decoded
    cases decoded
  | ok inner' =>
    rw [inner] at decoded
    cases decoded
    refine ⟨⟨inner', rfl, List.subset_append_right _ _⟩, fun takes => ?_⟩
    simp [takes]

theorem takes_of_assigned {json : Json} (decoded : decoder.decode shape target source json = .ok log)
    (assigned : assignment ∈ log) : shape.takes json = true := by
  cases json with
  | null =>
    rw [decode] at decoded
    cases decoded
    cases assigned
  | _ => rfl

/-! ### The three containers -/

theorem decode_list (decoded : decoder.decode (.list element) target source (.array items) =
    .ok log) :
    (∀ place item, items[place]? = some item →
      ∃ inner, decoder.decode element (target ++ [.item place]) (source ++ [place]) item =
        .ok inner ∧ inner ⊆ log) ∧
      ∀ assignment ∈ log, ∃ place item inner, items[place]? = some item ∧
        decoder.decode element (target ++ [.item place]) (source ++ [place]) item = .ok inner ∧
        assignment ∈ inner := by
  rw [decode, decodeItems_eq] at decoded
  exact collect_zipIdx decoded

theorem decode_map (decoded : decoder.decode (.map element) target source (.object members) =
    .ok log) :
    (∀ place member, members[place]? = some member →
      ∃ inner, decoder.decode element (target ++ [.entry member.1]) (source ++ [place]) member.2 =
        .ok inner ∧ inner ⊆ log) ∧
      ∀ assignment ∈ log, ∃ place member inner, members[place]? = some member ∧
        decoder.decode element (target ++ [.entry member.1]) (source ++ [place]) member.2 =
          .ok inner ∧
        assignment ∈ inner := by
  rw [decode, decodeEntries_eq] at decoded
  exact collect_zipIdx decoded

theorem decode_record {nullable : Bool}
    (decoded : decoder.decode (.record nullable fields) target source (.object members) = .ok log) :
    (∀ place member, members[place]? = some member →
      ∃ piece, decoder.decodeMember fields target source member place = .ok piece ∧ piece ⊆ log) ∧
      ∀ assignment ∈ log, ∃ place member piece, members[place]? = some member ∧
        decoder.decodeMember fields target source member place = .ok piece ∧
        assignment ∈ piece := by
  rw [decode, decodeMembers_eq] at decoded
  exact collect_zipIdx decoded

theorem log_of_leaf {json : Json} (decoded : (shape.leaf json).map (fun _ => ([] : List Assignment)) =
    .ok log) : log = [] := by
  cases left : shape.leaf json with
  | error error =>
    rw [left] at decoded
    cases decoded
  | ok value =>
    rw [left] at decoded
    cases decoded
    rfl

theorem decode_cases {json : Json} (decoded : decoder.decode shape target source json = .ok log) :
    log = [] ∨ (∃ element items, shape = .list element ∧ json = .array items) ∨
      (∃ element members, shape = .map element ∧ json = .object members) ∨
      ∃ nullable fields members, shape = .record nullable fields ∧ json = .object members := by
  cases json with
  | null =>
    rw [decode] at decoded
    cases decoded
    exact .inl rfl
  | bool _ | number _ | string _ =>
    rw [decode] at decoded
    · exact .inl (log_of_leaf decoded)
    all_goals nofun
  | array items =>
    cases shape with
    | list element => exact .inr (.inl ⟨_, _, rfl, rfl⟩)
    | _ =>
      rw [decode] at decoded
      · exact .inl (log_of_leaf decoded)
      all_goals nofun
  | object members =>
    cases shape with
    | map element => exact .inr (.inr (.inl ⟨_, _, rfl, rfl⟩))
    | record nullable fields => exact .inr (.inr (.inr ⟨_, _, _, rfl, rfl⟩))
    | _ =>
      rw [decode] at decoded
      · exact .inl (log_of_leaf decoded)
      all_goals nofun

theorem decode_inside (json : Json) :
    ∀ {shape target source log}, decoder.decode shape target source json = .ok log →
      ∀ assignment ∈ log, ∃ step rest, assignment.target = target ++ step :: rest := by
  induction json using Json.induct with
  | array items induction =>
    intro shape target source log decoded assignment assigned
    rcases decode_cases decoded with rfl | ⟨element, _, rfl, _⟩ | ⟨_, _, _, other⟩ | ⟨_, _, _, _, other⟩
    · cases assigned
    · rcases (decode_list decoded).2 assignment assigned with ⟨place, item, inner, found, decoded, inside⟩
      rcases induction item (List.mem_of_getElem? found) decoded assignment inside with
        ⟨step, rest, equal⟩
      exact ⟨.item place, step :: rest, by simp [equal]⟩
    · cases other
    · cases other
  | object members induction =>
    intro shape target source log decoded assignment assigned
    rcases decode_cases decoded with rfl | ⟨_, _, _, other⟩ | ⟨element, _, rfl, _⟩ |
      ⟨nullable, fields, _, rfl, _⟩
    · cases assigned
    · cases other
    · rcases (decode_map decoded).2 assignment assigned with
        ⟨place, member, inner, found, decoded, inside⟩
      rcases induction member (List.mem_of_getElem? found) decoded assignment inside with
        ⟨step, rest, equal⟩
      exact ⟨.entry member.1, step :: rest, by simp [equal]⟩
    · rcases (decode_record decoded).2 assignment assigned with
        ⟨place, member, piece, found, decoded, inside⟩
      rcases decodeMember_ok decoded inside with
        ⟨index, shape, inner, _, decoded, ⟨_, rfl⟩ | inside⟩
      · exact ⟨.field index, [], rfl⟩
      · rcases induction member (List.mem_of_getElem? found) decoded assignment inside with
          ⟨step, rest, equal⟩
        exact ⟨.field index, step :: rest, by simp [equal]⟩
  | null | bool _ | number _ | string _ =>
    intro shape target source log decoded assignment assigned
    rcases decode_cases decoded with rfl | ⟨_, _, _, other⟩ | ⟨_, _, _, other⟩ | ⟨_, _, _, _, other⟩
    · cases assigned
    all_goals cases other

/-- If every field is assigned once, no two members set the same one. -/
theorem unambiguous_of_single {json : Json} {fields' : List (String × Shape)}
    {members' : List (String × Json)} (meets : decoder.Meets shape json fields' members')
    (decoded : decoder.decode shape target source json = .ok log) (single : SingleSource log) :
    members'.Pairwise fun first second => ¬decoder.Clash fields' first second := by
  induction meets generalizing target source log with
  | @here nullable fields members =>
    rw [List.pairwise_iff_getElem]
    rintro first second firstBound secondBound earlier ⟨index, shape, shape', matched, matched',
      takes, takes'⟩
    have parts := (decode_record decoded).1
    rcases parts first _ (List.getElem?_eq_getElem firstBound) with ⟨piece, decoded, subset⟩
    rcases parts second _ (List.getElem?_eq_getElem secondBound) with ⟨piece', decoded', subset'⟩
    have same := single _ (subset ((decodeMember_matched decoded matched).2 takes)) _
      (subset' ((decodeMember_matched decoded' matched').2 takes')) rfl
    have equal : first = second := by simpa using same
    omega
  | member among matched _ induction =>
    rcases List.getElem?_of_mem among with ⟨place, found⟩
    rcases (decode_record decoded).1 place _ found with ⟨piece, decoded, subset⟩
    rcases (decodeMember_matched decoded matched).1 with ⟨inner, decoded, subset'⟩
    exact induction decoded fun first member second member' =>
      single first (subset (subset' member)) second (subset (subset' member'))
  | entry among _ induction =>
    rcases List.getElem?_of_mem among with ⟨place, found⟩
    rcases (decode_map decoded).1 place _ found with ⟨inner, decoded, subset⟩
    exact induction decoded fun first member second member' =>
      single first (subset member) second (subset member')
  | item among _ induction =>
    rcases List.getElem?_of_mem among with ⟨place, found⟩
    rcases (decode_list decoded).1 place _ found with ⟨inner, decoded, subset⟩
    exact induction decoded fun first member second member' =>
      single first (subset member) second (subset member')

theorem step_of_inside {first second : Step} {target rest rest' : List Step}
    (equal : target ++ first :: rest = target ++ second :: rest') : first = second :=
  (List.cons.inj (List.append_cancel_left equal)).1

theorem decodeMember_inside {member : String × Json}
    (decoded : decoder.decodeMember fields target source member position = .ok log)
    (assigned : assignment ∈ log) :
    ∃ index shape rest, decoder.matchField fields member.1 = some (index, shape) ∧
      shape.takes member.2 = true ∧ assignment.target = target ++ .field index :: rest := by
  rcases decodeMember_ok decoded assigned with
    ⟨index, shape, inner, matched, decoded, ⟨takes, rfl⟩ | inside⟩
  · exact ⟨index, shape, [], matched, takes, rfl⟩
  · rcases decode_inside member.2 decoded assignment inside with ⟨step, rest, equal⟩
    exact ⟨index, shape, step :: rest, matched, takes_of_assigned decoded inside, by simp [equal]⟩

theorem decodeMember_single {member : String × Json}
    (decoded : decoder.decodeMember fields target source member position = .ok log)
    (inside : ∀ {index shape inner}, decoder.matchField fields member.1 = some (index, shape) →
      decoder.decode shape (target ++ [.field index]) (source ++ [position]) member.2 = .ok inner →
      SingleSource inner) : SingleSource log := by
  intro first assigned second assigned' same
  rcases decodeMember_ok decoded assigned with ⟨index, shape, inner, matched, firstDecoded, origin⟩
  rcases decodeMember_ok decoded assigned' with
    ⟨index', shape', inner', matched', secondDecoded, origin'⟩
  cases matched.symm.trans matched'
  cases firstDecoded.symm.trans secondDecoded
  have below := decode_inside member.2 firstDecoded
  rcases origin with ⟨_, rfl⟩ | member₁
  · rcases origin' with ⟨_, rfl⟩ | member₂
    · rfl
    · rcases below second member₂ with ⟨step, rest, equal⟩
      rw [equal] at same
      simp at same
  · rcases origin' with ⟨_, rfl⟩ | member₂
    · rcases below first member₁ with ⟨step, rest, equal⟩
      rw [equal] at same
      simp at same
    · exact inside matched firstDecoded first member₁ second member₂ same

theorem place_of_key {place place' : Nat} {member member' : String × Json}
    (keys : (members.map Prod.fst).Nodup) (found : members[place]? = some member)
    (found' : members[place']? = some member') (same : member.1 = member'.1) : place = place' := by
  rcases List.getElem?_eq_some_iff.mp found with ⟨bound, _⟩
  apply (List.getElem?_inj (by simpa using bound) keys).mp
  rw [List.getElem?_map, List.getElem?_map, found, found', Option.map_some, Option.map_some, same]

theorem place_of_clash {place place' : Nat} {member member' : String × Json}
    (apart : members.Pairwise fun first second => ¬decoder.Clash fields first second)
    (found : members[place]? = some member) (found' : members[place']? = some member')
    (clash : decoder.Clash fields member member') : place = place' := by
  rcases List.getElem?_eq_some_iff.mp found with ⟨bound, rfl⟩
  rcases List.getElem?_eq_some_iff.mp found' with ⟨bound', rfl⟩
  rw [List.pairwise_iff_getElem] at apart
  rcases Nat.lt_trichotomy place place' with earlier | same | later
  · exact absurd clash (apart place place' bound bound' earlier)
  · exact same
  · rcases clash with ⟨index, shape, shape', matched, matched', takes, takes'⟩
    exact absurd ⟨index, shape', shape, matched', matched, takes', takes⟩
      (apart place' place bound' bound later)

/-- If no two members set the same field, every field is assigned once. -/
theorem single_of_unambiguous (json : Json) :
    ∀ {shape target source log}, decoder.decode shape target source json = .ok log →
      json.Distinct → decoder.Unambiguous shape json → SingleSource log := by
  induction json using Json.induct with
  | array items induction =>
    intro shape target source log decoded distinct unambiguous first assigned second assigned' same
    rcases decode_cases decoded with rfl | ⟨element, _, rfl, _⟩ | ⟨_, _, _, other⟩ | ⟨_, _, _, _, other⟩
    · cases assigned
    · cases distinct with
      | array distinct =>
        have parts := (decode_list decoded).2
        rcases parts first assigned with ⟨place, item, inner, found, decoded, inside⟩
        rcases parts second assigned' with ⟨place', item', inner', found', decoded', inside'⟩
        rcases decode_inside item decoded first inside with ⟨step, rest, equal⟩
        rcases decode_inside item' decoded' second inside' with ⟨step', rest', equal'⟩
        rw [equal, equal', List.append_assoc, List.append_assoc] at same
        cases step_of_inside same
        cases found.symm.trans found'
        cases decoded.symm.trans decoded'
        have among := List.mem_of_getElem? found
        have single := induction item among decoded (distinct item among)
          fun fields members meets => unambiguous fields members (.item among meets)
        rw [← List.append_assoc, ← List.append_assoc, ← equal, ← equal'] at same
        exact single first inside second inside' same
    · cases other
    · cases other
  | object members induction =>
    intro shape target source log decoded distinct unambiguous first assigned second assigned' same
    cases distinct with
    | object keys distinct =>
      rcases decode_cases decoded with rfl | ⟨_, _, _, other⟩ | ⟨element, _, rfl, _⟩ |
        ⟨nullable, fields, _, rfl, _⟩
      · cases assigned
      · cases other
      · have parts := (decode_map decoded).2
        rcases parts first assigned with ⟨place, member, inner, found, decoded, inside⟩
        rcases parts second assigned' with ⟨place', member', inner', found', decoded', inside'⟩
        rcases decode_inside member.2 decoded first inside with ⟨step, rest, equal⟩
        rcases decode_inside member'.2 decoded' second inside' with ⟨step', rest', equal'⟩
        rw [equal, equal', List.append_assoc, List.append_assoc] at same
        have sameKey : member.1 = member'.1 := by simpa using step_of_inside same
        have samePlace := place_of_key keys found found' sameKey
        subst samePlace
        cases found.symm.trans found'
        cases decoded.symm.trans decoded'
        have among := List.mem_of_getElem? found
        have single := induction member among decoded (distinct member among)
          fun fields members meets => unambiguous fields members (.entry among meets)
        rw [← List.append_assoc, ← List.append_assoc, ← equal, ← equal'] at same
        exact single first inside second inside' same
      · have parts := (decode_record decoded).2
        rcases parts first assigned with ⟨place, member, piece, found, decoded, inside⟩
        rcases parts second assigned' with ⟨place', member', piece', found', decoded', inside'⟩
        rcases decodeMember_inside decoded inside with ⟨index, shape, rest, matched, takes, equal⟩
        rcases decodeMember_inside decoded' inside' with
          ⟨index', shape', rest', matched', takes', equal'⟩
        have sameField : index = index' := by
          simpa using step_of_inside (equal.symm.trans (same.trans equal'))
        subst sameField
        have samePlace := place_of_clash (unambiguous fields members .here) found found'
          ⟨index, shape, shape', matched, matched', takes, takes'⟩
        subst samePlace
        cases found.symm.trans found'
        cases decoded.symm.trans decoded'
        have among := List.mem_of_getElem? found
        apply decodeMember_single decoded _ first inside second inside' same
        intro index shape inner matched decoded
        exact induction member among decoded (distinct member among)
          fun fields members meets => unambiguous fields members (.member among matched meets)
  | null | bool _ | number _ | string _ =>
    intro shape target source log decoded _ _ first assigned
    rcases decode_cases decoded with rfl | ⟨_, _, _, other⟩ | ⟨_, _, _, other⟩ | ⟨_, _, _, _, other⟩
    · cases assigned
    all_goals cases other

end

end Decoder

end Json

end Civm
