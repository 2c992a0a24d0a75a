import Civm.Foundation.Json

/-! # Strict JSON

`decodeStrictJSON` and `decodeUniqueJSON`: a document is walked for duplicate keys before it
is decoded. The walk compares keys exactly, the decoder does not. -/

namespace Civm.JitDispatcher.StrictJson

open Json (Shape Assignment Decoder Step)

/-- What is used of the standard library: whether nothing is left of some bytes without the
blanks around them, the document that bytes are, and the folding of names. -/
structure Library where
  blank : List UInt8 → Bool
  document : List UInt8 → Except String Json
  fold : String → String

/-! ## The walk -/

mutual

/-- The error of the walk over a value. -/
def walkJSON : Json → Option String
  | .object members => walkMembers [] members
  | .array items => walkItems items
  | _ => none

def walkMembers (seen : List String) : List (String × Json) → Option String
  | [] => none
  | (key, value) :: rest =>
    if key ∈ seen then some ("duplicate JSON key " ++ key)
    else
      match walkJSON value with
      | some error => some error
      | none => walkMembers (key :: seen) rest

def walkItems : List Json → Option String
  | [] => none
  | item :: rest =>
    match walkJSON item with
    | some error => some error
    | none => walkItems rest

end

section

variable (library : Library)

def rejectDuplicateJSONKeys (data : List UInt8) : Option String :=
  match library.document data with
  | .error error => some error
  | .ok json => walkJSON json

/-- Both decoding functions, into a struct with the given fields. -/
def decodeJSON (strict : Bool) (data : List UInt8) (fields : List (String × Shape)) :
    Except String (List Assignment) :=
  if library.blank data then .error "unexpected EOF"
  else
    match rejectDuplicateJSONKeys library data with
    | some error => .error error
    | none =>
      match library.document data with
      | .error error => .error error
      | .ok json => (⟨library.fold, strict⟩ : Decoder).decode (.record false fields) [] [] json

def decodeStrictJSON (data : List UInt8) (fields : List (String × Shape)) :
    Except String (List Assignment) :=
  decodeJSON library true data fields

def decodeUniqueJSON (data : List UInt8) (fields : List (String × Shape)) :
    Except String (List Assignment) :=
  decodeJSON library false data fields

end

theorem walkItems_none {items : List Json} (walked : walkItems items = none) :
    ∀ item ∈ items, walkJSON item = none := by
  induction items with
  | nil => exact List.forall_mem_nil _
  | cons item rest induction =>
    rw [walkItems] at walked
    split at walked
    · cases walked
    · rename_i clean
      exact List.forall_mem_cons.mpr ⟨clean, induction walked⟩

theorem walkMembers_none {seen : List String} {members : List (String × Json)}
    (walked : walkMembers seen members = none) :
    (members.map Prod.fst).Nodup ∧ (∀ key ∈ members.map Prod.fst, key ∉ seen) ∧
      ∀ member ∈ members, walkJSON member.2 = none := by
  induction members generalizing seen with
  | nil => exact ⟨List.nodup_nil, List.forall_mem_nil _, List.forall_mem_nil _⟩
  | cons member rest induction =>
    rw [walkMembers] at walked
    split at walked
    · cases walked
    · rename_i fresh
      split at walked
      · cases walked
      · rename_i clean
        rcases induction walked with ⟨nodup, unseen, inside⟩
        rw [List.map_cons, List.nodup_cons, List.forall_mem_cons, List.forall_mem_cons]
        refine ⟨⟨?_, nodup⟩, ⟨fresh, ?_⟩, clean, inside⟩
        · exact fun again => unseen _ again List.mem_cons_self
        · exact fun key member known => unseen key member (List.mem_cons_of_mem _ known)

/-- The walk finds every key that an object has twice. -/
theorem distinct_of_walkJSON (json : Json) : walkJSON json = none → json.Distinct := by
  induction json using Json.induct with
  | null => exact fun _ => .null
  | bool value => exact fun _ => .bool value
  | number text => exact fun _ => .number text
  | string text => exact fun _ => .string text
  | array items induction =>
    intro walked
    rw [walkJSON] at walked
    exact .array fun item member => induction item member (walkItems_none walked item member)
  | object members induction =>
    intro walked
    rw [walkJSON] at walked
    rcases walkMembers_none walked with ⟨nodup, _, inside⟩
    exact .object nodup fun member among => induction member among (inside member among)

section

variable {library : Library} {strict : Bool} {data : List UInt8} {fields : List (String × Shape)}
variable {log : List Assignment}

theorem decodeJSON_ok (decoded : decodeJSON library strict data fields = .ok log) :
    ∃ json, library.document data = .ok json ∧ json.Distinct ∧
      (⟨library.fold, strict⟩ : Decoder).decode (.record false fields) [] [] json = .ok log := by
  unfold decodeJSON rejectDuplicateJSONKeys at decoded
  cases parsed : library.document data with
  | error error =>
    rw [parsed] at decoded
    split at decoded <;> cases decoded
  | ok json =>
    rw [parsed] at decoded
    dsimp only at decoded
    split at decoded
    · cases decoded
    · split at decoded
      · cases decoded
      · rename_i walked
        exact ⟨json, rfl, distinct_of_walkJSON json walked, decoded⟩

end

namespace Sample

def library (data : List UInt8) (json : Json) : Library where
  blank data := data = []
  document other := if other = data then .ok json else .error "invalid character"
  fold name := String.ofList (name.toList.map Char.toLower)

def number : Shape := .scalar false fun
  | .number _ => true
  | _ => false

def fields : List (String × Shape) := [("id", number), ("run_id", number)]

def twice : List UInt8 := [123, 34, 105, 100, 34, 58, 49, 44, 34, 73, 68, 34, 58, 50, 125]

def twiceRead : Json := .object [("id", .number "1"), ("ID", .number "2")]

def once : List UInt8 := [123, 34, 105, 100, 34, 58, 49, 125]

def onceRead : Json := .object [("id", .number "1")]

theorem onceRead_unambiguous (decoder : Decoder) (fields : List (String × Shape)) :
    decoder.Unambiguous (.record false fields) onceRead := by
  intro fields members meets
  cases meets with
  | here => exact List.pairwise_singleton _ _
  | member among _ inside =>
    cases List.mem_singleton.mp among
    cases inside

end Sample

end Civm.JitDispatcher.StrictJson
