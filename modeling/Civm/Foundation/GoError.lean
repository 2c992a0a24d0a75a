import Mathlib.Data.List.Basic

/-! # Go error values

The part of Go's error values that programs look at: wrapping, joining, and the
searches `errors.Is` and `errors.As` through the resulting tree. -/

namespace Civm

/-- An error value. `wrap` is `fmt.Errorf` with one `%w`, `pair` is
`fmt.Errorf` with two of them or `errors.Join`. -/
inductive GoError (Sentinel Typed : Type)
  | sentinel (value : Sentinel)
  | typed (value : Typed)
  | text (message : String)
  | wrap (before : String) (cause : GoError Sentinel Typed) (after : String)
  | pair (first : GoError Sentinel Typed) (between : String)
    (second : GoError Sentinel Typed)
  deriving DecidableEq

namespace GoError

variable {Sentinel Typed : Type}

/-- `errors.Is` for a sentinel value. -/
def is [DecidableEq Sentinel] (error : GoError Sentinel Typed) (target : Sentinel) : Bool :=
  match error with
  | .sentinel value => value = target
  | .typed _ => false
  | .text _ => false
  | .wrap _ cause _ => cause.is target
  | .pair first _ second => first.is target || second.is target

/-- `errors.As`: the first value of the given error type, in depth-first order. -/
def as? : GoError Sentinel Typed → Option Typed
  | .sentinel _ => none
  | .typed value => some value
  | .text _ => none
  | .wrap _ cause _ => cause.as?
  | .pair first _ second => first.as? <|> second.as?

/-- `fmt.Errorf("%w: detail", sentinel)`. -/
def because (value : Sentinel) (detail : String) : GoError Sentinel Typed :=
  .wrap "" (.sentinel value) (": " ++ detail)

/-- `errors.Join` of an error with one that may be nil. -/
def join (error : GoError Sentinel Typed) :
    Option (GoError Sentinel Typed) → GoError Sentinel Typed
  | none => error
  | some other => .pair error "\n" other

/-- `errors.Join` of errors that may all be nil. -/
def joinAll : List (Option (GoError Sentinel Typed)) → Option (GoError Sentinel Typed)
  | [] => none
  | none :: rest => joinAll rest
  | some error :: rest => some (error.join (joinAll rest))

@[simp] theorem is_because [DecidableEq Sentinel] (value target : Sentinel) (detail : String) :
    (because value detail : GoError Sentinel Typed).is target = decide (value = target) := rfl

theorem joinAll_eq_none {errors : List (Option (GoError Sentinel Typed))} :
    joinAll errors = none ↔ ∀ error ∈ errors, error = none := by
  induction errors with
  | nil => simp [joinAll]
  | cons head tail induction =>
    cases head with
    | none => simp [joinAll, induction]
    | some error => simp [joinAll]

end GoError

end Civm
