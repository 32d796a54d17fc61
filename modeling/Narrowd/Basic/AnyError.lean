import Mathlib.Tactic

set_option autoImplicit false

/-! # Errors

`anyhow::Error` is a message over a chain of causes, and `to_string` shows the message alone.
`std::io::Error` has a kind and a text.
-/

namespace Narrowd

/-- An `anyhow` error. -/
structure AnyError where
  message : String
  causes : List String := []
  deriving DecidableEq, Repr

namespace AnyError

/-- `err.context(message)`: what failed, over why it failed. -/
def context (err : AnyError) (message : String) : AnyError :=
  { message := message, causes := err.message :: err.causes }

/-- `format!("{err:#}")`: the message and its causes. -/
def alternate (err : AnyError) : List Char :=
  List.intercalate [':', ' '] ((err.message :: err.causes).map String.toList)

theorem alternate_of_cause (message cause : String) :
    (AnyError.mk message [cause]).alternate = message.toList ++ (':' :: ' ' :: cause.toList) := by
  simp [alternate, List.intercalate]

end AnyError

/-- The kinds of `std::io::ErrorKind` that the daemon distinguishes. -/
inductive ErrorKind
  | notFound
  | permissionDenied
  | alreadyExists
  | timedOut
  | unexpectedEof
  | other
  deriving DecidableEq, Repr

/-- `std::io::Error`. -/
structure IoError where
  kind : ErrorKind
  text : String
  deriving DecidableEq, Repr

/-- `result.with_context(..)?` on an I/O result. -/
def withContext {α : Type*} (message : String) : Except IoError α → Except AnyError α
  | .ok a => .ok a
  | .error err => .error { message := message, causes := [err.text] }

/-- A `?` that goes on found an `Ok`. -/
theorem bind_eq_ok {ε α β : Type*} {x : Except ε α} {f : α → Except ε β} {b : β}
    (h : x.bind f = .ok b) : ∃ a, x = .ok a ∧ f a = .ok b := by
  cases x with
  | ok a => exact ⟨a, rfl, h⟩
  | error err => cases h

theorem withContext_eq_ok {α : Type*} {message : String} {r : Except IoError α} {a : α} :
    withContext message r = .ok a ↔ r = .ok a := by
  cases r with
  | ok b => simp [withContext]
  | error err => simp [withContext]

end Narrowd
