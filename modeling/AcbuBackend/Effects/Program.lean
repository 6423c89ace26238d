import Mathlib.Tactic.Common

/-! Programs that await calls of an external interface.
A program is the finite tree of its calls; each call is answered by a value or an error,
and an error propagates like a thrown exception until a `catchWith` takes it.
-/

namespace AcbuBackend.Effects

/-- The calls a program may issue, the value each one answers with, and its errors. -/
structure Interface where
  Op : Type
  Ret : Op → Type
  Err : Type

/-- What a call is answered with: its value, or the error the caller observes. -/
abbrev Interface.Reply (I : Interface) (op : I.Op) : Type :=
  Except I.Err (I.Ret op)

/-- A program over `I`: finished with a value, ended by an error, or waiting for the
reply of a call.
-/
inductive Prog (I : Interface) (α : Type) : Type
  | done (value : α)
  | fail (error : I.Err)
  | call (op : I.Op) (next : I.Reply op → Prog I α)

namespace Prog

variable {I : Interface} {α β γ : Type}

/-- Sequencing: the second program starts from the value of the first. -/
def bind : Prog I α → (α → Prog I β) → Prog I β
  | .done value, f => f value
  | .fail error, _ => .fail error
  | .call op next, f => .call op (fun reply => (next reply).bind f)

/-- Runs `body`, and `handler` from the point where an error leaves `body`. -/
def catchWith : Prog I α → (I.Err → Prog I α) → Prog I α
  | .done value, _ => .done value
  | .fail error, handler => handler error
  | .call op next, handler => .call op (fun reply => (next reply).catchWith handler)

instance : Monad (Prog I) where
  pure := .done
  bind := Prog.bind

/-- Issues one call and waits for its answer, rethrowing the error it may report. -/
def await (op : I.Op) : Prog I (I.Ret op) :=
  .call op (fun
    | .ok value => .done value
    | .error error => .fail error)

/-- A result computed without any call, its error thrown. -/
def fromExcept : Except I.Err α → Prog I α
  | .ok value => .done value
  | .error error => .fail error

/-- Throws `error` unless the check holds. -/
def ensure (check : Bool) (error : I.Err) : Prog I Unit :=
  if check then .done () else .fail error

/-- The value of an option, or `error`. -/
def orThrow (value : Option α) (error : I.Err) : Prog I α :=
  match value with
  | some value => .done value
  | none => .fail error

/-- Runs `body` for its calls; an error it ends with is dropped. -/
def swallow (body : Prog I Unit) : Prog I Unit :=
  body.catchWith (fun _ => .done ())

/-- Nothing is left to run: the program has its value or has thrown. -/
def ended : Prog I α → Bool
  | .call _ _ => false
  | _ => true

/-- The value of a program that finished without an error. -/
def value? : Prog I α → Option α
  | .done value => some value
  | _ => none

/-- The error a program has ended with. -/
def error? : Prog I α → Option I.Err
  | .fail error => some error
  | _ => none

@[simp] theorem pure_eq (value : α) : (pure value : Prog I α) = .done value := rfl

@[simp] theorem ended_call (op : I.Op) (next : I.Reply op → Prog I α)
    : (Prog.call op next).ended = false :=
  rfl

theorem ended_cases {prog : Prog I α} (h : prog.ended = true)
    : (∃ value, prog = .done value) ∨ ∃ error, prog = .fail error := by
  cases prog with
  | done value => exact .inl ⟨value, rfl⟩
  | fail error => exact .inr ⟨error, rfl⟩
  | call _ _ => cases h

theorem eq_done_of_value? {prog : Prog I α} {value : α} (h : prog.value? = some value)
    : prog = .done value := by
  cases prog with
  | done _ => exact congrArg Prog.done (Option.some.inj h)
  | fail _ | call _ _ => cases h

theorem eq_fail_of_error? {prog : Prog I α} {error : I.Err} (h : prog.error? = some error)
    : prog = .fail error := by
  cases prog with
  | fail _ => exact congrArg Prog.fail (Option.some.inj h)
  | done _ | call _ _ => cases h

end Prog

end AcbuBackend.Effects
