/-!
# Outcomes of foreign calls

An engine or a draw target is code the viewer does not control.  A call into it answers a value,
reports an error, or dies without an answer; `Outcome` keeps the three apart, so that "it failed"
and "it panicked" are never confused.
-/

namespace DeskView

/-- What a call into foreign code comes to: a value, an error, or a panic. -/
inductive Outcome (ε α : Type) where
  /-- The call answered. -/
  | ok (value : α)
  /-- The call reported an error. -/
  | error (e : ε)
  /-- The call unwound without an answer. -/
  | panic
deriving Repr, DecidableEq

namespace Outcome

/-- A call that can only answer or fail is an outcome without the panic. -/
def ofExcept {ε α : Type} : Except ε α → Outcome ε α
  | .ok a => .ok a
  | .error e => .error e

/-- Whether the call answered. -/
def isOk {ε α : Type} : Outcome ε α → Bool
  | .ok _ => true
  | .error _ => false
  | .panic => false

end Outcome

end DeskView
