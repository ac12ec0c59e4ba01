import DeskView.Effect
import DeskView.Input.Wire
import DeskView.Memory
import DeskView.Text.Decimal

/-!
# The input queue

Events wait in a queue until they are flushed to the engine.  The queue never blocks the caller:
when it is full, the oldest event is dropped for the newest.  A flush hands every waiting event to
the engine, in order of arrival, and forgets it whatever the engine answers.
-/

namespace DeskView

/-- A bounded queue of input events. -/
structure InputQueue where
  /-- The events that wait, the oldest first. -/
  events : List InputEvent := []
  /-- How many events may wait; at least one. -/
  capacity : Nat
  /-- How many events were dropped. -/
  dropped : Nat := 0

/-- How an engine takes events: the answer to the `n`-th event of a flush, counted from zero. -/
abbrev Injector := Nat → Except EngineError Unit

/-- A flush: how many events the engine took, the queue afterwards, and what was done. -/
structure Flushed where
  sent : Nat
  queue : InputQueue
  effects : List Effect

namespace InputQueue

/-- How many events may wait if nothing else is said. -/
def defaultCapacity : Nat := 64

/-- The bytes that an event takes in memory. -/
def eventSize : Nat := 24

/-- An empty queue for `capacity` events, one at the least. -/
def new (capacity : Nat) : InputQueue := { capacity := max capacity 1 }

/-- An empty queue, if there can be room for as many events. -/
def new? (capacity : Nat) : Option InputQueue :=
  let q := new capacity
  if Memory.canHold q.capacity eventSize then some q else none

/-- The log record of an event. -/
def logEvent (e : InputEvent) : Log.Record :=
  Log.trace ("input event: " ++ e.action.label ++ " at (" ++ Text.fixed3 e.x.value ++ ", " ++
    Text.fixed3 e.y.value ++ ")")

/-- The queue with one more event. -/
def push (q : InputQueue) (e : InputEvent) : InputQueue :=
  if q.events.length = q.capacity then
    { q with events := q.events.tail ++ [e], dropped := q.dropped + 1 }
  else { q with events := q.events ++ [e] }

/-- What one event of a flush does: the call, if the engine takes events at all, and a log line if
it did not succeed. -/
def deliver (id : String) (accepts : Bool) (e : InputEvent) (answer : Except EngineError Unit) :
    List Effect :=
  (if accepts then [.engine (.inject id e.encode)] else []) ++
    match answer with
    | .ok () => []
    | .error error => [.log (Log.debug ("input not delivered: " ++ error.message))]

/-- The answer of an engine that has no entry point for events. -/
def unsupported : Except EngineError Unit := .error (.unsupported "inject_input")

/-- The answer to the `n`-th event of a flush. -/
def answer (injector : Option Injector) (n : Nat) : Except EngineError Unit :=
  match injector with
  | some answers => answers n
  | none => unsupported

/-- Hands every waiting event to the engine of the session `id`.  An engine without an injector does
not take events. -/
def flush (q : InputQueue) (id : String) (injector : Option Injector) : Flushed :=
  let answered := q.events.mapIdx fun n e => (e, answer injector n)
  ⟨answered.countP fun (_, result) => result.isOk,
    { q with events := [] },
    answered.flatMap fun (e, result) => deliver id injector.isSome e result⟩

end InputQueue

end DeskView
