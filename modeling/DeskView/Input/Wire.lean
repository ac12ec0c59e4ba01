import DeskView.Input.Event

/-!
# Input events on the wire

An event is twenty bytes: the number of its action in four, the position across and down in four
each, and the time in eight; the lowest byte of each comes first.  Bytes after the twentieth are
not looked at.
-/

namespace DeskView

/-- The lowest `n` bytes of a number, the lowest first. -/
def littleEndian : (n value : Nat) → List UInt8
  | 0, _ => []
  | n + 1, value => UInt8.ofNat value :: littleEndian n (value / 256)

/-- The number that some bytes make, the lowest first. -/
def ofLittleEndian : List UInt8 → Nat
  | [] => 0
  | b :: rest => b.toNat + 256 * ofLittleEndian rest

/-- Why bytes are not an event. -/
inductive WireError where
  /-- There are too few. -/
  | ended
  /-- The action has a number that stands for none. -/
  | action (number : Nat)
deriving Repr, DecidableEq

namespace WireError

/-- The text shown to people. -/
def message : WireError → String
  | .ended => "io error: unexpected end of file"
  | .action number =>
    "invalid value: integer `" ++ toString number ++ "`, expected variant index 0 <= i < 5"

end WireError

namespace PointerAction

/-- The number of an action. -/
def number : PointerAction → Nat
  | .down => 0
  | .up => 1
  | .move => 2
  | .cancel => 3
  | .scroll => 4

/-- The action with a number. -/
def ofNumber? : Nat → Option PointerAction
  | 0 => some .down
  | 1 => some .up
  | 2 => some .move
  | 3 => some .cancel
  | 4 => some .scroll
  | _ => none

end PointerAction

namespace InputEvent

/-- The twenty bytes of an event. -/
def encode (e : InputEvent) : List UInt8 :=
  littleEndian 4 e.action.number ++ littleEndian 4 e.x.bits.toNat ++
    littleEndian 4 e.y.bits.toNat ++ littleEndian 8 e.time.toNat

/-- The number in the first `n` bytes, and the bytes after them. -/
def takeNumber (n : Nat) (bytes : List UInt8) : Except WireError (Nat × List UInt8) :=
  if bytes.length < n then .error .ended
  else .ok (ofLittleEndian (bytes.take n), bytes.drop n)

/-- The event at the start of some bytes. -/
def decode (bytes : List UInt8) : Except WireError InputEvent := do
  let (number, bytes) ← takeNumber 4 bytes
  let some action := PointerAction.ofNumber? number | throw (.action number)
  let (x, bytes) ← takeNumber 4 bytes
  let (y, bytes) ← takeNumber 4 bytes
  let (time, _) ← takeNumber 8 bytes
  return ⟨action, ⟨.ofNat x⟩, ⟨.ofNat y⟩, .ofNat time⟩

end InputEvent

end DeskView
