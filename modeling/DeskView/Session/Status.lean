/-!
# Session status

The status of a session only moves forward: `SessionStatus.advance` refuses to go back or to stay.
A `StatusFeed` is a status that others can watch: it keeps what was published so far, so that a
watcher who remembers how much it has seen can tell whether there is news.
-/

namespace DeskView

/-- How far a session has come. -/
inductive SessionStatus where
  | idle
  | connecting
  | active
  | terminating
  | terminated
deriving Repr, DecidableEq

namespace SessionStatus

instance : Inhabited SessionStatus := ⟨.idle⟩

/-- The status's name. -/
def label : SessionStatus → String
  | .idle => "Idle"
  | .connecting => "Connecting"
  | .active => "Active"
  | .terminating => "Terminating"
  | .terminated => "Terminated"

/-- The place of a status on the way of a session. -/
def rank : SessionStatus → Nat
  | .idle => 0
  | .connecting => 1
  | .active => 2
  | .terminating => 3
  | .terminated => 4

/-- Whether a session in this status keeps a new one from being started. -/
def isLive : SessionStatus → Bool
  | .connecting => true
  | .active => true
  | .terminating => true
  | .idle => false
  | .terminated => false

/-- The status after an attempt to move to `next`: `next` if it lies ahead, else unchanged. -/
def advance (s next : SessionStatus) : SessionStatus :=
  if s.rank < next.rank then next else s

/-- Whether an attempt to move to `next` succeeds. -/
def advances (s next : SessionStatus) : Bool := s.rank < next.rank

end SessionStatus

/-- A status that is published to watchers. -/
structure StatusFeed where
  current : SessionStatus := .idle
  /-- Everything that was published, in order. -/
  published : List SessionStatus := []
deriving Repr, DecidableEq

namespace StatusFeed

/-- Publishes a status, whatever the current one is. -/
def publish (f : StatusFeed) (s : SessionStatus) : StatusFeed :=
  ⟨s, f.published ++ [s]⟩

/-- Publishes a status if it lies ahead of the current one. -/
def advance (f : StatusFeed) (next : SessionStatus) : StatusFeed :=
  if f.current.advances next then f.publish next else f

end StatusFeed

end DeskView
