import DeskView.Frame.Format
import DeskView.Surface.Scale

/-!
# Settings of the frame pump
-/

namespace DeskView

/-- The nanoseconds of a millisecond. -/
def nanoseconds : Nat := 1000000

/-- How a frame pump runs.  Times are in milliseconds. -/
structure PumpSettings where
  /-- From one tick to the next. -/
  tick : UInt64 := 16
  /-- The remote display that is shown. -/
  display : UInt32 := 0
  /-- How long a stop waits for the pump. -/
  stopTimeout : UInt64 := 1000
  scale : ScaleMode := .stretch
  format : PixelFormat := .rgba8
deriving Repr, DecidableEq

namespace PumpSettings

/-- The nanoseconds from one tick to the next. -/
def period (p : PumpSettings) : Nat := p.tick.toNat * nanoseconds

/-- The nanoseconds for which a stop waits for the pump. -/
def patience (p : PumpSettings) : Nat := p.stopTimeout.toNat * nanoseconds

end PumpSettings

end DeskView
