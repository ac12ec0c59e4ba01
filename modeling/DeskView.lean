import DeskView.Document.Numeral
import DeskView.Engine.Script
import DeskView.Frame.Bgra
import DeskView.Input.Pointer
import DeskView.Main
import DeskView.Proofs.Pump.Screen
import DeskView.Proofs.Session.Status
import DeskView.Surface.StandIn
import DeskView.Window
import DeskView.Proofs.Pump.Clock
import DeskView.Proofs.Surface.Transactions
import DeskView.Proofs.Surface.Window
import DeskView.Proofs.Surface.Colour
import DeskView.Proofs.Surface.Remains
import DeskView.Proofs.Session.Unwinding
import DeskView.Proofs.Session.Quiet
import DeskView.Proofs.Session.Turns
import DeskView.Proofs.Session.Detached
import DeskView.Proofs.Session.Fresh
import DeskView.Proofs.Session.Password
import DeskView.Proofs.Input.Queue
import DeskView.Proofs.Session.StopTime
import DeskView.Proofs.Input.Wire
import DeskView.Proofs.Frame.Room
import DeskView.Proofs.Frame.Staging
import DeskView.Proofs.Pump.Generations
import DeskView.Proofs.Pump.Recovery
import DeskView.Proofs.Surface.LastEvents
import DeskView.Proofs.Session.Start
import DeskView.Proofs.Surface.Letterbox
import DeskView.Proofs.Surface.Range
import DeskView.Proofs.Surface.Commits
import DeskView.Proofs.Surface.Abandoned
import DeskView.Proofs.Surface.Visible
import DeskView.Proofs.Input.Gestures
import DeskView.Proofs.Engine.Slot
import DeskView.Proofs.Engine.Native
import DeskView.Proofs.Frame.Bgra
