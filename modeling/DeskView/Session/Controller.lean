import DeskView.Pump.Loop
import DeskView.Session.Credentials
import DeskView.Session.Error
import DeskView.Session.Status
import DeskView.Text.Duration

/-!
# The session controller

A controller holds at most one session.  `start` opens a session with the engine and gives it a pump
on a thread of its own; `stop` tells the pump to stop, waits for it for a bounded time, and releases
the session with the engine whether the pump has ended or not.

Threads run beside the controller.  A thread moves when an `Event` says so: it wakes up for a tick,
or the fetch it was blocked in comes back.  Events that happen while an operation is under way are
handed to it (`Stopping`, `Replies`), each list for the stage at which they happen.  There is no clock;
when a pump is told to stop between two ticks, how long it is until the next is handed to the stop,
too.  A thread that outlived its session stays in `threads` and may still move; its `epoch`, the number
of the start it belongs to, keeps it from speaking for a later session.
-/

namespace DeskView

/-- Where a pump's thread is. -/
inductive Phase where
  /-- Between two ticks. -/
  | waiting
  /-- In a fetch that blocks. -/
  | fetching (fetch : Engine.Fetch)
  /-- The loop has ended. -/
  | exited (exit : LoopEnd)
  /-- A tick panicked. -/
  | panicked

/-- A pump on its thread. -/
structure Thread where
  /-- The number of the start that created the thread. -/
  epoch : Nat
  pump : Pump
  phase : Phase := .waiting

/-- How many nanoseconds go by until a thread between two ticks wakes up, if on the clock of its ticks
it is `due` until the next.  A thread that has not ticked wakes up at once, and no tick comes later than
a period after the last. -/
def Thread.sleep (t : Thread) (p : PumpSettings) (due : Nat) : Nat :=
  if t.pump.ticks = 0 then 0 else min due p.period

/-- A session that was started and not yet stopped. -/
structure Session where
  id : String
  mode : SessionMode
  /-- The number of the thread of the session's pump, if it got one. -/
  thread : Option Nat

/-- Who does something. -/
inductive Actor where
  | controller
  | window
  | pump (thread : Nat)
deriving Repr, DecidableEq

/-- An effect, and who caused it. -/
structure Noted where
  actor : Actor
  effect : Effect
deriving Repr, DecidableEq

/-- Something that happens beside the controller's own operations. -/
inductive Event (T : Type) where
  /-- The window system reports a change of the surface. -/
  | surface (event : SurfaceEvent T)
  /-- A thread wakes up for a tick, to which the engine would give these answers. -/
  | wake (thread : Nat) (answers : Engine.Answers)
  /-- The fetch in which a thread is blocked goes on. -/
  | resume (thread : Nat)

/-- A session controller and the threads of its pumps. -/
structure Controller (T : Type) where
  config : PumpSettings
  surface : Surface T
  feed : StatusFeed := {}
  /-- How many starts got as far as the engine. -/
  epoch : Nat := 0
  session : Option Session := none
  /-- Every thread that was ever created. -/
  threads : Array Thread := #[]

/-- What `stop` did. -/
inductive StopResult where
  /-- There was no session. -/
  | noSession
  /-- The pump ended, and the session was released. -/
  | stopped
  /-- The pump did not end within that many milliseconds; the session was released all the same. -/
  | terminationTimeout (waited : UInt64)
deriving Repr, DecidableEq

/-- How the wait for a thread ended. -/
inductive Wait where
  | exited (exit : LoopEnd)
  | panicked
  | timedOut (waited : UInt64)
deriving Repr, DecidableEq

/-- A step of the controller: its answer, the controller afterwards, and what was done. -/
structure Step (T : Type) (α : Type) where
  reply : α
  controller : Controller T
  noted : List Noted

/-- Effects of one actor. -/
def Actor.note (actor : Actor) (effects : List Effect) : List Noted := effects.map (⟨actor, ·⟩)

/-- A line that the controller logs. -/
def Controller.notes (r : Log.Record) : Noted := ⟨.controller, .log r⟩

/-- A call that the controller makes into the engine. -/
def Controller.calls (call : Engine.Call) : Noted := ⟨.controller, .engine call⟩

namespace Controller

variable {T : Type}

/-- A controller with no session, on a surface that may be in use already. -/
def new (config : PumpSettings) (surface : Surface T := { scale := config.scale }) : Controller T :=
  { config, surface }

/-- The current status. -/
def status (c : Controller T) : SessionStatus := c.feed.current

/-- The thread of the current session's pump. -/
def thread? (c : Controller T) : Option Thread :=
  match c.session with
  | none => none
  | some session =>
    match session.thread with
    | none => none
    | some k => c.threads[k]?

/-- How many frames the current session's pump has drawn. -/
def framesShown (c : Controller T) : Nat :=
  match c.thread? with
  | none => 0
  | some t => t.pump.frameCount

/-- Whether the current session has a pump that was not told to stop. -/
def isPumpRunning (c : Controller T) : Bool :=
  match c.thread? with
  | none => false
  | some t => t.pump.running

/-- Where a thread is. -/
def phase? (c : Controller T) (k : Nat) : Option Phase := (c.threads[k]?).map Thread.phase

/-- The controller with a thread replaced. -/
def setThread (c : Controller T) (k : Nat) (t : Thread) : Controller T :=
  { c with threads := c.threads.setIfInBounds k t }

/-- The controller with its status moved forward. -/
def advance (c : Controller T) (s : SessionStatus) : Controller T :=
  { c with feed := c.feed.advance s }

/-! ### Threads -/

/-- The report of a thread whose loop has ended: a lost link terminates the session, unless a later
one was started. -/
def report (c : Controller T) (epoch : Nat) : LoopEnd → Controller T
  | .cancelled => c
  | .linkLost _ => if epoch = c.epoch then c.advance .terminated else c

/-- A thread leaves its loop, told to stop. -/
def leave (c : Controller T) (k : Nat) (t : Thread) : Controller T × List Effect :=
  (c.setThread k { t with phase := .exited .cancelled }, [.log t.pump.logStopped])

/-- What a thread does after a tick. -/
def afterTick (c : Controller T) (k : Nat) (t : Thread) (ticked : Ticked T) :
    Controller T × List Effect :=
  let c := { c with surface := ticked.surface }
  let t := { t with pump := ticked.pump, phase := .waiting }
  match ticked.outcome with
  | .panic => (c.setThread k { t with phase := .panicked }, ticked.effects)
  | .error (.linkLost e) =>
    let t := { t with pump := t.pump.stop, phase := .exited (.linkLost e) }
    ((c.setThread k t).report t.epoch (.linkLost e),
      ticked.effects ++ [.log (t.pump.logLinkLost e)])
  | outcome =>
    let warning := match outcome with
      | .error e => [Effect.log (t.pump.logFailed e)]
      | _ => []
    if t.pump.running then (c.setThread k t, ticked.effects ++ warning)
    else
      let (c, effects) := c.leave k t
      (c, ticked.effects ++ warning ++ effects)

variable [Drawable T]

/-- A waiting thread wakes up: it leaves its loop if it was told to stop, else it ticks, and may be
blocked in the fetch. -/
def wake (c : Controller T) (k : Nat) (t : Thread) (a : Engine.Answers) :
    Controller T × List Effect :=
  if !t.pump.running then c.leave k t
  else
    let first := t.pump.prepare a
    match first.verdict, a.fetch.blocks with
    | .ok .ready, true =>
      (c.setThread k { t with pump := first.pump, phase := .fetching a.fetch }, first.effects)
    | _, _ => c.afterTick k t (t.pump.tick c.surface a)

/-- What an event does.  An event for a thread that is not in the right phase does nothing. -/
def happen (c : Controller T) : Event T → Controller T × List Noted
  | .surface event =>
    ({ c with surface := c.surface.apply event }, [⟨.window, .log event.log⟩])
  | .wake k a =>
    match c.threads[k]? with
    | some t =>
      match t.phase with
      | .waiting =>
        let (c, effects) := c.wake k t a
        (c, (Actor.pump k).note effects)
      | _ => (c, [])
    | none => (c, [])
  | .resume k =>
    match c.threads[k]? with
    | some t =>
      match t.phase with
      | .fetching fetch =>
        let (c, effects) := c.afterTick k t (t.pump.deliver c.surface fetch)
        (c, (Actor.pump k).note effects)
      | _ => (c, [])
    | none => (c, [])

/-- What some events do, one after the other. -/
def happenAll (c : Controller T) : List (Event T) → Controller T × List Noted
  | [] => (c, [])
  | event :: rest =>
    let (c, noted) := c.happen event
    let (c, more) := c.happenAll rest
    (c, noted ++ more)

/-! ### Stopping -/

/-- Tells a thread to stop. -/
def tell (c : Controller T) (k : Nat) : Controller T :=
  match c.threads[k]? with
  | some t => c.setThread k { t with pump := t.pump.stop }
  | none => c

/-- Tells a thread to stop and waits for it.  A thread between two ticks notices the flag when it
next wakes up; a thread blocked in a fetch does not notice it. -/
def await (c : Controller T) (k : Nat) (meanwhile : List (Event T)) (due : Nat) : Step T Wait :=
  let (c, noted) := (c.tell k).happenAll meanwhile
  match c.threads[k]? with
  | none => ⟨.panicked, c, noted⟩
  | some t =>
    match t.phase with
    | .exited exit => ⟨.exited exit, c, noted⟩
    | .panicked => ⟨.panicked, c, noted⟩
    | .fetching _ => ⟨.timedOut c.config.stopTimeout, c, noted⟩
    | .waiting =>
      if c.config.patience < t.sleep c.config due then ⟨.timedOut c.config.stopTimeout, c, noted⟩
      else
        let (c, effects) := c.leave k t
        ⟨.exited .cancelled, c, noted ++ (Actor.pump k).note effects⟩

/-- The log record about the end of a wait. -/
def logWait : Wait → Log.Record
  | .exited exit => Log.debug "frame pump stopped" [("exit", exit.debug)]
  | .panicked => Log.warn "frame pump ended abnormally"
  | .timedOut waited =>
    Log.warn ("termination timeout: frame pump still running after " ++
      Text.duration waited.toNat ++ "; releasing engine session anyway")

/-- What a stop answers after a wait. -/
def stopResult : Wait → StopResult
  | .exited _ => .stopped
  | .panicked => .stopped
  | .timedOut waited => .terminationTimeout waited

/-- Waits for the pump of a session that is being stopped, if it has one. -/
def awaitPump (c : Controller T) (session : Session) (meanwhile : List (Event T)) (due : Nat) :
    Step T StopResult :=
  match session.thread with
  | none => ⟨.stopped, c, []⟩
  | some k =>
    let awaited := c.await k meanwhile due
    ⟨stopResult awaited.reply, awaited.controller,
      notes (Log.debug "waiting for frame pump to stop...") ::
        awaited.noted ++ [notes (logWait awaited.reply)]⟩

/-- What happens while a session is being stopped, and what the engine answers. -/
structure Stopping (T : Type) where
  /-- What happens before the pump is told to stop. -/
  before : List (Event T) := []
  /-- What happens while the pump is waited for. -/
  meanwhile : List (Event T) := []
  /-- How many nanoseconds it is from when the pump is told to stop until its next tick is due. -/
  due : Nat := 0
  /-- What happens while the engine releases the session. -/
  releasing : List (Event T) := []
  /-- What the engine answers when the session is released. -/
  reply : Except EngineError Unit := .ok ()

/-- Releases a session with the engine, which answers `reply`; `during` was noted meanwhile. -/
def release (id : String) (during : List Noted) (reply : Except EngineError Unit) : List Noted :=
  calls (.stop id) :: during ++
    match reply with
    | .ok () => []
    | .error e => [notes (Log.warn ("error stopping session: " ++ e.message) [("id", id)])]

/-- Stops the current session, if there is one. -/
def stop (c : Controller T) (s : Stopping T) : Step T StopResult :=
  match c.session with
  | none => ⟨.noSession, c, [notes (Log.debug "stop: no session")]⟩
  | some session =>
    let c := { c with session := none }.advance .terminating
    let (c, first) := c.happenAll s.before
    let awaited := c.awaitPump session s.meanwhile s.due
    let (c, during) := awaited.controller.happenAll s.releasing
    ⟨awaited.reply, c.advance .terminated,
      notes (Log.info "stopping session" [("id", session.id)]) ::
        first ++ awaited.noted ++ release session.id during s.reply ++
          [notes (Log.info "session stopped" [("id", session.id)])]⟩

/-! ### Starting -/

/-- What the engine and the system answer during a start, and what happens meanwhile. -/
structure Replies (T : Type) where
  /-- What the engine answers when it is asked to open the session. -/
  start : Except EngineError Unit := .ok ()
  /-- Whether the pump gets its thread, else why not. -/
  spawn : Except String Unit := .ok ()
  /-- What happens while the engine opens the session. -/
  opening : List (Event T) := []
  /-- What happens while a session that has died is stopped before. -/
  stopping : Stopping T := {}

/-- Opens a session when there is none: the engine is asked, and if it accepts, the session gets a
pump.  A session that the engine refused, or that got no pump, is kept, so that a stop releases it
with the engine. -/
def openSession (c : Controller T) (id : String) (credentials : Credentials) (mode : SessionMode)
    (replies : Replies T) : Step T (Except SessionError Unit) :=
  let epoch := c.epoch + 1
  let c := { c with epoch, feed := c.feed.publish .connecting }
  let (c, during) := c.happenAll replies.opening
  let begun :=
    notes (Log.info "starting session" [("id", id),
      ("password_len", toString credentials.length), ("mode", mode.label)]) ::
    calls (.start id credentials.secret) :: during
  match replies.start, replies.spawn with
  | .error e, _ =>
    let c := { c with session := some ⟨id, mode, none⟩ }.advance .terminated
    ⟨.error (.ofEngine e), c,
      begun ++ [notes (Log.error ("failed to start session: " ++ e.message) [("id", id)])]⟩
  | .ok (), .error reason =>
    let c := ({ c with session := some ⟨id, mode, none⟩ }.advance .active).advance .terminated
    ⟨.error (.spawn reason), c,
      begun ++ [notes (Log.error ("failed to spawn frame pump: " ++ reason) [("id", id)])]⟩
  | .ok (), .ok () =>
    let k := c.threads.size
    let pump := Pump.new id c.config
    let c := { c with
      session := some ⟨id, mode, some k⟩
      threads := c.threads.push { epoch, pump } }.advance .active
    ⟨.ok (), c,
      begun ++ [⟨.pump k, .log pump.logRunning⟩,
        notes (Log.debug "frame pump started" [("id", id)])]⟩

/-- Starts a session to `id`.  A session that is still live refuses it; one that has died is stopped
first. -/
def start (c : Controller T) (id : String) (credentials : Credentials) (mode : SessionMode)
    (replies : Replies T) : Step T (Except SessionError Unit) :=
  if id.isEmpty then ⟨.error .invalidId, c, [notes (Log.warn "invalid remote id")]⟩
  else
    match c.session with
    | none => c.openSession id credentials mode replies
    | some current =>
      if c.status.isLive then ⟨.error (.alreadyActive current.id), c, []⟩
      else
        let stopped := c.stop replies.stopping
        let opened := stopped.controller.openSession id credentials mode replies
        { opened with noted := stopped.noted ++ opened.noted }

/-! ### Histories -/

/-- Anything that can happen to a controller. -/
inductive Operation (T : Type) where
  | start (id : String) (credentials : Credentials) (mode : SessionMode) (replies : Replies T)
  | stop (stopping : Stopping T)
  /-- The controller goes away; its session is stopped. -/
  | drop (stopping : Stopping T)
  | event (event : Event T)

/-- What an operation answers. -/
inductive Reply where
  | started (result : Except SessionError Unit)
  | stopped (outcome : StopResult)
  | dropped
  | happened

/-- One operation. -/
def perform (c : Controller T) : Operation T → Step T Reply
  | .start id credentials mode replies =>
    let step := c.start id credentials mode replies
    ⟨.started step.reply, step.controller, step.noted⟩
  | .stop stopping =>
    let step := c.stop stopping
    ⟨.stopped step.reply, step.controller, step.noted⟩
  | .drop stopping =>
    let step := c.stop stopping
    ⟨.dropped, step.controller, step.noted⟩
  | .event event =>
    let (c, noted) := c.happen event
    ⟨.happened, c, noted⟩

/-- Operations one after the other, with the answer of each. -/
def performAll (c : Controller T) : List (Operation T) → Step T (List Reply)
  | [] => ⟨[], c, []⟩
  | operation :: rest =>
    let first := c.perform operation
    let others := first.controller.performAll rest
    ⟨first.reply :: others.reply, others.controller, first.noted ++ others.noted⟩

end Controller

end DeskView
