import DeskView.Session.Controller

/-!
# Rehearsed sessions

A rehearsal is a controller with everything around it decided in advance: the engine answers from
two lists, and a pump gets the frames it is given and waits when they are used up.  So nothing
depends on time, and a session can be played through step by step.
-/

namespace DeskView

/-- A controller whose surroundings are decided in advance. -/
structure Rehearsal (T : Type) where
  controller : Controller T
  /-- What the engine will answer to the next starts; it accepts when the list is used up. -/
  starts : List (Except EngineError Unit) := []
  /-- What the engine will answer to the next releases. -/
  stops : List (Except EngineError Unit) := []
  /-- The frames left for a pump that hangs, by the id of its session. -/
  queues : List (String × List Engine.Answers) := []
  /-- Whether the controller was dropped. -/
  dropped : Bool := false
  /-- How many publications the watcher of the status has seen. -/
  seen : Nat := 0

/-- How far a pump got with the frames it was given. -/
inductive Progress where
  /-- It used them all. -/
  | idle
  /-- It is blocked in a fetch. -/
  | hung
  /-- Its loop has ended. -/
  | ended
deriving Repr, DecidableEq

namespace Progress

/-- The progress's name. -/
def label : Progress → String
  | .idle => "idle"
  | .hung => "hung"
  | .ended => "ended"

end Progress

/-- A step of a rehearsal: its answer, the rehearsal afterwards, and what was done. -/
structure Rehearsed (T : Type) (α : Type) where
  reply : α
  rehearsal : Rehearsal T
  noted : List Noted

namespace Noted

/-- The engine calls that were made. -/
def engineCalls (noted : List Noted) : List Engine.Call :=
  noted.filterMap fun n => n.effect.engineCall?

/-- The target calls that were made. -/
def targetCalls (noted : List Noted) : List (Nat × TargetCall) :=
  noted.filterMap fun n => n.effect.targetCall?

/-- The lines that were logged beside the threads of the pumps. -/
def ownRecords (noted : List Noted) : List Log.Record :=
  noted.filterMap fun n =>
    match n.actor with
    | .pump _ => none
    | _ => n.effect.record?

end Noted

namespace Rehearsal

variable {T : Type}

/-- Whether a call opens a session. -/
def isStart : Engine.Call → Bool
  | .start _ _ => true
  | _ => false

/-- Whether a call releases a session. -/
def isStop : Engine.Call → Bool
  | .stop _ => true
  | _ => false

/-- The rehearsal with a new controller, and the engine's answers to what it asked used up. -/
def after (r : Rehearsal T) (c : Controller T) (noted : List Noted) : Rehearsal T :=
  let calls := Noted.engineCalls noted
  { r with
    controller := c
    starts := r.starts.drop (calls.countP isStart)
    stops := r.stops.drop (calls.countP isStop) }

/-- Whether a thread is blocked in a fetch. -/
def isHung (t : Thread) : Bool :=
  match t.phase with
  | .fetching _ => true
  | _ => false

/-- The number of the thread that hangs in a fetch for the session `id`. -/
def hung? (c : Controller T) (id : String) : Option Nat :=
  c.threads.findIdx? fun t => isHung t && t.pump.session = id

/-- The number of the thread that can take frames for the session `id`: that of the current session,
between two ticks and not told to stop. -/
def ready? (c : Controller T) (id : String) : Option Nat :=
  match c.session, c.thread? with
  | some session, some t =>
    match t.phase with
    | .waiting =>
      if session.id = id && t.pump.running && (hung? c id).isNone then session.thread else none
    | _ => none
  | _, _ => none

/-- The frames left for the session `id`. -/
def queue (r : Rehearsal T) (id : String) : List Engine.Answers :=
  ((r.queues.find? fun entry => entry.1 = id).map (·.2)).getD []

/-- The rehearsal with these frames left for the session `id`. -/
def setQueue (r : Rehearsal T) (id : String) (frames : List Engine.Answers) : Rehearsal T :=
  { r with queues := (id, frames) :: r.queues.filter fun entry => entry.1 ≠ id }

/-- A look at the status: whether there is news, and the status itself; `none` when nobody is left
who could publish. -/
def watch (r : Rehearsal T) : Option (Bool × SessionStatus) × Rehearsal T :=
  let feed := r.controller.feed
  if r.dropped && !r.controller.threads.any isHung then (none, r)
  else (some (feed.published.length != r.seen, feed.current),
    { r with seen := feed.published.length })

variable [Drawable T]

/-- Gives a thread one frame after the other until it blocks or ends; answers the frames left. -/
def give (c : Controller T) (k : Nat) : List Engine.Answers →
    Progress × List Engine.Answers × Controller T × List Noted
  | [] => (.idle, [], c, [])
  | frame :: rest =>
    let (c, noted) := c.happen (.wake k frame)
    match c.phase? k with
    | some .waiting =>
      let (progress, left, c, more) := give c k rest
      (progress, left, c, noted ++ more)
    | some (.fetching _) => (.hung, rest, c, noted)
    | _ => (.ended, rest, c, noted)

/-- Lets a thread go on with some frames and keeps those it left if it hangs. -/
def play (r : Rehearsal T) (id : String) (k : Nat) (frames : List Engine.Answers) :
    Rehearsed T (Progress × Nat) :=
  let (progress, left, c, noted) := give r.controller k frames
  let kept := if progress = .hung then left else []
  ⟨(progress, left.length), { r with controller := c }.setQueue id kept, noted⟩

/-- Gives the pump of the current session some frames, if it is the session `id` and its pump can
take them. -/
def tick (r : Rehearsal T) (id : String) (frames : List Engine.Answers) :
    Rehearsed T (Option (Progress × Nat)) :=
  match ready? r.controller id with
  | none => ⟨none, r, []⟩
  | some k =>
    let played := r.play id k frames
    ⟨some played.reply, played.rehearsal, played.noted⟩

/-- Lets the pump that hangs for the session `id` go on, with the frames left for it. -/
def resume (r : Rehearsal T) (id : String) : Rehearsed T (Option (Progress × Nat)) :=
  match hung? r.controller id with
  | none => ⟨none, r, []⟩
  | some k =>
    let left := r.queue id
    let (c, noted) := r.controller.happen (.resume k)
    let r := { r with controller := c }
    match c.phase? k with
    | some .waiting =>
      let played := r.play id k left
      ⟨some played.reply, played.rehearsal, noted ++ played.noted⟩
    | _ => ⟨some (.ended, left.length), r.setQueue id [], noted⟩

/-- A pump that was told to stop wakes up and ends. -/
def settle (r : Rehearsal T) : Rehearsal T :=
  let c := (List.range r.controller.threads.size).foldl (fun c k =>
    match c.threads[k]? with
    | some t => if t.pump.running then c else (c.happen (.wake k .idle)).1
    | none => c) r.controller
  { r with controller := c }

/-- Starts a session; a controller that was dropped does nothing. -/
def start (r : Rehearsal T) (id : String) (credentials : Credentials) (mode : SessionMode) :
    Rehearsed T (Option (Except SessionError Unit)) :=
  if r.dropped then ⟨none, r, []⟩
  else
    let step := r.controller.start id credentials mode
      { start := r.starts.headD (.ok ()), stopping := { reply := r.stops.headD (.ok ()) } }
    ⟨some step.reply, (r.after step.controller step.noted).settle, step.noted⟩

/-- Stops the session; a controller that was dropped does nothing. -/
def stop (r : Rehearsal T) : Rehearsed T (Option StopResult) :=
  if r.dropped then ⟨none, r, []⟩
  else
    let step := r.controller.stop { reply := r.stops.headD (.ok ()) }
    ⟨some step.reply, (r.after step.controller step.noted).settle, step.noted⟩

/-- Drops the controller, which stops its session. -/
def drop (r : Rehearsal T) : Rehearsed T Unit :=
  let stopped := r.stop
  ⟨(), { stopped.rehearsal with dropped := true }, stopped.noted⟩

/-- The window system reports a change of the surface. -/
def surface (r : Rehearsal T) (event : SurfaceEvent T) : Rehearsed T Unit :=
  let (c, noted) := r.controller.happen (.surface event)
  ⟨(), { r with controller := c }, noted⟩

/-- Someone else presents an image on the surface. -/
def present (r : Rehearsal T) (image : Image) : Rehearsed T (Outcome FrameError Presentation) :=
  let done := r.controller.surface.present image
  ⟨done.outcome, { r with controller := { r.controller with surface := done.surface } },
    Actor.window.note done.effects⟩

end Rehearsal

end DeskView
