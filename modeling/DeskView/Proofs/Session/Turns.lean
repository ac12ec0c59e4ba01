import DeskView.Proofs.Session.Unwinding

/-!
# Operations, step by step

An operation of a controller takes a while, and whatever runs beside it does not wait for it to end.  Here
an operation is taken apart into `Stride`s, between which anything can happen: a `Midway` is a controller
at such a point, and a `Turn` what happens next.  Any list of turns is an interleaving.

The operations as they are defined are interleavings, too, those in which the events of an operation
happen where it lists them (`Controller.turns`, `Midway.run_turnsAll`).
-/

namespace DeskView

/-- What a controller does at once while it carries out an operation. -/
inductive Stride where
  /-- It takes its session, in order to stop it. -/
  | take
  /-- It tells the thread of that session to stop. -/
  | tell
  /-- It stops waiting for the thread, whose next tick was due so many nanoseconds after it was told. -/
  | join (due : Nat)
  /-- It has released the session, and may answer. -/
  | close (answer : StopResult → Option Controller.Reply)
  /-- It announces a session. -/
  | announce
  /-- It has been answered by the engine and by the system, and answers. -/
  | settle (id : String) (mode : SessionMode) (start : Except EngineError Unit)
      (spawn : Except String Unit)

/-- A session that is being stopped, and what the stop will answer. -/
structure Closing where
  session : Session
  outcome : StopResult := .stopped

/-- A controller that may be in the middle of an operation. -/
structure Midway (T : Type) where
  controller : Controller T
  closing : Option Closing := none
  /-- What is left to do of the operation. -/
  todo : List Stride := []
  /-- What the operations that are over were answered. -/
  replies : List Controller.Reply := []

/-- What happens next. -/
inductive Turn (T : Type) where
  /-- An operation begins, if none is under way. -/
  | begin (operation : Controller.Operation T)
  /-- The operation that is under way goes on by a stride. -/
  | go
  /-- Something happens beside. -/
  | event (event : Event T)
  /-- The loop of a thread ends, and the controller hears of it. -/
  | exit (thread : Nat) (exit : LoopEnd)

/-- A pump whose loop has ended like this. -/
def LoopEnd.halt (exit : LoopEnd) (p : Pump) : Pump :=
  match exit with
  | .cancelled => p
  | .linkLost _ => p.stop

namespace Controller

variable {T : Type}

/-- The loop of a thread ends, if it has not yet, and the controller hears of it at once. -/
def exit (c : Controller T) (k : Nat) (exit : LoopEnd) : Controller T :=
  match c.threads[k]? with
  | none => c
  | some t =>
    if t.hasEnded then c
    else (c.setThread k { t with pump := exit.halt t.pump, phase := .exited exit }).report t.epoch exit

/-- A session that has been announced, with this number, is accepted or refused. -/
def settle (c : Controller T) (epoch : Nat) (id : String) (mode : SessionMode)
    (start : Except EngineError Unit) (spawn : Except String Unit) :
    Controller T × Except SessionError Unit :=
  let refused := { c with session := some ⟨id, mode, none⟩ }
  match start, spawn with
  | .error e, _ => (refused.advance .terminated, .error (.ofEngine e))
  | .ok (), .error reason =>
    ((refused.advance .active).advance .terminated, .error (.spawn reason))
  | .ok (), .ok () =>
    ({ c with
      session := some ⟨id, mode, some c.threads.size⟩
      threads := c.threads.push { epoch, pump := .new id c.config } }.advance .active,
      .ok ())

/-- The strides of an operation that begins now, or the answer if there are none.  What it lists to happen
meanwhile plays no part. -/
def strides (c : Controller T) : Operation T → List Stride × Option Reply
  | .start id _ mode replies =>
    let opening := [.announce, .settle id mode replies.start replies.spawn]
    if id.isEmpty then ([], some (.started (.error .invalidId)))
    else
      match c.session with
      | none => (opening, none)
      | some current =>
        if c.status.isLive then ([], some (.started (.error (.alreadyActive current.id))))
        else
          ([.take, .tell, .join replies.stopping.due, .close fun _ => none] ++ opening, none)
  | .stop s =>
    match c.session with
    | none => ([], some (.stopped .noSession))
    | some _ =>
      ([.take, .tell, .join s.due, .close fun outcome => some (.stopped outcome)], none)
  | .drop s =>
    match c.session with
    | none => ([], some .dropped)
    | some _ => ([.take, .tell, .join s.due, .close fun _ => some .dropped], none)
  | .event _ => ([], none)

end Controller

namespace Midway

variable {T : Type} [Drawable T]

/-- A stride is made. -/
def stride (m : Midway T) : Stride → Midway T
  | .take =>
    match m.controller.session with
    | none => m
    | some session => { m with controller := m.controller.closing, closing := some { session } }
  | .tell =>
    match m.closing.bind (·.session.thread) with
    | none => m
    | some k => { m with controller := m.controller.tell k }
  | .join due =>
    match m.closing with
    | none => m
    | some ⟨session, _⟩ =>
      let awaited := m.controller.awaitPump session [] due
      { m with controller := awaited.controller, closing := some ⟨session, awaited.reply⟩ }
  | .close answer =>
    { m with
      controller := m.controller.advance .terminated
      closing := none
      replies := m.replies ++ (m.closing.bind fun closing => answer closing.outcome).toList }
  | .announce => { m with controller := m.controller.opening }
  | .settle id mode start spawn =>
    let settled := m.controller.settle m.controller.epoch id mode start spawn
    { m with controller := settled.1, replies := m.replies ++ [.started settled.2] }

/-- What happens next has happened. -/
def step (m : Midway T) : Turn T → Midway T
  | .begin operation =>
    match m.todo with
    | _ :: _ => m
    | [] =>
      let (todo, answer) := m.controller.strides operation
      let c := match operation with
        | .event event => (m.controller.happen event).1
        | _ => m.controller
      { m with controller := c, todo, replies := m.replies ++ answer.toList }
  | .go =>
    match m.todo with
    | [] => m
    | stride :: rest => { m with todo := rest }.stride stride
  | .event event => { m with controller := (m.controller.happen event).1 }
  | .exit k exit => { m with controller := m.controller.exit k exit }

/-- What happens next has happened, turn by turn. -/
def run (m : Midway T) (turns : List (Turn T)) : Midway T := turns.foldl step m

@[simp]
theorem run_nil (m : Midway T) : m.run [] = m := rfl

@[simp]
theorem run_cons (m : Midway T) (u : Turn T) (rest : List (Turn T)) :
    m.run (u :: rest) = (m.step u).run rest := rfl

theorem run_append (m : Midway T) (xs ys : List (Turn T)) : m.run (xs ++ ys) = (m.run xs).run ys :=
  List.foldl_append

/-- A new controller, on a surface that may be in use already. -/
def new (config : PumpSettings) (surface : Surface T) : Midway T :=
  { controller := .new config surface }

end Midway

namespace Controller

variable {T : Type} [Drawable T]

/-! ### Operations as interleavings -/

/-- The turns of a stop. -/
def turnsOfStop (session : Session) (s : Stopping T) : List (Turn T) :=
  .go :: s.before.map .event ++
    .go :: (match session.thread with
      | none => []
      | some _ => s.meanwhile.map .event) ++
    .go :: s.releasing.map .event ++ [.go]

/-- The turns in which a session is opened. -/
def turnsOfOpening (replies : Replies T) : List (Turn T) :=
  .go :: replies.opening.map .event ++ [.go]

/-- The turns of an operation, each event where the operation lists it. -/
def turns (c : Controller T) (operation : Operation T) : List (Turn T) :=
  .begin operation :: match operation with
    | .start id _ _ replies =>
      if id.isEmpty then []
      else
        match c.session with
        | none => turnsOfOpening replies
        | some current =>
          if c.status.isLive then []
          else turnsOfStop current replies.stopping ++ turnsOfOpening replies
    | .stop s => (c.session.map (turnsOfStop · s)).getD []
    | .drop s => (c.session.map (turnsOfStop · s)).getD []
    | .event _ => []

/-- The turns of some operations, one after the other. -/
def turnsAll (c : Controller T) : List (Operation T) → List (Turn T)
  | [] => []
  | operation :: rest => c.turns operation ++ (c.perform operation).controller.turnsAll rest

/-- The answer that somebody waits for, if the reply is one. -/
def Reply.answer? : Reply → Option Reply
  | .happened => none
  | reply => some reply

theorem happenAll_nil (c : Controller T) : c.happenAll [] = (c, []) := rfl

/-- Waiting for a thread can be begun and ended separately. -/
theorem await_split (c : Controller T) (k : Nat) (meanwhile : List (Event T)) (due : Nat) :
    (c.await k meanwhile due).reply =
      (((c.tell k).happenAll meanwhile).1.await k [] due).reply ∧
    (c.await k meanwhile due).controller =
      (((c.tell k).happenAll meanwhile).1.await k [] due).controller := by
  -- when the wait ends the thread has been told already
  have htold : ((c.tell k).happenAll meanwhile).1.tell k = ((c.tell k).happenAll meanwhile).1 := by
    refine tell_of_told fun t ht => ?_
    have hlt : k < c.threads.size := by
      have hlt' := (Array.getElem?_eq_some_iff.mp ht).1
      rw [(stable_size (c.tell k).threads.size).happenAll rfl meanwhile] at hlt'
      unfold tell at hlt'
      split at hlt'
      · simpa [setThread] using hlt'
      · exact hlt'
    obtain ⟨t', ht', htold⟩ := exists_getElem?_tell hlt
    obtain ⟨t'', ht'', hunwinds⟩ := unwinding_happenAll k (c.tell k) meanwhile t' ht' htold
    cases ht.symm.trans ht''
    exact hunwinds.told htold
  generalize hwaited : (c.tell k).happenAll meanwhile = waited at htold ⊢
  obtain ⟨c', noted⟩ := waited
  unfold await
  rw [hwaited, htold, happenAll_nil]
  dsimp only
  cases c'.threads[k]? with
  | none => exact ⟨rfl, rfl⟩
  | some t =>
    dsimp only
    cases t.phase with
    | waiting =>
      dsimp only
      split <;> exact ⟨rfl, rfl⟩
    | _ => exact ⟨rfl, rfl⟩

end Controller

namespace Midway

variable {T : Type} [Drawable T]

theorem run_events (m : Midway T) (events : List (Event T)) :
    m.run (events.map .event) = { m with controller := (m.controller.happenAll events).1 } := by
  induction events generalizing m with
  | nil => rfl
  | cons event rest ih => exact ih _

/-- The strides of a stop, with its events between them, come to the stop. -/
theorem run_turnsOfStop {c : Controller T} {session : Session} (h : c.session = some session)
    (s : Controller.Stopping T) (answer : StopResult → Option Controller.Reply) (more : List Stride)
    (replies : List Controller.Reply) :
    run ⟨c, none, .take :: .tell :: .join s.due :: .close answer :: more, replies⟩
        (Controller.turnsOfStop session s) =
      ⟨(c.stop s).controller, none, more, replies ++ (answer (c.stop s).reply).toList⟩ := by
  have hstop : (c.stop s).reply =
        ((c.closing.happenAll s.before).1.awaitPump session s.meanwhile s.due).reply ∧
      (c.stop s).controller =
        (((c.closing.happenAll s.before).1.awaitPump session s.meanwhile s.due).controller.happenAll
          s.releasing).1.advance .terminated := by
    unfold Controller.stop
    rw [h]
    exact ⟨rfl, rfl⟩
  have htake : step ⟨c, none, .take :: .tell :: .join s.due :: .close answer :: more, replies⟩ .go =
      ⟨c.closing, some { session }, .tell :: .join s.due :: .close answer :: more, replies⟩ := by
    unfold step stride
    simp only [h]
  rw [hstop.1, hstop.2]
  unfold Controller.turnsOfStop
  simp only [List.cons_append, List.append_assoc, run_cons, run_append, htake, run_events]
  generalize (c.closing.happenAll s.before).1 = first
  cases hthread : session.thread with
  | none =>
    have hawait : ∀ events, first.awaitPump session events s.due = ⟨.stopped, first, []⟩ := by
      intro events
      unfold Controller.awaitPump
      rw [hthread]
    rw [hawait]
    simp only [step, stride, hthread, Option.bind_some, run_nil, hawait]
  | some k =>
    have hawait : ∀ (c : Controller T) events,
        (c.awaitPump session events s.due).reply =
          Controller.stopResult (c.await k events s.due).reply ∧
        (c.awaitPump session events s.due).controller = (c.await k events s.due).controller := by
      intro c events
      unfold Controller.awaitPump
      rw [hthread]
      exact ⟨rfl, rfl⟩
    obtain ⟨hreply, hcontroller⟩ := first.await_split k s.meanwhile s.due
    simp only [step, stride, hthread, Option.bind_some, run_nil, run_events, hawait, hreply,
      hcontroller]

/-- The strides in which a session is opened, with its events between them, come to just that. -/
theorem run_turnsOfOpening (c : Controller T) (id : String) (credentials : Credentials)
    (mode : SessionMode) (replies : Controller.Replies T) (answered : List Controller.Reply) :
    run ⟨c, none, [.announce, .settle id mode replies.start replies.spawn], answered⟩
        (Controller.turnsOfOpening replies) =
      ⟨(c.openSession id credentials mode replies).controller, none, [],
        answered ++ [.started (c.openSession id credentials mode replies).reply]⟩ := by
  have hepoch : (c.opening.happenAll replies.opening).1.epoch = c.epoch + 1 :=
    (Controller.stable_epoch (c.epoch + 1)).happenAll (c := c.opening) rfl replies.opening
  have hsettle : (c.openSession id credentials mode replies).reply =
        ((c.opening.happenAll replies.opening).1.settle (c.epoch + 1) id mode replies.start
          replies.spawn).2 ∧
      (c.openSession id credentials mode replies).controller =
        ((c.opening.happenAll replies.opening).1.settle (c.epoch + 1) id mode replies.start
          replies.spawn).1 := by
    unfold Controller.openSession Controller.settle
    dsimp only
    cases replies.start with
    | error e => exact ⟨rfl, rfl⟩
    | ok accepted => cases replies.spawn <;> exact ⟨rfl, rfl⟩
  unfold Controller.turnsOfOpening
  rw [hsettle.1, hsettle.2, ← hepoch, List.cons_append, run_cons, run_append]
  exact congrArg (run · [.go]) (run_events _ replies.opening)

/-- **An operation is one of its interleavings**, the one in which its events happen where it lists
them. -/
theorem run_turns (c : Controller T) (operation : Controller.Operation T)
    (replies : List Controller.Reply) :
    run ⟨c, none, [], replies⟩ (c.turns operation) =
      ⟨(c.perform operation).controller, none, [],
        replies ++ (c.perform operation).reply.answer?.toList⟩ := by
  -- a stop and a drop differ in what they answer
  have hstop : ∀ session (s : Controller.Stopping T) answer, c.session = some session →
      run ⟨c, none, [.take, .tell, .join s.due, .close answer], replies⟩
          (Controller.turnsOfStop session s) =
        ⟨(c.stop s).controller, none, [], replies ++ (answer (c.stop s).reply).toList⟩ :=
    fun session s answer h => run_turnsOfStop h s answer [] replies
  unfold Controller.turns
  rw [run_cons]
  cases operation with
  | start id credentials mode answers =>
    have hopening := fun c => run_turnsOfOpening c id credentials mode answers replies
    unfold step Controller.strides Controller.perform Controller.start
    dsimp only
    by_cases hid : id.isEmpty = true
    · rw [if_pos hid, if_pos hid, if_pos hid]
      rfl
    · rw [if_neg hid, if_neg hid, if_neg hid]
      cases hsession : c.session with
      | none => simpa [Controller.Reply.answer?] using hopening c
      | some session =>
        dsimp only
        by_cases hlive : c.status.isLive = true
        · rw [if_pos hlive, if_pos hlive, if_pos hlive]
          rfl
        · rw [if_neg hlive, if_neg hlive, if_neg hlive, run_append]
          have hstopped := run_turnsOfStop hsession answers.stopping (fun _ => none)
            [.announce, .settle id mode answers.start answers.spawn] replies
          simp only [Option.toList_none, List.append_nil] at hstopped ⊢
          exact (congrArg (run · _) hstopped).trans (hopening _)
  | stop s =>
    unfold step Controller.strides Controller.perform
    dsimp only
    cases hsession : c.session with
    | none =>
      rw [Controller.stop_of_none hsession]
      rfl
    | some session =>
      simp only [Option.map_some, Option.getD_some, Option.toList_none, List.append_nil]
      exact hstop session s _ hsession
  | drop s =>
    unfold step Controller.strides Controller.perform
    dsimp only
    cases hsession : c.session with
    | none =>
      rw [Controller.stop_of_none hsession]
      rfl
    | some session =>
      simp only [Option.map_some, Option.getD_some, Option.toList_none, List.append_nil]
      exact hstop session s _ hsession
  | event event => rfl

theorem run_turnsAll (c : Controller T) (operations : List (Controller.Operation T))
    (replies : List Controller.Reply) :
    run ⟨c, none, [], replies⟩ (c.turnsAll operations) =
      ⟨(c.performAll operations).controller, none, [],
        replies ++ (c.performAll operations).reply.filterMap Controller.Reply.answer?⟩ := by
  induction operations generalizing c replies with
  | nil => simp [Controller.turnsAll, Controller.performAll]
  | cons operation rest ih =>
    unfold Controller.turnsAll Controller.performAll
    rw [run_append, run_turns, ih]
    dsimp only
    rw [List.filterMap_cons, List.append_assoc]
    cases (c.perform operation).reply.answer? <;> rfl

end Midway

end DeskView
