import DeskView.Proofs.Pump.Tick
import DeskView.Session.Rehearsal

/-!
# What happens beside the controller

All that happens beside the controller comes down to moves of single threads (`Controller.move`).  After a
tick its thread makes one (`Controller.afterTick_eq`), and so does the thread that an event is for, if it
has not ended (`Controller.happen_thread`); the controller hears of a move only if the thread lost its
link by it.  No event opens or releases a session.  What follows about events rests on these lemmas and
not on the definitions of a tick or of a wait.

`Controller.Stable` collects what a property of controllers needs in order to survive all of this, so
that an operation is followed through the events that happen meanwhile in one step
(`Stable.happenAll`, `Stable.awaitPump`).
-/

namespace DeskView

/-- Whether a call opens or releases a session. -/
def Engine.Call.isSession : Engine.Call → Bool
  | .start _ _ => true
  | .stop _ => true
  | _ => false

namespace Noted

/-- The engine calls that opened or released a session. -/
def sessionCalls (noted : List Noted) : List Engine.Call :=
  (engineCalls noted).filter Engine.Call.isSession

@[simp]
theorem engineCalls_nil : engineCalls [] = [] := rfl

@[simp]
theorem engineCalls_cons_log (actor : Actor) (r : Log.Record) (noted : List Noted) :
    engineCalls (⟨actor, .log r⟩ :: noted) = engineCalls noted := rfl

@[simp]
theorem engineCalls_cons_engine (actor : Actor) (call : Engine.Call) (noted : List Noted) :
    engineCalls (⟨actor, .engine call⟩ :: noted) = call :: engineCalls noted := rfl

@[simp]
theorem engineCalls_append (xs ys : List Noted) :
    engineCalls (xs ++ ys) = engineCalls xs ++ engineCalls ys :=
  List.filterMap_append

@[simp]
theorem engineCalls_note (actor : Actor) (effects : List Effect) :
    engineCalls (actor.note effects) = Effect.engineCalls effects := by
  unfold engineCalls Actor.note Effect.engineCalls
  rw [List.filterMap_map]
  rfl

@[simp]
theorem sessionCalls_append (xs ys : List Noted) :
    sessionCalls (xs ++ ys) = sessionCalls xs ++ sessionCalls ys := by
  unfold sessionCalls
  rw [engineCalls_append, List.filter_append]

@[simp]
theorem sessionCalls_nil : sessionCalls [] = [] := rfl

@[simp]
theorem sessionCalls_cons_log (actor : Actor) (r : Log.Record) (noted : List Noted) :
    sessionCalls (⟨actor, .log r⟩ :: noted) = sessionCalls noted := rfl

@[simp]
theorem sessionCalls_cons_start (actor : Actor) (id password : String) (noted : List Noted) :
    sessionCalls (⟨actor, .engine (.start id password)⟩ :: noted) =
      .start id password :: sessionCalls noted := rfl

@[simp]
theorem sessionCalls_cons_stop (actor : Actor) (id : String) (noted : List Noted) :
    sessionCalls (⟨actor, .engine (.stop id)⟩ :: noted) = .stop id :: sessionCalls noted := rfl

theorem sessionCalls_eq_nil {noted : List Noted}
    (h : ∀ call ∈ engineCalls noted, call.isSession = false) : sessionCalls noted = [] := by
  unfold sessionCalls
  rw [List.filter_eq_nil_iff]
  intro call hcall
  simp [h call hcall]

end Noted

/-- No engine call of a tick opens or releases a session. -/
theorem Pump.isSession_of_mem_prepare {p : Pump} {a : Engine.Answers} {call : Engine.Call}
    (h : call ∈ Effect.engineCalls (p.prepare a).effects) : call.isSession = false := by
  by_cases hv : (p.prepare a).verdict = .ok .ready
  · obtain ⟨-, -, -, frames, -, -, -, -, hcalls⟩ := prepare_of_ready hv
    rw [hcalls] at h
    simp only [List.mem_cons, List.not_mem_nil, or_false] at h
    rcases h with rfl | rfl | rfl | rfl <;> rfl
  · rw [(prepare_of_not_ready hv).2] at h
    rcases Engine.Answers.mem_calls_query h with rfl | rfl | rfl <;> rfl

/-- Whether a tick with these answers is held up in its fetch. -/
def Pump.hangs (p : Pump) (a : Engine.Answers) : Bool :=
  match (p.prepare a).verdict, a.fetch.blocks with
  | .ok .ready, true => true
  | _, _ => false

theorem Pump.hangs_eq_true_iff {p : Pump} {a : Engine.Answers} :
    p.hangs a = true ↔ (p.prepare a).verdict = .ok .ready ∧ a.fetch.blocks = true := by
  unfold hangs
  split
  · rename_i hready hblocks
    simp [hready, hblocks]
  · rename_i hother
    constructor
    · intro h
      cases h
    · rintro ⟨hready, hblocks⟩
      exact absurd hblocks (hother hready)

theorem Pump.hangs_of_not_blocks (p : Pump) {a : Engine.Answers} (h : a.fetch.blocks = false) :
    p.hangs a = false := by
  rw [← Bool.not_eq_true, hangs_eq_true_iff, h]
  simp

namespace Thread

/-- Whether the thread's loop is over, in whatever way. -/
def hasEnded (t : Thread) : Bool :=
  match t.phase with
  | .exited _ => true
  | .panicked => true
  | .waiting => false
  | .fetching _ => false

/-- Whether the thread has ended because the link to the engine was lost. -/
def lostLink (t : Thread) : Bool :=
  match t.phase with
  | .exited (.linkLost _) => true
  | _ => false

theorem lostLink_of_going {t : Thread} (h : t.hasEnded = false) : t.lostLink = false := by
  revert h
  unfold hasEnded lostLink
  cases t.phase <;> simp

/-- The thread after a tick. -/
def after {T : Type} (t : Thread) (ticked : Ticked T) : Thread :=
  let t := { t with pump := ticked.pump, phase := .waiting }
  match ticked.outcome with
  | .panic => { t with phase := .panicked }
  | .error (.linkLost e) => { t with pump := t.pump.stop, phase := .exited (.linkLost e) }
  | _ => if t.pump.running then t else { t with phase := .exited .cancelled }

/-- A thread goes on after a tick, or it panicked, lost its link, or was told to stop. -/
theorem after_cases {T : Type} (t : Thread) (ticked : Ticked T) :
    (ticked.pump.running = true ∧ t.after ticked = { t with pump := ticked.pump, phase := .waiting }) ∨
    t.after ticked = { t with pump := ticked.pump, phase := .panicked } ∨
    (∃ e, t.after ticked =
      { t with pump := ticked.pump.stop, phase := .exited (.linkLost e) }) ∨
    (ticked.pump.running = false ∧
      t.after ticked = { t with pump := ticked.pump, phase := .exited .cancelled }) := by
  unfold after
  dsimp only
  split
  · exact .inr (.inl rfl)
  · exact .inr (.inr (.inl ⟨_, rfl⟩))
  · split
    · rename_i hrunning
      exact .inl ⟨hrunning, rfl⟩
    · rename_i htold
      exact .inr (.inr (.inr ⟨by simpa using htold, rfl⟩))

@[simp]
theorem epoch_after {T : Type} (t : Thread) (ticked : Ticked T) : (t.after ticked).epoch = t.epoch := by
  rcases t.after_cases ticked with ⟨-, h⟩ | h | ⟨e, h⟩ | ⟨-, h⟩ <;> rw [h]

end Thread

/-- The thread that an event lets move, if any. -/
def Event.thread? {T : Type} : Event T → Option Nat
  | .surface _ => none
  | .wake k _ => some k
  | .resume k => some k

namespace Controller

variable {T : Type}

/-- The controller after it heard from a thread: a lost link terminates the session, unless a later one
was started. -/
def hear (c : Controller T) (t : Thread) : Controller T :=
  if t.lostLink = true ∧ t.epoch = c.epoch then c.advance .terminated else c

@[simp]
theorem session_hear (c : Controller T) (t : Thread) : (c.hear t).session = c.session := by
  unfold hear
  split <;> rfl

@[simp]
theorem epoch_hear (c : Controller T) (t : Thread) : (c.hear t).epoch = c.epoch := by
  unfold hear
  split <;> rfl

@[simp]
theorem threads_hear (c : Controller T) (t : Thread) : (c.hear t).threads = c.threads := by
  unfold hear
  split <;> rfl

theorem hear_of_not_lostLink (c : Controller T) {t : Thread} (h : t.lostLink = false) :
    c.hear t = c := by
  unfold hear
  rw [if_neg (by simp [h])]

/-- A thread of another start than the last is not listened to. -/
theorem hear_of_epoch_ne (c : Controller T) {t : Thread} (h : t.epoch ≠ c.epoch) : c.hear t = c := by
  unfold hear
  rw [if_neg (fun hheard => h hheard.2)]

/-! ### Moves of a thread -/

/-- A thread makes a move: it becomes `t`, and the controller hears from it. -/
def move (c : Controller T) (k : Nat) (t : Thread) : Controller T := (c.setThread k t).hear t

/-- When a thread is replaced, the others are as they were. -/
theorem getElem?_setThread {c : Controller T} {k : Nat} {t : Thread} (h : c.threads[k]? = some t)
    (t' : Thread) (j : Nat) :
    (c.setThread k t').threads[j]? = if j = k then some t' else c.threads[j]? := by
  have hk : k < c.threads.size := (Array.getElem?_eq_some_iff.mp h).1
  unfold setThread
  by_cases hj : j = k
  · subst hj
    rw [if_pos rfl, Array.getElem?_setIfInBounds_self_of_lt hk]
  · rw [if_neg hj, Array.getElem?_setIfInBounds_ne (Ne.symm hj)]

/-- A thread leaves its loop, without having lost the link. -/
theorem leave_eq (c : Controller T) (k : Nat) (t : Thread) :
    c.leave k t = (c.move k { t with phase := .exited .cancelled }, [.log t.pump.logStopped]) := by
  unfold leave move
  rw [hear_of_not_lostLink _ rfl]

theorem getElem?_move {c : Controller T} {k : Nat} {t : Thread} (h : c.threads[k]? = some t)
    (t' : Thread) (j : Nat) :
    (c.move k t').threads[j]? = if j = k then some t' else c.threads[j]? := by
  unfold move
  rw [threads_hear, getElem?_setThread h]

theorem getElem?_move_self {c : Controller T} {k : Nat} {t : Thread} (h : c.threads[k]? = some t)
    (t' : Thread) : (c.move k t').threads[k]? = some t' := by
  rw [getElem?_move h, if_pos rfl]

/-- A thread that does not lose its link just moves. -/
theorem move_of_not_lostLink (c : Controller T) (k : Nat) {t : Thread} (h : t.lostLink = false) :
    c.move k t = c.setThread k t := by
  unfold move
  rw [hear_of_not_lostLink _ h]

/-- After a tick a thread makes one move and writes to the log, in a way that depends on nothing but the
thread and the tick. -/
theorem afterTick_eq (t : Thread) (ticked : Ticked T) :
    ∃ records : List Log.Record, ∀ (c : Controller T) (k : Nat), c.afterTick k t ticked =
      ({ c with surface := ticked.surface }.move k (t.after ticked),
        ticked.effects ++ records.map .log) := by
  obtain ⟨outcome, pump, surface, effects⟩ := ticked
  -- a thread that has not ended goes on, or finds that it was told to stop
  have hgoOn : ∀ warning : List Log.Record, ∃ records : List Log.Record,
      ∀ (c : Controller T) (k : Nat),
      (if pump.running then
        (({ c with surface } : Controller T).setThread k { t with pump, phase := .waiting },
          effects ++ warning.map .log)
      else
        ((({ c with surface } : Controller T).leave k { t with pump, phase := .waiting }).1,
          effects ++ warning.map .log ++ [.log pump.logStopped])) =
      (({ c with surface } : Controller T).move k
        (if pump.running then { t with pump, phase := .waiting }
          else { t with pump, phase := .exited .cancelled }), effects ++ records.map .log) := by
    intro warning
    cases pump.running with
    | true => exact ⟨warning, fun c k => by
        rw [if_pos rfl, if_pos rfl, move_of_not_lostLink _ _ rfl]⟩
    | false => exact ⟨warning ++ [pump.logStopped], fun c k => by simp [leave_eq]⟩
  unfold afterTick Thread.after
  cases outcome with
  | panic =>
    refine ⟨[], fun c k => ?_⟩
    rw [move_of_not_lostLink _ _ rfl, List.map_nil, List.append_nil]
  | ok result => exact hgoOn []
  | error e =>
    cases e with
    | linkLost e =>
      refine ⟨[pump.stop.logLinkLost e], fun c k => ?_⟩
      unfold move report hear
      simp [Thread.lostLink]
    | _ => exact hgoOn [pump.logFailed _]

variable [Drawable T]

/-- What a thread does that wakes up: it leaves its loop if it was told to stop, it is blocked in the fetch
if the tick hangs, and else it ticks. -/
theorem wake_eq (c : Controller T) (k : Nat) (t : Thread) (a : Engine.Answers) :
    c.wake k t a =
      if t.pump.running = true then
        if t.pump.hangs a then
          (c.setThread k { t with pump := (t.pump.prepare a).pump, phase := .fetching a.fetch },
            (t.pump.prepare a).effects)
        else c.afterTick k t (t.pump.tick c.surface a)
      else c.leave k t := by
  unfold wake
  cases t.pump.running with
  | false => rfl
  | true =>
    rw [if_neg (by decide), if_pos rfl]
    dsimp only
    by_cases hhangs : t.pump.hangs a = true
    · obtain ⟨hready, hblocks⟩ := Pump.hangs_eq_true_iff.mp hhangs
      rw [if_pos hhangs]
      simp only [hready, hblocks]
    · rw [if_neg hhangs]
      split
      · rename_i hready hblocks
        exact absurd (Pump.hangs_eq_true_iff.mpr ⟨hready, hblocks⟩) hhangs
      · rfl

/-- **The ways of a thread that wakes up**: it leaves its loop, it is blocked in the fetch, or it
ticks. -/
theorem wake_cases (c : Controller T) (k : Nat) (t : Thread) (a : Engine.Answers) :
    (t.pump.running = false ∧ c.wake k t a = c.leave k t) ∨
    c.wake k t a = (c.move k { t with pump := (t.pump.prepare a).pump, phase := .fetching a.fetch },
      (t.pump.prepare a).effects) ∨
    c.wake k t a = c.afterTick k t (t.pump.tick c.surface a) := by
  rw [wake_eq]
  split
  · split
    · exact .inr (.inl (by rw [move_of_not_lostLink _ _ rfl]))
    · exact .inr (.inr rfl)
  · rename_i htold
    exact .inl ⟨by simpa using htold, rfl⟩

theorem happen_wake {c : Controller T} {k : Nat} {t : Thread} (hthread : c.threads[k]? = some t)
    (hphase : t.phase = .waiting) (a : Engine.Answers) :
    c.happen (.wake k a) = ((c.wake k t a).1, (Actor.pump k).note (c.wake k t a).2) := by
  unfold happen
  simp only [hthread, hphase]

theorem happen_resume {c : Controller T} {k : Nat} {t : Thread} (hthread : c.threads[k]? = some t)
    {fetch : Engine.Fetch} (hphase : t.phase = .fetching fetch) :
    c.happen (.resume k) = ((c.afterTick k t (t.pump.deliver c.surface fetch)).1,
      (Actor.pump k).note (c.afterTick k t (t.pump.deliver c.surface fetch)).2) := by
  unfold happen
  simp only [hthread, hphase]

/-- **The ways of an event**: it is about the surface, nobody waits for it, or it is what a thread waits
for. -/
theorem happen_inv (c : Controller T) (event : Event T) :
    (∃ e, event = .surface e) ∨ c.happen event = (c, []) ∨
    (∃ k a t, event = .wake k a ∧ c.threads[k]? = some t ∧ t.phase = .waiting) ∨
    (∃ k t fetch, event = .resume k ∧ c.threads[k]? = some t ∧ t.phase = .fetching fetch) := by
  cases event with
  | surface e => exact .inl ⟨e, rfl⟩
  | wake k a =>
    refine .inr ?_
    unfold happen
    cases hthread : c.threads[k]? with
    | none => exact .inl (by simp only [hthread])
    | some t =>
      cases hphase : t.phase with
      | waiting => exact .inr (.inl ⟨k, a, t, rfl, hthread, hphase⟩)
      | _ => exact .inl (by simp only [hthread, hphase])
  | resume k =>
    refine .inr ?_
    unfold happen
    cases hthread : c.threads[k]? with
    | none => exact .inl (by simp only [hthread])
    | some t =>
      cases hphase : t.phase with
      | fetching fetch => exact .inr (.inr ⟨k, t, fetch, rfl, hthread, hphase⟩)
      | _ => exact .inl (by simp only [hthread, hphase])

/-- Nothing happens to a thread that has ended. -/
theorem happen_of_hasEnded {c : Controller T} {k : Nat} {t : Thread} (ht : c.threads[k]? = some t)
    (hended : t.hasEnded = true) {event : Event T} (hevent : event.thread? = some k) :
    c.happen event = (c, []) := by
  unfold Thread.hasEnded at hended
  rcases c.happen_inv event with ⟨e, rfl⟩ | hnothing | ⟨j, answers, t', rfl, ht', hphase⟩ |
    ⟨j, t', fetch, rfl, ht', hphase⟩
  · cases hevent
  · exact hnothing
  · cases hevent
    cases ht.symm.trans ht'
    rw [hphase] at hended
    cases hended
  · cases hevent
    cases ht.symm.trans ht'
    rw [hphase] at hended
    cases hended

/-- An event leaves the controller as it is but for its surface, or it lets one thread move that has not
ended, and that opens and releases no session. -/
theorem happen_thread (c : Controller T) (event : Event T) :
    (∃ e, event = .surface e) ∨ c.happen event = (c, []) ∨
    (∃ k t t' surface effects, event.thread? = some k ∧ c.threads[k]? = some t ∧
      t.hasEnded = false ∧ t'.epoch = t.epoch ∧
      (∀ call ∈ Effect.engineCalls effects, call.isSession = false) ∧
      c.happen event = ({ c with surface }.move k t', (Actor.pump k).note effects)) := by
  rcases c.happen_inv event with hsurface | hnothing | ⟨k, a, t, rfl, hthread, hphase⟩ |
    ⟨k, t, fetch, rfl, hthread, hphase⟩
  · exact .inl hsurface
  · exact .inr (.inl hnothing)
  · have hgoing : t.hasEnded = false := by simp [Thread.hasEnded, hphase]
    refine .inr (.inr ⟨k, t, ?_⟩)
    rw [happen_wake hthread hphase]
    rcases c.wake_cases k t a with ⟨-, hwake⟩ | hwake | hwake <;> rw [hwake]
    · rw [leave_eq]
      exact ⟨{ t with phase := .exited .cancelled }, c.surface, [.log t.pump.logStopped], rfl, hthread,
        hgoing, rfl, by simp, rfl⟩
    · exact ⟨{ t with pump := (t.pump.prepare a).pump, phase := .fetching a.fetch }, c.surface,
        (t.pump.prepare a).effects, rfl, hthread, hgoing, rfl,
        fun call => Pump.isSession_of_mem_prepare, rfl⟩
    · obtain ⟨records, hafter⟩ := afterTick_eq t (t.pump.tick c.surface a)
      rw [hafter]
      refine ⟨_, _, _, rfl, hthread, hgoing, t.epoch_after _, ?_, rfl⟩
      rw [Effect.engineCalls_append, Effect.engineCalls_map_log, List.append_nil,
        Pump.engineCalls_tick]
      exact fun call => Pump.isSession_of_mem_prepare
  · obtain ⟨records, hafter⟩ := afterTick_eq t (t.pump.deliver c.surface fetch)
    refine .inr (.inr ⟨k, t, _, _, _, rfl, hthread, by simp [Thread.hasEnded, hphase],
      t.epoch_after _, ?_, by rw [happen_resume hthread hphase, hafter]⟩)
    simp

/-- **What an event does**: it leaves the controller as it is but for its surface, or one thread that
has not lost its link makes a move.  It opens and releases no session. -/
theorem happen_cases (c : Controller T) (event : Event T) :
    Noted.sessionCalls (c.happen event).2 = [] ∧
    ((∃ surface, (c.happen event).1 = { c with surface }) ∨
      (∃ k t t' surface, c.threads[k]? = some t ∧ t.lostLink = false ∧ t'.epoch = t.epoch ∧
        (c.happen event).1 = { c with surface }.move k t')) := by
  rcases c.happen_thread event with ⟨e, rfl⟩ | hnothing |
    ⟨k, t, t', surface, effects, -, hthread, hgoing, hepoch, hcalls, hmove⟩
  · exact ⟨rfl, .inl ⟨c.surface.apply e, rfl⟩⟩
  · rw [hnothing]
    exact ⟨rfl, .inl ⟨c.surface, rfl⟩⟩
  · rw [hmove]
    exact ⟨Noted.sessionCalls_eq_nil (by simpa using hcalls),
      .inr ⟨k, t, t', surface, hthread, Thread.lostLink_of_going hgoing, hepoch, rfl⟩⟩

/-- **What waiting for a thread does**: the thread is told to stop, events happen, and after that it has
ended, it is given up, or it makes one move more, which is to leave its loop. -/
theorem await_cases (c : Controller T) (k : Nat) (meanwhile : List (Event T)) (due : Nat) :
    let waited := (c.tell k).happenAll meanwhile
    ((c.await k meanwhile due).controller = waited.1 ∧ (c.await k meanwhile due).noted = waited.2 ∧
      (stopResult (c.await k meanwhile due).reply = .stopped →
        ∀ t, waited.1.threads[k]? = some t → t.hasEnded = true)) ∨
    (∃ t, waited.1.threads[k]? = some t ∧ t.hasEnded = false ∧
      (c.await k meanwhile due).controller = waited.1.move k { t with phase := .exited .cancelled } ∧
      (c.await k meanwhile due).noted =
        waited.2 ++ (Actor.pump k).note [.log t.pump.logStopped]) := by
  intro waited
  unfold await
  dsimp only
  cases hthread : ((c.tell k).happenAll meanwhile).1.threads[k]? with
  | none => exact .inl ⟨rfl, rfl, fun _ t ht => by cases ht⟩
  | some t =>
    dsimp only
    -- the answer is that the thread has ended only if it has
    have hended : t.hasEnded = true → ∀ t', some t = some t' → t'.hasEnded = true := by
      intro hended t' ht'
      cases ht'
      exact hended
    cases hphase : t.phase with
    | exited exit => exact .inl ⟨rfl, rfl, fun _ => hended (by simp [Thread.hasEnded, hphase])⟩
    | panicked => exact .inl ⟨rfl, rfl, fun _ => hended (by simp [Thread.hasEnded, hphase])⟩
    | fetching fetch => exact .inl ⟨rfl, rfl, fun hreply => by cases hreply⟩
    | waiting =>
      dsimp only
      split
      · exact .inl ⟨rfl, rfl, fun hreply => by cases hreply⟩
      · rw [leave_eq]
        exact .inr ⟨t, rfl, by simp [Thread.hasEnded, hphase], rfl, rfl⟩

/-! ### What survives the events -/

/-- A property of controllers that neither an event nor a signal to a thread can disturb. -/
structure Stable (P : Controller T → Prop) : Prop where
  surface : ∀ c surface, P c → P { c with surface }
  /-- A thread that has not lost its link makes a move. -/
  move : ∀ c k t t', P c → c.threads[k]? = some t → t.lostLink = false → t'.epoch = t.epoch →
    P (c.move k t')
  /-- A thread is told to stop. -/
  tell : ∀ c k t, P c → c.threads[k]? = some t →
    P (c.setThread k { t with pump := t.pump.stop })

omit [Drawable T] in
/-- Nothing that happens beside the controller opens or takes its session. -/
theorem stable_session (session : Option Session) :
    Stable fun c : Controller T => c.session = session where
  surface _ _ h := h
  move c k _ t' h _ _ _ := (session_hear (c.setThread k t') t').trans h
  tell _ _ _ h _ := h

omit [Drawable T] in
/-- Only a start counts as one. -/
theorem stable_epoch (n : Nat) : Stable fun c : Controller T => c.epoch = n where
  surface _ _ h := h
  move c k _ t' h _ _ _ := (epoch_hear (c.setThread k t') t').trans h
  tell _ _ _ h _ := h

/-- Every thread was created in a start whose number is such. -/
def EachEpoch (c : Controller T) (R : Nat → Prop) : Prop :=
  ∀ (k : Nat) (t : Thread), c.threads[k]? = some t → R t.epoch

omit [Drawable T] in
theorem EachEpoch.setThread {c : Controller T} {R : Nat → Prop} (h : c.EachEpoch R) {k : Nat}
    {t t' : Thread} (hthread : c.threads[k]? = some t) (hepoch : t'.epoch = t.epoch) :
    (c.setThread k t').EachEpoch R := by
  intro j tj hj
  rw [getElem?_setThread hthread] at hj
  split at hj
  · cases hj
    exact hepoch ▸ h k t hthread
  · exact h j tj hj

omit [Drawable T] in
theorem stable_eachEpoch (R : Nat → Prop) : Stable fun c : Controller T => c.EachEpoch R where
  surface _ _ h := h
  move c k t t' h hthread _ hepoch := by
    unfold EachEpoch Controller.move
    rw [threads_hear]
    exact h.setThread hthread hepoch
  tell _ _ _ h hthread := h.setThread hthread rfl

namespace Stable

variable {P Q : Controller T → Prop}

omit [Drawable T] in
theorem and (hP : Stable P) (hQ : Stable Q) : Stable fun c => P c ∧ Q c where
  surface c surface h := ⟨hP.surface c surface h.1, hQ.surface c surface h.2⟩
  move c k t t' h hthread hlost hepoch :=
    ⟨hP.move c k t t' h.1 hthread hlost hepoch, hQ.move c k t t' h.2 hthread hlost hepoch⟩
  tell c k t h hthread := ⟨hP.tell c k t h.1 hthread, hQ.tell c k t h.2 hthread⟩

theorem happen (hP : Stable P) {c : Controller T} (hc : P c) (event : Event T) :
    P (c.happen event).1 := by
  rcases (c.happen_cases event).2 with ⟨surface, h⟩ | ⟨k, t, t', surface, hthread, hlost, hepoch, h⟩
  · rw [h]
    exact hP.surface c surface hc
  · rw [h]
    exact hP.move { c with surface } k t t' (hP.surface c surface hc) hthread hlost hepoch

theorem happenAll (hP : Stable P) {c : Controller T} (hc : P c) (events : List (Event T)) :
    P (c.happenAll events).1 := by
  induction events generalizing c with
  | nil => exact hc
  | cons event rest ih => exact ih (hP.happen hc event)

omit [Drawable T] in
theorem told (hP : Stable P) {c : Controller T} (hc : P c) (k : Nat) : P (c.tell k) := by
  unfold Controller.tell
  split
  · rename_i t hthread
    exact hP.tell c k t hc hthread
  · exact hc

/-- Waiting for the pump of a session leaves a stable property alone. -/
theorem awaitPump (hP : Stable P) {c : Controller T} (hc : P c) (session : Session)
    (meanwhile : List (Event T)) (due : Nat) : P (c.awaitPump session meanwhile due).controller := by
  unfold Controller.awaitPump
  split
  · exact hc
  · rename_i k hk
    have hmeanwhile := hP.happenAll (hP.told hc k) meanwhile
    rcases c.await_cases k meanwhile due with ⟨hcontroller, -⟩ | ⟨t, hthread, hgoing, hcontroller, -⟩
    · dsimp only
      rw [hcontroller]
      exact hmeanwhile
    · dsimp only
      rw [hcontroller]
      exact hP.move _ k t _ hmeanwhile hthread (Thread.lostLink_of_going hgoing) rfl

end Stable

@[simp]
theorem sessionCalls_happenAll (c : Controller T) (events : List (Event T)) :
    Noted.sessionCalls (c.happenAll events).2 = [] := by
  induction events generalizing c with
  | nil => rfl
  | cons event rest ih =>
    unfold happenAll
    dsimp only
    rw [Noted.sessionCalls_append, (c.happen_cases event).1, ih, List.append_nil]

@[simp]
theorem sessionCalls_awaitPump (c : Controller T) (session : Session) (meanwhile : List (Event T))
    (due : Nat) : Noted.sessionCalls (c.awaitPump session meanwhile due).noted = [] := by
  unfold awaitPump
  split
  · rfl
  · rename_i k hk
    have hnoted : Noted.sessionCalls (c.await k meanwhile due).noted = [] := by
      rcases c.await_cases k meanwhile due with ⟨-, h, -⟩ | ⟨t, -, -, -, h⟩
      · rw [h, sessionCalls_happenAll]
      · rw [h, Noted.sessionCalls_append, sessionCalls_happenAll]
        rfl
    simp [notes, hnoted]

end Controller

end DeskView
