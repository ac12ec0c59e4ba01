import DeskView.Proofs.Pump.Freshness
import DeskView.Proofs.Session.Heard
import DeskView.Surface.Canvas

/-!
# A pump speaks only for its own session

When the loop of a thread ends that belongs to an earlier session, only that thread changes
(`Midway.Detached.step_exit`), and a change of that thread can be put off past every turn of the others
(`Midway.Detached.step_setThread`).  So whatever comes later is the same with and without it
(`Midway.Detached.run_setThread`).

A loop that ends in an event ends in a turn of its own, after the rest of the tick
(`Controller.happen_eq_exit`).
-/

namespace DeskView

/-! ### Threads out of sight -/

namespace Controller

variable {T : Type} {j k : Nat}

theorem getElem?_setThread_of_ne (hjk : j ≠ k) (c : Controller T) (a : Thread) :
    (c.setThread k a).threads[j]? = c.threads[j]? :=
  Array.getElem?_setIfInBounds_ne (Ne.symm hjk)

theorem setThread_comm (hjk : j ≠ k) (c : Controller T) (a b : Thread) :
    (c.setThread k a).setThread j b = (c.setThread j b).setThread k a := by
  unfold setThread
  rw [Array.setIfInBounds_comm a b (Ne.symm hjk)]

@[simp]
theorem epoch_setThread (c : Controller T) (a : Thread) : (c.setThread k a).epoch = c.epoch := rfl

@[simp]
theorem config_setThread (c : Controller T) (a : Thread) : (c.setThread k a).config = c.config := rfl

theorem hear_setThread (c : Controller T) (a t : Thread) :
    (c.setThread k a).hear t = (c.hear t).setThread k a := by
  unfold hear
  rw [epoch_setThread]
  split <;> rfl

theorem move_setThread (hjk : j ≠ k) (c : Controller T) (a t : Thread) :
    (c.setThread k a).move j t = (c.move j t).setThread k a := by
  unfold move
  rw [setThread_comm hjk, hear_setThread]

theorem leave_setThread (hjk : j ≠ k) (c : Controller T) (a t : Thread) :
    (c.setThread k a).leave j t = ((c.leave j t).1.setThread k a, (c.leave j t).2) := by
  rw [leave_eq, leave_eq, move_setThread hjk]

theorem afterTick_setThread (hjk : j ≠ k) (c : Controller T) (a t : Thread) (ticked : Ticked T) :
    (c.setThread k a).afterTick j t ticked =
      ((c.afterTick j t ticked).1.setThread k a, (c.afterTick j t ticked).2) := by
  obtain ⟨records, hafter⟩ := afterTick_eq t ticked
  rw [hafter, hafter, ← move_setThread hjk]
  rfl

theorem exit_setThread (hjk : j ≠ k) (c : Controller T) (a : Thread) (x : LoopEnd) :
    (c.setThread k a).exit j x = (c.exit j x).setThread k a := by
  have hthread := getElem?_setThread_of_ne hjk c a
  cases ht : c.threads[j]? with
  | none =>
    unfold Controller.exit
    rw [hthread, ht]
  | some t =>
    rw [ht] at hthread
    cases hended : t.hasEnded with
    | true => rw [exit_of_hasEnded ht hended, exit_of_hasEnded hthread hended]
    | false => rw [exit_eq_move ht hended, exit_eq_move hthread hended, move_setThread hjk]

theorem tell_setThread (hjk : j ≠ k) (c : Controller T) (a : Thread) :
    (c.setThread k a).tell j = (c.tell j).setThread k a := by
  unfold tell
  rw [getElem?_setThread_of_ne hjk]
  cases c.threads[j]? with
  | none => rfl
  | some t => exact setThread_comm hjk c a _

variable [Drawable T]

theorem wake_setThread (hjk : j ≠ k) (c : Controller T) (a t : Thread) (answers : Engine.Answers) :
    (c.setThread k a).wake j t answers =
      ((c.wake j t answers).1.setThread k a, (c.wake j t answers).2) := by
  have hticked := afterTick_setThread hjk c a t (t.pump.tick c.surface answers)
  unfold wake
  split
  · exact leave_setThread hjk c a t
  · dsimp only
    split
    · rw [setThread_comm hjk]
    · exact hticked

/-- What happens to other threads is the same whatever a thread is like. -/
theorem happen_setThread (c : Controller T) (a : Thread) {e : Event T} (he : e.thread? ≠ some k) :
    (c.setThread k a).happen e = ((c.happen e).1.setThread k a, (c.happen e).2) := by
  cases e with
  | surface e => rfl
  | wake j answers =>
    have hjk : j ≠ k := fun hjk => he (congrArg some hjk)
    unfold happen
    dsimp only
    rw [getElem?_setThread_of_ne hjk]
    cases c.threads[j]? with
    | none => rfl
    | some t =>
      cases hphase : t.phase with
      | waiting => simp only [hphase, wake_setThread hjk]
      | _ => simp only [hphase]
  | resume j =>
    have hjk : j ≠ k := fun hjk => he (congrArg some hjk)
    unfold happen
    dsimp only
    rw [getElem?_setThread_of_ne hjk]
    cases c.threads[j]? with
    | none => rfl
    | some t =>
      cases hphase : t.phase with
      | fetching fetch =>
        simp only [hphase]
        rw [show (c.setThread k a).surface = c.surface from rfl, afterTick_setThread hjk]
      | _ => simp only [hphase]

/-- The wait for another thread ends the same whatever a thread is like. -/
theorem awaitPump_setThread (c : Controller T) (a : Thread) {session : Session}
    (hk : session.thread ≠ some k) (due : Nat) :
    ((c.setThread k a).awaitPump session [] due).reply = (c.awaitPump session [] due).reply ∧
    ((c.setThread k a).awaitPump session [] due).controller =
      (c.awaitPump session [] due).controller.setThread k a := by
  unfold awaitPump
  cases hthread : session.thread with
  | none => exact ⟨rfl, rfl⟩
  | some j =>
    have hjk : j ≠ k := fun hjk => hk (by rw [hthread, hjk])
    dsimp only
    unfold await
    rw [tell_setThread hjk, happenAll_nil, happenAll_nil]
    dsimp only
    rw [getElem?_setThread_of_ne hjk]
    cases (c.tell j).threads[j]? with
    | none => exact ⟨rfl, rfl⟩
    | some t =>
      dsimp only
      cases t.phase with
      | waiting =>
        dsimp only
        rw [config_setThread]
        split
        · exact ⟨rfl, rfl⟩
        · rw [leave_setThread hjk]
          exact ⟨rfl, rfl⟩
      | _ => exact ⟨rfl, rfl⟩

omit [Drawable T] in
theorem settle_setThread {c : Controller T} (hk : k < c.threads.size) (a : Thread) (epoch : Nat)
    (id : String) (mode : SessionMode) (start : Except EngineError Unit)
    (spawn : Except String Unit) :
    (c.setThread k a).settle epoch id mode start spawn =
      ((c.settle epoch id mode start spawn).1.setThread k a,
        (c.settle epoch id mode start spawn).2) := by
  unfold Controller.settle
  cases start with
  | error e => rfl
  | ok accepted =>
    cases spawn with
    | error reason => rfl
    | ok spawned =>
      have hpush : ∀ b, (c.threads.setIfInBounds k a).push b = (c.threads.push b).setIfInBounds k a := by
        intro b
        unfold Array.setIfInBounds
        rw [dif_pos hk, dif_pos (by rw [Array.size_push]; omega), Array.set_push, dif_pos hk]
      have hsize : (c.setThread k a).threads.size = c.threads.size := Array.size_setIfInBounds
      dsimp only
      rw [hsize, show ((c.setThread k a).threads = c.threads.setIfInBounds k a) from rfl, hpush]
      rfl

omit [Drawable T] in
/-- A session that is accepted gets a thread that was not there before. -/
theorem settle_spec (c : Controller T) (epoch : Nat) (id : String) (mode : SessionMode)
    (start : Except EngineError Unit) (spawn : Except String Unit) :
    c.threads.size ≤ (c.settle epoch id mode start spawn).1.threads.size ∧
    ∃ session, (c.settle epoch id mode start spawn).1.session = some session ∧
      ∀ j, session.thread = some j → j = c.threads.size := by
  unfold Controller.settle
  cases start with
  | error e => exact ⟨Nat.le_refl _, ⟨id, mode, none⟩, rfl, fun j hj => by cases hj⟩
  | ok accepted =>
    cases spawn with
    | error reason => exact ⟨Nat.le_refl _, ⟨id, mode, none⟩, rfl, fun j hj => by cases hj⟩
    | ok spawned =>
      refine ⟨?_, ⟨id, mode, some c.threads.size⟩, rfl, fun j hj => by cases hj; rfl⟩
      exact (Array.size_push _).symm ▸ Nat.le_succ c.threads.size

omit [Drawable T] in
/-- A thread that is not the session's is not looked at. -/
theorem thread?_setThread {c : Controller T} (a : Thread)
    (hk : ∀ session, c.session = some session → session.thread ≠ some k) :
    (c.setThread k a).thread? = c.thread? := by
  unfold thread?
  rw [show (c.setThread k a).session = c.session from rfl]
  cases hsession : c.session with
  | none => rfl
  | some session =>
    dsimp only
    cases hj : session.thread with
    | none => rfl
    | some j =>
      exact getElem?_setThread_of_ne (fun hjk => hk session hsession (by rw [hj, hjk])) c a

end Controller

namespace Midway

variable {T : Type} {k : Nat}

/-- The same point with a thread replaced. -/
def setThread (m : Midway T) (k : Nat) (a : Thread) : Midway T :=
  { m with controller := m.controller.setThread k a }

/-- A thread that belongs to an earlier session. -/
structure Detached (m : Midway T) (k : Nat) : Prop where
  created : k < m.controller.threads.size
  other : ¬ m.Owns k

theorem Detached.ne_of_session {m : Midway T} (h : m.Detached k) {session : Session}
    (hsession : m.controller.session = some session) : session.thread ≠ some k :=
  fun hk => h.other ⟨session, .inl hsession, hk⟩

theorem Detached.ne_of_closing {m : Midway T} (h : m.Detached k) {closing : Closing}
    (hclosing : m.closing = some closing) : closing.session.thread ≠ some k :=
  fun hk => h.other ⟨closing.session, .inr (by rw [hclosing]; rfl), hk⟩

theorem Detached.kept {m m' : Midway T} (h : m.Detached k)
    (hc : m'.controller.session = m.controller.session ∧
      m'.controller.threads.size = m.controller.threads.size)
    (hclosing : m'.closing.map Closing.session = m.closing.map Closing.session) : m'.Detached k :=
  ⟨hc.2 ▸ h.created, owns_congr hc.1 hclosing ▸ h.other⟩

variable [Drawable T]

/-- A thread of an earlier session does not come to belong to a later one. -/
theorem Detached.step {m : Midway T} (h : m.Detached k) (u : Turn T) : (m.step u).Detached k := by
  have hstable := (Controller.stable_session m.controller.session).and
    (Controller.stable_size (T := T) m.controller.threads.size)
  have hm : m.controller.session = m.controller.session ∧
      m.controller.threads.size = m.controller.threads.size := ⟨rfl, rfl⟩
  unfold Midway.step
  cases u with
  | begin operation =>
    cases htodo : m.todo with
    | cons s rest => simpa only [htodo] using h
    | nil =>
      cases operation with
      | event e => exact h.kept (hstable.happen hm e) rfl
      | _ => exact h.kept hm rfl
  | event e => exact h.kept (hstable.happen hm e) rfl
  | exit j x => exact h.kept (hstable.exit hm j x) rfl
  | go =>
    cases m.todo with
    | nil => exact h
    | cons s rest =>
      dsimp only
      unfold stride
      cases s with
      | take =>
        dsimp only
        cases hsession : m.controller.session with
        | none => exact h.kept hm rfl
        | some session =>
          refine ⟨h.created, ?_⟩
          rintro ⟨session', hsession' | hclosing, hk⟩
          · cases hsession'
          · cases hclosing
            exact h.ne_of_session hsession hk
      | tell =>
        dsimp only
        split
        · exact h.kept hm rfl
        · exact h.kept (hstable.told hm _) rfl
      | join due =>
        dsimp only
        split
        · exact h.kept hm rfl
        · rename_i session outcome hclosing
          exact h.kept (hstable.awaitPump hm session [] due) (by simp [hclosing])
      | close answer =>
        refine ⟨h.created, ?_⟩
        rintro ⟨session, hsession | hclosing, hk⟩
        · exact h.ne_of_session hsession hk
        · cases hclosing
      | announce => exact h.kept hm rfl
      | settle id mode start spawn =>
        obtain ⟨hsize, session, hsession, hnew⟩ :=
          m.controller.settle_spec m.controller.epoch id mode start spawn
        refine ⟨Nat.lt_of_lt_of_le h.created hsize, ?_⟩
        rintro ⟨session', hsession' | hclosing, hk⟩
        · cases hsession.symm.trans hsession'
          exact absurd (hnew k hk) (Nat.ne_of_lt h.created)
        · exact h.other ⟨session', .inr hclosing, hk⟩

theorem Detached.run {m : Midway T} (h : m.Detached k) (turns : List (Turn T)) :
    (m.run turns).Detached k := by
  induction turns generalizing m with
  | nil => exact h
  | cons u rest ih => exact ih (h.step u)

/-- A turn of others is the same whatever a thread of an earlier session is like. -/
theorem Detached.step_setThread {m : Midway T} (h : m.Detached k) (a : Thread) {u : Turn T}
    (hu : u.thread? ≠ some k) : (m.setThread k a).step u = (m.step u).setThread k a := by
  obtain ⟨c, closing, todo, replies⟩ := m
  have hstrides : ∀ operation, (c.setThread k a).strides operation = c.strides operation :=
    fun operation => by cases operation <;> rfl
  unfold Midway.step setThread
  cases u with
  | begin operation =>
    cases todo with
    | cons s rest => rfl
    | nil =>
      cases operation with
      | event e =>
        dsimp only
        rw [hstrides, Controller.happen_setThread c a hu]
      | _ => rfl
  | event e =>
    dsimp only
    rw [Controller.happen_setThread c a hu]
  | exit j x =>
    dsimp only
    rw [Controller.exit_setThread (fun hjk => hu (congrArg some hjk))]
  | go =>
    cases todo with
    | nil => rfl
    | cons s rest =>
      unfold stride
      cases s with
      | take =>
        dsimp only
        rw [show (c.setThread k a).session = c.session from rfl]
        cases c.session <;> rfl
      | tell =>
        cases closing with
        | none => rfl
        | some closing =>
          dsimp only [Option.bind_some]
          cases hj : closing.session.thread with
          | none => rfl
          | some j =>
            have hjk : j ≠ k := fun hjk => h.ne_of_closing rfl (by rw [hj, hjk])
            dsimp only
            rw [Controller.tell_setThread hjk]
      | join due =>
        cases closing with
        | none => rfl
        | some closing =>
          obtain ⟨hreply, hcontroller⟩ := c.awaitPump_setThread a (h.ne_of_closing rfl) due
          dsimp only
          rw [hreply, hcontroller]
      | close answer => rfl
      | announce => rfl
      | settle id mode start spawn =>
        dsimp only
        rw [Controller.epoch_setThread, Controller.settle_setThread h.created]

/-- A turn of a thread that has ended leaves everything as it is. -/
theorem step_of_hasEnded {m : Midway T} {t : Thread} (ht : m.controller.threads[k]? = some t)
    (hended : t.hasEnded = true) {u : Turn T} (hu : u.thread? = some k) : m.step u = m := by
  unfold Midway.step
  cases u with
  | begin operation =>
    cases operation with
    | event e =>
      dsimp only
      cases htodo : m.todo with
      | cons s rest => rfl
      | nil =>
        dsimp only
        rw [Controller.happen_of_hasEnded ht hended hu]
        simp [Controller.strides, ← htodo]
    | _ => cases hu
  | go => cases hu
  | event e =>
    dsimp only
    rw [Controller.happen_of_hasEnded ht hended hu]
  | exit j x =>
    cases hu
    dsimp only
    rw [Controller.exit_of_hasEnded ht hended]

/-- **A thread of an earlier session that has ended is out of sight.**  Everything goes on as it does
without its turns, whatever it was like before. -/
theorem Detached.run_setThread {m : Midway T} (h : m.Detached k) {a : Thread}
    (ha : a.hasEnded = true) (later : List (Turn T)) :
    (m.setThread k a).run later = (m.run (later.filter (·.thread? ≠ some k))).setThread k a := by
  induction later generalizing m with
  | nil => rfl
  | cons u rest ih =>
    rw [run_cons]
    by_cases hu : u.thread? = some k
    · have hthread : (m.setThread k a).controller.threads[k]? = some a :=
        Array.getElem?_setIfInBounds_self_of_lt h.created
      rw [List.filter_cons_of_neg (by simpa using hu), step_of_hasEnded hthread ha hu]
      exact ih h
    · rw [List.filter_cons_of_pos (by simpa using hu), run_cons, h.step_setThread a hu]
      exact ih (h.step u)

/-- The end of the loop of an earlier session's thread changes that thread only. -/
theorem Detached.step_exit {m : Midway T} (h : m.Detached k) (hm : m.Sound) (x : LoopEnd) :
    ∃ a : Thread, a.hasEnded = true ∧ m.step (.exit k x) = m.setThread k a := by
  obtain ⟨t, ht⟩ : ∃ t, m.controller.threads[k]? = some t := ⟨_, Array.getElem?_eq_getElem h.created⟩
  unfold Midway.step setThread
  dsimp only
  cases hended : t.hasEnded with
  | true =>
    rw [Controller.exit_of_hasEnded ht hended]
    exact ⟨t, hended, by rw [Controller.setThread_self ht]⟩
  | false =>
    rw [Controller.exit_eq_move ht hended]
    generalize ha : ({ t with pump := x.halt t.pump, phase := .exited x } : Thread) = a
    have hepoch : a.epoch = t.epoch := by rw [← ha]
    unfold Controller.move
    rw [hm.hear ht hepoch (.inl h.other) (m.controller.setThread k a) rfl rfl]
    exact ⟨a, by rw [← ha]; rfl, rfl⟩

end Midway

/-! ### Loops that end in an event -/

/-- What the end of a loop leaves of its thread does not depend on the rest of the tick. -/
theorem Thread.after_of_exited {T : Type} (t : Thread) {ticked : Ticked T} {x : LoopEnd}
    (hx : (t.after ticked).phase = .exited x) :
    t.after ticked = { t with pump := x.halt ticked.pump, phase := .exited x } := by
  rcases t.after_cases ticked with ⟨-, h⟩ | h | ⟨e, h⟩ | ⟨-, h⟩ <;> rw [h] at hx ⊢ <;> cases hx <;>
    rfl

namespace Controller

variable {T : Type} {k : Nat}

theorem setThread_setThread (c : Controller T) (a b : Thread) :
    (c.setThread k a).setThread k b = c.setThread k b := by
  unfold setThread
  rw [Array.setIfInBounds_setIfInBounds]

/-- A thread that has just been replaced ends as it is then. -/
theorem exit_setThread_self {c : Controller T} (hk : k < c.threads.size) {a : Thread}
    (ha : a.hasEnded = false) (x : LoopEnd) :
    (c.setThread k a).exit k x =
      c.move k { a with pump := x.halt a.pump, phase := .exited x } := by
  rw [exit_eq_move (Array.getElem?_setIfInBounds_self_of_lt hk) ha]
  unfold move
  rw [setThread_setThread]

/-- If a loop ends after a tick, the controller hears of it when the tick is over. -/
theorem afterTick_eq_exit {c : Controller T} (hk : k < c.threads.size) {t t' : Thread}
    {ticked : Ticked T} {x : LoopEnd} (ht : c.threads[k]? = some t)
    (ht' : (c.afterTick k t ticked).1.threads[k]? = some t') (hx : t'.phase = .exited x) :
    (c.afterTick k t ticked).1 = (({ c with surface := ticked.surface } : Controller T).setThread k
      { t with pump := ticked.pump, phase := .waiting }).exit k x := by
  obtain ⟨records, hafter⟩ := afterTick_eq t ticked
  rw [hafter] at ht' ⊢
  cases (getElem?_move_self (c := { c with surface := ticked.surface }) ht _).symm.trans ht'
  rw [exit_setThread_self (c := { c with surface := ticked.surface }) hk rfl, t.after_of_exited hx]

variable [Drawable T]

/-- **A loop that ends in an event** ends as a turn of its own, after what the tick still did to the
surface and to the pump. -/
theorem happen_eq_exit {c : Controller T} {e : Event T} {t t' : Thread} {x : LoopEnd}
    (ht : c.threads[k]? = some t) (hgoing : t.hasEnded = false)
    (ht' : (c.happen e).1.threads[k]? = some t') (hx : t'.phase = .exited x) :
    ∃ surface pump, (c.happen e).1 = (({ c with surface } : Controller T).setThread k
      { t with pump, phase := .waiting }).exit k x := by
  have hk : k < c.threads.size := (Array.getElem?_eq_some_iff.mp ht).1
  have hchanged : c.threads[k]? ≠ some t' := by
    intro hsame
    cases ht.symm.trans hsame
    simp [Thread.hasEnded, hx] at hgoing
  by_cases he : e.thread? = some k
  · rcases c.happen_inv e with ⟨e, rfl⟩ | hnothing | ⟨j, a, tj, rfl, htj, hphase⟩ |
      ⟨j, tj, fetch, rfl, htj, hphase⟩
    · cases he
    · rw [hnothing] at ht'
      exact absurd ht' hchanged
    · cases he
      cases ht.symm.trans htj
      rw [happen_wake ht hphase] at ht' ⊢
      dsimp only at ht' ⊢
      rcases c.wake_cases k t a with ⟨-, hwake⟩ | hwake | hwake
      · rw [hwake, leave_eq] at ht' ⊢
        cases (getElem?_move_self ht _).symm.trans ht'
        cases hx
        exact ⟨c.surface, t.pump,
          (exit_setThread_self (a := { t with phase := .waiting }) hk rfl .cancelled).symm⟩
      · rw [hwake] at ht'
        cases (getElem?_move_self ht _).symm.trans ht'
        cases hx
      · rw [hwake] at ht' ⊢
        exact ⟨_, _, afterTick_eq_exit hk ht ht' hx⟩
    · cases he
      cases ht.symm.trans htj
      rw [happen_resume ht hphase] at ht' ⊢
      exact ⟨_, _, afterTick_eq_exit hk ht ht' hx⟩
  · rw [(happen_of_thread?_ne he).1] at ht'
    exact absurd ht' hchanged

end Controller

namespace Midway

variable {T : Type} [Drawable T]

/-- **A pump speaks only for its own session.**  Let anything happen to a new controller, turn by turn, in
which order it may.  This includes whatever the operations of a controller do as they are defined, and
also that loops end at any point, each of them a turn of its own: a loop that ends in an event does so
after the rest of its tick.

* A turn of a thread publishes something only if the thread belongs to the current session or to the one
  that is being stopped, and then the status moves forward to terminated.
* If the loop of a thread ends that belongs to neither, for whatever reason, then whatever happens later,
  everything published, the session, whether its pump runs, how many frames it has shown and all answers
  are as they are if the loop does not end and nothing more is heard of that thread. -/
theorem pump_speaks_for_own_session (config : PumpSettings) (surface : Surface T) :
    (∀ operations, (new config surface).run ((Controller.new config surface).turnsAll operations) =
      let done := (Controller.new config surface).performAll operations
      { controller := done.controller
        replies := done.reply.filterMap Controller.Reply.answer? }) ∧
    ∀ turns k,
      let m := (new config surface).run turns
      (∀ u, u.thread? = some k → (m.step u).controller.feed ≠ m.controller.feed →
        m.Owns k ∧ m.controller.status.rank < SessionStatus.terminated.rank ∧
          (m.step u).controller.status = .terminated) ∧
      ∀ t, m.controller.threads[k]? = some t →
        (∀ event t' exit, t.hasEnded = false →
          (m.step (.event event)).controller.threads[k]? = some t' → t'.phase = .exited exit →
          ∃ surface pump, m.step (.event event) =
            (({ m with controller := { m.controller with surface } } : Midway T).setThread k
              { t with pump, phase := .waiting }).step (.exit k exit)) ∧
        (¬ m.Owns k → ∀ exit later,
          let after := (m.step (.exit k exit)).run later
          let without := m.run (later.filter (·.thread? ≠ some k))
          after.controller.feed = without.controller.feed ∧
          after.controller.session = without.controller.session ∧
          after.controller.isPumpRunning = without.controller.isPumpRunning ∧
          after.controller.framesShown = without.controller.framesShown ∧
          after.replies = without.replies) := by
  refine ⟨fun operations => ?_, fun turns k => ?_⟩
  · exact run_turnsAll (Controller.new config surface) operations []
  · intro m
    have hm : m.Sound := (sound_new config surface).run turns
    refine ⟨fun u hu hfeed => hm.feed_step hu hfeed, fun t ht => ⟨?_, fun hother exit later => ?_⟩⟩
    · intro event t' exit hgoing ht' hexit
      obtain ⟨surface, pump, hevent⟩ := Controller.happen_eq_exit ht hgoing ht' hexit
      exact ⟨surface, pump, congrArg (fun c => { m with controller := c }) hevent⟩
    · have hdetached : m.Detached k := ⟨(Array.getElem?_eq_some_iff.mp ht).1, hother⟩
      intro after without
      obtain ⟨a, ha, hstep⟩ := hdetached.step_exit hm exit
      have hafter : after = without.setThread k a :=
        (congrArg (run · later) hstep).trans (hdetached.run_setThread ha later)
      have hthread : after.controller.thread? = without.controller.thread? := by
        rw [hafter]
        exact Controller.thread?_setThread a fun _ => (hdetached.run _).ne_of_session
      have hrunning : after.controller.isPumpRunning = without.controller.isPumpRunning := by
        unfold Controller.isPumpRunning
        rw [hthread]
      have hframes : after.controller.framesShown = without.controller.framesShown := by
        unfold Controller.framesShown
        rw [hthread]
      exact ⟨congrArg (·.controller.feed) hafter, congrArg (·.controller.session) hafter, hrunning,
        hframes, congrArg (·.replies) hafter⟩

/-- A stop gives up a thread that hangs, another session is started, and while that one is stopped in turn
the first thread finds its link lost. -/
theorem pump_speaks_for_own_session_after_hanging :
    let answers := Engine.Answers.onePixel 7 (.ok ())
    let hung := { answers with fetch := { answers.fetch with blocks := true } }
    let turns : List (Turn MemoryTarget) :=
      [.begin (.start "7" {} .interactive {}), .go, .go, .event (.wake 0 hung),
        .begin (.stop {}), .go, .go, .go, .go,
        .begin (.start "8" {} .interactive {}), .go, .go, .begin (.stop {}), .go]
    let m := (new {} { scale := .stretch } : Midway MemoryTarget).run turns
    let later := [.go, .event (.resume 0), .go, .go]
    let after := (m.step (.exit 0 (.linkLost (.linkMissing "frame")))).run later
    let without := m.run (later.filter (·.thread? ≠ some 0))
    m.controller.status = .terminating ∧ ¬ m.Owns 0 ∧
    after.controller.status = .terminated ∧ after.replies.length = 4 ∧
    after.controller.feed = without.controller.feed ∧ after.replies = without.replies := by
  intro answers hung turns
  have hspeaks := (pump_speaks_for_own_session (T := MemoryTarget) {} { scale := .stretch }).2 turns 0
  generalize hm : (new {} { scale := .stretch } : Midway MemoryTarget).run turns = m at hspeaks ⊢
  intro _ later after without
  have hsession : m.controller.session.isNone = true := by
    rw [← hm]
    decide
  have hclosing : m.closing.bind (·.session.thread) = some 1 := by
    rw [← hm]
    decide
  have hcreated : 0 < m.controller.threads.size := by
    rw [← hm]
    decide
  have hafter : ((m.step (.exit 0 (.linkLost (.linkMissing "frame")))).run later).controller.status =
        .terminated ∧
      ((m.step (.exit 0 (.linkLost (.linkMissing "frame")))).run later).replies.length = 4 := by
    rw [← hm]
    decide
  have hother : ¬ m.Owns 0 := by
    rintro ⟨session, hcurrent | hstopped, hk⟩
    · rw [hcurrent] at hsession
      cases hsession
    · obtain ⟨closing, hsome, rfl⟩ := Option.map_eq_some_iff.mp hstopped
      rw [hsome, Option.bind_some, hk] at hclosing
      cases hclosing
  obtain ⟨hfeed, -, -, -, hreplies⟩ := (hspeaks.2 _ (Array.getElem?_eq_getElem hcreated)).2 hother
    (.linkLost (.linkMissing "frame")) later
  have hstatus : m.controller.status = .terminating := by
    rw [← hm]
    decide
  exact ⟨hstatus, hother, hafter.1, hafter.2, hfeed, hreplies⟩

end Midway

end DeskView
