import DeskView.Proofs.Session.ClockedStop
import DeskView.Proofs.Session.Heard
import DeskView.Settings.Basic

/-!
# How long a stop waits

A stop waits for its pump, but not for ever, and a pump that was told to stop notices it at its next
wake-up.  Beside an engine that never keeps a pump waiting, the wait is long enough exactly if it is no
shorter than the time from one tick to the next (`pump_stops_in_time_iff`).

It is looked at from both sides.  On the clock (`PumpSettings.JoinsInTime`) a pump runs and is told at
any moment; how fine that clock is plays no part, a millisecond has any number of units.  In a controller
(`PumpSettings.StopsInTime`) any number of pumps run while sessions are started and stopped, and a stop
that waits in vain answers so.  What a stop answers is what the wait on the clock comes to
(`PumpSettings.StopsAsJoined`); so a pump that sleeps for too long on the clock makes a controller wait
in vain.

The settings of a viewer are brought into range one by one, and nothing compares the two.
-/

namespace DeskView

variable {T : Type}

/-! ### On the clock -/

namespace PumpSettings

/-- Whenever a pump that is run with these settings is told to stop, it ends before the wait for it does,
unless a tick panics. -/
def JoinsInTime (p : PumpSettings) (T : Type) [Drawable T] : Prop :=
  ∀ (unit : Nat) (pump : Pump) (surface : Surface T) (deadline : Nat) (answers : Nat → Engine.Answers)
    (schedule : List (Scheduled T)),
    0 < unit → pump.running = true → schedule.Pairwise (·.time ≤ ·.time) →
    let run := pump.run surface (p.tick.toNat * unit) deadline answers schedule
    let told := Scheduled.clearing deadline schedule
    ∀ exit, run.exit = some exit →
      run.time ≤ told + p.stopTimeout.toNat * unit ∧
        run.joined told unit p.stopTimeout = .exited exit

variable [Drawable T] {p : PumpSettings}

theorem joinsInTime_of_le (htick : 0 < p.tick) (hle : p.tick ≤ p.stopTimeout) : p.JoinsInTime T := by
  rw [UInt64.lt_iff_toNat_lt, UInt64.toNat_zero] at htick
  rw [UInt64.le_iff_toNat_le] at hle
  intro unit pump surface deadline answers schedule hunit hrunning hsorted run told exit hexit
  have hheeds := pump.heeds_run hrunning surface (Nat.mul_pos htick hunit) deadline answers hsorted
  have htime : run.time ≤ told + p.stopTimeout.toNat * unit :=
    hheeds.time.trans (Nat.add_le_add_left (Nat.mul_le_mul_right unit hle) told)
  exact ⟨htime, run.joined_of_time_le htime hexit⟩

/-- A pump with nothing to draw that is told to stop right after its first tick ends at the second. -/
theorem run_idle (pump : Pump) (hrunning : pump.running = true) (surface : Surface T) {period : Nat}
    (hperiod : 0 < period) :
    let run := pump.run surface period 1 (fun _ => .idle) []
    run.exit = some .cancelled ∧ run.time = period := by
  obtain ⟨hcancelled, -⟩ := pump.exit_run hrunning surface hperiod 1 (fun _ => .idle)
    (Scheduled.betweenTicks_nil period)
  rw [show Scheduled.clearing 1 ([] : List (Scheduled T)) = 1 from rfl, Scene.one_ceilDiv hperiod,
    Nat.one_mul, Playback.timeline_one] at hcancelled
  -- its one tick finds no frame
  refine hcancelled fun ticked hmem => ?_
  obtain rfl : ticked = pump.tick surface .idle := List.mem_singleton.mp hmem
  rfl

theorem le_of_joinsInTime (htick : 0 < p.tick) (h : p.JoinsInTime T) : p.tick ≤ p.stopTimeout := by
  rw [UInt64.lt_iff_toNat_lt, UInt64.toNat_zero] at htick
  -- half a millisecond after the first tick the pump is told to stop
  obtain ⟨hexit, htime⟩ := run_idle (.new "" {}) rfl ({ scale := .stretch } : Surface T)
    (Nat.mul_pos htick Nat.two_pos)
  have hbound := (h 2 (.new "" {}) { scale := .stretch } 1 (fun _ => .idle) [] Nat.two_pos rfl .nil
    .cancelled hexit).1
  rw [htime, show Scheduled.clearing 1 ([] : List (Scheduled T)) = 1 from rfl] at hbound
  rw [UInt64.le_iff_toNat_le]
  omega

end PumpSettings

/-! ### In a controller -/

/-- Whether nothing keeps a pump waiting: a thread that wakes up is given a fetch that does not block. -/
def Event.isPrompt : Event T → Bool
  | .wake _ a => !a.fetch.blocks
  | _ => true

/-- Whether a turn keeps no pump waiting. -/
def Turn.isPrompt : Turn T → Bool
  | .begin (.event e) => e.isPrompt
  | .event e => e.isPrompt
  | _ => true

/-- Beside an engine that keeps no pump waiting, no stop of a controller with these settings waits in
vain. -/
def PumpSettings.StopsInTime (p : PumpSettings) (T : Type) [Drawable T] : Prop :=
  ∀ (surface : Surface T) (turns : List (Turn T)), (∀ u ∈ turns, u.isPrompt = true) →
    ∀ waited, .stopped (.terminationTimeout waited) ∉ ((Midway.new p surface).run turns).replies

/-- A session that is started, goes on beside a schedule of surface events and is stopped: the stop answers
what it comes to when the pump is run on the clock, told at that moment and waited for.  The thread of the
session wakes up for the ticks before that moment, and the stop is as long before the next as on the
clock.  What is scheduled for later does not matter to the answer. -/
def PumpSettings.StopsAsJoined (p : PumpSettings) (T : Type) [Drawable T] : Prop :=
  ∀ (c : Controller T) (id : String) (credentials : Credentials) (mode : SessionMode)
    (replies : Controller.Replies T) (answers : Nat → Engine.Answers) (schedule : List (Scheduled T))
    (told : Nat),
    c.config = p → (c.start id credentials mode replies).reply = .ok () →
    (∀ j, (answers j).fetch.blocks = false) → Scheduled.BetweenTicks p.period schedule →
    (∀ step ∈ schedule, step.isStop = false) →
    let started := (c.start id credentials mode replies).controller
    let next := told ⌈/⌉ p.period
    let history := (Playback.timeline p.period answers schedule 0 next).map Prod.snd
    let run := (Pump.new id p).run started.surface p.period told answers schedule
    ((started.happenAll (history.map (Moment.event c.threads.size))).1.stop
        { due := next * p.period - told }).reply =
      Controller.stopResult (run.joined told nanoseconds p.stopTimeout)

theorem PumpSettings.period_le_patience_iff {p : PumpSettings} :
    p.period ≤ p.patience ↔ p.tick ≤ p.stopTimeout := by
  unfold period patience
  rw [Nat.mul_le_mul_right_iff (by decide), UInt64.le_iff_toNat_le]

/-- No thread sleeps for longer than from one tick to the next. -/
theorem Thread.sleep_le_period (t : Thread) (p : PumpSettings) (due : Nat) :
    t.sleep p due ≤ p.period := by
  unfold sleep
  split
  · exact Nat.zero_le p.period
  · exact min_le_right due p.period

namespace Controller

/-- No thread hangs in a fetch. -/
def NoneHangs (c : Controller T) : Prop :=
  ∀ (k : Nat) (t : Thread), c.threads[k]? = some t → Rehearsal.isHung t = false

theorem NoneHangs.setThread {c : Controller T} (h : c.NoneHangs) {k : Nat} {t t' : Thread}
    (ht : c.threads[k]? = some t) (hgoing : Rehearsal.isHung t' = false) :
    (c.setThread k t').NoneHangs := by
  intro j tj hj
  rw [getElem?_setThread ht] at hj
  split at hj
  · cases hj
    exact hgoing
  · exact h j tj hj

theorem NoneHangs.move {c : Controller T} (h : c.NoneHangs) {k : Nat} {t t' : Thread}
    (ht : c.threads[k]? = some t) (hgoing : Rehearsal.isHung t' = false) : (c.move k t').NoneHangs := by
  unfold NoneHangs Controller.move
  rw [threads_hear]
  exact h.setThread ht hgoing

/-- After a tick a thread does not hang. -/
theorem isHung_after (t : Thread) (ticked : Ticked T) :
    Rehearsal.isHung (t.after ticked) = false := by
  rcases t.after_cases ticked with ⟨-, h⟩ | h | ⟨e, h⟩ | ⟨-, h⟩ <;> rw [h] <;> rfl

theorem NoneHangs.tell {c : Controller T} (h : c.NoneHangs) (k : Nat) : (c.tell k).NoneHangs := by
  unfold Controller.tell
  split
  · rename_i t ht
    exact h.setThread ht (h k t ht)
  · exact h

theorem NoneHangs.exit {c : Controller T} (h : c.NoneHangs) (k : Nat) (exit : LoopEnd) :
    (c.exit k exit).NoneHangs := by
  cases ht : c.threads[k]? with
  | none =>
    unfold Controller.exit
    rw [ht]
    exact h
  | some t =>
    cases hended : t.hasEnded with
    | true =>
      rw [exit_of_hasEnded ht hended]
      exact h
    | false =>
      rw [exit_eq_move ht hended]
      exact h.move ht rfl

/-- A session that is accepted gets a thread that waits. -/
theorem NoneHangs.settle {c : Controller T} (h : c.NoneHangs) (epoch : Nat) (id : String)
    (mode : SessionMode) (start : Except EngineError Unit) (spawn : Except String Unit) :
    (c.settle epoch id mode start spawn).1.NoneHangs := by
  unfold Controller.settle
  cases start with
  | error e => exact h
  | ok accepted =>
    cases spawn with
    | error reason => exact h
    | ok spawned =>
      intro k t ht
      change (c.threads.push _)[k]? = some t at ht
      rw [Array.getElem?_push] at ht
      split at ht
      · cases ht
        rfl
      · exact h k t ht

variable [Drawable T]

/-- **Nothing that is prompt makes a thread hang.** -/
theorem NoneHangs.happen {c : Controller T} (h : c.NoneHangs) {event : Event T}
    (hprompt : event.isPrompt = true) : (c.happen event).1.NoneHangs := by
  have hafter : ∀ (k : Nat) (t : Thread) (ticked : Ticked T), c.threads[k]? = some t →
      (c.afterTick k t ticked).1.NoneHangs := by
    intro k t ticked ht
    obtain ⟨records, hmove⟩ := afterTick_eq t ticked
    rw [hmove c k]
    exact NoneHangs.move (c := { c with surface := ticked.surface }) h ht (isHung_after t ticked)
  -- only a wake-up can begin a fetch, and only a fetch that blocks hangs
  rcases c.happen_inv event with ⟨e, rfl⟩ | hnothing | ⟨k, a, t, rfl, ht, hphase⟩ |
    ⟨k, t, fetch, rfl, ht, hphase⟩
  · exact h
  · rw [hnothing]
    exact h
  · rw [Event.isPrompt, Bool.not_eq_true'] at hprompt
    rw [happen_wake ht hphase, wake_eq, t.pump.hangs_of_not_blocks hprompt]
    split
    · exact hafter k t _ ht
    · rw [leave_eq]
      exact h.move ht rfl
  · -- nobody waits for the fetch
    have hhung := h k t ht
    rw [Rehearsal.isHung, hphase] at hhung
    cases hhung

/-- **No thread is waited for in vain** if the wait is no shorter than a tick. -/
theorem NoneHangs.await {c : Controller T} (h : c.NoneHangs)
    (hle : c.config.tick ≤ c.config.stopTimeout) (k due : Nat) :
    (c.await k [] due).controller.NoneHangs ∧
      ∀ waited, (c.await k [] due).reply ≠ .timedOut waited := by
  have htold := h.tell k
  have hconfig : (c.tell k).config = c.config := (stable_config c.config).told rfl k
  constructor
  · rcases c.await_cases k [] due with ⟨hcontroller, -⟩ | ⟨t, ht, -, hcontroller, -⟩
    · rw [hcontroller]
      exact htold
    · rw [hcontroller]
      exact htold.move ht rfl
  · intro waited
    unfold Controller.await
    rw [happenAll_nil]
    dsimp only
    cases ht : (c.tell k).threads[k]? with
    | none => simp
    | some t =>
      have hgoing := htold k t ht
      unfold Rehearsal.isHung at hgoing
      dsimp only
      cases hphase : t.phase with
      | exited exit => simp
      | panicked => simp
      | fetching fetch =>
        rw [hphase] at hgoing
        cases hgoing
      | waiting =>
        -- the thread wakes up once in a tick
        have hsleep : t.sleep c.config due ≤ c.config.patience :=
          (t.sleep_le_period c.config due).trans (PumpSettings.period_le_patience_iff.mpr hle)
        dsimp only
        rw [hconfig, if_neg (not_lt.mpr hsleep)]
        simp

theorem NoneHangs.awaitPump {c : Controller T} (h : c.NoneHangs)
    (hle : c.config.tick ≤ c.config.stopTimeout) (session : Session) (due : Nat) :
    (c.awaitPump session [] due).controller.NoneHangs ∧
      ∀ waited, (c.awaitPump session [] due).reply ≠ .terminationTimeout waited := by
  unfold Controller.awaitPump
  split
  · exact ⟨h, fun waited heq => by cases heq⟩
  · rename_i k hk
    obtain ⟨hnone, hreply⟩ := h.await hle k due
    refine ⟨hnone, fun waited heq => ?_⟩
    dsimp only at heq
    cases hwait : (c.await k [] due).reply with
    | timedOut waited' => exact hreply waited' hwait
    | _ =>
      rw [hwait] at heq
      cases heq

end Controller

namespace Midway

/-- A stop is answered by what its wait came to. -/
def Faithful (answer : StopResult → Option Controller.Reply) : Prop :=
  ∀ outcome waited, answer outcome = some (.stopped (.terminationTimeout waited)) →
    outcome = .terminationTimeout waited

/-- What holds at every point if nothing keeps a pump waiting: no thread hangs, no wait was in vain so far,
and none is answered to have been. -/
structure InTime (m : Midway T) (p : PumpSettings) : Prop where
  config : m.controller.config = p
  noneHangs : m.controller.NoneHangs
  closing : ∀ closing, m.closing = some closing → ∀ waited,
    closing.outcome ≠ .terminationTimeout waited
  todo : ∀ answer, .close answer ∈ m.todo → Faithful answer
  replies : ∀ waited, .stopped (.terminationTimeout waited) ∉ m.replies

theorem inTime_new (p : PumpSettings) (surface : Surface T) : (new p surface).InTime p where
  config := rfl
  noneHangs k t ht := by simp [new, Controller.new] at ht
  closing _ h := by cases h
  todo _ h := by cases h
  replies _ h := by cases h

/-- An operation is not answered before it waited, and then it is by what its wait came to. -/
theorem faithful_strides (c : Controller T) (operation : Controller.Operation T) :
    (∀ answer, .close answer ∈ (c.strides operation).1 → Faithful answer) ∧
      ∀ waited, (c.strides operation).2 ≠ some (.stopped (.terminationTimeout waited)) := by
  have hsilent : Faithful fun _ => none := fun outcome waited h => by cases h
  have hdropped : Faithful fun _ => some .dropped := fun outcome waited h => by cases h
  have hstopped : Faithful fun outcome => some (.stopped outcome) := fun outcome waited h => by
    simpa using h
  unfold Controller.strides
  cases operation with
  | start id credentials mode replies =>
    dsimp only
    split
    · simp
    · cases c.session with
      | none => simp
      | some session =>
        dsimp only
        split
        · simp
        · simp [hsilent]
  | stop s => cases c.session <;> simp [hstopped]
  | drop s => cases c.session <;> simp [hdropped]
  | event e => simp

variable [Drawable T]

/-- A stride leaves a point in time. -/
theorem InTime.stride {m : Midway T} {p : PumpSettings} (h : m.InTime p)
    (hle : p.tick ≤ p.stopTimeout) {s : Stride} (hs : ∀ answer, s = .close answer → Faithful answer) :
    (m.stride s).InTime p := by
  have hkeep := h
  obtain ⟨hconfig, hnone, hclosing, htodo, hreplies⟩ := h
  unfold Midway.stride
  cases s with
  | take =>
    dsimp only
    split
    · exact hkeep
    · refine ⟨hconfig, hnone, fun closing heq waited hwaited => ?_, htodo, hreplies⟩
      cases heq
      cases hwaited
  | tell =>
    dsimp only
    split
    · exact hkeep
    · exact ⟨(Controller.stable_config p).told hconfig _, hnone.tell _, hclosing, htodo, hreplies⟩
  | join due =>
    dsimp only
    split
    · exact hkeep
    · rename_i session outcome hjoined
      obtain ⟨hnone', hreply⟩ := hnone.awaitPump (by rw [hconfig]; exact hle) session due
      refine ⟨(Controller.stable_config p).awaitPump hconfig session [] due, hnone', ?_, htodo, hreplies⟩
      intro closing heq
      cases heq
      exact hreply
  | close answer =>
    refine ⟨hconfig, hnone, fun _ heq => (by cases heq), htodo, fun waited hmem => ?_⟩
    rcases List.mem_append.mp hmem with hmem | hmem
    · exact hreplies waited hmem
    · -- what is answered is what the wait came to, and it was not in vain
      rw [Option.mem_toList, Option.bind_eq_some_iff] at hmem
      obtain ⟨closing, hcurrent, hanswer⟩ := hmem
      exact hclosing closing hcurrent waited (hs answer rfl _ waited hanswer)
  | announce => exact ⟨hconfig, hnone, hclosing, htodo, hreplies⟩
  | settle id mode start spawn =>
    refine ⟨?_, hnone.settle _ id mode start spawn, hclosing, htodo, fun waited hmem => ?_⟩
    · rw [← hconfig]
      unfold Controller.settle
      cases start with
      | error e => rfl
      | ok accepted => cases spawn <;> rfl
    · rcases List.mem_append.mp hmem with hmem | hmem
      · exact hreplies waited hmem
      · simp at hmem

theorem InTime.happen {m : Midway T} {p : PumpSettings} (h : m.InTime p) {event : Event T}
    (hprompt : event.isPrompt = true) :
    InTime { m with controller := (m.controller.happen event).1 } p :=
  ⟨(Controller.stable_config p).happen h.config event, h.noneHangs.happen hprompt, h.closing, h.todo,
    h.replies⟩

/-- **A turn that keeps no pump waiting leaves a point in time.** -/
theorem InTime.step {m : Midway T} {p : PumpSettings} (h : m.InTime p) (hle : p.tick ≤ p.stopTimeout)
    {u : Turn T} (hprompt : u.isPrompt = true) : (m.step u).InTime p := by
  unfold Midway.step
  cases u with
  | begin operation =>
    cases htodo : m.todo with
    | cons s rest => simpa only [htodo] using h
    | nil =>
      obtain ⟨hfaithful, hanswer⟩ := faithful_strides m.controller operation
      have hreplies : ∀ waited, .stopped (.terminationTimeout waited) ∉
          m.replies ++ (m.controller.strides operation).2.toList := by
        intro waited hmem
        rcases List.mem_append.mp hmem with hmem | hmem
        · exact h.replies waited hmem
        · exact hanswer waited (by simpa using hmem)
      cases operation with
      | event e =>
        have hhappened := h.happen (show e.isPrompt = true from hprompt)
        exact ⟨hhappened.config, hhappened.noneHangs, h.closing, hfaithful, hreplies⟩
      | _ => exact ⟨h.config, h.noneHangs, h.closing, hfaithful, hreplies⟩
  | go =>
    cases htodo : m.todo with
    | nil => exact h
    | cons s rest =>
      have hrest : InTime { m with todo := rest } p :=
        ⟨h.config, h.noneHangs, h.closing,
          fun answer hmem => h.todo answer (htodo ▸ List.mem_cons_of_mem s hmem), h.replies⟩
      refine hrest.stride hle ?_
      rintro answer rfl
      exact h.todo answer (htodo ▸ List.mem_cons_self)
  | event e => exact h.happen hprompt
  | exit k exit =>
    exact ⟨(Controller.stable_config p).exit h.config k exit, h.noneHangs.exit k exit, h.closing, h.todo,
      h.replies⟩

theorem InTime.run {m : Midway T} {p : PumpSettings} (h : m.InTime p) (hle : p.tick ≤ p.stopTimeout)
    {turns : List (Turn T)} (hprompt : ∀ u ∈ turns, u.isPrompt = true) : (m.run turns).InTime p := by
  induction turns generalizing m with
  | nil => exact h
  | cons u rest ih =>
    exact ih (h.step hle (hprompt u List.mem_cons_self))
      fun u' hmem => hprompt u' (List.mem_cons_of_mem u hmem)

end Midway

namespace PumpSettings

variable [Drawable T] {p : PumpSettings}

theorem stopsInTime_of_le (hle : p.tick ≤ p.stopTimeout) : p.StopsInTime T :=
  fun surface _ hprompt => ((Midway.inTime_new p surface).run hle hprompt).replies

/-- **A stop answers as the wait on the clock comes out.** -/
theorem stopsAsJoined (htick : 0 < p.tick) : p.StopsAsJoined T := by
  rintro c id credentials mode replies answers schedule told rfl hok hprompt hschedule hstops
  obtain ⟨hsession, t, ht, hpump, hphase⟩ := Controller.start_of_ok hok
  have hperiod : 0 < c.config.period := by
    rw [UInt64.lt_iff_toNat_lt, UInt64.toNat_zero] at htick
    exact Nat.mul_pos htick (by decide)
  have hconfig : (c.start id credentials mode replies).controller.config = c.config :=
    c.config_perform (.start id credentials mode replies)
  rw [← hconfig] at hperiod hschedule ⊢
  have hreply := Controller.reply_stop_eq_joined hsession rfl ht hphase (by rw [hpump]; rfl)
    (by rw [hpump]; rfl) hperiod hprompt hschedule hstops told
  rw [hpump, ← hconfig] at hreply
  exact hreply

/-- A session that is stopped a nanosecond after the first tick of its pump, which found no frame, is waited
for in vain if a tick takes longer than the wait. -/
theorem reply_stop_of_slow (hlt : p.stopTimeout < p.tick) {c : Controller T} (hconfig : c.config = p)
    {id : String} {credentials : Credentials} {mode : SessionMode} {replies : Controller.Replies T}
    (hok : (c.start id credentials mode replies).reply = .ok ()) :
    (((c.start id credentials mode replies).controller.happen (.wake c.threads.size .idle)).1.stop
      { due := p.period - 1 }).reply = .terminationTimeout p.stopTimeout := by
  rw [UInt64.lt_iff_toNat_lt] at hlt
  have htick : 0 < p.tick := by
    rw [UInt64.lt_iff_toNat_lt]
    exact Nat.zero_lt_of_lt hlt
  have hlong : 1 + p.stopTimeout.toNat * nanoseconds < p.period := by
    have hmillisecond : (p.stopTimeout.toNat + 1) * nanoseconds ≤ p.period :=
      Nat.mul_le_mul_right nanoseconds hlt
    have hfine : 1 < nanoseconds := by decide
    rw [Nat.succ_mul] at hmillisecond
    omega
  have hperiod : 0 < p.period := Nat.zero_lt_of_lt hlong
  -- on the clock the pump sleeps until its second tick
  have hjoined := stopsAsJoined htick c id credentials mode replies (fun _ => .idle) [] 1 hconfig hok
    (fun _ => rfl) (Scheduled.betweenTicks_nil p.period) (by simp)
  obtain ⟨-, htime⟩ := run_idle (.new id p) rfl (c.start id credentials mode replies).controller.surface
    hperiod
  dsimp only at hjoined
  rw [Scene.one_ceilDiv hperiod, Playback.timeline_one, Nat.one_mul, Run.stopResult_joined, htime,
    if_pos hlong] at hjoined
  exact hjoined

theorem le_of_stopsInTime (h : p.StopsInTime T) : p.tick ≤ p.stopTimeout := by
  by_contra hlt
  rw [UInt64.not_le] at hlt
  let c : Controller T := .new p { scale := .stretch }
  let start : Controller.Operation T := .start "7" {} .interactive {}
  let tick : Controller.Operation T := .event (.wake 0 .idle)
  let stop : Controller.Operation T := .stop { due := p.period - 1 }
  let started := (c.perform start).controller
  let ticked := (started.perform tick).controller
  have hvain : (ticked.stop { due := p.period - 1 }).reply = .terminationTimeout p.stopTimeout := by
    have hticked : ticked = ((c.start "7" {} .interactive {}).controller.happen (.wake 0 .idle)).1 := rfl
    rw [hticked]
    exact reply_stop_of_slow (c := c) hlt rfl rfl
  let turns := c.turns start ++ started.turns tick ++ ticked.turns stop
  -- the turns of operations that nothing interrupts come to the operations
  have hreplies : .stopped (.terminationTimeout p.stopTimeout) ∈
      ((Midway.new p { scale := .stretch }).run turns).replies := by
    rw [Midway.run_append, Midway.run_append, show Midway.new p _ = ⟨c, none, [], []⟩ from rfl,
      Midway.run_turns, Midway.run_turns, Midway.run_turns]
    have hanswer : (ticked.perform stop).reply.answer? =
        some (.stopped (.terminationTimeout p.stopTimeout)) := by
      change some (Controller.Reply.stopped (ticked.stop { due := p.period - 1 }).reply) = _
      rw [hvain]
    rw [hanswer]
    exact List.mem_append_right _ (List.mem_singleton_self _)
  have hturns : turns = [.begin start, .go, .go, .begin tick, .begin stop, .go, .go, .go, .go] := rfl
  have hidle : Engine.Answers.idle.fetch.blocks = false := rfl
  refine h { scale := .stretch } turns ?_ p.stopTimeout hreplies
  rw [hturns]
  simp [start, tick, stop, Turn.isPrompt, Event.isPrompt, hidle]

end PumpSettings

/-! ### The settings of a viewer -/

namespace Settings

theorem tick_pumpSettings_pos (s : Settings) : 0 < s.pumpSettings.tick := by
  unfold pumpSettings clamp tickRange
  dsimp only
  have hnone : (0 : UInt64).toNat = 0 := rfl
  have hshortest : (1 : UInt64).toNat = 1 := rfl
  have hlongest : (1000 : UInt64).toNat = 1000 := rfl
  simp only [UInt64.lt_iff_toNat_lt]
  split_ifs <;> omega

/-- In range, a tick takes no longer than the wait if it did not before, or if it cannot. -/
theorem tick_le_stopTimeout_iff (s : Settings) :
    s.pumpSettings.tick ≤ s.pumpSettings.stopTimeout ↔
      s.render.tick ≤ s.render.stopTimeout ∨ s.render.tick ≤ 50 ∨ 1000 ≤ s.render.stopTimeout := by
  obtain ⟨session, ⟨tick, stopTimeout, display, scale, format⟩, other⟩ := s
  unfold pumpSettings clamp tickRange minStopTimeout
  dsimp only
  rw [UInt64.max_def]
  have hshortest : (1 : UInt64).toNat = 1 := rfl
  have hwait : (50 : UInt64).toNat = 50 := rfl
  have hlongest : (1000 : UInt64).toNat = 1000 := rfl
  simp only [UInt64.le_iff_toNat_le, UInt64.lt_iff_toNat_lt]
  split_ifs <;> omega

end Settings

/-- **When a stop waits long enough.**  Beside an engine that never keeps a pump waiting, with the settings
of any viewer:

* whenever a pump on a clock is told to stop, it ends before the wait for it does, exactly if a tick
  takes no longer than the wait;
* a stop of a controller answers what the wait for the pump of its session comes to on the clock;
* no stop of a controller waits in vain, whatever happens beside it, exactly if a tick takes no longer than
  the wait;
* it is so if it is of the settings before they are brought into range, or if the tick is among the
  shortest or the wait among the longest of all. -/
theorem pump_stops_in_time_iff (T : Type) [Drawable T] (s : Settings) :
    let p := s.pumpSettings
    (p.JoinsInTime T ↔ p.tick ≤ p.stopTimeout) ∧
    p.StopsAsJoined T ∧
    (p.StopsInTime T ↔ p.tick ≤ p.stopTimeout) ∧
    (p.tick ≤ p.stopTimeout ↔
      s.render.tick ≤ s.render.stopTimeout ∨ s.render.tick ≤ 50 ∨ 1000 ≤ s.render.stopTimeout) :=
  ⟨⟨PumpSettings.le_of_joinsInTime s.tick_pumpSettings_pos,
      PumpSettings.joinsInTime_of_le s.tick_pumpSettings_pos⟩,
    PumpSettings.stopsAsJoined s.tick_pumpSettings_pos,
    ⟨PumpSettings.le_of_stopsInTime, PumpSettings.stopsInTime_of_le⟩, s.tick_le_stopTimeout_iff⟩

/-- A pump that ticks once in a second is not waited for long enough if the wait is the shortest that there
is: told to stop after its first millisecond, it goes on until the second is over. -/
theorem slow_pump_outlives_stop :
    let p := ({ render := { tick := 1000, stopTimeout := 50 } } : Settings).pumpSettings
    let run := (Pump.new "" {}).run ({ scale := .stretch } : Surface MemoryTarget) p.tick.toNat 1
      (fun _ => .idle) []
    run.exit = some .cancelled ∧ run.time = 1000 ∧ 1 + p.stopTimeout.toNat < run.time ∧
      run.joined 1 1 p.stopTimeout = .timedOut 50 ∧
      ¬ p.JoinsInTime MemoryTarget ∧ ¬ p.StopsInTime MemoryTarget := by
  intro p run
  have hslow : ¬ p.tick ≤ p.stopTimeout := by decide
  obtain ⟨hexit, htime⟩ : run.exit = some .cancelled ∧ run.time = 1000 :=
    PumpSettings.run_idle _ rfl _ (by decide)
  refine ⟨hexit, htime, ?_, ?_, ?_, fun h => hslow (PumpSettings.le_of_stopsInTime h)⟩
  · rw [htime]
    decide
  · unfold Run.joined
    rw [htime]
    rfl
  · exact fun h => hslow (PumpSettings.le_of_joinsInTime (by decide) h)

/-- The settings that a viewer has by itself leave a stop time enough. -/
example : ({} : Settings).pumpSettings.tick ≤ ({} : Settings).pumpSettings.stopTimeout := by
  decide

end DeskView
