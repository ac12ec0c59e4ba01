import DeskView.Proofs.Pump.Exit
import DeskView.Proofs.Session.Fresh
import DeskView.Proofs.Session.Silence

/-!
# A stop on the clock

A controller has no clock: its threads wake up when an event says so, and a stop is told how long it is
until the next tick of its pump is due.  Here both are read off a pump that runs on a clock beside a
schedule and is told to stop at some moment.

A thread that is woken for the ticks before that moment, with the surface events of the schedule between
them, goes where the pump goes by hand, unless one of the ticks ends its loop
(`Controller.happenAll_history`); of the run on the clock `Pump.exit_run` says the same.  So a stop answers
what the wait for the run comes to (`Controller.reply_stop_eq_joined`).  A pump that has yet to tick is
never waited for in vain (`Controller.reply_stop_of_start`).
-/

namespace DeskView

variable {T : Type}

/-- What it comes to when a pump that was told to stop at the moment `told` is waited for, on a clock with
`unit` units to a millisecond. -/
def Run.joined (r : Run T) (told unit : Nat) (timeout : UInt64) : Wait :=
  if told + timeout.toNat * unit < r.time then .timedOut timeout
  else
    match r.exit with
    | some exit => .exited exit
    | none => .panicked

theorem Run.joined_of_time_le {r : Run T} {told unit : Nat} {timeout : UInt64} {exit : LoopEnd}
    (htime : r.time ≤ told + timeout.toNat * unit) (hexit : r.exit = some exit) :
    r.joined told unit timeout = .exited exit := by
  unfold joined
  rw [if_neg (not_lt.mpr htime), hexit]

/-- A stop is answered the same whatever ended the loop, if it did in time. -/
theorem Run.stopResult_joined (r : Run T) (told unit : Nat) (timeout : UInt64) :
    Controller.stopResult (r.joined told unit timeout) =
      if told + timeout.toNat * unit < r.time then .terminationTimeout timeout else .stopped := by
  unfold joined
  split
  · rfl
  · split <;> rfl

/-- The event that lets this happen to a thread. -/
def Moment.event (k : Nat) : Moment T → Event T
  | .tick a => .wake k a
  | .surface event => .surface event

/-- The ticks by hand are given the answers of their places. -/
theorem Playback.exists_of_tick_mem_timeline {period : Nat} {answers : Nat → Engine.Answers}
    {schedule : List (Scheduled T)} {first n : Nat} {a : Engine.Answers}
    (h : .tick a ∈ (timeline period answers schedule first n).map Prod.snd) : ∃ k, a = answers k := by
  obtain ⟨⟨time, m⟩, hmem, hm⟩ := List.mem_map.mp h
  cases hm
  rcases List.mem_merge.mp hmem with htick | hmoment
  · obtain ⟨k, -, heq⟩ := List.mem_map.mp htick
    cases heq
    exact ⟨k, rfl⟩
  · obtain ⟨step, -, hstep⟩ := List.mem_filterMap.mp hmoment
    have := (Scheduled.of_moment?_eq_some hstep).2
    cases this

namespace Thread

/-- After a tick that lets its loop go on, a thread that was not told to stop waits for the next. -/
theorem after_of_letsGoOn (t : Thread) {ticked : Ticked T} (h : ticked.letsGoOn = true)
    (hrunning : ticked.pump.running = true) :
    t.after ticked = { t with pump := ticked.pump, phase := .waiting } := by
  unfold Ticked.letsGoOn at h
  unfold after
  dsimp only
  rw [if_pos hrunning]
  cases houtcome : ticked.outcome with
  | panic =>
    rw [houtcome] at h
    cases h
  | ok result => rfl
  | error e =>
    cases e with
    | linkLost e =>
      rw [houtcome] at h
      cases h
    | _ => rfl

/-- A thread that has made all ticks before some moment sleeps from that moment until the next tick. -/
theorem sleep_of_ticks {t : Thread} {p : PumpSettings} (hperiod : 0 < p.period) {moment : Nat}
    (hticks : t.pump.ticks = moment ⌈/⌉ p.period) :
    t.sleep p ((moment ⌈/⌉ p.period) * p.period - moment) =
      (moment ⌈/⌉ p.period) * p.period - moment := by
  unfold sleep
  rw [hticks]
  split
  · rename_i hnone
    rw [hnone, Nat.zero_mul, Nat.zero_sub]
  · -- the last tick was made before the moment
    rename_i hsome
    have hlast : (moment ⌈/⌉ p.period - 1) * p.period < moment :=
      (Scene.lt_ceilDiv_iff hperiod).mp (Nat.sub_one_lt hsome)
    rw [Nat.sub_one_mul] at hlast
    exact min_eq_left (by omega)

/-- After a tick that ends its loop, a thread has ended. -/
theorem hasEnded_after (t : Thread) {ticked : Ticked T} (h : ticked.letsGoOn = false) :
    (t.after ticked).hasEnded = true := by
  unfold after
  rcases Ticked.letsGoOn_eq_false h with ⟨e, houtcome⟩ | houtcome <;> rw [houtcome] <;> rfl

end Thread

namespace Controller

variable [Drawable T]

/-- A tick that does not hang is made at once. -/
theorem happen_wake_of_prompt {c : Controller T} {k : Nat} {t : Thread} (ht : c.threads[k]? = some t)
    (hphase : t.phase = .waiting) (hrunning : t.pump.running = true) {a : Engine.Answers}
    (hprompt : a.fetch.blocks = false) :
    (c.happen (.wake k a)).1 =
      { c with surface := (t.pump.tick c.surface a).surface }.move k
        (t.after (t.pump.tick c.surface a)) := by
  obtain ⟨records, hafter⟩ := afterTick_eq t (t.pump.tick c.surface a)
  rw [happen_wake ht hphase, wake_eq, if_pos hrunning, t.pump.hangs_of_not_blocks hprompt, hafter]
  rfl

/-- **A thread goes where its pump goes by hand**, as long as the ticks let its loop go on; if one does
not, the thread ends. -/
theorem happenAll_history {c : Controller T} {k : Nat} {t : Thread} (ht : c.threads[k]? = some t)
    (hphase : t.phase = .waiting) (hrunning : t.pump.running = true) {history : List (Moment T)}
    (hprompt : ∀ a, .tick a ∈ history → a.fetch.blocks = false) :
    let start : Playback T := ⟨t.pump, c.surface⟩
    let after := (c.happenAll (history.map (Moment.event k))).1
    ((∀ ticked ∈ start.ticks history, ticked.letsGoOn = true) →
      after.threads[k]? = some { t with pump := (start.run history).pump }) ∧
    ((∃ ticked ∈ start.ticks history, ticked.letsGoOn = false) → after.hasEnded k = true) := by
  induction history generalizing c t with
  | nil => exact ⟨fun _ => ht, by simp [Playback.ticks]⟩
  | cons m rest ih =>
    have hprompt' : ∀ a, .tick a ∈ rest → a.fetch.blocks = false :=
      fun a hmem => hprompt a (List.mem_cons_of_mem m hmem)
    cases m with
    | surface event =>
      exact ih (c := { c with surface := c.surface.apply event }) ht hphase hrunning hprompt'
    | tick a =>
      have hnext := happen_wake_of_prompt ht hphase hrunning (hprompt a List.mem_cons_self)
      have hkept : (t.pump.tick c.surface a).pump.running = true :=
        (Pump.running_tick t.pump c.surface a).trans hrunning
      intro start after
      have hafter : after = ((c.happen (.wake k a)).1.happenAll (rest.map (Moment.event k))).1 := rfl
      have hrun : start.run (.tick a :: rest) =
          Playback.run ⟨(t.pump.tick c.surface a).pump, (t.pump.tick c.surface a).surface⟩ rest := rfl
      have hticks : start.ticks (.tick a :: rest) = t.pump.tick c.surface a ::
          Playback.ticks ⟨(t.pump.tick c.surface a).pump, (t.pump.tick c.surface a).surface⟩ rest := rfl
      rw [hafter, hnext, hrun, hticks, List.forall_mem_cons, List.exists_mem_cons_iff]
      generalize t.pump.tick c.surface a = ticked at hkept ⊢
      cases hgo : ticked.letsGoOn with
      | true =>
        -- the thread waits again, with the pump that the tick left
        rw [t.after_of_letsGoOn hgo hkept, move_of_not_lostLink _ _ rfl]
        obtain ⟨hgoesOn, hends⟩ := ih
          (c := { c with surface := ticked.surface }.setThread k
            { t with pump := ticked.pump, phase := .waiting })
          ((getElem?_setThread (c := { c with surface := ticked.surface }) ht _ k).trans (if_pos rfl))
          rfl hkept hprompt'
        refine ⟨fun hall => ?_, fun hany => hends (hany.resolve_left (by decide))⟩
        rw [hgoesOn hall.2, hphase]
        rfl
      | false =>
        refine ⟨fun hall => absurd hall.1 (by decide), fun _ => ?_⟩
        refine ((stepwise_silenced k).happenAll _ _).hasEnded ?_
        unfold hasEnded
        rw [getElem?_move_self (c := { c with surface := ticked.surface }) ht]
        exact t.hasEnded_after hgo

/-! ### What a stop answers -/

theorem reply_stop_of_thread {c : Controller T} {session : Session} {k : Nat}
    (hsession : c.session = some session) (hk : session.thread = some k) (due : Nat) :
    (c.stop { due }).reply = stopResult (c.closing.await k [] due).reply := by
  obtain ⟨warning, hstop⟩ := stop_eq hsession { due }
  rw [hstop]
  unfold awaitPump
  rw [hk]
  rfl

/-- The pump of a session need not be waited for when it has ended. -/
theorem reply_stop_of_hasEnded {c : Controller T} {session : Session} {k : Nat}
    (hsession : c.session = some session) (hk : session.thread = some k)
    (hended : c.hasEnded k = true) (due : Nat) : (c.stop { due }).reply = .stopped := by
  unfold hasEnded at hended
  rw [Option.any_eq_true] at hended
  obtain ⟨t, ht, hended⟩ := hended
  rw [reply_stop_of_thread hsession hk]
  unfold await
  dsimp only [happenAll]
  rw [getElem?_tell_self (c := c.closing) ht]
  unfold Thread.hasEnded at hended
  cases hphase : t.phase with
  | exited exit => rfl
  | panicked => rfl
  | waiting =>
    rw [hphase] at hended
    cases hended
  | fetching fetch =>
    rw [hphase] at hended
    cases hended

/-- The pump of a session that is between two ticks is waited for in vain if it sleeps for too long. -/
theorem reply_stop_of_waiting {c : Controller T} {session : Session} {k : Nat} {t : Thread}
    (hsession : c.session = some session) (hk : session.thread = some k)
    (ht : c.threads[k]? = some t) (hphase : t.phase = .waiting) (due : Nat) :
    (c.stop { due }).reply =
      if c.config.patience < t.sleep c.config due then .terminationTimeout c.config.stopTimeout
      else .stopped := by
  have hconfig : (c.closing.tell k).config = c.config :=
    (stable_config c.config).told (c := c.closing) rfl k
  rw [reply_stop_of_thread hsession hk]
  unfold await
  dsimp only [happenAll]
  rw [getElem?_tell_self (c := c.closing) ht]
  dsimp only
  rw [hphase, hconfig]
  dsimp only
  rw [show Thread.sleep { t with pump := t.pump.stop, phase := .waiting } = t.sleep from rfl]
  split <;> rfl

/-- A session that is stopped before its pump has ticked is never waited for in vain, however long a tick
takes: the pump looks at its flag before the first tick, and that is due at once. -/
theorem reply_stop_of_start {c : Controller T} {id : String} {credentials : Credentials}
    {mode : SessionMode} {replies : Replies T}
    (hok : (c.start id credentials mode replies).reply = .ok ()) (due : Nat) :
    ((c.start id credentials mode replies).controller.stop { due }).reply = .stopped := by
  obtain ⟨hsession, t, ht, hpump, hphase⟩ := start_of_ok hok
  have hsleep : t.sleep (c.start id credentials mode replies).controller.config due = 0 := by
    unfold Thread.sleep
    rw [hpump]
    rfl
  rw [reply_stop_of_waiting hsession rfl ht hphase, hsleep, if_neg (Nat.not_lt_zero _)]

/-- **A stop answers as the wait on the clock comes out.**  Take a session whose pump has yet to make its
first tick, and let it run on a clock beside a schedule of surface events until it is told to stop.  If the
controller has seen the same ticks and events and is then stopped, as long before the next tick is due as
it is on the clock, then its answer is what the wait for that run comes to. -/
theorem reply_stop_eq_joined {c : Controller T} {session : Session} {k : Nat} {t : Thread}
    (hsession : c.session = some session) (hk : session.thread = some k)
    (ht : c.threads[k]? = some t) (hphase : t.phase = .waiting) (hrunning : t.pump.running = true)
    (hticks : t.pump.ticks = 0) (hperiod : 0 < c.config.period) {answers : Nat → Engine.Answers}
    (hprompt : ∀ j, (answers j).fetch.blocks = false) {schedule : List (Scheduled T)}
    (hschedule : Scheduled.BetweenTicks c.config.period schedule)
    (hstops : ∀ step ∈ schedule, step.isStop = false) (told : Nat) :
    let next := told ⌈/⌉ c.config.period
    let history := (Playback.timeline c.config.period answers schedule 0 next).map Prod.snd
    let run := t.pump.run c.surface c.config.period told answers schedule
    ((c.happenAll (history.map (Moment.event k))).1.stop
        { due := next * c.config.period - told }).reply =
      stopResult (run.joined told nanoseconds c.config.stopTimeout) := by
  have hexit := t.pump.exit_run hrunning c.surface hperiod told answers hschedule
  have hheeds := t.pump.heeds_run hrunning c.surface hperiod told answers hschedule.sorted
  rw [Scheduled.clearing_of_not_isStop hstops] at hexit hheeds
  dsimp only at hexit ⊢
  -- from here on what counts of the run and of the history is what has just been said of them
  generalize t.pump.run c.surface c.config.period told answers schedule = run at hexit hheeds ⊢
  have hlength := Playback.length_ticks_timeline ⟨t.pump, c.surface⟩ c.config.period answers schedule 0
    (told ⌈/⌉ c.config.period)
  have hanswers : ∀ a, .tick a ∈ (Playback.timeline c.config.period answers schedule 0
      (told ⌈/⌉ c.config.period)).map Prod.snd → a.fetch.blocks = false := by
    intro a hmem
    obtain ⟨j, rfl⟩ := Playback.exists_of_tick_mem_timeline hmem
    exact hprompt j
  generalize (Playback.timeline c.config.period answers schedule 0
    (told ⌈/⌉ c.config.period)).map Prod.snd = history at hexit hlength hanswers ⊢
  obtain ⟨hgoesOn, hends⟩ := happenAll_history ht hphase hrunning hanswers
  have hsession' := (stable_session (some session)).happenAll hsession (history.map (Moment.event k))
  have hconfig := (stable_config c.config).happenAll rfl (history.map (Moment.event k))
  rw [Run.stopResult_joined]
  by_cases hall : ∀ ticked ∈ Playback.ticks ⟨t.pump, c.surface⟩ history, ticked.letsGoOn = true
  · -- the thread waits for the tick at which the run ends
    have hticked : (Playback.run ⟨t.pump, c.surface⟩ history).pump.ticks =
        told ⌈/⌉ c.config.period := by
      rw [Playback.ticks_pump_run, hticks, hlength, Nat.zero_add]
    rw [reply_stop_of_waiting hsession' hk (hgoesOn hall) hphase, hconfig,
      Thread.sleep_of_ticks hperiod hticked, (hexit.1 hall).2]
    have hnext := Scene.le_ceilDiv_mul hperiod told
    refine if_congr ?_ rfl rfl
    unfold PumpSettings.patience
    omega
  · -- the thread has ended, and so had the run when it was told
    have hany : ∃ ticked ∈ Playback.ticks ⟨t.pump, c.surface⟩ history, ticked.letsGoOn = false := by
      simpa using hall
    have htime : run.time ≤ told := hheeds.other (hexit.2 hany)
    rw [reply_stop_of_hasEnded hsession' hk (hends hany), if_neg (by omega)]

end Controller

end DeskView
