import DeskView.Proofs.Pump.Clock

/-!
# When a loop ends

A loop that is told to stop does so at a wake-up, and it wakes up once in a period.  So it ends no later
than a period after the flag was cleared (`Pump.heeds_run`), whatever is scheduled beside it and even if
it is told at the very moment of a wake-up, too late for that one.  A loop that lost the link, or that a
tick brought down, has ended before it is told.

The ticks before it is told decide what ends it: that it was told, exactly if each of them lets it go on
(`Pump.exit_run`).

`Scene.upTo_flag` says what a wake-up finds; the induction over the wake-ups keeps that the next one
comes no later than a period after the flag is cleared (`Scene.heeds_loop`).  A loop that lost the link
made a tick that found it lost (`Scene.exists_tick_of_linkLost`).
-/

namespace DeskView

variable {T : Type}

namespace Scheduled

/-- Steps that tell nobody to stop do not matter to when the flag is cleared. -/
theorem clearing_append_of_not_isStop {deadline : Nat} {taken later : List (Scheduled T)}
    (h : ∀ step ∈ taken, step.isStop = false) :
    clearing deadline (taken ++ later) = clearing deadline later := by
  have hnone : taken.filter isStop = [] := by
    rw [List.filter_eq_nil_iff]
    intro step hmem
    rw [h step hmem]
    decide
  unfold clearing
  rw [List.filter_append, hnone, List.nil_append]

theorem clearing_of_not_isStop {deadline : Nat} {schedule : List (Scheduled T)}
    (h : ∀ step ∈ schedule, step.isStop = false) : clearing deadline schedule = deadline := by
  have hnone : clearing deadline (schedule ++ []) = clearing deadline [] :=
    clearing_append_of_not_isStop h
  rwa [List.append_nil] at hnone

end Scheduled

/-- A tick after which a loop does not go on found the link lost, or it panicked. -/
theorem Ticked.letsGoOn_eq_false {t : Ticked T} (h : t.letsGoOn = false) :
    (∃ e, t.outcome = .error (.linkLost e)) ∨ t.outcome = .panic := by
  unfold letsGoOn at h
  split at h
  · cases h
  · exact .inl ⟨_, ‹_›⟩
  · cases h
  · exact .inr ‹_›

/-- A loop that is told to stop at some moment heeds it: it ends at the next wake-up, a period later at the
latest, unless it ended for another reason before. -/
structure Run.Heeds (r : Run T) (told period : Nat) : Prop where
  time : r.time ≤ told + period
  cancelled : r.exit = some .cancelled → told ≤ r.time
  other : r.exit ≠ some .cancelled → r.time ≤ told

namespace Scene

variable [Drawable T]

/-- **What a wake-up finds**: the flag is still set, and it is cleared now or later; or it has been
cleared by now. -/
theorem upTo_flag (deadline now : Nat) {schedule : List (Scheduled T)}
    (hsorted : schedule.Pairwise (·.time ≤ ·.time)) {s : Scene T} (hs : s.pump.running = true) :
    ((upTo deadline now schedule s).1.pump.running = true ∧ now < deadline ∧
      now ≤ Scheduled.clearing deadline schedule ∧
      Scheduled.clearing deadline (upTo deadline now schedule s).2 =
        Scheduled.clearing deadline schedule ∧
      (upTo deadline now schedule s).2.Pairwise (·.time ≤ ·.time)) ∨
    ((upTo deadline now schedule s).1.pump.running = false ∧
      Scheduled.clearing deadline schedule ≤ now) := by
  obtain ⟨taken, hschedule, htaken, hlater, hscene⟩ := upTo_cases deadline now hsorted s
  have hflag : (upTo deadline now schedule s).1.pump.running =
      ((taken.all fun step => !(deadline < step.time : Bool) && !step.isStop) &&
        !(deadline ≤ now : Bool)) := by
    rw [hscene]
    unfold expire
    by_cases hpast : deadline ≤ now
    · simp [hpast, Pump.stop]
    · simp [hpast, running_settle, hs]
  by_cases hstops : ∃ step ∈ taken, step.isStop = true
  · -- it was told to stop before this wake-up
    obtain ⟨step, hmem, hstop⟩ := hstops
    refine .inr ⟨?_, ?_⟩
    · rw [hflag, Bool.and_eq_false_iff, List.all_eq_false]
      exact .inl ⟨step, hmem, by simp [hstop]⟩
    · rw [Scheduled.clearing_le_iff]
      exact .inr ⟨step, hschedule ▸ List.mem_append_left _ hmem, hstop, (htaken step hmem).le⟩
  · have hnone : ∀ step ∈ taken, step.isStop = false := fun step hmem => by
      simpa using fun hstop => hstops ⟨step, hmem, hstop⟩
    by_cases hpast : deadline ≤ now
    · exact .inr ⟨by simp [hflag, hpast], Scheduled.clearing_le_iff.mpr (.inl hpast)⟩
    · have hnow : now < deadline := not_le.mp hpast
      have hclearing : Scheduled.clearing deadline (upTo deadline now schedule s).2 =
          Scheduled.clearing deadline schedule := by
        conv_rhs => rw [hschedule, Scheduled.clearing_append_of_not_isStop hnone]
      refine .inl ⟨?_, hnow, ?_, hclearing, ?_⟩
      · rw [hflag]
        simp only [Bool.and_eq_true, List.all_eq_true, Bool.not_eq_true', decide_eq_false_iff_not]
        refine ⟨fun step hmem => ⟨?_, hnone step hmem⟩, hpast⟩
        have := htaken step hmem
        omega
      · rw [← hclearing, ← not_lt]
        intro hlt
        -- whatever is left comes no earlier than now
        rcases Scheduled.clearing_le_iff.mp (Nat.le_sub_one_of_lt hlt) with hdeadline |
          ⟨step, hmem, -, htime⟩
        · omega
        · have := hlater step hmem
          omega
      · rw [hschedule] at hsorted
        exact (List.pairwise_append.mp hsorted).2.1

variable {period deadline : Nat} {answers : Nat → Engine.Answers}

/-- A loop that a tick brings down ends at once, with no reason given. -/
theorem loop_of_panic (fuel k : Nat) {schedule : List (Scheduled T)} {s : Scene T}
    (h : (upTo deadline (k * period) schedule s).1.pump.running = true)
    (hpanic : ((upTo deadline (k * period) schedule s).1.tick (answers k)).1.outcome = .panic) :
    (loop period deadline answers (fuel + 1) k schedule s).exit = none ∧
      (loop period deadline answers (fuel + 1) k schedule s).time = k * period := by
  rw [loop]
  dsimp only
  rw [if_neg (by simp [h])]
  unfold Scene.tick at hpanic
  dsimp only at hpanic
  rw [hpanic]
  exact ⟨rfl, rfl⟩

/-- A loop that has wake-ups enough heeds that it is told to stop.  It is followed from one wake-up to the
next, which never comes later than a period after the flag is cleared. -/
theorem heeds_loop (fuel : Nat) {k : Nat} {schedule : List (Scheduled T)} {s : Scene T}
    (hsorted : schedule.Pairwise (·.time ≤ ·.time)) (hs : s.pump.running = true)
    (hfuel : deadline ≤ (k + fuel) * period)
    (hk : k * period ≤ Scheduled.clearing deadline schedule + period) :
    (loop period deadline answers (fuel + 1) k schedule s).Heeds
      (Scheduled.clearing deadline schedule) period := by
  induction fuel generalizing k schedule s with
  | zero =>
    rcases upTo_flag deadline (k * period) hsorted hs with
      ⟨-, hnow, -⟩ | ⟨hcleared, htold⟩
    · -- the deadline is over at the last wake-up that there is
      rw [Nat.add_zero] at hfuel
      omega
    · rw [loop_of_cleared 0 k hcleared]
      exact ⟨hk, fun _ => htold, fun hother => absurd rfl hother⟩
  | succ fuel ih =>
    rcases upTo_flag deadline (k * period) hsorted hs with
      ⟨hset, hnow, htold, hclearing, hlater⟩ | ⟨hcleared, htold⟩
    · cases hgo : ((upTo deadline (k * period) schedule s).1.tick (answers k)).1.letsGoOn with
      | true =>
        -- a tick leaves the flag alone, and this wake-up came no later than the flag is cleared
        obtain ⟨records, hloop⟩ := loop_of_goesOn (fuel + 1) k hset hgo
        have hkept : (((upTo deadline (k * period) schedule s).1.tick (answers k)).2.note
            (records.map .log)).pump.running = true :=
          (Pump.running_tick _ _ _).trans hset
        rw [hloop, ← hclearing]
        refine ih hlater hkept ?_ ?_
        · rwa [Nat.add_right_comm, Nat.add_assoc]
        · rw [hclearing, Nat.succ_mul]
          omega
      | false =>
        rcases Ticked.letsGoOn_eq_false hgo with ⟨e, hlost⟩ | hpanic
        · obtain ⟨record, hloop⟩ := loop_of_linkLost (fuel + 1) k hset hlost
          rw [hloop]
          exact ⟨hk, by simp, fun _ => htold⟩
        · obtain ⟨hexit, htime⟩ := loop_of_panic (fuel + 1) k hset hpanic
          exact ⟨by rw [htime]; exact hk, by simp [hexit], fun _ => by rw [htime]; exact htold⟩
    · rw [loop_of_cleared (fuel + 1) k hcleared]
      exact ⟨hk, fun _ => htold, fun hother => absurd rfl hother⟩

end Scene

/-! ### What ends a loop -/

namespace Scene

variable [Drawable T] {period deadline : Nat} {answers : Nat → Engine.Answers} {start : Playback T}

/-- **What ends a loop.**  If all ticks before the flag is cleared let the loop go on, it is told to stop at
the wake-up after them, and if one of them does not, it ends for another reason. -/
theorem exit_loop (hstart : start.pump.running = true) (n fuel : Nat) {k : Nat}
    {schedule : List (Scheduled T)} {s : Scene T} {history : List (Moment T)}
    (hs : s.Mirrors start history) (hrunning : s.pump.running = true)
    (hschedule : Scheduled.BetweenTicks period schedule)
    (hbefore : ∀ j < n, (k + j) * period < Scheduled.clearing deadline schedule)
    (hpast : Scheduled.clearing deadline schedule ≤ (k + n) * period) :
    let run := loop period deadline answers (fuel + 1 + n) k schedule s
    let ticks := (start.run history).ticks
      ((Playback.timeline period answers schedule k n).map Prod.snd)
    ((∀ t ∈ ticks, t.letsGoOn = true) → run.exit = some .cancelled ∧ run.time = (k + n) * period) ∧
    ((∃ t ∈ ticks, t.letsGoOn = false) → run.exit ≠ some .cancelled) := by
  induction n generalizing k schedule s history with
  | zero =>
    have hends : (loop period deadline answers (fuel + 1) k schedule s).Ends .cancelled (k * period)
        start _ := ends_of_cleared hs hschedule hpast
    refine ⟨fun _ => ⟨hends.exit, hends.time⟩, ?_⟩
    rw [Playback.timeline_zero, Playback.ticks_moments]
    simp
  | succ n ih =>
    have hnow : k * period < Scheduled.clearing deadline schedule := hbefore 0 (Nat.succ_pos n)
    obtain ⟨taken, later, hsplit, hrest, htaken, hlater, hclearing, hset, htick, hticked, hkept⟩ :=
      hs.wakeUp_of_lt hstart hrunning hschedule hnow (answers k)
    rw [← Nat.add_assoc fuel.succ n 1, hsplit, Playback.ticks_timeline_succ _ answers htaken hlater,
      ← Playback.run_append, ← Playback.run_append, ← List.append_assoc, ← hsplit]
    dsimp only
    cases hgo : ((upTo deadline (k * period) schedule s).1.tick (answers k)).1.letsGoOn with
    | true =>
      -- the loop goes on with the ticks that are left
      obtain ⟨records, hloop⟩ := loop_of_goesOn (fuel + 1 + n) k hset hgo
      have hlast : k + 1 + n = k + (n + 1) := by omega
      have hrest' := ih (k := k + 1) (hticked.log records) (by simpa [note] using hkept)
        (hsplit ▸ hschedule).right
        (fun j hj => by
          rw [hclearing, Nat.add_assoc, Nat.add_comm 1 j]
          exact hbefore (j + 1) (Nat.succ_lt_succ hj))
        (by rw [hclearing, hlast]; exact hpast)
      rw [hlast] at hrest'
      rw [hloop, hrest, List.forall_mem_cons, List.exists_mem_cons_iff, ← htick, hgo]
      simpa using hrest'
    | false =>
      refine ⟨fun hall => ?_, fun _ => ?_⟩
      · have hfirst := hall _ List.mem_cons_self
        rw [← htick, hgo] at hfirst
        cases hfirst
      · rcases Ticked.letsGoOn_eq_false hgo with ⟨e, hlost⟩ | hpanic
        · obtain ⟨record, hloop⟩ := loop_of_linkLost (fuel + 1 + n) k hset hlost
          rw [hloop]
          simp
        · rw [(loop_of_panic (fuel + 1 + n) k hset hpanic).1]
          simp

end Scene

/-! ### The tick that found the link lost -/

namespace Scene

/-- The scene after things were done beside the pump: its frame buffer was left alone. -/
structure Continues (s s' : Scene T) : Prop where
  frames : s'.pump.frames = s.pump.frames
  effects : s.effects <+: s'.effects

theorem Continues.refl (s : Scene T) : s.Continues s := ⟨rfl, List.prefix_refl _⟩

theorem Continues.trans {s s' s'' : Scene T} (h : s.Continues s') (h' : s'.Continues s'') :
    s.Continues s'' :=
  ⟨h'.frames.trans h.frames, h.effects.trans h'.effects⟩

theorem continues_expire (s : Scene T) (isPast : Bool) : s.Continues (s.expire isPast) := by
  unfold expire
  split
  · exact ⟨rfl, List.prefix_refl _⟩
  · exact .refl s

variable [Drawable T] {period deadline : Nat} {answers : Nat → Engine.Answers}

theorem continues_act (s : Scene T) (action : Action T) : s.Continues (s.act action) := by
  cases action with
  | surface event => exact ⟨rfl, List.prefix_append _ _⟩
  | present image => exact ⟨rfl, List.prefix_append _ _⟩
  | stop => exact ⟨rfl, List.prefix_refl _⟩
  | look => exact .refl s

theorem continues_carryOut (s : Scene T) (deadline : Nat) (step : Scheduled T) :
    s.Continues (s.carryOut deadline step) := by
  obtain ⟨hframes, heffects⟩ :=
    (s.continues_expire (deadline < step.time)).trans (continues_act _ step.action)
  exact ⟨hframes, heffects⟩

theorem continues_settle (s : Scene T) (deadline : Nat) (steps : List (Scheduled T)) :
    s.Continues (settle deadline steps s) := by
  induction steps generalizing s with
  | nil => exact .refl s
  | cons step rest ih => exact (s.continues_carryOut deadline step).trans (ih _)

theorem continues_upTo (s : Scene T) (deadline now : Nat) (schedule : List (Scheduled T)) :
    s.Continues (upTo deadline now schedule s).1 := by
  induction schedule generalizing s with
  | nil => exact s.continues_expire _
  | cons step rest ih =>
    unfold upTo
    split
    · exact (s.continues_carryOut deadline step).trans (ih _)
    · exact s.continues_expire _

/-- A loop that ended because the link was lost made a tick that found it lost; what had been done after
that tick begins what was done in all. -/
theorem exists_tick_of_linkLost (fuel k : Nat) {schedule : List (Scheduled T)} {s : Scene T}
    (hs : s.pump.frames.Sound) {e : EngineError}
    (hlost : (loop period deadline answers fuel k schedule s).exit = some (.linkLost e)) :
    ∃ (j : Nat) (woken : Scene T), woken.pump.frames.Sound ∧
      (woken.tick (answers j)).1.outcome = .error (.linkLost e) ∧
      (woken.tick (answers j)).2.effects <+:
        (loop period deadline answers fuel k schedule s).scene.effects := by
  -- on the wake-ups: the loop ends at the first of them, or at one of those that come after it
  induction fuel generalizing k schedule s with
  | zero => cases hlost
  | succ fuel ih =>
    have hwoken : (upTo deadline (k * period) schedule s).1.pump.frames.Sound :=
      (s.continues_upTo deadline (k * period) schedule).frames ▸ hs
    cases hset : (upTo deadline (k * period) schedule s).1.pump.running with
    | false =>
      rw [loop_of_cleared fuel k hset] at hlost
      cases hlost
    | true =>
      cases hgo : ((upTo deadline (k * period) schedule s).1.tick (answers k)).1.letsGoOn with
      | true =>
        obtain ⟨records, hloop⟩ := loop_of_goesOn fuel k hset hgo
        rw [hloop] at hlost ⊢
        exact ih (k + 1) (Pump.sound_frames_tick _ _ hwoken).1 hlost
      | false =>
        rcases Ticked.letsGoOn_eq_false hgo with ⟨e', htick⟩ | hpanic
        · obtain ⟨record, hloop⟩ := loop_of_linkLost fuel k hset htick
          rw [hloop] at hlost ⊢
          cases hlost
          refine ⟨k, _, hwoken, htick, .trans ?_ (continues_settle _ deadline _).effects⟩
          exact List.prefix_append _ _
        · rw [(loop_of_panic fuel k hset hpanic).1] at hlost
          cases hlost

end Scene

/-- **A pump on a clock heeds that it is told to stop.** -/
theorem Pump.heeds_run [Drawable T] (p : Pump) (hrunning : p.running = true) (surface : Surface T)
    {period : Nat} (hperiod : 0 < period) (deadline : Nat) (answers : Nat → Engine.Answers)
    {schedule : List (Scheduled T)} (hsorted : schedule.Pairwise (·.time ≤ ·.time)) :
    (p.run surface period deadline answers schedule).Heeds (Scheduled.clearing deadline schedule)
      period := by
  refine Scene.heeds_loop (deadline / period + 1) hsorted hrunning ?_ (by omega)
  rw [Nat.zero_add, Nat.mul_comm]
  exact (Nat.lt_mul_div_succ deadline hperiod).le

/-- **What ends a pump on a clock.**  If all ticks before it is told to stop let it go on, it ends at the
first wake-up from then on because it was told, and if one of them does not, for another reason. -/
theorem Pump.exit_run [Drawable T] (p : Pump) (hrunning : p.running = true) (surface : Surface T)
    {period : Nat} (hperiod : 0 < period) (deadline : Nat) (answers : Nat → Engine.Answers)
    {schedule : List (Scheduled T)} (hschedule : Scheduled.BetweenTicks period schedule) :
    let told := Scheduled.clearing deadline schedule
    let run := p.run surface period deadline answers schedule
    let ticks := Playback.ticks ⟨p, surface⟩
      ((Playback.timeline period answers schedule 0 (told ⌈/⌉ period)).map Prod.snd)
    ((∀ t ∈ ticks, t.letsGoOn = true) →
      run.exit = some .cancelled ∧ run.time = (told ⌈/⌉ period) * period) ∧
    ((∃ t ∈ ticks, t.letsGoOn = false) → run.exit ≠ some .cancelled) := by
  intro told run ticks
  have hfirst : Scene.Mirrors { pump := p, surface, effects := [.log p.logRunning] } ⟨p, surface⟩ [] :=
    ⟨rfl, rfl, rfl, rfl⟩
  have htold : told ≤ deadline := Scheduled.clearing_le_iff.mpr (.inl le_rfl)
  obtain ⟨fuel, hwakeUps⟩ : ∃ fuel, Scene.wakeUps period deadline = fuel + 1 + told ⌈/⌉ period :=
    ⟨Scene.wakeUps period deadline - 1 - told ⌈/⌉ period, by
      have := Scene.ceilDiv_lt_wakeUps hperiod htold
      omega⟩
  have hbefore : ∀ j < told ⌈/⌉ period, (0 + j) * period < told := by
    intro j hj
    rw [Nat.zero_add]
    exact (Scene.lt_ceilDiv_iff hperiod).mp hj
  have hpast : told ≤ (0 + told ⌈/⌉ period) * period := by
    rw [Nat.zero_add]
    exact Scene.le_ceilDiv_mul hperiod told
  have hexit := @Scene.exit_loop T _ period deadline answers ⟨p, surface⟩ hrunning (told ⌈/⌉ period)
    fuel 0 schedule _ [] hfirst hrunning hschedule hbefore hpast
  rw [← hwakeUps, Nat.zero_add] at hexit
  exact hexit

end DeskView
