import DeskView.Proofs.Pump.Freshness
import DeskView.Pump.Loop
import Mathlib.Algebra.Order.Floor.Div

/-!
# The loop on a clock is a loop of ticks

A loop wakes up at the multiples of its period, and what is scheduled beside it happens between.  By
hand the same can be done without a clock: `Playback.timeline` merges the ticks and the surface events of
a schedule in order of time, and `Playback.run` and `Playback.ticks` say what comes of them.

`Scene.Mirrors` relates the two: a scene mirrors a history by hand if pump, surface and calls agree, the
running flag apart.  Every scheduled action keeps it, and so does every tick while the flag is set
(`Scene.Mirrors.wakeUp_of_lt`), so the loop can be followed through any number of wake-ups
(`Scene.loop_advance`) up to the one at which it ends (`Scene.ends_of_cleared`,
`Scene.ends_of_linkLost`).  When the flag is cleared for the first time is read
off the schedule (`Scheduled.clearing`), and `Scene.running_upTo` says that the scene knows.
-/

namespace DeskView

variable {T : Type}

namespace Scheduled

/-- Whether somebody else presents an image. -/
def isPresent (step : Scheduled T) : Bool :=
  match step.action with
  | .present _ => true
  | .surface _ => false
  | .stop => false
  | .look => false

/-- Whether the pump is told to stop. -/
def isStop (step : Scheduled T) : Bool :=
  match step.action with
  | .stop => true
  | .surface _ => false
  | .present _ => false
  | .look => false

/-- The surface event and its time, if the step is one. -/
def moment? (step : Scheduled T) : Option (Nat × Moment T) :=
  match step.action with
  | .surface event => some (step.time, .surface event)
  | .present _ => none
  | .stop => none
  | .look => none

/-- The surface events of a schedule, each with its time. -/
def moments (schedule : List (Scheduled T)) : List (Nat × Moment T) := schedule.filterMap moment?

/-- When the running flag is cleared for the first time: at the deadline, unless the pump is told to
stop before. -/
def clearing (deadline : Nat) (schedule : List (Scheduled T)) : Nat :=
  ((schedule.filter isStop).map time).foldr min deadline

/-- A schedule that a pump can be followed through by hand: in order of time, nothing at the moment of a
tick, and nobody else presents an image. -/
structure BetweenTicks (period : Nat) (schedule : List (Scheduled T)) : Prop where
  sorted : schedule.Pairwise (·.time ≤ ·.time)
  between : ∀ step ∈ schedule, ¬ period ∣ step.time
  alone : ∀ step ∈ schedule, step.isPresent = false

theorem of_moment?_eq_some {step : Scheduled T} {m : Nat × Moment T} (h : step.moment? = some m) :
    m.1 = step.time ∧ m.2.event?.isNone = false := by
  obtain ⟨time, action⟩ := step
  cases action <;> cases h
  exact ⟨rfl, rfl⟩

@[simp]
theorem moments_append (xs ys : List (Scheduled T)) : moments (xs ++ ys) = moments xs ++ moments ys :=
  List.filterMap_append

theorem clearing_le_iff {deadline now : Nat} {schedule : List (Scheduled T)} :
    clearing deadline schedule ≤ now ↔
      deadline ≤ now ∨ ∃ step ∈ schedule, step.isStop = true ∧ step.time ≤ now := by
  induction schedule with
  | nil => simp [clearing]
  | cons step rest ih =>
    unfold clearing at ih ⊢
    cases hstop : step.isStop with
    | true =>
      rw [List.filter_cons_of_pos hstop, List.map_cons, List.foldr_cons, min_le_iff, ih]
      simp [hstop]
      tauto
    | false =>
      rw [List.filter_cons_of_neg (by simp [hstop]), ih]
      simp [hstop]

/-- What happens before the flag is cleared does not tell when it is. -/
theorem clearing_append {deadline : Nat} {taken later : List (Scheduled T)}
    (h : ∀ step ∈ taken, step.time < clearing deadline (taken ++ later)) :
    clearing deadline later = clearing deadline (taken ++ later) := by
  refine eq_of_forall_ge_iff fun now => ?_
  rw [clearing_le_iff, clearing_le_iff]
  refine or_congr_right ⟨?_, ?_⟩
  · rintro ⟨step, hmem, hstep⟩
    exact ⟨step, List.mem_append_right _ hmem, hstep⟩
  · rintro ⟨step, hmem, hstop, hnow⟩
    rcases List.mem_append.mp hmem with hmem' | hmem'
    · refine absurd (h step hmem') (not_lt.mpr ?_)
      exact clearing_le_iff.mpr (.inr ⟨step, hmem, hstop, Nat.le_refl step.time⟩)
    · exact ⟨step, hmem', hstop, hnow⟩

theorem betweenTicks_nil (period : Nat) : BetweenTicks period ([] : List (Scheduled T)) :=
  ⟨.nil, by simp, by simp⟩

theorem BetweenTicks.right {period : Nat} {taken later : List (Scheduled T)}
    (h : BetweenTicks period (taken ++ later)) : BetweenTicks period later :=
  ⟨(List.pairwise_append.mp h.sorted).2.1,
    fun step hmem => h.between step (List.mem_append_right _ hmem),
    fun step hmem => h.alone step (List.mem_append_right _ hmem)⟩

end Scheduled

/-- Whether a loop goes on after the tick: unless it panicked or found the link lost. -/
def Ticked.letsGoOn (t : Ticked T) : Bool :=
  match t.outcome with
  | .ok _ => true
  | .error (.linkLost _) => false
  | .error _ => true
  | .panic => false

namespace Playback

/-- What happens to a pump by hand: ticks at `first * period`, and then one every period,
`n` of them, and the surface events of a schedule between them in order of time. -/
def timeline (period : Nat) (answers : Nat → Engine.Answers) (schedule : List (Scheduled T))
    (first n : Nat) : List (Nat × Moment T) :=
  List.merge ((List.range' first n).map fun k => (k * period, .tick (answers k)))
    (Scheduled.moments schedule) (fun a b => a.1 ≤ b.1)

theorem merge_cons_of_le {α : Type} {le : α → α → Bool} {a : α} {xs ys : List α}
    (h : ∀ y ∈ ys, le a y = true) : List.merge (a :: xs) ys le = a :: List.merge xs ys le := by
  cases ys with
  | nil => simp
  | cons y ys => rw [List.cons_merge_cons, if_pos (h y List.mem_cons_self)]

theorem merge_append_of_not_le {α : Type} {le : α → α → Bool} {a : α} {xs ys zs : List α}
    (h : ∀ y ∈ ys, le a y = false) :
    List.merge (a :: xs) (ys ++ zs) le = ys ++ List.merge (a :: xs) zs le := by
  induction ys with
  | nil => rfl
  | cons y ys ih =>
    rw [List.cons_append, List.cons_merge_cons, if_neg (by simp [h y List.mem_cons_self]),
      ih fun y hy => h y (List.mem_cons_of_mem _ hy)]
    rfl

/-- The next tick comes after what is scheduled before it, and before the rest. -/
theorem timeline_succ (period : Nat) (answers : Nat → Engine.Answers)
    {taken rest : List (Scheduled T)} {k : Nat} (htaken : ∀ step ∈ taken, step.time < k * period)
    (hrest : ∀ step ∈ rest, k * period ≤ step.time) (n : Nat) :
    timeline period answers (taken ++ rest) k (n + 1) = Scheduled.moments taken ++
      (k * period, .tick (answers k)) :: timeline period answers rest (k + 1) n := by
  have htime : ∀ schedule : List (Scheduled T), ∀ m ∈ Scheduled.moments schedule,
      ∃ step ∈ schedule, m.1 = step.time := by
    intro schedule m hm
    obtain ⟨step, hstep, hmoment⟩ := List.mem_filterMap.mp hm
    exact ⟨step, hstep, (Scheduled.of_moment?_eq_some hmoment).1⟩
  unfold timeline
  rw [List.range'_succ, List.map_cons, Scheduled.moments_append, merge_append_of_not_le,
    merge_cons_of_le]
  · intro m hm
    obtain ⟨step, hstep, hm⟩ := htime rest m hm
    simpa [hm] using hrest step hstep
  · intro m hm
    obtain ⟨step, hstep, hm⟩ := htime taken m hm
    simpa [hm] using htaken step hstep

theorem timeline_zero (period : Nat) (answers : Nat → Engine.Answers)
    (schedule : List (Scheduled T)) (k : Nat) :
    timeline period answers schedule k 0 = Scheduled.moments schedule := by
  unfold timeline
  rw [List.range'_zero, List.map_nil, List.nil_merge]

/-- The first tick, with nothing beside it. -/
theorem timeline_one (period : Nat) (answers : Nat → Engine.Answers) :
    (timeline period answers ([] : List (Scheduled T)) 0 1).map Prod.snd = [.tick (answers 0)] := by
  unfold timeline
  rw [show Scheduled.moments ([] : List (Scheduled T)) = [] from rfl, List.merge_right]
  rfl

/-- By hand everything is done in order of time. -/
theorem pairwise_timeline (period : Nat) (answers : Nat → Engine.Answers)
    {schedule : List (Scheduled T)} (hsorted : schedule.Pairwise (·.time ≤ ·.time)) (k n : Nat) :
    (timeline period answers schedule k n).Pairwise (·.1 ≤ ·.1) := by
  have hticks : ((List.range' k n).map fun k =>
      ((k * period, .tick (answers k)) : Nat × Moment T)).Pairwise (·.1 ≤ ·.1) :=
    List.pairwise_le_range'.map _ fun _ _ hle => Nat.mul_le_mul_right period hle
  have hmoments : (Scheduled.moments schedule).Pairwise (·.1 ≤ ·.1) := by
    refine hsorted.filterMap _ fun step step' hle m hm m' hm' => ?_
    rw [(Scheduled.of_moment?_eq_some hm).1, (Scheduled.of_moment?_eq_some hm').1]
    exact hle
  have hmerged : (timeline period answers schedule k n).Pairwise (decide <| ·.1 ≤ ·.1) := by
    refine List.pairwise_merge ?_ ?_ _ _ (hticks.imp decide_eq_true) (hmoments.imp decide_eq_true)
    · intro a b c hab hbc
      exact decide_eq_true (Nat.le_trans (of_decide_eq_true hab) (of_decide_eq_true hbc))
    · intro a b
      simpa using Nat.le_total a.1 b.1
  exact hmerged.imp of_decide_eq_true

theorem length_ticks [Drawable T] (p : Playback T) (history : List (Moment T)) :
    (p.ticks history).length = history.countP (·.event?.isNone) := by
  induction history generalizing p with
  | nil => rfl
  | cons first rest ih =>
    cases first with
    | tick a =>
      rw [List.countP_cons_of_pos rfl, ← ih]
      rfl
    | surface event =>
      rw [List.countP_cons_of_neg (by simp [Moment.event?]), ← ih]
      rfl

/-- By hand as many ticks are made as were asked for. -/
theorem length_ticks_timeline [Drawable T] (p : Playback T) (period : Nat)
    (answers : Nat → Engine.Answers) (schedule : List (Scheduled T)) (k n : Nat) :
    (p.ticks ((timeline period answers schedule k n).map Prod.snd)).length = n := by
  have htick : ((List.range' k n).map fun k =>
      ((k * period, .tick (answers k)) : Nat × Moment T)).countP (·.2.event?.isNone) = n := by
    rw [List.countP_map]
    exact (List.countP_eq_length.mpr fun _ _ => rfl).trans List.length_range'
  have hmoment : (Scheduled.moments schedule).countP (·.2.event?.isNone) = 0 := by
    rw [List.countP_eq_zero]
    intro m hm
    obtain ⟨step, -, hstep⟩ := List.mem_filterMap.mp hm
    simp [(Scheduled.of_moment?_eq_some hstep).2]
  calc (p.ticks ((timeline period answers schedule k n).map Prod.snd)).length
      = (timeline period answers schedule k n).countP (·.2.event?.isNone) := by
        rw [length_ticks, List.countP_map]
        rfl
    _ = n + 0 := by
        unfold timeline
        rw [(List.merge_perm_append _).countP_eq, List.countP_append, htick, hmoment]

/-- The surface events of a schedule are no ticks. -/
theorem ticks_moments [Drawable T] (p : Playback T) (schedule : List (Scheduled T)) :
    p.ticks ((Scheduled.moments schedule).map Prod.snd) = [] := by
  induction schedule generalizing p with
  | nil => rfl
  | cons step rest ih =>
    obtain ⟨time, action⟩ := step
    cases action <;> exact ih _

/-- The next tick by hand is made when what is scheduled before it has happened. -/
theorem ticks_timeline_succ [Drawable T] (p : Playback T) {period : Nat}
    (answers : Nat → Engine.Answers) {taken rest : List (Scheduled T)} {k : Nat}
    (htaken : ∀ step ∈ taken, step.time < k * period)
    (hrest : ∀ step ∈ rest, k * period ≤ step.time) (n : Nat) :
    p.ticks ((timeline period answers (taken ++ rest) k (n + 1)).map Prod.snd) =
      (p.run ((Scheduled.moments taken).map Prod.snd)).tick (answers k) ::
        (p.run ((Scheduled.moments taken).map Prod.snd ++ [.tick (answers k)])).ticks
          ((timeline period answers rest (k + 1) n).map Prod.snd) := by
  rw [timeline_succ period answers htaken hrest, List.map_append, ticks_append, ticks_moments,
    run_concat]
  rfl

/-- A pump that is ticked by hand is not stopped by that. -/
theorem running_run [Drawable T] (p : Playback T) (history : List (Moment T))
    (h : p.pump.running = true) : (p.run history).pump.running = true := by
  refine run_induction (P := fun _ q => q.pump.running = true) h ?_ history
  rintro earlier (a | event) hrunning
  · exact (Pump.running_tick _ _ a).trans hrunning
  · exact hrunning

end Playback

namespace Scene

variable [Drawable T]

/-- A tick, and the scene after it. -/
def tick (s : Scene T) (a : Engine.Answers) : Ticked T × Scene T :=
  let ticked := s.pump.tick s.surface a
  (ticked, { s with pump := ticked.pump, surface := ticked.surface }.note ticked.effects)

/-! ### The running flag -/

theorem running_carryOut (s : Scene T) (deadline : Nat) (step : Scheduled T) :
    (s.carryOut deadline step).pump.running =
      (s.pump.running && !(deadline < step.time : Bool) && !step.isStop) := by
  obtain ⟨time, action⟩ := step
  unfold carryOut expire
  cases action <;> by_cases h : deadline < time <;>
    simp [h, act, note, Scheduled.isStop, Pump.stop]

theorem running_settle (s : Scene T) (deadline : Nat) (steps : List (Scheduled T)) :
    (settle deadline steps s).pump.running = (s.pump.running &&
      steps.all fun step => !(deadline < step.time : Bool) && !step.isStop) := by
  induction steps generalizing s with
  | nil => simp [settle]
  | cons step rest ih =>
    refine (ih (s.carryOut deadline step)).trans ?_
    rw [running_carryOut, List.all_cons]
    simp only [Bool.and_assoc]

/-- What is done before `now` is what is scheduled before `now`. -/
theorem upTo_cases (deadline now : Nat) {schedule : List (Scheduled T)}
    (hsorted : schedule.Pairwise (·.time ≤ ·.time)) (s : Scene T) :
    ∃ taken, schedule = taken ++ (upTo deadline now schedule s).2 ∧
      (∀ step ∈ taken, step.time < now) ∧
      (∀ step ∈ (upTo deadline now schedule s).2, now ≤ step.time) ∧
      (upTo deadline now schedule s).1 = (settle deadline taken s).expire (deadline ≤ now) := by
  induction schedule generalizing s with
  | nil => exact ⟨[], rfl, by simp, by simp [upTo], rfl⟩
  | cons step rest ih =>
    obtain ⟨hle, hrest⟩ := List.pairwise_cons.mp hsorted
    unfold upTo
    split
    · rename_i hlt
      obtain ⟨taken, hschedule, htaken, hlater, hscene⟩ := ih hrest (s.carryOut deadline step)
      refine ⟨step :: taken, by rw [List.cons_append, ← hschedule], ?_, hlater, hscene⟩
      simpa using ⟨hlt, htaken⟩
    · rename_i hnow
      refine ⟨[], rfl, by simp, ?_, rfl⟩
      intro step' hmem
      rcases List.mem_cons.mp hmem with rfl | hmem
      · omega
      · exact Nat.le_trans (by omega) (hle step' hmem)

/-- At a moment at which nothing is scheduled, the flag is what it was unless it has been cleared. -/
theorem running_upTo {deadline now : Nat} {schedule : List (Scheduled T)}
    (hsorted : schedule.Pairwise (·.time ≤ ·.time)) (hnow : ∀ step ∈ schedule, step.time ≠ now)
    (s : Scene T) :
    (upTo deadline now schedule s).1.pump.running =
      (s.pump.running && (now < Scheduled.clearing deadline schedule : Bool)) := by
  obtain ⟨taken, hschedule, htaken, hlater, hscene⟩ := upTo_cases deadline now hsorted s
  have hexpire : ((settle deadline taken s).expire (deadline ≤ now)).pump.running =
      ((settle deadline taken s).pump.running && !(deadline ≤ now : Bool)) := by
    unfold expire
    by_cases h : deadline ≤ now <;> simp [h, Pump.stop]
  rw [hscene, hexpire, running_settle, Bool.and_assoc]
  congr 1
  rw [Bool.eq_iff_iff, decide_eq_true_iff, ← not_le, Scheduled.clearing_le_iff]
  simp only [Bool.and_eq_true, List.all_eq_true, Bool.not_eq_true', decide_eq_false_iff_not, not_lt,
    not_le, not_or, not_exists, not_and]
  constructor
  · rintro ⟨hall, hdeadline⟩
    refine ⟨hdeadline, fun step hmem hstop => ?_⟩
    have hne := hnow step hmem
    rw [hschedule, List.mem_append] at hmem
    rcases hmem with hmem | hmem
    · rw [(hall step hmem).2] at hstop
      cases hstop
    · have := hlater step hmem
      omega
  · rintro ⟨hdeadline, hstops⟩
    refine ⟨fun step hmem => ?_, hdeadline⟩
    have hlt := htaken step hmem
    refine ⟨by omega, ?_⟩
    cases hstop : step.isStop with
    | false => rfl
    | true =>
      have := hstops step (hschedule ▸ List.mem_append_left _ hmem) hstop
      omega

/-! ### The same by hand -/

/-- The scene is what a history by hand leads to, apart from the running flag, and what was done is
what the ticks of that history did. -/
structure Mirrors (s : Scene T) (start : Playback T) (history : List (Moment T)) : Prop where
  pump : s.pump = { (start.run history).pump with running := s.pump.running }
  surface : s.surface = (start.run history).surface
  engineCalls : Effect.engineCalls s.effects =
    (start.ticks history).flatMap (Effect.engineCalls ·.effects)
  targetCalls : Effect.targetCalls s.effects =
    (start.ticks history).flatMap (Effect.targetCalls ·.effects)

section

variable {s : Scene T} {start : Playback T} {history : List (Moment T)}

theorem Mirrors.log (h : s.Mirrors start history) (records : List Log.Record) :
    (s.note (records.map .log)).Mirrors start history :=
  ⟨h.pump, h.surface, by simpa [note] using h.engineCalls, by simpa [note] using h.targetCalls⟩

theorem Mirrors.stop (h : s.Mirrors start history) :
    Mirrors { s with pump := s.pump.stop } start history := by
  refine ⟨?_, h.surface, h.engineCalls, h.targetCalls⟩
  have hpump := h.pump
  revert hpump
  simp only [Pump.stop]
  generalize s.pump = p
  intro hpump
  rw [hpump]

theorem Mirrors.surfaceEvent (h : s.Mirrors start history) (event : SurfaceEvent T) :
    (s.act (.surface event)).Mirrors start (history ++ [.surface event]) := by
  have hticks : start.ticks (history ++ [.surface event]) = start.ticks history := by
    rw [Playback.ticks_concat]
    exact List.append_nil _
  refine ⟨?_, ?_, ?_, ?_⟩
  · rw [Playback.run_concat]
    exact h.pump
  · rw [Playback.run_concat]
    exact congrArg (·.apply event) h.surface
  · rw [hticks, ← h.engineCalls]
    simp [act, note]
  · rw [hticks, ← h.targetCalls]
    simp [act, note]

theorem Mirrors.expire (h : s.Mirrors start history) (isPast : Bool) :
    (s.expire isPast).Mirrors start history := by
  unfold Scene.expire
  split
  · exact h.stop
  · exact h

/-- A scheduled step that is not somebody else's image is done by hand, too. -/
theorem Mirrors.carryOut (h : s.Mirrors start history) (deadline : Nat) {step : Scheduled T}
    (hpresent : step.isPresent = false) :
    (s.carryOut deadline step).Mirrors start
      (history ++ (Scheduled.moments [step]).map Prod.snd) := by
  have hexpired := h.expire (deadline < step.time)
  obtain ⟨time, action⟩ := step
  unfold Scene.carryOut
  cases action with
  | surface event =>
    obtain ⟨hpump, hsurface, hengine, htarget⟩ := hexpired.surfaceEvent event
    exact ⟨hpump, hsurface, hengine, htarget⟩
  | present image => cases hpresent
  | stop =>
    rw [show Scheduled.moments [(⟨time, .stop⟩ : Scheduled T)] = [] from rfl, List.map_nil,
      List.append_nil]
    obtain ⟨hpump, hsurface, hengine, htarget⟩ := hexpired.stop
    exact ⟨hpump, hsurface, hengine, htarget⟩
  | look =>
    rw [show Scheduled.moments [(⟨time, .look⟩ : Scheduled T)] = [] from rfl, List.map_nil,
      List.append_nil]
    exact ⟨hexpired.pump, hexpired.surface, hexpired.engineCalls, hexpired.targetCalls⟩

theorem Mirrors.settle (h : s.Mirrors start history) (deadline : Nat) {steps : List (Scheduled T)}
    (hpresent : ∀ step ∈ steps, step.isPresent = false) :
    (settle deadline steps s).Mirrors start
      (history ++ (Scheduled.moments steps).map Prod.snd) := by
  induction steps generalizing s history with
  | nil =>
    rw [show Scheduled.moments ([] : List (Scheduled T)) = [] from rfl, List.map_nil,
      List.append_nil]
    exact h
  | cons step rest ih =>
    have hrest := ih (h.carryOut deadline (hpresent step List.mem_cons_self))
      fun step' hmem => hpresent step' (List.mem_cons_of_mem _ hmem)
    rw [List.append_assoc, ← List.map_append, ← Scheduled.moments_append] at hrest
    exact hrest

/-- A tick of a running loop is the tick that is made by hand. -/
theorem Mirrors.tick (h : s.Mirrors start history) (hrunning : s.pump.running = true)
    (hstart : start.pump.running = true) (a : Engine.Answers) :
    (s.tick a).1 = (start.run history).tick a ∧
      (s.tick a).2.Mirrors start (history ++ [.tick a]) ∧ (s.tick a).2.pump.running = true := by
  have hpump : s.pump = (start.run history).pump := by
    rw [h.pump, hrunning, ← start.running_run history hstart]
  have htick : s.pump.tick s.surface a = (start.run history).tick a := by
    unfold Playback.tick
    rw [hpump, h.surface]
  refine ⟨htick, ⟨?_, ?_, ?_, ?_⟩, (Pump.running_tick s.pump s.surface a).trans hrunning⟩ <;>
    unfold Scene.tick <;> dsimp only <;> rw [htick]
  · rw [Playback.run_concat]
    rfl
  · rw [Playback.run_concat]
    rfl
  · rw [Playback.ticks_concat, List.flatMap_append, ← h.engineCalls]
    simp [note, Playback.ticks]
  · rw [Playback.ticks_concat, List.flatMap_append, ← h.targetCalls]
    simp [note, Playback.ticks]

end

end Scene

/-- A loop has ended for this reason at this time, with its flag cleared, and left what a history by hand
leaves. -/
structure Run.Ends [Drawable T] (r : Run T) (exit : LoopEnd) (time : Nat) (start : Playback T)
    (history : List (Moment T)) : Prop where
  exit : r.exit = some exit
  time : r.time = time
  flag : r.scene.pump.running = false
  scene : r.scene.Mirrors start history

namespace Scene

variable [Drawable T]

/-! ### The loop -/

section

variable {period deadline : Nat} {answers : Nat → Engine.Answers} {start : Playback T}

/-- A wake-up finds done what was scheduled before it, and the flag as it should be. -/
theorem Mirrors.wakeUp (deadline : Nat) {s : Scene T} {history : List (Moment T)}
    (h : s.Mirrors start history) {schedule : List (Scheduled T)}
    (hschedule : Scheduled.BetweenTicks period schedule) (k : Nat) :
    ∃ taken later, schedule = taken ++ later ∧ (upTo deadline (k * period) schedule s).2 = later ∧
      (∀ step ∈ taken, step.time < k * period) ∧ (∀ step ∈ later, k * period ≤ step.time) ∧
      (upTo deadline (k * period) schedule s).1.Mirrors start
        (history ++ (Scheduled.moments taken).map Prod.snd) ∧
      (upTo deadline (k * period) schedule s).1.pump.running =
        (s.pump.running && (k * period < Scheduled.clearing deadline schedule : Bool)) := by
  obtain ⟨taken, hsplit, htaken, hlater, hscene⟩ :=
    upTo_cases deadline (k * period) hschedule.sorted s
  have hoff : ∀ step ∈ schedule, step.time ≠ k * period := by
    intro step hmem heq
    exact hschedule.between step hmem ⟨k, by rw [heq, Nat.mul_comm]⟩
  refine ⟨taken, _, hsplit, rfl, htaken, hlater, ?_, running_upTo hschedule.sorted hoff s⟩
  rw [hscene]
  refine (h.settle deadline fun step hmem => hschedule.alone step ?_).expire _
  rw [hsplit]
  exact List.mem_append_left _ hmem

/-- **A loop that is not told to stop before ticks as it is done by hand.**  What is scheduled for later
tells it to stop when the whole schedule does. -/
theorem Mirrors.wakeUp_of_lt {deadline : Nat} (hstart : start.pump.running = true) {s : Scene T}
    {history : List (Moment T)} (h : s.Mirrors start history) (hrunning : s.pump.running = true)
    {schedule : List (Scheduled T)} (hschedule : Scheduled.BetweenTicks period schedule) {k : Nat}
    (hbefore : k * period < Scheduled.clearing deadline schedule) (a : Engine.Answers) :
    ∃ taken later, schedule = taken ++ later ∧ (upTo deadline (k * period) schedule s).2 = later ∧
      (∀ step ∈ taken, step.time < k * period) ∧ (∀ step ∈ later, k * period ≤ step.time) ∧
      Scheduled.clearing deadline later = Scheduled.clearing deadline schedule ∧
      (upTo deadline (k * period) schedule s).1.pump.running = true ∧
      ((upTo deadline (k * period) schedule s).1.tick a).1 =
        (start.run (history ++ (Scheduled.moments taken).map Prod.snd)).tick a ∧
      ((upTo deadline (k * period) schedule s).1.tick a).2.Mirrors start
        (history ++ (Scheduled.moments taken).map Prod.snd ++ [.tick a]) ∧
      ((upTo deadline (k * period) schedule s).1.tick a).2.pump.running = true := by
  obtain ⟨taken, later, hsplit, hrest, htaken, hlater, hwoken, hflag⟩ := h.wakeUp deadline hschedule k
  have hset : (upTo deadline (k * period) schedule s).1.pump.running = true := by
    rw [hflag, hrunning, decide_eq_true hbefore]
    rfl
  have hclearing : Scheduled.clearing deadline later = Scheduled.clearing deadline schedule := by
    rw [hsplit]
    refine Scheduled.clearing_append fun step hmem => ?_
    rw [← hsplit]
    exact Nat.lt_trans (htaken step hmem) hbefore
  obtain ⟨htick, hticked, hkept⟩ := hwoken.tick hset hstart a
  exact ⟨taken, later, hsplit, hrest, htaken, hlater, hclearing, hset, htick, hticked, hkept⟩

/-- A loop that finds the flag cleared ends. -/
theorem loop_of_cleared (fuel k : Nat) {schedule : List (Scheduled T)} {s : Scene T}
    (h : (upTo deadline (k * period) schedule s).1.pump.running = false) :
    loop period deadline answers (fuel + 1) k schedule s =
      ⟨some .cancelled, k * period,
        settle deadline (upTo deadline (k * period) schedule s).2
          ((upTo deadline (k * period) schedule s).1.note
            [.log (upTo deadline (k * period) schedule s).1.pump.logStopped])⟩ := by
  rw [loop]
  dsimp only
  rw [if_pos (by simp [h])]

/-- A loop that finds the flag set ticks, and goes on with the next wake-up if the tick lets it. -/
theorem loop_of_goesOn (fuel k : Nat) {schedule : List (Scheduled T)} {s : Scene T}
    (h : (upTo deadline (k * period) schedule s).1.pump.running = true)
    (hgo : ((upTo deadline (k * period) schedule s).1.tick (answers k)).1.letsGoOn = true) :
    ∃ records : List Log.Record, loop period deadline answers (fuel + 1) k schedule s =
      loop period deadline answers fuel (k + 1) (upTo deadline (k * period) schedule s).2
        (((upTo deadline (k * period) schedule s).1.tick (answers k)).2.note
          (records.map .log)) := by
  rw [loop]
  dsimp only
  rw [if_neg (by simp [h])]
  unfold Scene.tick at hgo ⊢
  dsimp only at hgo ⊢
  generalize (upTo deadline (k * period) schedule s).1 = woken at hgo ⊢
  unfold Ticked.letsGoOn at hgo
  cases houtcome : (woken.pump.tick woken.surface (answers k)).outcome with
  | ok result => exact ⟨[], by simp [note]⟩
  | error e =>
    cases e with
    | linkLost e =>
      rw [houtcome] at hgo
      cases hgo
    | _ => exact ⟨[Pump.logFailed (woken.pump.tick woken.surface (answers k)).pump _], rfl⟩
  | panic =>
    rw [houtcome] at hgo
    cases hgo

/-- A loop whose tick finds the link lost ends, and clears the flag. -/
theorem loop_of_linkLost (fuel k : Nat) {schedule : List (Scheduled T)} {s : Scene T} {e : EngineError}
    (h : (upTo deadline (k * period) schedule s).1.pump.running = true)
    (hlost : ((upTo deadline (k * period) schedule s).1.tick (answers k)).1.outcome =
      .error (.linkLost e)) :
    ∃ record : Log.Record, loop period deadline answers (fuel + 1) k schedule s =
      ⟨some (.linkLost e), k * period, settle deadline (upTo deadline (k * period) schedule s).2
        (({ ((upTo deadline (k * period) schedule s).1.tick (answers k)).2 with
          pump := ((upTo deadline (k * period) schedule s).1.tick (answers k)).2.pump.stop } :
          Scene T).note [.log record])⟩ := by
  rw [loop]
  dsimp only
  rw [if_neg (by simp [h])]
  unfold Scene.tick at hlost ⊢
  dsimp only at hlost ⊢
  rw [hlost]
  exact ⟨_, rfl⟩

/-- **A loop goes on through its ticks.**  As long as the flag is not cleared and the ticks let it go
on, a loop arrives at its later wake-ups, having done what is done by hand. -/
theorem loop_advance (hstart : start.pump.running = true) (n fuel : Nat) {k : Nat}
    {schedule : List (Scheduled T)} {s : Scene T} {history : List (Moment T)}
    (hs : s.Mirrors start history) (hrunning : s.pump.running = true)
    (hschedule : Scheduled.BetweenTicks period schedule)
    (hbefore : ∀ j < n, (k + j) * period < Scheduled.clearing deadline schedule)
    (hgo : ∀ t ∈ (start.run history).ticks
      ((Playback.timeline period answers schedule k n).map Prod.snd), t.letsGoOn = true) :
    ∃ past later s', loop period deadline answers (fuel + n) k schedule s =
        loop period deadline answers fuel (k + n) later s' ∧
      s'.Mirrors start (history ++ past) ∧ s'.pump.running = true ∧
      Scheduled.BetweenTicks period later ∧
      Scheduled.clearing deadline later = Scheduled.clearing deadline schedule ∧
      ∀ m, (Playback.timeline period answers schedule k (n + m)).map Prod.snd =
        past ++ (Playback.timeline period answers later (k + n) m).map Prod.snd := by
  induction n generalizing k schedule s history with
  | zero => exact ⟨[], schedule, s, rfl, by simpa using hs, hrunning, hschedule, rfl, by simp⟩
  | succ n ih =>
    have hnow : k * period < Scheduled.clearing deadline schedule := hbefore 0 (Nat.succ_pos n)
    obtain ⟨taken, later, hsplit, hrest, htaken, hlater, hclearing, hset, htick, hticked, hkept⟩ :=
      hs.wakeUp_of_lt hstart hrunning hschedule hnow (answers k)
    -- the first of the ticks is the one that is made now, the others are left to the rest of the loop
    rw [hsplit, Playback.ticks_timeline_succ _ answers htaken hlater, ← Playback.run_append,
      ← Playback.run_append, ← List.append_assoc, List.forall_mem_cons] at hgo
    obtain ⟨records, hloop⟩ := loop_of_goesOn (fuel + n) k hset (htick ▸ hgo.1)
    obtain ⟨past, later', s', hrest', hs', hrunning', hschedule', hclearing', hpast⟩ :=
      ih (k := k + 1) (hticked.log records) (by simpa [note] using hkept) (hsplit ▸ hschedule).right
        (fun j hj => by
          rw [hclearing, Nat.add_assoc, Nat.add_comm 1 j]
          exact hbefore (j + 1) (Nat.succ_lt_succ hj))
        hgo.2
    refine ⟨(Scheduled.moments taken).map Prod.snd ++ [.tick (answers k)] ++ past, later', s', ?_, ?_,
      hrunning', hschedule', hclearing'.trans hclearing, fun m => ?_⟩
    · rw [← Nat.add_assoc, hloop, hrest, hrest', Nat.add_right_comm, Nat.add_assoc]
    · simpa only [List.append_assoc] using hs'
    · rw [Nat.add_right_comm, hsplit, Playback.timeline_succ period answers htaken hlater,
        List.map_append, List.map_cons, hpast, Nat.add_right_comm k 1 n]
      simp only [List.append_assoc, List.cons_append, List.nil_append, Nat.add_assoc]

/-- A loop that wakes up after the flag was cleared ends there; whatever is still scheduled happens after
that. -/
theorem ends_of_cleared {fuel k : Nat} {schedule : List (Scheduled T)} {s : Scene T}
    {history : List (Moment T)} (hs : s.Mirrors start history)
    (hschedule : Scheduled.BetweenTicks period schedule)
    (hpast : Scheduled.clearing deadline schedule ≤ k * period) :
    (loop period deadline answers (fuel + 1) k schedule s).Ends .cancelled (k * period) start
      (history ++ (Playback.timeline period answers schedule k 0).map Prod.snd) := by
  obtain ⟨taken, later, hsplit, hrest, -, -, hwoken, hflag⟩ :=
    hs.wakeUp deadline hschedule k
  have hcleared : (upTo deadline (k * period) schedule s).1.pump.running = false := by
    rw [hflag, decide_eq_false (not_lt.mpr hpast), Bool.and_false]
  rw [loop_of_cleared fuel k hcleared, hrest]
  refine ⟨rfl, rfl, ?_, ?_⟩
  · rw [running_settle]
    simp [note, hcleared]
  · have hsettled := (hwoken.log [(upTo deadline (k * period) schedule s).1.pump.logStopped]).settle
      deadline (hsplit ▸ hschedule).right.alone
    rw [List.append_assoc, ← List.map_append, ← Scheduled.moments_append, ← hsplit] at hsettled
    rw [Playback.timeline_zero]
    exact hsettled

/-- A loop whose tick finds the link lost ends there. -/
theorem ends_of_linkLost (hstart : start.pump.running = true) {fuel k : Nat}
    {schedule : List (Scheduled T)} {s : Scene T} {history : List (Moment T)}
    (hs : s.Mirrors start history) (hrunning : s.pump.running = true)
    (hschedule : Scheduled.BetweenTicks period schedule)
    (hbefore : k * period < Scheduled.clearing deadline schedule) {e : EngineError}
    (hlost : ∀ t ∈ (start.run history).ticks
      ((Playback.timeline period answers schedule k 1).map Prod.snd),
      t.outcome = .error (.linkLost e)) :
    (loop period deadline answers (fuel + 1) k schedule s).Ends (.linkLost e) (k * period) start
      (history ++ (Playback.timeline period answers schedule k 1).map Prod.snd) := by
  obtain ⟨taken, later, hsplit, hrest, htaken, hlater, -, hset, htick, hticked, -⟩ :=
    hs.wakeUp_of_lt hstart hrunning hschedule hbefore (answers k)
  rw [hsplit, Playback.ticks_timeline_succ _ answers htaken hlater, ← Playback.run_append,
    List.forall_mem_cons] at hlost
  obtain ⟨record, hloop⟩ := loop_of_linkLost fuel k hset (htick ▸ hlost.1)
  have htimeline : (Playback.timeline period answers schedule k 1).map Prod.snd =
      (Scheduled.moments taken).map Prod.snd ++
        .tick (answers k) :: (Scheduled.moments later).map Prod.snd := by
    rw [hsplit, Playback.timeline_succ period answers htaken hlater, Playback.timeline_zero,
      List.map_append, List.map_cons]
  rw [hloop, hrest, htimeline]
  refine ⟨rfl, rfl, ?_, ?_⟩
  · rw [running_settle]
    rfl
  · have hsettled := (hticked.stop.log [record]).settle deadline (hsplit ▸ hschedule).right.alone
    simp only [List.append_assoc, List.cons_append, List.nil_append] at hsettled
    exact hsettled

end

/-! ### The wake-ups before a moment -/

omit [Drawable T] in
theorem lt_ceilDiv_iff {period : Nat} (hperiod : 0 < period) {k moment : Nat} :
    k < moment ⌈/⌉ period ↔ k * period < moment := by
  rw [← not_le, ceilDiv_le_iff_le_mul hperiod, Nat.mul_comm, not_le]

omit [Drawable T] in
theorem le_ceilDiv_mul {period : Nat} (hperiod : 0 < period) (moment : Nat) :
    moment ≤ (moment ⌈/⌉ period) * period := by
  rw [Nat.mul_comm]
  exact (ceilDiv_le_iff_le_mul hperiod).mp le_rfl

omit [Drawable T] in
theorem one_ceilDiv {period : Nat} (hperiod : 0 < period) : 1 ⌈/⌉ period = 1 :=
  le_antisymm ((ceilDiv_le_iff_le_mul hperiod).mpr (by omega))
    ((lt_ceilDiv_iff hperiod).mpr (by omega))

omit [Drawable T] in
/-- A loop wakes up often enough to find the deadline past. -/
theorem ceilDiv_lt_wakeUps {period : Nat} (hperiod : 0 < period) {moment deadline : Nat}
    (h : moment ≤ deadline) : moment ⌈/⌉ period < wakeUps period deadline := by
  have hle : moment ⌈/⌉ period ≤ deadline / period + 1 := by
    rw [ceilDiv_le_iff_le_mul hperiod]
    have := Nat.lt_mul_div_succ deadline hperiod
    omega
  exact Nat.lt_succ_of_le hle

end Scene

namespace Pump

variable [Drawable T]

/-- **The loop on a clock is the loop of ticks.**  Let a pump with its flag set run on a clock, beside a
schedule of surface events and of stops, none of them at the moment of a tick, and let `s` be the moment
at which the flag is cleared first.  Then the ticks are made at the multiples of the period, with the
surface events in order of time between them, and:

* if the tick at `k * period`, before `s`, is the first one that the loop does not go on after, and it
  finds the link lost, the loop ends with that, after `k + 1` ticks;
* if it goes on after all ticks before `s`, whatever else they come to, it is told to stop at the first
  multiple of the period from `s` on, after as many ticks as there are multiples before.

Either way the flag is cleared, and the pump, the surface, the engine calls and the calls on targets are
those of the ticks made by hand. -/
theorem run_is_loop_of_ticks (p : Pump) (hrunning : p.running = true) (surface : Surface T)
    {period : Nat} (hperiod : 0 < period) (deadline : Nat) (answers : Nat → Engine.Answers)
    (schedule : List (Scheduled T)) (hschedule : Scheduled.BetweenTicks period schedule) :
    let s := Scheduled.clearing deadline schedule
    let start : Playback T := ⟨p, surface⟩
    let timeline := Playback.timeline period answers schedule 0
    let history := fun n => (timeline n).map Prod.snd
    let run := p.run surface period deadline answers schedule
    (∀ n, (timeline n).Pairwise (·.1 ≤ ·.1) ∧ (start.ticks (history n)).length = n) ∧
    (∀ k e, k * period < s → (∀ t ∈ start.ticks (history k), t.letsGoOn = true) →
      ((start.ticks (history (k + 1)))[k]?).map Ticked.outcome = some (.error (.linkLost e)) →
      run.Ends (.linkLost e) (k * period) start (history (k + 1))) ∧
    ((∀ t ∈ start.ticks (history (s ⌈/⌉ period)), t.letsGoOn = true) →
      run.Ends .cancelled ((s ⌈/⌉ period) * period) start (history (s ⌈/⌉ period))) := by
  intro s start timeline history run
  have hstart : start.pump.running = true := hrunning
  have hfirst : Scene.Mirrors { pump := p, surface, effects := [.log p.logRunning] } start [] :=
    ⟨rfl, rfl, rfl, rfl⟩
  have hdeadline : s ≤ deadline := Scheduled.clearing_le_iff.mpr (.inl le_rfl)
  -- what is left of the loop after `n` ticks that let it go on
  have hadvance : ∀ n, (∀ j < n, j * period < s) → n < Scene.wakeUps period deadline →
      (∀ t ∈ start.ticks (history n), t.letsGoOn = true) →
      ∃ fuel past later s', run = Scene.loop period deadline answers (fuel + 1) n later s' ∧
        s'.Mirrors start past ∧ s'.pump.running = true ∧ Scheduled.BetweenTicks period later ∧
        Scheduled.clearing deadline later = s ∧
        ∀ m, history (n + m) =
          past ++ (Playback.timeline period answers later n m).map Prod.snd := by
    intro n hbefore hfuel hgo
    obtain ⟨fuel, hwakeUps⟩ : ∃ fuel, Scene.wakeUps period deadline = fuel + 1 + n :=
      ⟨Scene.wakeUps period deadline - 1 - n, by omega⟩
    obtain ⟨past, later, s', hrun, hs', hrest⟩ := Scene.loop_advance hstart n (fuel + 1) hfirst
      hrunning hschedule (k := 0) (by simpa using hbefore) hgo
    rw [Nat.zero_add] at hrun hrest
    refine ⟨fuel, past, later, s', ?_, hs', hrest⟩
    rw [← hrun, ← hwakeUps]
    rfl
  have hlength : ∀ n, (start.ticks (history n)).length = n := fun n =>
    start.length_ticks_timeline period answers schedule 0 n
  refine ⟨fun n => ⟨?_, hlength n⟩, ?_, ?_⟩
  · exact Playback.pairwise_timeline period answers hschedule.sorted 0 n
  · intro k e hk hgo hlost
    have hfuel : k ≤ deadline / period := by
      rw [Nat.le_div_iff_mul_le hperiod]
      omega
    have hbefore : ∀ j < k, j * period < s := fun j hj =>
      lt_of_le_of_lt (Nat.mul_le_mul_right period hj.le) hk
    obtain ⟨fuel, past, later, s', hrun, hs', hset, hlater, hclear, hpast⟩ :=
      hadvance k hbefore (by unfold Scene.wakeUps; omega) hgo
    have hticks : start.ticks (history (k + 1)) = start.ticks past ++
        (start.run past).ticks ((Playback.timeline period answers later k 1).map Prod.snd) := by
      rw [hpast 1, Playback.ticks_append]
    have hcount : (start.ticks past).length = k := by
      have hpast' := hlength k
      rwa [show history k = _ from hpast 0, Playback.timeline_zero, Playback.ticks_append,
        Playback.ticks_moments, List.append_nil] at hpast'
    obtain ⟨t, ht⟩ := List.length_eq_one_iff.mp
      ((start.run past).length_ticks_timeline period answers later k 1)
    rw [hticks, ht, List.getElem?_append_right (by omega), hcount, Nat.sub_self] at hlost
    rw [hrun, hpast 1]
    refine Scene.ends_of_linkLost hstart hs' hset hlater (hclear ▸ hk) ?_
    rw [ht]
    simpa using hlost
  · intro hgo
    obtain ⟨fuel, past, later, s', hrun, hs', -, hlater, hclear, hpast⟩ :=
      hadvance _ (fun j => (Scene.lt_ceilDiv_iff hperiod).mp)
        (Scene.ceilDiv_lt_wakeUps hperiod hdeadline) hgo
    rw [hrun, show history (s ⌈/⌉ period) = _ from hpast 0]
    exact Scene.ends_of_cleared hs' hlater (hclear ▸ Scene.le_ceilDiv_mul hperiod s)

/-- A pump whose engine hands out nines but fails to the first of its ticks that has a surface, and then
sevens; it is told to stop a little after its third tick. -/
theorem run_is_loop_of_ticks_until_told :
    let answers : Nat → Engine.Answers := fun k =>
      if k = 1 then .onePixel 9 (.error (.failed "busy")) else .onePixel 7 (.ok ())
    let schedule : List (Scheduled MemoryTarget) :=
      [⟨5, .surface (.created (.new 1 1))⟩, ⟨25, .stop⟩]
    Scheduled.BetweenTicks 10 schedule ∧ Scheduled.clearing 40 schedule = 25 ∧
      (run (.new "7" {}) { scale := .stretch } 10 40 answers schedule).Ends .cancelled 30
        ⟨.new "7" {}, { scale := .stretch }⟩
        [.tick (answers 0), .surface (.created (.new 1 1)), .tick (answers 1), .tick (answers 2)] := by
  intro answers schedule
  have hschedule : Scheduled.BetweenTicks 10 schedule := ⟨by decide, by decide, by decide⟩
  have hclearing : Scheduled.clearing 40 schedule = 25 := by decide
  have hceil : 25 ⌈/⌉ 10 = 3 := by decide
  have htimeline : (Playback.timeline 10 answers schedule 0 3).map Prod.snd =
      [.tick (answers 0), .surface (.created (.new 1 1)), .tick (answers 1), .tick (answers 2)] := by
    rw [Playback.timeline, show Scheduled.moments schedule =
      [(5, .surface (.created (.new 1 1)))] from rfl]
    simp [List.range'_succ]
  have hends := (run_is_loop_of_ticks (.new "7" {}) rfl { scale := .stretch } (by decide) 40 answers
    schedule hschedule).2.2
  dsimp only at hends
  rw [hclearing, hceil, htimeline] at hends
  exact ⟨hschedule, hclearing, hends (by decide)⟩

end Pump

end DeskView
