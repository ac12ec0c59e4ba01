import DeskView.Proofs.Pump.Alike
import DeskView.Proofs.Session.Unwinding

/-!
# What a thread pulls among others

The threads of a controller share one surface, and any of them may move at any moment of any operation.
`Controller.happenings` lists all that happens during an operation in its order, each event with the
controller that it finds, and `Pulling.step` picks from it what one thread pulls.

`Controller.Pulls` then says of a thread that it does what a pump on its own does when it pulls just that.
It is shown once for an event (`Controller.pulls_happen`), by the phases of the thread; whatever else a
controller does, it lets the thread only be told to stop or leave its loop.  Steps like that can be put
together (`Pulls.trans`), up to any number of operations (`pulls_performAll`).
-/

namespace DeskView

/-- An event, and the controller that it finds. -/
structure Happening (T : Type) where
  controller : Controller T
  event : Event T

/-! ### What happens during an operation -/

namespace Controller

variable {T : Type} [Drawable T]

/-- Some events, each with the controller that it finds. -/
def along (c : Controller T) : List (Event T) → List (Happening T)
  | [] => []
  | event :: rest => ⟨c, event⟩ :: (c.happen event).1.along rest

/-- What happens while the session is being stopped. -/
def alongStop (c : Controller T) (s : Stopping T) : List (Happening T) :=
  match c.session with
  | none => []
  | some session =>
    let first := (c.closing.happenAll s.before).1
    let awaited := (first.awaitPump session s.meanwhile s.due).controller
    c.closing.along s.before ++
      (match session.thread with
        | none => []
        | some k => (first.tell k).along s.meanwhile) ++
      awaited.along s.releasing

/-- What happens during an operation. -/
def happenings (c : Controller T) : Operation T → List (Happening T)
  | .start id _ _ replies =>
    if id.isEmpty then []
    else
      match c.session with
      | none => c.opening.along replies.opening
      | some _ =>
        if c.status.isLive then []
        else
          c.alongStop replies.stopping ++
            (c.stop replies.stopping).controller.opening.along replies.opening
  | .stop s => c.alongStop s
  | .drop s => c.alongStop s
  | .event event => [⟨c, event⟩]

/-- What happens during some operations, one after the other. -/
def happeningsAll (c : Controller T) : List (Operation T) → List (Happening T)
  | [] => []
  | operation :: rest => c.happenings operation ++ (c.perform operation).controller.happeningsAll rest

end Controller

/-! ### What a thread pulls -/

/-- What the pump on thread `k` has pulled when one thing more has happened.  A tick that is not held up
finds the surface as it is at once; one that is held up finds the surface as it is when the fetch comes
back. -/
def Pulling.step {T : Type} (k : Nat) (x : Pulling T) (h : Happening T) : Pulling T :=
  match h.controller.threads[k]? with
  | none => x
  | some t =>
    match h.event, t.phase with
    | .wake j a, .waiting =>
      if j = k ∧ t.pump.running = true then
        if t.pump.hangs a then { x with held := some a }
        else { x with done := x.done ++ [⟨a, h.controller.surface⟩] }
      else x
    | .resume j, .fetching _ =>
      if j = k then ⟨x.done ++ (x.held.map (⟨·, h.controller.surface⟩)).toList, none⟩ else x
    | _, _ => x

namespace Pump

/-- A pump that is told to stop pulls the same as before. -/
theorem Matches.stop {p q : Pump} (h : p.Matches q) : p.stop.Matches q :=
  ⟨⟨h.session, h.display, h.frames⟩, h.frameCount⟩

end Pump

namespace Thread

/-- The fetch in which the thread is blocked, if it is. -/
def fetching? (t : Thread) : Option Engine.Fetch :=
  match t.phase with
  | .fetching fetch => some fetch
  | _ => none

/-- The thread's pump is where `p` gets when it has pulled `x`. -/
structure Pulled {T : Type} [Drawable T] (t : Thread) (p : Pump) (x : Pulling T) : Prop where
  fetching : t.fetching? = x.held.map Engine.Answers.fetch
  ready : ∀ a, x.held = some a → ((p.after x.done).prepare a).verdict = .ok .ready
  pump : t.pump.Matches (x.pump p)

variable {T : Type} [Drawable T]

omit [Drawable T] in
theorem fetching?_after (t : Thread) (ticked : Ticked T) : (t.after ticked).fetching? = none := by
  rcases t.after_cases ticked with ⟨-, h⟩ | h | ⟨e, h⟩ | ⟨-, h⟩ <;> rw [h] <;> rfl

omit [Drawable T] in
theorem matches_after (t : Thread) {ticked : Ticked T} {q : Pump} (h : ticked.pump.Matches q) :
    (t.after ticked).pump.Matches q := by
  rcases t.after_cases ticked with ⟨-, ht⟩ | ht | ⟨e, ht⟩ | ⟨-, ht⟩ <;> rw [ht]
  · exact h
  · exact h
  · exact h.stop
  · exact h

theorem Pulled.held_eq_none {t : Thread} {p : Pump} {x : Pulling T} (h : t.Pulled p x)
    (hphase : t.fetching? = none) : x.held = none := by
  have hheld := h.fetching.symm.trans hphase
  exact Option.map_eq_none_iff.mp hheld

end Thread

namespace Controller

variable {T : Type} [Drawable T]

/-- Between two controllers thread `k` does what a pump on its own does that pulls what the thread
pulls. -/
def Pulls (k : Nat) (c : Controller T) (happened : List (Happening T)) (noted : List Noted)
    (c' : Controller T) : Prop :=
  ∀ p x t, c.threads[k]? = some t → t.Pulled p x →
    ∃ t', c'.threads[k]? = some t' ∧ t'.Pulled p (happened.foldl (Pulling.step k) x) ∧
      Effect.Agree ((happened.foldl (Pulling.step k) x).effects p)
        (x.effects p ++ Noted.effectsOf (.pump k) noted)

section

variable {k : Nat} {c c' c'' : Controller T} {hs hs' : List (Happening T)} {xs ys : List Noted}

theorem Pulls.trans (h : c.Pulls k hs xs c') (h' : c'.Pulls k hs' ys c'') :
    c.Pulls k (hs ++ hs') (xs ++ ys) c'' := by
  intro p x t ht hpulled
  obtain ⟨t', ht', hpulled', hagree⟩ := h p x t ht hpulled
  obtain ⟨t'', ht'', hpulled'', hagree'⟩ := h' p _ t' ht' hpulled'
  rw [List.foldl_append]
  refine ⟨t'', ht'', hpulled'', hagree'.trans ?_⟩
  rw [Noted.effectsOf_append, ← List.append_assoc]
  exact hagree.append (.refl _)

/-- A step in which the thread pulls nothing. -/
theorem Pulls.of_pulled (hkept : ∀ t, c.threads[k]? = some t → ∃ t', c'.threads[k]? = some t' ∧
      (∀ (p : Pump) (x : Pulling T), t.Pulled p x → t'.Pulled p x) ∧
      ∃ records : List Log.Record, Noted.effectsOf (.pump k) xs = records.map .log) :
    c.Pulls k [] xs c' := by
  intro p x t ht hpulled
  obtain ⟨t', ht', hpulled', records, hxs⟩ := hkept t ht
  rw [hxs]
  exact ⟨t', ht', hpulled' p x hpulled, (Effect.agree_append_map_log _ records).symm⟩

/-- A step that neither moves the thread nor notes anything of it. -/
theorem Pulls.of_kept (hkept : ∀ t, c.threads[k]? = some t →
    c'.threads[k]? = some t ∧ Noted.effectsOf (.pump k) xs = []) : c.Pulls k [] xs c' :=
  .of_pulled fun t ht => ⟨t, (hkept t ht).1, fun _ _ h => h, [], (hkept t ht).2⟩

/-- What the controller itself says and asks is no move of a thread. -/
theorem Pulls.cons {n : Noted} (h : c.Pulls k hs xs c') (hn : n.actor = .controller) :
    c.Pulls k hs (n :: xs) c' := by
  unfold Pulls
  rwa [Noted.effectsOf_cons_of_ne (by simp [hn])]

end

/-! ### Events -/

/-- The thread has a tick behind it that its pump would have had on its own. -/
theorem pulls_afterTick {c : Controller T} {k : Nat} {t : Thread} (ht : c.threads[k]? = some t)
    {p : Pump} {x : Pulling T} {y : Pull T} {ticked : Ticked T}
    (hpump : ticked.pump.Matches (p.after (x.done ++ [y])))
    (heffects : Effect.Agree (Pulling.effects ⟨x.done ++ [y], none⟩ p)
      (x.effects p ++ ticked.effects)) :
    ∃ t', (c.afterTick k t ticked).1.threads[k]? = some t' ∧
      t'.Pulled p ⟨x.done ++ [y], none⟩ ∧
      Effect.Agree (Pulling.effects ⟨x.done ++ [y], none⟩ p)
        (x.effects p ++ (c.afterTick k t ticked).2) := by
  obtain ⟨records, hafter⟩ := afterTick_eq t ticked
  rw [hafter]
  refine ⟨t.after ticked, getElem?_move_self (c := { c with surface := ticked.surface }) ht _, ?_, ?_⟩
  · exact ⟨t.fetching?_after ticked, fun a ha => (by cases ha), t.matches_after hpump⟩
  · rw [← List.append_assoc]
    exact heffects.trans (Effect.agree_append_map_log _ records).symm

theorem pulls_wake {c : Controller T} {k : Nat} {t : Thread} (ht : c.threads[k]? = some t)
    (hphase : t.phase = .waiting) (a : Engine.Answers) {p : Pump} {x : Pulling T}
    (hpulled : t.Pulled p x) :
    ∃ t', (c.wake k t a).1.threads[k]? = some t' ∧ t'.Pulled p (x.step k ⟨c, .wake k a⟩) ∧
      Effect.Agree ((x.step k ⟨c, .wake k a⟩).effects p) (x.effects p ++ (c.wake k t a).2) := by
  obtain ⟨done, held⟩ := x
  obtain rfl : held = none := hpulled.held_eq_none (by simp [Thread.fetching?, hphase])
  have hmatches : t.pump.Matches (p.after done) := hpulled.pump
  rw [wake_eq]
  by_cases hrunning : t.pump.running = true
  · rw [if_pos hrunning]
    by_cases hhangs : t.pump.hangs a = true
    · -- the tick is held up in its fetch
      have hstep : Pulling.step k ⟨done, none⟩ ⟨c, .wake k a⟩ = ⟨done, some a⟩ := by
        simp [Pulling.step, ht, hphase, hrunning, hhangs]
      obtain ⟨hverdict, hasked, hprepared⟩ := hmatches.prepare a
      have hready := hverdict.symm.trans (Pump.hangs_eq_true_iff.mp hhangs).1
      rw [if_pos hhangs, hstep]
      refine ⟨_, (getElem?_setThread ht _ k).trans (if_pos rfl), ?_, ?_⟩
      · refine ⟨rfl, fun b hb => ?_, hprepared⟩
        cases hb
        exact hready
      · unfold Pulling.effects Pump.underWay
        rw [List.append_nil]
        exact (Effect.Agree.refl _).append hasked.symm
    · have hstep : Pulling.step k ⟨done, none⟩ ⟨c, .wake k a⟩ = ⟨done ++ [⟨a, c.surface⟩], none⟩ := by
        simp [Pulling.step, ht, hphase, hrunning, hhangs]
      obtain ⟨hticked, hmatches'⟩ := hmatches.tick (Surface.Alike.refl c.surface) a
      rw [if_neg hhangs, hstep]
      refine pulls_afterTick ht (x := ⟨done, none⟩) ?_ ?_
      · rw [Pump.after_concat]
        exact hmatches'
      · unfold Pulling.effects Pump.underWay
        rw [Pump.pullAll_concat, List.flatMap_append, List.flatMap_singleton, List.append_nil,
          List.append_nil]
        exact (Effect.Agree.refl _).append hticked.symm
  · -- the thread was told to stop, and ticks no more
    have hstep : Pulling.step k ⟨done, none⟩ ⟨c, .wake k a⟩ = ⟨done, none⟩ := by
      simp [Pulling.step, ht, hphase, hrunning]
    rw [if_neg hrunning, hstep, leave_eq]
    refine ⟨_, getElem?_move_self ht _, ⟨rfl, hpulled.ready, hmatches⟩, ?_⟩
    exact (Effect.agree_append_map_log _ [t.pump.logStopped]).symm

theorem pulls_resume {c : Controller T} {k : Nat} {t : Thread} (ht : c.threads[k]? = some t)
    {fetch : Engine.Fetch} (hphase : t.phase = .fetching fetch) {p : Pump} {x : Pulling T}
    (hpulled : t.Pulled p x) :
    let ended := c.afterTick k t (t.pump.deliver c.surface fetch)
    ∃ t', ended.1.threads[k]? = some t' ∧ t'.Pulled p (x.step k ⟨c, .resume k⟩) ∧
      Effect.Agree ((x.step k ⟨c, .resume k⟩).effects p) (x.effects p ++ ended.2) := by
  obtain ⟨done, held⟩ := x
  have hfetching := hpulled.fetching
  rw [show t.fetching? = some fetch by simp [Thread.fetching?, hphase]] at hfetching
  obtain ⟨a, rfl, rfl⟩ : ∃ a, held = some a ∧ a.fetch = fetch :=
    Option.map_eq_some_iff.mp hfetching.symm
  have hready := hpulled.ready a rfl
  have hstep : Pulling.step k ⟨done, some a⟩ ⟨c, .resume k⟩ = ⟨done ++ [⟨a, c.surface⟩], none⟩ := by
    simp [Pulling.step, ht, hphase]
  have htick := Pump.tick_of_ready c.surface hready
  obtain ⟨hdrawn, hmatches⟩ := hpulled.pump.deliver (Surface.Alike.refl c.surface) a.fetch
  rw [hstep]
  refine pulls_afterTick ht (x := ⟨done, some a⟩) ?_ ?_
  · rw [Pump.after_concat, htick]
    exact hmatches
  · unfold Pulling.effects
    rw [Pump.pullAll_concat, List.flatMap_append, List.flatMap_singleton, htick]
    dsimp only [Pump.underWay]
    rw [List.append_nil, ← List.append_assoc]
    exact (Effect.Agree.refl _).append hdrawn.symm

omit [Drawable T] in
/-- What happens to others is nothing that the thread pulls. -/
theorem step_of_thread?_ne {k : Nat} {c : Controller T} {event : Event T}
    (h : event.thread? ≠ some k) (x : Pulling T) : x.step k ⟨c, event⟩ = x := by
  unfold Pulling.step
  dsimp only
  split
  · rfl
  · split
    · rename_i j a _ _
      exact if_neg fun hj => h (congrArg some hj.1)
    · rename_i j _ _ _
      exact if_neg fun hj => h (congrArg some hj)
    · rfl

/-- **Whatever happens, a thread does what its pump would do on its own.** -/
theorem pulls_happen (k : Nat) (c : Controller T) (event : Event T) :
    c.Pulls k [⟨c, event⟩] (c.happen event).2 (c.happen event).1 := by
  intro p x t ht hpulled
  rw [List.foldl_cons, List.foldl_nil]
  -- an event that the thread does not wait for
  have hnothing : c.happen event = (c, []) → x.step k ⟨c, event⟩ = x →
      ∃ t', (c.happen event).1.threads[k]? = some t' ∧ t'.Pulled p (x.step k ⟨c, event⟩) ∧
        Effect.Agree ((x.step k ⟨c, event⟩).effects p)
          (x.effects p ++ Noted.effectsOf (.pump k) (c.happen event).2) := by
    intro hhappen hstep
    rw [hhappen, hstep, Noted.effectsOf_nil, List.append_nil]
    exact ⟨t, ht, hpulled, .refl _⟩
  by_cases hevent : event.thread? = some k
  · cases event with
    | surface e => cases hevent
    | wake j a =>
      cases hevent
      cases hphase : t.phase with
      | waiting =>
        rw [happen_wake ht hphase, Noted.effectsOf_note_self]
        exact pulls_wake ht hphase a hpulled
      | _ =>
        refine hnothing ?_ ?_
        · simp only [happen, ht, hphase]
        · simp only [Pulling.step, ht, hphase]
    | resume j =>
      cases hevent
      cases hphase : t.phase with
      | fetching fetch =>
        rw [happen_resume ht hphase, Noted.effectsOf_note_self]
        exact pulls_resume ht hphase hpulled
      | _ =>
        refine hnothing ?_ ?_
        · simp only [happen, ht, hphase]
        · simp only [Pulling.step, ht, hphase]
  · obtain ⟨hkept, hnoted⟩ := happen_of_thread?_ne (c := c) hevent
    rw [step_of_thread?_ne hevent, hnoted, List.append_nil]
    exact ⟨t, hkept.trans ht, hpulled, .refl _⟩

theorem pulls_happenAll (k : Nat) (c : Controller T) (events : List (Event T)) :
    c.Pulls k (c.along events) (c.happenAll events).2 (c.happenAll events).1 := by
  induction events generalizing c with
  | nil => exact .of_kept fun t ht => ⟨ht, rfl⟩
  | cons event rest ih => exact (pulls_happen k c event).trans (ih _)

/-! ### Operations -/

/-- To be told to stop changes nothing about what a thread has pulled. -/
theorem pulls_tell (k j : Nat) (c : Controller T) : c.Pulls k [] [] (c.tell j) := by
  refine .of_pulled fun t ht => ?_
  rcases getElem?_tell_cases ht j with htold | htold
  · exact ⟨t, htold, fun _ _ h => h, [], rfl⟩
  · exact ⟨_, htold, fun _ _ h => ⟨h.fetching, h.ready, h.pump.stop⟩, [], rfl⟩

theorem pulls_await (k j : Nat) (c : Controller T) (meanwhile : List (Event T)) (due : Nat) :
    c.Pulls k ((c.tell j).along meanwhile) (c.await j meanwhile due).noted
      (c.await j meanwhile due).controller := by
  have hwaited := (pulls_tell k j c).trans (pulls_happenAll k (c.tell j) meanwhile)
  rw [List.nil_append, List.nil_append] at hwaited
  unfold await
  generalize (c.tell j).happenAll meanwhile = waited at hwaited ⊢
  obtain ⟨c', noted⟩ := waited
  dsimp only at hwaited ⊢
  split
  · exact hwaited
  · rename_i t hj
    split
    · exact hwaited
    · exact hwaited
    · exact hwaited
    · rename_i hphase
      split
      · exact hwaited
      · -- a thread that waits for its next tick leaves its loop
        rw [leave_eq]
        refine List.append_nil ((c.tell j).along meanwhile) ▸ hwaited.trans (.of_pulled fun t' ht' => ?_)
        by_cases hjk : j = k
        · subst hjk
          cases hj.symm.trans ht'
          rw [Noted.effectsOf_note_self]
          refine ⟨_, getElem?_move_self hj _, fun p x h => ⟨?_, h.ready, h.pump⟩,
            [t.pump.logStopped], rfl⟩
          have hheld := h.held_eq_none (by simp [Thread.fetching?, hphase])
          rw [hheld]
          rfl
        · have hactor : Actor.pump j ≠ .pump k := by simpa using hjk
          refine ⟨t', ?_, fun _ _ h => h, [], Noted.effectsOf_note_of_ne hactor _⟩
          exact (getElem?_move hj _ k).trans ((if_neg (Ne.symm hjk)).trans ht')

theorem pulls_awaitPump (k : Nat) (c : Controller T) (session : Session)
    (meanwhile : List (Event T)) (due : Nat) :
    c.Pulls k
      (match session.thread with
        | none => []
        | some j => (c.tell j).along meanwhile)
      (c.awaitPump session meanwhile due).noted (c.awaitPump session meanwhile due).controller := by
  unfold awaitPump
  cases session.thread with
  | none => exact .of_kept fun t ht => ⟨ht, rfl⟩
  | some j =>
    have hlogged : (c.await j meanwhile due).controller.Pulls k []
        [notes (logWait (c.await j meanwhile due).reply)] (c.await j meanwhile due).controller :=
      .of_kept fun t ht => ⟨ht, rfl⟩
    have hwaited := (pulls_await k j c meanwhile due).trans hlogged
    rw [List.append_nil] at hwaited
    exact hwaited.cons rfl

theorem pulls_stop (k : Nat) (c : Controller T) (s : Stopping T) :
    c.Pulls k (c.alongStop s) (c.stop s).noted (c.stop s).controller := by
  unfold alongStop
  cases hsession : c.session with
  | none =>
    rw [stop_of_none hsession]
    exact .of_kept fun t ht => ⟨ht, rfl⟩
  | some session =>
    obtain ⟨warning, hstop⟩ := stop_eq hsession s
    rw [hstop]
    dsimp only
    have hclosing : c.Pulls k [] [] c.closing := .of_kept fun t ht => ⟨ht, rfl⟩
    have hbefore := hclosing.trans (pulls_happenAll k c.closing s.before)
    have hawaited := hbefore.trans (pulls_awaitPump k _ session s.meanwhile s.due)
    have hreleased := hawaited.trans
      ((pulls_happenAll k _ s.releasing).cons (n := calls (.stop session.id)) rfl)
    -- the records at the end are the controller's own
    have hended : ∀ c' : Controller T, c'.Pulls k []
        ((warning ++ [Log.info "session stopped" [("id", session.id)]]).map notes)
        (c'.advance .terminated) :=
      fun c' => .of_kept fun t ht => ⟨ht, Noted.effectsOf_map_notes k _⟩
    have hall := (hreleased.trans (hended _)).cons
      (n := notes (Log.info "stopping session" [("id", session.id)])) rfl
    simpa only [List.nil_append, List.append_nil, List.append_assoc, List.cons_append, List.map_append,
      List.map_cons, List.map_nil] using hall

theorem pulls_openSession (k : Nat) (c : Controller T) (id : String) (credentials : Credentials)
    (mode : SessionMode) (replies : Replies T) :
    c.Pulls k (c.opening.along replies.opening) (c.openSession id credentials mode replies).noted
      (c.openSession id credentials mode replies).controller := by
  have hopening : c.Pulls k [] [] c.opening := .of_kept fun t ht => ⟨ht, rfl⟩
  obtain ⟨rest, hnoted, hkept⟩ := c.openSession_kept id credentials mode replies
  have hopened := (hopening.trans (pulls_happenAll k c.opening replies.opening)).trans
    (.of_kept (hkept k))
  rw [List.nil_append, List.nil_append, List.append_nil] at hopened
  rw [hnoted]
  exact (hopened.cons rfl).cons rfl

theorem pulls_perform (k : Nat) (c : Controller T) (operation : Operation T) :
    c.Pulls k (c.happenings operation) (c.perform operation).noted
      (c.perform operation).controller := by
  cases operation with
  | start id credentials mode replies =>
    unfold happenings perform start
    dsimp only
    by_cases hid : id.isEmpty = true
    · rw [if_pos hid, if_pos hid]
      exact .of_kept fun t ht => ⟨ht, rfl⟩
    · rw [if_neg hid, if_neg hid]
      cases c.session with
      | none => exact pulls_openSession k c id credentials mode replies
      | some current =>
        dsimp only
        by_cases hlive : c.status.isLive = true
        · rw [if_pos hlive, if_pos hlive]
          exact .of_kept fun t ht => ⟨ht, rfl⟩
        · rw [if_neg hlive, if_neg hlive]
          exact (pulls_stop k c replies.stopping).trans
            (pulls_openSession k _ id credentials mode replies)
  | stop s => exact pulls_stop k c s
  | drop s => exact pulls_stop k c s
  | event event => exact pulls_happen k c event

/-- **Whatever is done with a controller, its threads do what their pumps would do on their own.** -/
theorem pulls_performAll (k : Nat) (c : Controller T) (operations : List (Operation T)) :
    c.Pulls k (c.happeningsAll operations) (c.performAll operations).noted
      (c.performAll operations).controller := by
  induction operations generalizing c with
  | nil => exact .of_kept fun t ht => ⟨ht, rfl⟩
  | cons operation rest ih => exact (pulls_perform k c operation).trans (ih _)

end Controller

end DeskView
