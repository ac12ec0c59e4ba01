import DeskView.Proofs.Session.Calls
import DeskView.Proofs.Surface.Transactions

/-!
# Threads that were told to stop

A thread that was told to stop may still be in the middle of a tick, and nothing that the controller
does can reach it there.  `Thread.Unwinds` says what such a thread still does: nothing, or it comes to its
end, without another call into the engine and with no more than one transaction on a target.

That is shown once for an event (`Controller.unwinding_happen`) and then holds for whatever events, stops
and starts follow, because unwinding can be put together (`Unwinding.trans`).  `stop_spec` adds in which
state a stop leaves the session's thread when it gives the session back to the engine.
-/

namespace DeskView

namespace Noted

/-- What an actor did. -/
def effectsOf (actor : Actor) (noted : List Noted) : List Effect :=
  (noted.filter (·.actor = actor)).map Noted.effect

@[simp]
theorem effectsOf_nil (actor : Actor) : effectsOf actor [] = [] := rfl

@[simp]
theorem effectsOf_append (actor : Actor) (xs ys : List Noted) :
    effectsOf actor (xs ++ ys) = effectsOf actor xs ++ effectsOf actor ys := by
  unfold effectsOf
  rw [List.filter_append, List.map_append]

theorem effectsOf_cons_of_ne {actor : Actor} {n : Noted} (h : n.actor ≠ actor) (noted : List Noted) :
    effectsOf actor (n :: noted) = effectsOf actor noted := by
  unfold effectsOf
  rw [List.filter_cons_of_neg (by simpa using h)]

@[simp]
theorem effectsOf_note_self (actor : Actor) (effects : List Effect) :
    effectsOf actor (actor.note effects) = effects := by
  induction effects with
  | nil => rfl
  | cons effect rest ih =>
    unfold effectsOf Actor.note at ih ⊢
    simpa using ih

theorem effectsOf_note_of_ne {actor actor' : Actor} (h : actor' ≠ actor) (effects : List Effect) :
    effectsOf actor (actor'.note effects) = [] := by
  unfold effectsOf Actor.note
  simp [h]

@[simp]
theorem effectsOf_cons_notes (k : Nat) (r : Log.Record) (noted : List Noted) :
    effectsOf (.pump k) (Controller.notes r :: noted) = effectsOf (.pump k) noted := rfl

@[simp]
theorem effectsOf_cons_calls (k : Nat) (call : Engine.Call) (noted : List Noted) :
    effectsOf (.pump k) (Controller.calls call :: noted) = effectsOf (.pump k) noted := rfl

@[simp]
theorem effectsOf_map_notes (k : Nat) (records : List Log.Record) :
    effectsOf (.pump k) (records.map Controller.notes) = [] := by
  induction records with
  | nil => rfl
  | cons r records ih => rw [List.map_cons, effectsOf_cons_notes, ih]

end Noted

/-- The second half of a tick makes one transaction, or none. -/
theorem Pump.isTransaction_deliver {T : Type} [Drawable T] (p : Pump) (s : Surface T)
    (f : Engine.Fetch) : Surface.IsTransaction (Effect.targetCalls (p.deliver s f).effects) := by
  rcases deliver_cases p s f with ⟨e, -, hd⟩ | ⟨-, hd⟩ | ⟨-, ⟨e, -, hd⟩ | ⟨image, frames, -, hd⟩⟩ <;>
    rw [hd]
  · exact Surface.isTransaction_nil
  · exact Surface.isTransaction_nil
  · exact Surface.isTransaction_nil
  · rw [targetCalls_conclude]
    exact s.isTransaction_present image

namespace Thread

/-- A thread has stopped for good: its loop is over, and it was told to stop. -/
structure IsOver (t : Thread) : Prop where
  ended : t.hasEnded = true
  told : t.pump.running = false

theorem isOver_after {T : Type} (t : Thread) {ticked : Ticked T}
    (htold : ticked.pump.running = false) : (t.after ticked).IsOver := by
  rcases t.after_cases ticked with ⟨hrunning, -⟩ | h | ⟨e, h⟩ | ⟨-, h⟩
  · rw [htold] at hrunning
    cases hrunning
  · rw [h]
    exact ⟨rfl, htold⟩
  · rw [h]
    exact ⟨rfl, rfl⟩
  · rw [h]
    exact ⟨rfl, htold⟩

/-- What a thread that was told to stop still does: nothing, or it comes to its end, without a call into
the engine and with at most one transaction on a target. -/
inductive Unwinds (t : Thread) : List Effect → Thread → Prop
  | rests : t.Unwinds [] t
  | ends {effects : List Effect} {t' : Thread} (going : t.hasEnded = false) (gone : t'.IsOver)
      (engine : Effect.engineCalls effects = [])
      (target : Surface.IsTransaction (Effect.targetCalls effects)) : t.Unwinds effects t'

section

variable {t t' t'' : Thread} {xs ys : List Effect}

theorem Unwinds.told (h : t.Unwinds xs t') (ht : t.pump.running = false) :
    t'.pump.running = false := by
  cases h with
  | rests => exact ht
  | ends going gone engine target => exact gone.told

theorem Unwinds.engineCalls (h : t.Unwinds xs t') : Effect.engineCalls xs = [] := by
  cases h with
  | rests => rfl
  | ends going gone engine target => exact engine

theorem Unwinds.isTransaction (h : t.Unwinds xs t') :
    Surface.IsTransaction (Effect.targetCalls xs) := by
  cases h with
  | rests => exact Surface.isTransaction_nil
  | ends going gone engine target => exact target

/-- A thread that has ended does nothing any more. -/
theorem Unwinds.eq_of_hasEnded (h : t.Unwinds xs t') (ht : t.hasEnded = true) : xs = [] ∧ t' = t := by
  cases h with
  | rests => exact ⟨rfl, rfl⟩
  | ends going gone engine target =>
    rw [ht] at going
    cases going

theorem Unwinds.hasEnded_of_ne_nil (h : t.Unwinds xs t') (hxs : xs ≠ []) : t'.hasEnded = true := by
  cases h with
  | rests => exact absurd rfl hxs
  | ends going gone engine target => exact gone.ended

theorem Unwinds.trans (h : t.Unwinds xs t') (h' : t'.Unwinds ys t'') : t.Unwinds (xs ++ ys) t'' := by
  cases h with
  | rests => exact h'
  | ends going gone engine target =>
    obtain ⟨rfl, rfl⟩ := h'.eq_of_hasEnded gone.ended
    rw [List.append_nil]
    exact .ends going gone engine target

end

end Thread

namespace Controller

variable {T : Type}

/-- Whether there is such a thread and its loop is over. -/
def hasEnded (c : Controller T) (k : Nat) : Bool := (c.threads[k]?).any Thread.hasEnded

/-- Between two controllers thread `k`, if it had been told to stop, did no more than unwind. -/
def Unwinding (k : Nat) (c : Controller T) (noted : List Noted) (c' : Controller T) : Prop :=
  ∀ t, c.threads[k]? = some t → t.pump.running = false →
    ∃ t', c'.threads[k]? = some t' ∧ t.Unwinds (Noted.effectsOf (.pump k) noted) t'

section

variable {k : Nat} {c c' c'' : Controller T} {xs ys : List Noted}

theorem Unwinding.trans (h : c.Unwinding k xs c') (h' : c'.Unwinding k ys c'') :
    c.Unwinding k (xs ++ ys) c'' := by
  intro t ht htold
  obtain ⟨t', ht', hunwinds⟩ := h t ht htold
  obtain ⟨t'', ht'', hunwinds'⟩ := h' t' ht' (hunwinds.told htold)
  refine ⟨t'', ht'', ?_⟩
  rw [Noted.effectsOf_append]
  exact hunwinds.trans hunwinds'

/-- A step that neither moves a thread nor notes anything of it. -/
theorem Unwinding.of_kept (hkept : ∀ t, c.threads[k]? = some t →
    c'.threads[k]? = some t ∧ Noted.effectsOf (.pump k) xs = []) : c.Unwinding k xs c' := by
  intro t ht _
  obtain ⟨ht', hxs⟩ := hkept t ht
  rw [hxs]
  exact ⟨t, ht', .rests⟩

end

/-- A thread that was told to stop while it ticked comes to its end after the tick. -/
theorem afterTick_of_told {c : Controller T} {k : Nat} {t : Thread} (h : c.threads[k]? = some t)
    {ticked : Ticked T} (htold : ticked.pump.running = false) :
    ∃ t', (c.afterTick k t ticked).1.threads[k]? = some t' ∧ t'.IsOver ∧
      Effect.engineCalls (c.afterTick k t ticked).2 = Effect.engineCalls ticked.effects ∧
      Effect.targetCalls (c.afterTick k t ticked).2 = Effect.targetCalls ticked.effects := by
  obtain ⟨records, hafter⟩ := afterTick_eq t ticked
  rw [hafter]
  exact ⟨t.after ticked, getElem?_move_self (c := { c with surface := ticked.surface }) h _,
    t.isOver_after htold, by simp, by simp⟩

variable [Drawable T]

/-! ### What an event lets a thread do -/

/-- An event lets no other thread do anything. -/
theorem happen_of_thread?_ne {c : Controller T} {k : Nat} {event : Event T}
    (h : event.thread? ≠ some k) :
    (c.happen event).1.threads[k]? = c.threads[k]? ∧
      Noted.effectsOf (.pump k) (c.happen event).2 = [] := by
  rcases c.happen_thread event with ⟨e, rfl⟩ | hnothing |
    ⟨j, t, t', surface, effects, hj, hthread, -, -, -, hmove⟩
  · exact ⟨rfl, rfl⟩
  · rw [hnothing]
    exact ⟨rfl, rfl⟩
  · have hjk : j ≠ k := fun hjk => h (hj.trans (congrArg some hjk))
    rw [hmove]
    refine ⟨?_, Noted.effectsOf_note_of_ne (by simpa using hjk) effects⟩
    exact (getElem?_move (c := { c with surface }) hthread t' k).trans (if_neg (Ne.symm hjk))

/-- A thread that was told to stop ends as soon as it wakes up. -/
theorem happen_wake_of_told {c : Controller T} {k : Nat} {t : Thread} (hthread : c.threads[k]? = some t)
    (htold : t.pump.running = false) (hphase : t.phase = .waiting) (a : Engine.Answers) :
    ∃ t', (c.happen (.wake k a)).1.threads[k]? = some t' ∧ t'.IsOver ∧
      Noted.effectsOf (.pump k) (c.happen (.wake k a)).2 = [.log t.pump.logStopped] := by
  have hwake : c.wake k t a = c.leave k t := by
    unfold wake
    rw [if_pos (by simp [htold])]
  rw [happen_wake hthread hphase, hwake, leave_eq, Noted.effectsOf_note_self]
  exact ⟨{ t with phase := .exited .cancelled }, getElem?_move_self hthread _,
    ⟨rfl, htold⟩, rfl⟩

/-- A thread that was told to stop while it fetched ends when the fetch comes back, and shows at most that
frame. -/
theorem happen_resume_of_told {c : Controller T} {k : Nat} {t : Thread}
    (hthread : c.threads[k]? = some t) (htold : t.pump.running = false) {fetch : Engine.Fetch}
    (hphase : t.phase = .fetching fetch) :
    ∃ t', (c.happen (.resume k)).1.threads[k]? = some t' ∧ t'.IsOver ∧
      Effect.engineCalls (Noted.effectsOf (.pump k) (c.happen (.resume k)).2) = [] ∧
      Surface.IsTransaction
        (Effect.targetCalls (Noted.effectsOf (.pump k) (c.happen (.resume k)).2)) := by
  obtain ⟨t', ht', hover, hengine, htarget⟩ := afterTick_of_told hthread
    ((Pump.running_deliver t.pump c.surface fetch).trans htold)
  rw [happen_resume hthread hphase, Noted.effectsOf_note_self, hengine, htarget]
  exact ⟨t', ht', hover, Pump.engineCalls_deliver t.pump c.surface fetch,
    t.pump.isTransaction_deliver c.surface fetch⟩

/-- Whatever happens, a thread that was told to stop does no more than unwind. -/
theorem unwinding_happen (k : Nat) (c : Controller T) (event : Event T) :
    c.Unwinding k (c.happen event).2 (c.happen event).1 := by
  by_cases hevent : event.thread? = some k
  · rcases c.happen_inv event with ⟨e, rfl⟩ | hnothing | ⟨j, a, t, rfl, hthread, hphase⟩ |
      ⟨j, t, fetch, rfl, hthread, hphase⟩
    · cases hevent
    · rw [hnothing]
      exact .of_kept fun t ht => ⟨ht, rfl⟩
    · cases hevent
      intro t' ht htold
      cases hthread.symm.trans ht
      obtain ⟨t', ht', hover, hnoted⟩ := happen_wake_of_told hthread htold hphase a
      rw [hnoted]
      exact ⟨t', ht', .ends (by simp [Thread.hasEnded, hphase]) hover rfl Surface.isTransaction_nil⟩
    · cases hevent
      intro t' ht htold
      cases hthread.symm.trans ht
      obtain ⟨t', ht', hover, hengine, htarget⟩ := happen_resume_of_told hthread htold hphase
      exact ⟨t', ht', .ends (by simp [Thread.hasEnded, hphase]) hover hengine htarget⟩
  · obtain ⟨hkept, hnoted⟩ := happen_of_thread?_ne (c := c) hevent
    exact .of_kept fun t ht => ⟨hkept.trans ht, hnoted⟩

theorem unwinding_happenAll (k : Nat) (c : Controller T) (events : List (Event T)) :
    c.Unwinding k (c.happenAll events).2 (c.happenAll events).1 := by
  induction events generalizing c with
  | nil => exact .of_kept fun t ht => ⟨ht, rfl⟩
  | cons event rest ih => exact (unwinding_happen k c event).trans (ih _)

/-- A thread that was told to stop ends when it wakes up or when its fetch comes back, whichever it
waits for. -/
theorem hasEnded_of_told {c : Controller T} {k : Nat} {t : Thread} (hthread : c.threads[k]? = some t)
    (htold : t.pump.running = false) (a : Engine.Answers) :
    (c.happenAll [.wake k a, .resume k]).1.hasEnded k = true := by
  -- once the thread has ended it stays so
  have hstays : ∀ {c' : Controller T} {t' : Thread}, c'.threads[k]? = some t' → t'.IsOver →
      (c'.happen (.resume k)).1.hasEnded k = true := by
    intro c' t' ht' hover
    obtain ⟨t'', ht'', hunwinds⟩ := unwinding_happen k c' (.resume k) t' ht' hover.told
    obtain ⟨-, rfl⟩ := hunwinds.eq_of_hasEnded hover.ended
    unfold hasEnded
    rw [ht'']
    exact hover.ended
  have hnothing : t.phase ≠ .waiting → (c.happen (.wake k a)).1 = c := by
    intro hphase
    rcases c.happen_inv (.wake k a) with ⟨e, hevent⟩ | hnothing |
      ⟨j, b, t', hevent, hthread', hphase'⟩ | ⟨j, t', fetch, hevent, -⟩
    · cases hevent
    · rw [hnothing]
    · cases hevent
      cases hthread.symm.trans hthread'
      exact absurd hphase' hphase
    · cases hevent
  change ((c.happen (.wake k a)).1.happen (.resume k)).1.hasEnded k = true
  cases hphase : t.phase with
  | waiting =>
    obtain ⟨t', ht', hover, -⟩ := happen_wake_of_told hthread htold hphase a
    exact hstays ht' hover
  | fetching fetch =>
    rw [hnothing (by simp [hphase])]
    obtain ⟨t', ht', hover, -⟩ := happen_resume_of_told hthread htold hphase
    unfold hasEnded
    rw [ht']
    exact hover.ended
  | exited exit =>
    rw [hnothing (by simp [hphase])]
    exact hstays hthread ⟨by simp [Thread.hasEnded, hphase], htold⟩
  | panicked =>
    rw [hnothing (by simp [hphase])]
    exact hstays hthread ⟨by simp [Thread.hasEnded, hphase], htold⟩

/-! ### What an operation lets a thread do -/

omit [Drawable T] in
/-- Threads are created in starts only. -/
theorem stable_size (n : Nat) : Stable fun c : Controller T => c.threads.size = n where
  surface _ _ h := h
  move c j _ t' h _ _ _ := by
    unfold move
    rw [threads_hear]
    simpa [setThread] using h
  tell _ _ _ h _ := by simpa [setThread] using h

omit [Drawable T] in
theorem getElem?_tell_self {c : Controller T} {k : Nat} {t : Thread} (ht : c.threads[k]? = some t) :
    (c.tell k).threads[k]? = some { t with pump := t.pump.stop } := by
  unfold tell
  rw [ht]
  exact (getElem?_setThread ht _ k).trans (if_pos rfl)

omit [Drawable T] in
theorem exists_getElem?_tell {c : Controller T} {k : Nat} (h : k < c.threads.size) :
    ∃ t, (c.tell k).threads[k]? = some t ∧ t.pump.running = false :=
  ⟨_, getElem?_tell_self (Array.getElem?_eq_getElem h), rfl⟩

omit [Drawable T] in
theorem setThread_self {c : Controller T} {k : Nat} {t : Thread} (h : c.threads[k]? = some t) :
    c.setThread k t = c := by
  obtain ⟨hlt, rfl⟩ := Array.getElem?_eq_some_iff.mp h
  unfold setThread Array.setIfInBounds
  rw [dif_pos hlt, Array.set_getElem_self]

omit [Drawable T] in
/-- Telling a thread to stop once is enough. -/
theorem tell_of_told {c : Controller T} {k : Nat}
    (h : ∀ t, c.threads[k]? = some t → t.pump.running = false) : c.tell k = c := by
  unfold tell
  split
  · rename_i t ht
    have hpump : t.pump.stop = t.pump := by
      unfold Pump.stop
      rw [← h t ht]
    rw [hpump]
    exact setThread_self ht
  · rfl

omit [Drawable T] in
/-- When a thread is told to stop, any other is as it was. -/
theorem getElem?_tell_cases {c : Controller T} {k : Nat} {t : Thread} (ht : c.threads[k]? = some t)
    (j : Nat) :
    (c.tell j).threads[k]? = some t ∨
      (c.tell j).threads[k]? = some { t with pump := t.pump.stop } := by
  unfold tell
  split
  · rename_i t' ht'
    rw [getElem?_setThread ht']
    split
    · rename_i hk
      subst hk
      cases ht.symm.trans ht'
      exact .inr rfl
    · exact .inl ht
  · exact .inl ht

omit [Drawable T] in
theorem getElem?_tell {c : Controller T} {j k : Nat} {t : Thread} (ht : c.threads[k]? = some t)
    (htold : t.pump.running = false) : (c.tell j).threads[k]? = some t := by
  have hpump : t.pump.stop = t.pump := by
    unfold Pump.stop
    rw [← htold]
  rcases getElem?_tell_cases ht j with hkept | hstopped
  · exact hkept
  · rw [hstopped, hpump]

omit [Drawable T] in
theorem unwinding_tell (k j : Nat) (c : Controller T) : c.Unwinding k [] (c.tell j) :=
  fun t ht htold => ⟨t, getElem?_tell ht htold, .rests⟩

/-- Waiting for one thread lets the others unwind. -/
theorem unwinding_await (k j : Nat) (c : Controller T) (meanwhile : List (Event T)) (due : Nat) :
    c.Unwinding k (c.await j meanwhile due).noted (c.await j meanwhile due).controller := by
  have hwaited := (unwinding_tell k j c).trans (unwinding_happenAll k (c.tell j) meanwhile)
  rcases c.await_cases j meanwhile due with ⟨hcontroller, hnoted, -⟩ |
    ⟨t, hj, hgoing, hcontroller, hnoted⟩
  · rw [hcontroller, hnoted]
    exact hwaited
  · rw [hcontroller, hnoted]
    refine hwaited.trans ?_
    by_cases hjk : j = k
    · subst hjk
      intro t' ht' htold
      cases hj.symm.trans ht'
      rw [Noted.effectsOf_note_self]
      exact ⟨{ t with phase := .exited .cancelled }, getElem?_move_self hj _,
        .ends hgoing ⟨rfl, htold⟩ rfl Surface.isTransaction_nil⟩
    · refine .of_kept fun t' ht' => ⟨?_, Noted.effectsOf_note_of_ne (by simpa using hjk) _⟩
      exact (getElem?_move hj _ k).trans ((if_neg (Ne.symm hjk)).trans ht')

theorem unwinding_awaitPump (k : Nat) (c : Controller T) (session : Session)
    (meanwhile : List (Event T)) (due : Nat) :
    c.Unwinding k (c.awaitPump session meanwhile due).noted
      (c.awaitPump session meanwhile due).controller := by
  unfold awaitPump
  split
  · exact .of_kept fun t ht => ⟨ht, rfl⟩
  · rename_i j _
    have hbegins : c.Unwinding k [notes (Log.debug "waiting for frame pump to stop...")] c :=
      .of_kept fun t ht => ⟨ht, rfl⟩
    exact (hbegins.trans (unwinding_await k j c meanwhile due)).trans
      (.of_kept fun t ht => ⟨ht, rfl⟩)

/-- After the wait for it a thread has been told to stop, and if it was not given up it has ended. -/
theorem awaitPump_spec {c : Controller T} {session : Session} {k : Nat} (hk : session.thread = some k)
    (hlt : k < c.threads.size) (meanwhile : List (Event T)) (due : Nat) :
    ∃ t, (c.awaitPump session meanwhile due).controller.threads[k]? = some t ∧
      t.pump.running = false ∧
      ((c.awaitPump session meanwhile due).reply = .stopped → t.hasEnded = true) := by
  obtain ⟨t, ht, htold⟩ := exists_getElem?_tell hlt
  obtain ⟨t', ht', hunwinds⟩ := unwinding_happenAll k (c.tell k) meanwhile t ht htold
  unfold awaitPump
  rw [hk]
  dsimp only
  rcases c.await_cases k meanwhile due with ⟨hcontroller, -, hreply⟩ | ⟨t'', ht'', -, hcontroller, -⟩
  · rw [hcontroller]
    exact ⟨t', ht', hunwinds.told htold, fun hstopped => hreply hstopped t' ht'⟩
  · cases ht'.symm.trans ht''
    rw [hcontroller]
    exact ⟨{ t' with phase := .exited .cancelled }, getElem?_move_self ht' _,
      hunwinds.told htold, fun _ => rfl⟩

omit [Drawable T] in
/-- What the controller itself says and asks is no move of a thread. -/
theorem Unwinding.cons {k : Nat} {c c' : Controller T} {n : Noted} {noted : List Noted}
    (h : c.Unwinding k noted c') (hn : n.actor = .controller) : c.Unwinding k (n :: noted) c' := by
  unfold Unwinding
  rwa [Noted.effectsOf_cons_of_ne (by simp [hn])]

omit [Drawable T] in
theorem release_eq (id : String) (during : List Noted) (reply : Except EngineError Unit) :
    ∃ warning : List Log.Record,
      release id during reply = calls (.stop id) :: during ++ warning.map notes := by
  unfold release
  cases reply with
  | ok accepted => exact ⟨[], rfl⟩
  | error e => exact ⟨[_], rfl⟩

/-- What a stop comes to, stage by stage. -/
theorem stop_eq {c : Controller T} {session : Session} (h : c.session = some session)
    (s : Stopping T) :
    ∃ warning : List Log.Record, c.stop s =
      let before := c.closing.happenAll s.before
      let awaited := before.1.awaitPump session s.meanwhile s.due
      let during := awaited.controller.happenAll s.releasing
      ⟨awaited.reply, during.1.advance .terminated,
        notes (Log.info "stopping session" [("id", session.id)]) ::
          before.2 ++ awaited.noted ++ (calls (.stop session.id) :: during.2 ++ warning.map notes) ++
            [notes (Log.info "session stopped" [("id", session.id)])]⟩ := by
  obtain ⟨warning, hrelease⟩ := release_eq session.id
    ((c.closing.happenAll s.before).1.awaitPump session s.meanwhile s.due |>.controller.happenAll
      s.releasing).2 s.reply
  refine ⟨warning, ?_⟩
  unfold stop
  rw [h]
  dsimp only
  rw [← hrelease]
  rfl

/-- **A stop comes in two parts**, before and after it gives the session back to the engine.  In between
the session's thread has been told to stop, and it has ended if the stop says so. -/
theorem stop_spec {c : Controller T} {session : Session} (h : c.session = some session)
    (s : Stopping T) :
    ∃ c' before rest, (c.stop s).noted = before ++ calls (.stop session.id) :: rest ∧
      Noted.sessionCalls before = [] ∧
      (∀ k, c.Unwinding k before c' ∧ c'.Unwinding k rest (c.stop s).controller) ∧
      ∀ k, session.thread = some k → k < c.threads.size →
        ∃ t, c'.threads[k]? = some t ∧ t.pump.running = false ∧
          ((c.stop s).reply = .stopped → t.hasEnded = true) := by
  obtain ⟨warning, hstop⟩ := stop_eq h s
  rw [hstop]
  dsimp only
  generalize hfirst : c.closing.happenAll s.before = first
  generalize hawaited : first.1.awaitPump session s.meanwhile s.due = awaited
  refine ⟨awaited.controller,
    notes (Log.info "stopping session" [("id", session.id)]) :: first.2 ++ awaited.noted,
    (awaited.controller.happenAll s.releasing).2 ++
      (warning ++ [Log.info "session stopped" [("id", session.id)]]).map notes,
    by simp, ?_, fun k => ⟨?_, ?_⟩, ?_⟩
  · simp [notes, ← hfirst, ← hawaited]
  · have hclosing : c.Unwinding k [] c.closing := .of_kept fun _ ht => ⟨ht, rfl⟩
    rw [← hawaited, ← hfirst]
    exact ((hclosing.trans (unwinding_happenAll k c.closing s.before)).trans
      (unwinding_awaitPump k _ session s.meanwhile s.due)).cons rfl
  · exact (unwinding_happenAll k _ s.releasing).trans
      (.of_kept fun _ ht => ⟨ht, Noted.effectsOf_map_notes k _⟩)
  · intro k hk hlt
    rw [← hawaited, ← hfirst]
    refine awaitPump_spec hk ?_ s.meanwhile s.due
    rw [(stable_size c.threads.size).happenAll (c := c.closing) rfl s.before]
    exact hlt

/-- A stop neither creates a thread nor removes one. -/
theorem size_stop (c : Controller T) (s : Stopping T) :
    (c.stop s).controller.threads.size = c.threads.size := by
  cases hsession : c.session with
  | none => rw [stop_of_none hsession]
  | some session =>
    obtain ⟨c', hsize, hstop⟩ := (stable_size c.threads.size).stop hsession rfl s
    rw [hstop]
    exact hsize

theorem unwinding_stop (k : Nat) (c : Controller T) (s : Stopping T) :
    c.Unwinding k (c.stop s).noted (c.stop s).controller := by
  cases hsession : c.session with
  | none =>
    rw [stop_of_none hsession]
    exact .of_kept fun _ ht => ⟨ht, rfl⟩
  | some session =>
    obtain ⟨c', before, rest, hnoted, -, hparts, -⟩ := stop_spec hsession s
    rw [hnoted]
    exact (hparts k).1.trans ((hparts k).2.cons rfl)

/-- What opening a session adds to the events in its course touches none of the threads that there
are. -/
theorem openSession_kept (c : Controller T) (id : String) (credentials : Credentials)
    (mode : SessionMode) (replies : Replies T) :
    let opened := c.opening.happenAll replies.opening
    ∃ rest, (c.openSession id credentials mode replies).noted =
        notes (Log.info "starting session" [("id", id),
          ("password_len", toString credentials.length), ("mode", mode.label)]) ::
        calls (.start id credentials.secret) :: (opened.2 ++ rest) ∧
      ∀ k t, opened.1.threads[k]? = some t →
        (c.openSession id credentials mode replies).controller.threads[k]? = some t ∧
        Noted.effectsOf (.pump k) rest = [] := by
  unfold openSession
  dsimp only
  cases replies.start with
  | error e => exact ⟨_, rfl, fun k t ht => ⟨ht, rfl⟩⟩
  | ok accepted =>
    cases replies.spawn with
    | error reason => exact ⟨_, rfl, fun k t ht => ⟨ht, rfl⟩⟩
    | ok spawned =>
      refine ⟨_, rfl, fun k t ht => ?_⟩
      -- the new thread is another one
      have hlt : k < (c.opening.happenAll replies.opening).1.threads.size :=
        (Array.getElem?_eq_some_iff.mp ht).1
      refine ⟨(Array.getElem?_push_lt hlt).trans ?_, ?_⟩
      · rw [← Array.getElem?_eq_getElem hlt]
        exact ht
      · have hother : Actor.pump (c.opening.happenAll replies.opening).1.threads.size ≠ .pump k := by
          simpa using Nat.ne_of_gt hlt
        exact Noted.effectsOf_cons_of_ne hother _

theorem unwinding_openSession (k : Nat) (c : Controller T) (id : String) (credentials : Credentials)
    (mode : SessionMode) (replies : Replies T) :
    c.Unwinding k (c.openSession id credentials mode replies).noted
      (c.openSession id credentials mode replies).controller := by
  have hopening : c.Unwinding k [] c.opening := .of_kept fun _ ht => ⟨ht, rfl⟩
  have hduring := hopening.trans (unwinding_happenAll k c.opening replies.opening)
  obtain ⟨rest, hnoted, hkept⟩ := c.openSession_kept id credentials mode replies
  rw [hnoted]
  exact ((hduring.trans (.of_kept (hkept k))).cons rfl).cons rfl

theorem unwinding_start (k : Nat) (c : Controller T) (id : String) (credentials : Credentials)
    (mode : SessionMode) (replies : Replies T) :
    c.Unwinding k (c.start id credentials mode replies).noted
      (c.start id credentials mode replies).controller := by
  unfold start
  split
  · exact .of_kept fun _ ht => ⟨ht, rfl⟩
  · split
    · exact unwinding_openSession k c id credentials mode replies
    · split
      · exact .of_kept fun _ ht => ⟨ht, rfl⟩
      · exact (unwinding_stop k c replies.stopping).trans
          (unwinding_openSession k _ id credentials mode replies)

theorem unwinding_perform (k : Nat) (c : Controller T) (operation : Operation T) :
    c.Unwinding k (c.perform operation).noted (c.perform operation).controller := by
  cases operation with
  | start id credentials mode replies => exact unwinding_start k c id credentials mode replies
  | stop s => exact unwinding_stop k c s
  | drop s => exact unwinding_stop k c s
  | event event => exact unwinding_happen k c event

theorem unwinding_performAll (k : Nat) (c : Controller T) (operations : List (Operation T)) :
    c.Unwinding k (c.performAll operations).noted (c.performAll operations).controller := by
  induction operations generalizing c with
  | nil => exact .of_kept fun _ ht => ⟨ht, rfl⟩
  | cons operation rest ih => exact (unwinding_perform k c operation).trans (ih _)

end Controller

end DeskView
