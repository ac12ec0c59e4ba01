import DeskView.Proofs.Session.Unwinding

/-!
# Who asks the engine

Whatever a controller does is put together from a few steps: events, signals to a thread, a thread that
leaves its loop, a thread that is created, and what the controller itself says.  A relation between what is
before and after that holds of these and can be put together (`Controller.Stepwise`) holds of every
operation (`Stepwise.perform`) and of every history (`Stepwise.performAll`).

There are two such relations here.  `Controller.AskedByPumps`: the controller itself only opens and releases
sessions, and what else is asked of the engine is asked by the pumps.  `Controller.Silenced`: a thread that
is over or was told to stop asks nothing any more.  Between two operations that is every thread but the one
of the current session (`othersSilent_perform`).
-/

namespace DeskView

/-- A thread that asks the engine nothing any more: its loop is over, or it was told to stop. -/
def Thread.IsSilent (t : Thread) : Prop := t.hasEnded = true ∨ t.pump.running = false

/-- Whether something is a call into the engine that opens and releases no session. -/
def Noted.isQuestion (n : Noted) : Bool := n.effect.engineCall?.any fun call => !call.isSession

namespace Noted

/-- Without questions, all that the engine is called for are sessions. -/
theorem engineCalls_eq_sessionCalls {noted : List Noted} (h : ∀ n ∈ noted, n.isQuestion = false) :
    engineCalls noted = sessionCalls noted := by
  unfold sessionCalls
  rw [eq_comm, List.filter_eq_self]
  intro call hcall
  obtain ⟨n, hn, hmade⟩ := List.mem_filterMap.mp hcall
  have hquestion := h n hn
  unfold isQuestion at hquestion
  rw [hmade] at hquestion
  simpa using hquestion

/-- A question that an actor asks is among the calls of what it does. -/
theorem engineCalls_effectsOf_ne_nil {noted : List Noted} {n : Noted} (hn : n ∈ noted)
    (hquestion : n.isQuestion = true) : Effect.engineCalls (effectsOf n.actor noted) ≠ [] := by
  unfold isQuestion at hquestion
  rw [Option.any_eq_true] at hquestion
  obtain ⟨call, hcall, -⟩ := hquestion
  have heffect : n.effect ∈ effectsOf n.actor noted :=
    List.mem_map.mpr ⟨n, List.mem_filter.mpr ⟨hn, by simp⟩, rfl⟩
  exact List.ne_nil_of_mem (List.mem_filterMap.mpr ⟨n.effect, heffect, hcall⟩)

end Noted

namespace Controller

variable {T : Type} [Drawable T]

/-! ### Step by step -/

/-- A relation between a controller, what was noted since, and the controller afterwards, which holds of
each step that operations are made of, and of one after the other. -/
structure Stepwise (R : Controller T → List Noted → Controller T → Prop) : Prop where
  trans : ∀ {c c' c'' xs ys}, R c xs c' → R c' ys c'' → R c (xs ++ ys) c''
  /-- The controller changes what it knows, but not its threads. -/
  keeps : ∀ {c c'}, c'.threads = c.threads → R c [] c'
  /-- The controller writes to the log, or opens or releases a session. -/
  states : ∀ c n, n.actor = .controller → n.isQuestion = false → R c [n] c
  happen : ∀ c event, R c (c.happen event).2 (c.happen event).1
  tell : ∀ c k, R c [] (c.tell k)
  /-- A thread leaves its loop. -/
  leave : ∀ c k t, c.threads[k]? = some t → t.hasEnded = false →
    R c ((Actor.pump k).note [.log t.pump.logStopped]) (c.move k { t with phase := .exited .cancelled })
  /-- A thread is created. -/
  create : ∀ c t, R c [⟨.pump c.threads.size, .log t.pump.logRunning⟩]
    { c with threads := c.threads.push t }

namespace Stepwise

variable {R : Controller T → List Noted → Controller T → Prop}

theorem happenAll (hR : Stepwise R) (c : Controller T) (events : List (Event T)) :
    R c (c.happenAll events).2 (c.happenAll events).1 := by
  induction events generalizing c with
  | nil => exact hR.keeps rfl
  | cons event rest ih => exact hR.trans (hR.happen c event) (ih _)

/-- What the controller says first. -/
theorem cons (hR : Stepwise R) {c c' : Controller T} {n : Noted} {noted : List Noted}
    (hn : n.actor = .controller) (hquestion : n.isQuestion = false) (h : R c noted c') :
    R c (n :: noted) c' := hR.trans (hR.states c n hn hquestion) h

/-- What the controller says last. -/
theorem concat (hR : Stepwise R) {c c' : Controller T} {n : Noted} {noted : List Noted}
    (h : R c noted c') (hn : n.actor = .controller) (hquestion : n.isQuestion = false) :
    R c (noted ++ [n]) c' := hR.trans h (hR.states c' n hn hquestion)

/-- What the controller changes in the end. -/
theorem keep (hR : Stepwise R) {c c' c'' : Controller T} {noted : List Noted} (h : R c noted c')
    (hthreads : c''.threads = c'.threads) : R c noted c'' := by
  have hkept := hR.trans h (hR.keeps hthreads)
  rwa [List.append_nil] at hkept

theorem await (hR : Stepwise R) (c : Controller T) (k : Nat) (meanwhile : List (Event T)) (due : Nat) :
    R c (c.await k meanwhile due).noted (c.await k meanwhile due).controller := by
  have hwaited := hR.trans (hR.tell c k) (hR.happenAll (c.tell k) meanwhile)
  rcases c.await_cases k meanwhile due with ⟨hcontroller, hnoted, -⟩ |
    ⟨t, ht, hgoing, hcontroller, hnoted⟩ <;> rw [hcontroller, hnoted]
  · exact hwaited
  · exact hR.trans hwaited (hR.leave _ k t ht hgoing)

theorem awaitPump (hR : Stepwise R) (c : Controller T) (session : Session)
    (meanwhile : List (Event T)) (due : Nat) :
    R c (c.awaitPump session meanwhile due).noted (c.awaitPump session meanwhile due).controller := by
  unfold Controller.awaitPump
  split
  · exact hR.keeps rfl
  · rename_i k _
    exact hR.concat (hR.cons rfl rfl (hR.await c k meanwhile due)) rfl rfl

theorem logs (hR : Stepwise R) (c : Controller T) (records : List Log.Record) :
    R c (records.map notes) c := by
  induction records with
  | nil => exact hR.keeps rfl
  | cons r records ih => exact hR.cons rfl rfl ih

theorem stop (hR : Stepwise R) (c : Controller T) (s : Stopping T) :
    R c (c.stop s).noted (c.stop s).controller := by
  cases hsession : c.session with
  | none =>
    rw [stop_of_none hsession]
    exact hR.states c _ rfl rfl
  | some session =>
    obtain ⟨warning, hstop⟩ := stop_eq hsession s
    rw [hstop]
    dsimp only
    generalize hfirst : c.closing.happenAll s.before = first
    generalize hawaited : first.1.awaitPump session s.meanwhile s.due = awaited
    have hbefore : R c first.2 first.1 := by
      have hclosing : R c [] c.closing := hR.keeps rfl
      exact hfirst ▸ hR.trans hclosing (hR.happenAll c.closing s.before)
    have hwaited : R first.1 awaited.noted awaited.controller :=
      hawaited ▸ hR.awaitPump first.1 session s.meanwhile s.due
    have hreleased := hR.trans (hR.cons (n := calls (.stop session.id)) rfl rfl
      (hR.happenAll awaited.controller s.releasing)) (hR.logs _ warning)
    exact hR.keep (hR.concat (hR.trans (hR.cons rfl rfl (hR.trans hbefore hwaited)) hreleased) rfl rfl) rfl

theorem openSession (hR : Stepwise R) (c : Controller T) (id : String) (credentials : Credentials)
    (mode : SessionMode) (replies : Replies T) :
    R c (c.openSession id credentials mode replies).noted
      (c.openSession id credentials mode replies).controller := by
  have hopening : R c [] c.opening := hR.keeps rfl
  have hduring := hR.trans hopening (hR.happenAll c.opening replies.opening)
  have hbegun := hR.cons (n := notes (Log.info "starting session" [("id", id),
    ("password_len", toString credentials.length), ("mode", mode.label)])) rfl rfl
    (hR.cons (n := calls (.start id credentials.secret)) rfl rfl hduring)
  unfold Controller.openSession
  dsimp only
  cases replies.start with
  | error e => exact hR.keep (hR.concat hbegun rfl rfl) rfl
  | ok accepted =>
    cases replies.spawn with
    | error reason => exact hR.keep (hR.concat hbegun rfl rfl) rfl
    | ok spawned =>
      have hcreated := hR.create (c.opening.happenAll replies.opening).1
        ⟨c.epoch + 1, .new id (c.opening.happenAll replies.opening).1.config, .waiting⟩
      exact hR.keep (hR.trans hbegun (hR.concat hcreated rfl rfl)) rfl

theorem start (hR : Stepwise R) (c : Controller T) (id : String) (credentials : Credentials)
    (mode : SessionMode) (replies : Replies T) :
    R c (c.start id credentials mode replies).noted
      (c.start id credentials mode replies).controller := by
  unfold Controller.start
  split
  · exact hR.states c _ rfl rfl
  · split
    · exact hR.openSession c id credentials mode replies
    · split
      · exact hR.keeps rfl
      · exact hR.trans (hR.stop c replies.stopping) (hR.openSession _ id credentials mode replies)

theorem perform (hR : Stepwise R) (c : Controller T) (operation : Operation T) :
    R c (c.perform operation).noted (c.perform operation).controller := by
  cases operation with
  | start id credentials mode replies => exact hR.start c id credentials mode replies
  | stop s => exact hR.stop c s
  | drop s => exact hR.stop c s
  | event event => exact hR.happen c event

theorem performAll (hR : Stepwise R) (c : Controller T) (operations : List (Operation T)) :
    R c (c.performAll operations).noted (c.performAll operations).controller := by
  induction operations generalizing c with
  | nil => exact hR.keeps rfl
  | cons operation rest ih => exact hR.trans (hR.perform c operation) (ih _)

end Stepwise

/-! ### Questions are asked by pumps -/

/-- All that was asked in between was asked by pumps whose threads had been created by the end. -/
structure AskedByPumps (c : Controller T) (noted : List Noted) (c' : Controller T) : Prop where
  grown : c.threads.size ≤ c'.threads.size
  asked : ∀ n ∈ noted, n.isQuestion = true → ∃ k, n.actor = .pump k ∧ k < c'.threads.size

omit [Drawable T] in
theorem AskedByPumps.of_silent {c c' : Controller T} {noted : List Noted}
    (hsize : c.threads.size ≤ c'.threads.size) (h : ∀ n ∈ noted, n.isQuestion = false) :
    c.AskedByPumps noted c' :=
  ⟨hsize, fun n hn hquestion => absurd hquestion (by simp [h n hn])⟩

theorem stepwise_askedByPumps : Stepwise (AskedByPumps (T := T)) where
  trans := by
    intro c c' c'' xs ys h h'
    refine ⟨Nat.le_trans h.grown h'.grown, ?_⟩
    intro n hn hquestion
    rcases List.mem_append.mp hn with hn | hn
    · obtain ⟨k, hactor, hk⟩ := h.asked n hn hquestion
      exact ⟨k, hactor, Nat.lt_of_lt_of_le hk h'.grown⟩
    · exact h'.asked n hn hquestion
  keeps hthreads := .of_silent (Nat.le_of_eq (congrArg Array.size hthreads.symm)) (by simp)
  states c n _ hquestion := .of_silent (Nat.le_refl _) (by simpa using hquestion)
  happen c event := by
    have hsize := (stable_size c.threads.size).happen (c := c) rfl event
    rcases c.happen_thread event with ⟨e, rfl⟩ | hnothing |
      ⟨k, t, t', surface, effects, -, hthread, -, -, -, hmove⟩
    · exact .of_silent (Nat.le_refl _) (by simp [happen, Noted.isQuestion, Effect.engineCall?])
    · rw [hnothing]
      exact .of_silent (Nat.le_refl _) (by simp)
    · refine ⟨Nat.le_of_eq hsize.symm, ?_⟩
      intro n hn _
      -- all that is noted of an event is what its thread does
      rw [hmove] at hn
      obtain ⟨effect, -, rfl⟩ := List.mem_map.mp hn
      exact ⟨k, rfl, hsize.symm ▸ (Array.getElem?_eq_some_iff.mp hthread).1⟩
  tell c k := .of_silent (Nat.le_of_eq ((stable_size c.threads.size).told (c := c) rfl k).symm) (by simp)
  leave c k t ht hgoing := by
    have hsize := (stable_size c.threads.size).move c k t { t with phase := .exited .cancelled } rfl ht
      (Thread.lostLink_of_going hgoing) rfl
    exact .of_silent (Nat.le_of_eq hsize.symm) (by simp [Actor.note, Noted.isQuestion, Effect.engineCall?])
  create c t := .of_silent (by simp) (by simp [Noted.isQuestion, Effect.engineCall?])

/-! ### Silent threads -/

/-- In between thread `k`, if it was silent, asked nothing, and it is silent still.  If its loop was over, it
is over in the same way. -/
def Silenced (k : Nat) (c : Controller T) (noted : List Noted) (c' : Controller T) : Prop :=
  ∀ t, c.threads[k]? = some t → t.IsSilent →
    Effect.engineCalls (Noted.effectsOf (.pump k) noted) = [] ∧
    ∃ t', c'.threads[k]? = some t' ∧ t'.IsSilent ∧ (t.hasEnded = true → t'.phase = t.phase)

omit [Drawable T] in
theorem Silenced.of_kept {k : Nat} {c c' : Controller T} {noted : List Noted}
    (hkept : ∀ t, c.threads[k]? = some t →
      c'.threads[k]? = some t ∧ Noted.effectsOf (.pump k) noted = []) : c.Silenced k noted c' := by
  intro t ht hsilent
  obtain ⟨ht', hnoted⟩ := hkept t ht
  rw [hnoted]
  exact ⟨rfl, t, ht', hsilent, fun _ => rfl⟩

omit [Drawable T] in
theorem Silenced.isSilent {k : Nat} {c c' : Controller T} {noted : List Noted} (h : c.Silenced k noted c')
    (hk : k < c.threads.size) (hsilent : ∀ t, c.threads[k]? = some t → t.IsSilent) {t' : Thread}
    (ht' : c'.threads[k]? = some t') : t'.IsSilent := by
  have ht := Array.getElem?_eq_getElem hk
  obtain ⟨-, t'', ht'', hsilent'', -⟩ := h _ ht (hsilent _ ht)
  cases ht'.symm.trans ht''
  exact hsilent''

omit [Drawable T] in
/-- A thread that is over stays so. -/
theorem Silenced.hasEnded {k : Nat} {c c' : Controller T} {noted : List Noted}
    (h : c.Silenced k noted c') (hended : c.hasEnded k = true) : c'.hasEnded k = true := by
  unfold Controller.hasEnded at hended ⊢
  rw [Option.any_eq_true] at hended
  obtain ⟨t, ht, hended⟩ := hended
  obtain ⟨-, t', ht', -, hphase⟩ := h t ht (.inl hended)
  rw [ht', Option.any_some]
  unfold Thread.hasEnded at hended ⊢
  rwa [hphase hended]

theorem stepwise_silenced (k : Nat) : Stepwise (Silenced (T := T) k) where
  trans := by
    intro c c' c'' xs ys h h' t ht hsilent
    obtain ⟨hxs, t', ht', hsilent', hphase⟩ := h t ht hsilent
    obtain ⟨hys, t'', ht'', hsilent'', hphase'⟩ := h' t' ht' hsilent'
    refine ⟨by rw [Noted.effectsOf_append, Effect.engineCalls_append, hxs, hys]; rfl,
      t'', ht'', hsilent'', fun hended => ?_⟩
    have hended' : t'.hasEnded = true := by
      unfold Thread.hasEnded at hended ⊢
      rwa [hphase hended]
    exact (hphase' hended').trans (hphase hended)
  keeps hthreads := .of_kept fun t ht => ⟨by rw [hthreads, ht], rfl⟩
  states c n hn _ := .of_kept fun t ht => ⟨ht, Noted.effectsOf_cons_of_ne (by simp [hn]) []⟩
  happen c event := by
    intro t ht hsilent
    rcases hsilent with hended | htold
    · -- a thread that is over is not moved by an event
      by_cases hevent : event.thread? = some k
      · rw [happen_of_hasEnded ht hended hevent]
        exact ⟨rfl, t, ht, .inl hended, fun _ => rfl⟩
      · obtain ⟨hkept, hnoted⟩ := happen_of_thread?_ne (c := c) hevent
        rw [hnoted]
        exact ⟨rfl, t, hkept.trans ht, .inl hended, fun _ => rfl⟩
    · obtain ⟨t', ht', hunwinds⟩ := unwinding_happen k c event t ht htold
      refine ⟨hunwinds.engineCalls, t', ht', .inr (hunwinds.told htold), fun hended => ?_⟩
      rw [(hunwinds.eq_of_hasEnded hended).2]
  tell c j := by
    intro t ht hsilent
    rcases getElem?_tell_cases ht j with hkept | hstopped
    · exact ⟨rfl, t, hkept, hsilent, fun _ => rfl⟩
    · exact ⟨rfl, _, hstopped, .inr rfl, fun _ => rfl⟩
  leave c j t ht hgoing := by
    by_cases hjk : j = k
    · subst hjk
      intro t' ht' _
      cases ht.symm.trans ht'
      rw [Noted.effectsOf_note_self]
      refine ⟨rfl, _, getElem?_move_self ht _, .inl rfl, fun hended => ?_⟩
      rw [hgoing] at hended
      cases hended
    · refine .of_kept fun t' ht' => ⟨?_, Noted.effectsOf_note_of_ne (by simpa using hjk) _⟩
      exact (getElem?_move ht _ k).trans ((if_neg (Ne.symm hjk)).trans ht')
  create c t := by
    refine .of_kept fun t' ht' => ?_
    have hk : k < c.threads.size := (Array.getElem?_eq_some_iff.mp ht').1
    refine ⟨?_, Noted.effectsOf_cons_of_ne (by simpa using Nat.ne_of_gt hk) []⟩
    exact (Array.getElem?_push_lt hk).trans ((Array.getElem?_eq_getElem hk).symm.trans ht')

/-! ### When nobody has anything to ask -/

/-- Every thread is silent. -/
def AllSilent (c : Controller T) : Prop :=
  ∀ (k : Nat) (t : Thread), c.threads[k]? = some t → t.IsSilent

/-- Every thread is silent but that of the current session, if it has one. -/
def OthersSilent (c : Controller T) : Prop :=
  ∀ (k : Nat) (t : Thread), c.threads[k]? = some t →
    (∀ session, c.session = some session → session.thread ≠ some k) → t.IsSilent

omit [Drawable T] in
theorem OthersSilent.allSilent_of_none {c : Controller T} (h : c.OthersSilent) (hnone : c.session = none) :
    c.AllSilent := by
  intro k t ht
  refine h k t ht fun session hsession => ?_
  rw [hnone] at hsession
  cases hsession

omit [Drawable T] in
/-- If all threads are silent and no other is created, nothing is asked, and they are silent still. -/
theorem AllSilent.of_silenced {c c' : Controller T} (h : c.AllSilent) {noted : List Noted}
    (hasked : c.AskedByPumps noted c') (hsilenced : ∀ k, c.Silenced k noted c')
    (hsize : c'.threads.size = c.threads.size) :
    Noted.engineCalls noted = Noted.sessionCalls noted ∧ c'.AllSilent := by
  constructor
  · apply Noted.engineCalls_eq_sessionCalls
    intro n hn
    by_contra hquestion
    rw [Bool.not_eq_false] at hquestion
    -- whoever asks is one of the threads that were silent before
    obtain ⟨k, hactor, hk⟩ := hasked.asked n hn hquestion
    have ht := Array.getElem?_eq_getElem (hsize ▸ hk : k < c.threads.size)
    have hcalls := Noted.engineCalls_effectsOf_ne_nil hn hquestion
    rw [hactor] at hcalls
    exact hcalls (hsilenced k _ ht (h k _ ht)).1
  · intro k t' ht'
    exact (hsilenced k).isSilent (hsize ▸ (Array.getElem?_eq_some_iff.mp ht').1) (h k) ht'

/-- A stop in silence releases the session and calls the engine for nothing else. -/
theorem AllSilent.stop {c : Controller T} (h : c.AllSilent) (s : Stopping T) :
    Noted.engineCalls (c.stop s).noted = Noted.sessionCalls (c.stop s).noted ∧
      (c.stop s).controller.AllSilent :=
  h.of_silenced (stepwise_askedByPumps.stop c s) (fun k => (stepwise_silenced k).stop c s) (size_stop c s)

/-- A session that is opened in silence takes one call into the engine. -/
theorem AllSilent.engineCalls_openSession {c : Controller T} (h : c.AllSilent) (id : String)
    (credentials : Credentials) (mode : SessionMode) (replies : Replies T) :
    Noted.engineCalls (c.openSession id credentials mode replies).noted =
      [.start id credentials.secret] := by
  have hopening : c.opening.AllSilent := h
  have hduring : Noted.engineCalls (c.opening.happenAll replies.opening).2 = [] := by
    rw [(hopening.of_silenced (stepwise_askedByPumps.happenAll _ _)
      (fun k => (stepwise_silenced k).happenAll _ _)
      ((stable_size _).happenAll rfl replies.opening)).1, sessionCalls_happenAll]
  have hbegun : Noted.engineCalls (calls (.start id credentials.secret) ::
      (c.opening.happenAll replies.opening).2) = [.start id credentials.secret] :=
    congrArg (Engine.Call.start id credentials.secret :: ·) hduring
  unfold openSession
  dsimp only
  cases replies.start with
  | error e => exact (Noted.engineCalls_append _ _).trans (congrArg (· ++ []) hbegun)
  | ok accepted =>
    cases replies.spawn with
    | error reason => exact (Noted.engineCalls_append _ _).trans (congrArg (· ++ []) hbegun)
    | ok spawned => exact (Noted.engineCalls_append _ _).trans (congrArg (· ++ []) hbegun)

/-- After a stop all threads are silent, the one of the session included. -/
theorem OthersSilent.stop {c : Controller T} (h : c.OthersSilent) (s : Stopping T) :
    (c.stop s).controller.AllSilent := by
  cases hsession : c.session with
  | none =>
    rw [stop_of_none hsession]
    exact h.allSilent_of_none hsession
  | some session =>
    intro k t' ht'
    have hk : k < c.threads.size := size_stop c s ▸ (Array.getElem?_eq_some_iff.mp ht').1
    by_cases hcurrent : session.thread = some k
    · -- the session's own thread was told to stop
      obtain ⟨c', before, rest, -, -, hparts, hstate⟩ := stop_spec hsession s
      obtain ⟨told, htold, hrunning, -⟩ := hstate k hcurrent hk
      obtain ⟨t'', ht'', hunwinds⟩ := (hparts k).2 told htold hrunning
      cases ht'.symm.trans ht''
      exact .inr (hunwinds.told hrunning)
    · refine ((stepwise_silenced k).stop c s).isSilent hk (fun t ht => ?_) ht'
      refine h k t ht fun session' hsession' => ?_
      cases hsession.symm.trans hsession'
      exact hcurrent

/-- The only thread that is not silent after a start is that of the new session. -/
theorem AllSilent.openSession {c : Controller T} (h : c.AllSilent) (id : String)
    (credentials : Credentials) (mode : SessionMode) (replies : Replies T) :
    (c.openSession id credentials mode replies).controller.OthersSilent := by
  obtain ⟨c', hsize, hopened⟩ := (stable_size (T := T) c.threads.size).openSession (c := c) rfl id
    credentials mode replies
  intro k t' ht' hother
  have hk : k < c.threads.size := by
    have hlt := (Array.getElem?_eq_some_iff.mp ht').1
    rcases hopened with hopened | hopened | hopened <;> rw [hopened] at hlt hother
    · exact hsize ▸ hlt
    · exact hsize ▸ hlt
    · have hnew : k ≠ c'.threads.size := fun hnew => hother _ rfl (congrArg some hnew.symm)
      have hle : k < c'.threads.size + 1 := (Array.size_push _ : _) ▸ hlt
      omega
  exact ((stepwise_silenced k).openSession c id credentials mode replies).isSilent hk (h k) ht'

/-- **Between two operations only the current session's thread can have anything to ask.** -/
theorem othersSilent_perform {c : Controller T} (h : c.OthersSilent) (operation : Operation T) :
    (c.perform operation).controller.OthersSilent := by
  have hstop : ∀ s, (c.stop s).controller.OthersSilent :=
    fun s k t ht _ => h.stop s k t ht
  cases operation with
  | start id credentials mode replies =>
    rcases c.start_cases id credentials mode replies with ⟨hsame, -⟩ | ⟨-, hnone, hopen⟩ |
      ⟨-, -, -, -, hopen, -⟩
    · exact (congrArg OthersSilent hsame).mpr h
    · exact (congrArg OthersSilent (congrArg Step.controller hopen)).mpr
        ((h.allSilent_of_none hnone).openSession id credentials mode replies)
    · exact (congrArg OthersSilent hopen).mpr
        ((h.stop replies.stopping).openSession id credentials mode replies)
  | stop s => exact hstop s
  | drop s => exact hstop s
  | event event =>
    have hsession := (stable_session c.session).happen (c := c) rfl event
    intro k t' ht' hother
    have hk : k < c.threads.size :=
      (stable_size c.threads.size).happen (c := c) rfl event ▸ (Array.getElem?_eq_some_iff.mp ht').1
    exact ((stepwise_silenced k).happen c event).isSilent hk
      (fun t ht => h k t ht fun session hcurrent => hother session (hsession.trans hcurrent)) ht'

end Controller

end DeskView
