import DeskView.Proofs.Session.Status
import DeskView.Proofs.Session.Turns

/-!
# Who is heard

A thread reports when its loop ends, and the controller looks at the number of the start that the thread
belongs to.  `Controller.Attended` says what that comes to: a thread that has the number of the last
start belongs to a session that is still there, or else there is nothing left to terminate.  `Midway.Sound`
adds that the strides of an operation come in their order, which is what keeps a session from being
announced while there is another.

Both hold at every point of every interleaving (`Midway.Sound.run`), and so what a thread does is published
only if it belongs to the session that is there (`Midway.Sound.feed_step`).
-/

namespace DeskView

/-- The thread that a turn lets move, if any. -/
def Turn.thread? {T : Type} : Turn T → Option Nat
  | .begin (.event e) => e.thread?
  | .begin _ => none
  | .go => none
  | .event e => e.thread?
  | .exit k _ => some k

namespace Controller

variable {T : Type}

/-! ### Who is heard -/

theorem exit_of_hasEnded {c : Controller T} {k : Nat} {t : Thread} (ht : c.threads[k]? = some t)
    (hended : t.hasEnded = true) (exit : LoopEnd) : c.exit k exit = c := by
  unfold Controller.exit
  rw [ht]
  exact if_pos hended

/-- The end of a loop is a move of its thread. -/
theorem exit_eq_move {c : Controller T} {k : Nat} {t : Thread} (ht : c.threads[k]? = some t)
    (hgoing : t.hasEnded = false) (exit : LoopEnd) :
    c.exit k exit = c.move k { t with pump := exit.halt t.pump, phase := .exited exit } := by
  unfold Controller.exit move
  rw [ht]
  dsimp only
  rw [if_neg (by simp [hgoing])]
  cases exit with
  | cancelled => rw [hear_of_not_lostLink _ rfl, report]
  | linkLost e =>
    unfold report hear
    simp [Thread.lostLink]

/-- What is stable outlives the end of a loop. -/
theorem Stable.exit {P : Controller T → Prop} (hP : Stable P) {c : Controller T} (hc : P c) (k : Nat)
    (exit : LoopEnd) : P (c.exit k exit) := by
  cases ht : c.threads[k]? with
  | none =>
    unfold Controller.exit
    rw [ht]
    exact hc
  | some t =>
    cases hended : t.hasEnded with
    | true =>
      rw [exit_of_hasEnded ht hended]
      exact hc
    | false =>
      rw [exit_eq_move ht hended]
      exact hP.move c k t _ hc ht (Thread.lostLink_of_going hended) rfl

/-- The status after the controller heard from a thread. -/
theorem status_hear (c : Controller T) (t : Thread) :
    (c.hear t).status = c.status ∨ (c.hear t).status = .terminated := by
  unfold hear
  split
  · rw [status_advance, SessionStatus.advance_terminated]
    exact .inr rfl
  · exact .inl rfl

/-- A thread is from no later start than the last, and if it is from the last it can only be heard for a
session of its own: `own` says which threads have one, unless the session has terminated already. -/
def Attended (c : Controller T) (own : Nat → Prop) : Prop :=
  ∀ k t, c.threads[k]? = some t →
    t.epoch ≤ c.epoch ∧ (t.epoch = c.epoch → c.status = .terminated ∨ own k)

theorem Attended.setThread {c : Controller T} {own : Nat → Prop} (h : c.Attended own) {k : Nat}
    {t t' : Thread} (ht : c.threads[k]? = some t) (hepoch : t'.epoch = t.epoch) :
    (c.setThread k t').Attended own := by
  intro j tj hj
  rw [getElem?_setThread ht] at hj
  split at hj
  · rename_i hjk
    cases hj
    subst hjk
    rw [hepoch]
    exact h j t ht
  · exact h j tj hj

theorem Attended.mono {c : Controller T} {own own' : Nat → Prop} (h : c.Attended own)
    (hown : ∀ k, own k → own' k) : c.Attended own' := by
  intro k t ht
  exact ⟨(h k t ht).1, fun heq => ((h k t ht).2 heq).imp_right (hown k)⟩

/-- When a session has terminated nobody can be heard. -/
theorem Attended.terminated {c : Controller T} {own : Nat → Prop} (h : c.Attended own)
    (own' : Nat → Prop) : (c.advance .terminated).Attended own' := by
  intro k t ht
  refine ⟨(h k t ht).1, fun _ => .inl ?_⟩
  rw [status_advance, SessionStatus.advance_terminated]

/-- A status that is terminated stays so. -/
theorem Attended.advance {c : Controller T} {own : Nat → Prop} (h : c.Attended own)
    (s : SessionStatus) : (c.advance s).Attended own := by
  intro k t ht
  refine ⟨(h k t ht).1, fun heq => ((h k t ht).2 heq).imp_left fun hstatus => ?_⟩
  rw [status_advance, hstatus]
  cases s <;> rfl

/-- A session that is announced has another number than all that came before it. -/
theorem Attended.opening {c : Controller T} {own : Nat → Prop} (h : c.Attended own)
    (own' : Nat → Prop) : c.opening.Attended own' := by
  intro k t ht
  have hle := (h k t ht).1
  refine ⟨Nat.le_succ_of_le hle, fun heq => ?_⟩
  have : t.epoch = c.epoch + 1 := heq
  omega

/-- A session that is accepted or refused is heard from its own thread only. -/
theorem Attended.settle {c : Controller T} (h : c.Attended fun _ => False) (id : String)
    (mode : SessionMode) (start : Except EngineError Unit) (spawn : Except String Unit) :
    ∃ session, (c.settle c.epoch id mode start spawn).1.session = some session ∧
      (c.settle c.epoch id mode start spawn).1.Attended (session.thread = some ·) := by
  have hrefused : ({ c with session := some ⟨id, mode, none⟩ } : Controller T).Attended fun _ => False :=
    h
  unfold Controller.settle
  cases start with
  | error e => exact ⟨⟨id, mode, none⟩, rfl, hrefused.terminated _⟩
  | ok accepted =>
    cases spawn with
    | error reason => exact ⟨⟨id, mode, none⟩, rfl, (hrefused.advance .active).terminated _⟩
    | ok spawned =>
      refine ⟨⟨id, mode, some c.threads.size⟩, rfl, Attended.advance ?_ .active⟩
      intro k t ht
      rw [Array.getElem?_push] at ht
      split at ht
      · rename_i hk
        cases ht
        exact ⟨Nat.le_refl _, fun _ => .inr (congrArg some hk.symm)⟩
      · exact ⟨(h k t ht).1, fun heq => ((h k t ht).2 heq).imp_right False.elim⟩

theorem stable_attended (own : Nat → Prop) : Stable fun c : Controller T => c.Attended own where
  surface _ _ h := h
  move c k t t' h ht _ hepoch := by
    have hset := h.setThread ht hepoch
    unfold move
    intro j tj hj
    rw [threads_hear] at hj
    obtain ⟨hle, hown⟩ := hset j tj hj
    rw [epoch_hear]
    refine ⟨hle, fun heq => ?_⟩
    rcases status_hear (c.setThread k t') t' with hstatus | hstatus
    · rw [hstatus]
      exact hown heq
    · exact .inl hstatus
  tell _ _ _ h ht := h.setThread ht rfl

end Controller

namespace Midway

variable {T : Type}

/-- Whether strides can be made in this order, if there is a current session or not and one that is being
stopped or not. -/
def inOrder : List Stride → (current closing : Bool) → Bool
  | [], _, closing => !closing
  | .take :: rest, current, closing => current && !closing && inOrder rest false true
  | .tell :: rest, current, closing => closing && inOrder rest current closing
  | .join _ :: rest, current, closing => closing && inOrder rest current closing
  | .close _ :: rest, current, closing => closing && inOrder rest current false
  | .announce :: rest, current, closing => !current && !closing && inOrder rest false false
  | .settle _ _ _ _ :: rest, current, closing => !current && !closing && inOrder rest true false

/-- Whether the thread is that of the current session, or of the one that is being stopped. -/
def Owns (m : Midway T) (k : Nat) : Prop :=
  ∃ session, (m.controller.session = some session ∨ m.closing.map Closing.session = some session) ∧
    session.thread = some k

/-- What holds at every point: the strides that are left can be made, and no thread is heard for a session
that is not its own. -/
structure Sound (m : Midway T) : Prop where
  order : inOrder m.todo m.controller.session.isSome m.closing.isSome = true
  attended : m.controller.Attended m.Owns

theorem owns_congr {m m' : Midway T} (hsession : m'.controller.session = m.controller.session)
    (hclosing : m'.closing.map Closing.session = m.closing.map Closing.session) :
    m'.Owns = m.Owns := by
  unfold Owns
  rw [hsession, hclosing]

/-- A point at which no session was opened, taken or released is as sound as the one before. -/
theorem sound_of_kept {m m' : Midway T}
    (hc : m'.controller.session = m.controller.session ∧ m'.controller.Attended m.Owns)
    (hclosing : m'.closing.map Closing.session = m.closing.map Closing.session)
    (htodo : inOrder m'.todo m.controller.session.isSome m.closing.isSome = true) : m'.Sound := by
  refine ⟨?_, owns_congr hc.1 hclosing ▸ hc.2⟩
  have hsome : m'.closing.isSome = m.closing.isSome := by
    rw [← Option.isSome_map, hclosing, Option.isSome_map]
  rw [hc.1, hsome]
  exact htodo

theorem sound_new (config : PumpSettings) (surface : Surface T) : (new config surface).Sound where
  order := rfl
  attended k t ht := by simp [new, Controller.new] at ht

theorem stable_kept (m : Midway T) : Controller.Stable fun c : Controller T =>
    c.session = m.controller.session ∧ c.Attended m.Owns :=
  (Controller.stable_session m.controller.session).and (Controller.stable_attended m.Owns)

/-- The strides of an operation can be made. -/
theorem inOrder_strides (c : Controller T) (operation : Controller.Operation T) :
    inOrder (c.strides operation).1 c.session.isSome false = true := by
  unfold Controller.strides
  cases operation with
  | start id credentials mode replies =>
    dsimp only
    split
    · rfl
    · cases c.session with
      | none => rfl
      | some session =>
        dsimp only
        split <;> rfl
  | stop s => cases c.session <;> rfl
  | drop s => cases c.session <;> rfl
  | event e => rfl

variable [Drawable T]

/-- Every stride that is next keeps a point sound. -/
theorem Sound.go {m : Midway T} (h : m.Sound) : (m.step .go).Sound := by
  have hstable := stable_kept m
  have hm : m.controller.session = m.controller.session ∧ m.controller.Attended m.Owns :=
    ⟨rfl, h.attended⟩
  unfold step
  cases htodo : m.todo with
  | nil => exact h
  | cons s rest =>
    have horder := h.order
    rw [htodo] at horder
    dsimp only
    unfold stride
    cases s with
    | take =>
      simp only [inOrder, Bool.and_eq_true, Bool.not_eq_true', Option.isSome_eq_false_iff,
        Option.isNone_iff_eq_none] at horder
      obtain ⟨⟨hsession, hclosing⟩, hrest⟩ := horder
      obtain ⟨session, hsession⟩ := Option.isSome_iff_exists.mp hsession
      simp only [hsession]
      refine ⟨hrest, (Controller.Attended.advance h.attended .terminating).mono ?_⟩
      -- the session is not the current one any more, but the one that is being stopped
      rintro k ⟨session', hsession' | hclosing', hk⟩
      · exact ⟨session', .inr (hsession.symm.trans hsession'), hk⟩
      · rw [hclosing] at hclosing'
        cases hclosing'
    | tell =>
      simp only [inOrder, Bool.and_eq_true] at horder
      dsimp only
      split
      · exact sound_of_kept hm rfl horder.2
      · exact sound_of_kept (hstable.told hm _) rfl horder.2
    | join due =>
      simp only [inOrder, Bool.and_eq_true] at horder
      dsimp only
      split
      · exact sound_of_kept hm rfl horder.2
      · rename_i session outcome hclosing
        exact sound_of_kept (hstable.awaitPump hm session [] due) (by simp [hclosing]) horder.2
    | close answer =>
      simp only [inOrder, Bool.and_eq_true] at horder
      exact ⟨horder.2, h.attended.terminated _⟩
    | announce =>
      simp only [inOrder, Bool.and_eq_true, Bool.not_eq_true'] at horder
      refine ⟨?_, h.attended.opening _⟩
      change inOrder rest m.controller.session.isSome m.closing.isSome = true
      rw [horder.1.1, horder.1.2]
      exact horder.2
    | settle id mode start spawn =>
      simp only [inOrder, Bool.and_eq_true, Bool.not_eq_true', Option.isSome_eq_false_iff,
        Option.isNone_iff_eq_none] at horder
      obtain ⟨⟨hsession, hclosing⟩, hrest⟩ := horder
      have hnobody : m.controller.Attended fun _ => False := by
        refine h.attended.mono ?_
        rintro k ⟨session, hsession' | hclosing', -⟩
        · rw [hsession] at hsession'
          cases hsession'
        · rw [hclosing] at hclosing'
          cases hclosing'
      obtain ⟨session, hsettled, hattended⟩ := hnobody.settle id mode start spawn
      refine ⟨?_, hattended.mono fun k hk => ⟨session, .inl hsettled, hk⟩⟩
      dsimp only
      rw [hsettled, hclosing]
      exact hrest

theorem Sound.step {m : Midway T} (h : m.Sound) (u : Turn T) : (m.step u).Sound := by
  have hm : m.controller.session = m.controller.session ∧ m.controller.Attended m.Owns :=
    ⟨rfl, h.attended⟩
  cases u with
  | begin operation =>
    unfold Midway.step
    cases htodo : m.todo with
    | cons s rest => simpa only [htodo] using h
    | nil =>
      have horder := h.order
      rw [htodo, inOrder, Bool.not_eq_true'] at horder
      have hstrides := inOrder_strides m.controller operation
      rw [← horder] at hstrides
      cases operation with
      | event e => exact sound_of_kept ((stable_kept m).happen hm e) rfl hstrides
      | _ => exact sound_of_kept hm rfl hstrides
  | go => exact h.go
  | event e => exact sound_of_kept ((stable_kept m).happen hm e) rfl h.order
  | exit k exit => exact sound_of_kept ((stable_kept m).exit hm k exit) rfl h.order

theorem Sound.run {m : Midway T} (h : m.Sound) (turns : List (Turn T)) : (m.run turns).Sound := by
  induction turns generalizing m with
  | nil => exact h
  | cons u rest ih => exact ih (h.step u)

/-! ### Who changes the status -/

/-- A turn of a thread is a move of that thread, after what it did to the surface. -/
theorem step_of_thread? {m : Midway T} {u : Turn T} {k : Nat} (hu : u.thread? = some k) :
    (m.step u).controller = m.controller ∨
    ∃ t t' surface, m.controller.threads[k]? = some t ∧ t'.epoch = t.epoch ∧
      (m.step u).controller = { m.controller with surface }.move k t' := by
  have hhappen : ∀ e : Event T, e.thread? = some k →
      (m.controller.happen e).1 = m.controller ∨
      ∃ t t' surface, m.controller.threads[k]? = some t ∧ t'.epoch = t.epoch ∧
        (m.controller.happen e).1 = { m.controller with surface }.move k t' := by
    intro e he
    rcases m.controller.happen_thread e with ⟨e, rfl⟩ | hnothing |
      ⟨j, t, t', surface, effects, hj, ht, -, hepoch, -, hmove⟩
    · cases he
    · exact .inl (by rw [hnothing])
    · cases he.symm.trans hj
      rw [hmove]
      exact .inr ⟨t, t', surface, ht, hepoch, rfl⟩
  cases u with
  | begin operation =>
    cases operation with
    | event e =>
      unfold step
      cases m.todo with
      | nil => exact hhappen e hu
      | cons s rest => exact .inl rfl
    | _ => cases hu
  | go => cases hu
  | event e => exact hhappen e hu
  | exit j x =>
    cases hu
    unfold step
    dsimp only
    cases ht : m.controller.threads[k]? with
    | none =>
      unfold Controller.exit
      rw [ht]
      exact .inl rfl
    | some t =>
      cases hended : t.hasEnded with
      | true => exact .inl (Controller.exit_of_hasEnded ht hended x)
      | false =>
        rw [Controller.exit_eq_move ht hended]
        exact .inr ⟨t, { t with pump := x.halt t.pump, phase := .exited x }, m.controller.surface, rfl,
          rfl, rfl⟩

omit [Drawable T] in
/-- A thread is not heard of, unless it is that of the current session or of the one being stopped, and
that has not terminated. -/
theorem Sound.hear {m : Midway T} (h : m.Sound) {k : Nat} {t t' : Thread}
    (ht : m.controller.threads[k]? = some t) (hepoch : t'.epoch = t.epoch)
    (hunheard : ¬ m.Owns k ∨ m.controller.status = .terminated) (c : Controller T)
    (hc : c.epoch = m.controller.epoch) (hstatus : c.feed = m.controller.feed) : c.hear t' = c := by
  unfold Controller.hear
  split
  · rename_i hheard
    have hterminated : m.controller.status = .terminated := by
      rcases hunheard with hother | hterminated
      · exact ((h.attended k t ht).2 (by rw [← hepoch, hheard.2, hc])).resolve_right hother
      · exact hterminated
    unfold Controller.advance StatusFeed.advance
    rw [if_neg ?_]
    rw [hstatus, show m.controller.feed.current = .terminated from hterminated]
    decide
  · rfl

/-- A turn of a thread publishes something only if the thread belongs to the current session or to the one
that is being stopped, and then it terminates that. -/
theorem Sound.feed_step {k : Nat} {m : Midway T} (hm : m.Sound) {u : Turn T} (hu : u.thread? = some k)
    (hfeed : (m.step u).controller.feed ≠ m.controller.feed) :
    m.Owns k ∧ m.controller.status.rank < SessionStatus.terminated.rank ∧
      (m.step u).controller.status = .terminated := by
  rcases step_of_thread? hu with hsame | ⟨t, t', surface, ht, hepoch, hmove⟩
  · exact absurd (congrArg Controller.feed hsame) hfeed
  · generalize hc : ({ m.controller with surface } : Controller T) = c at hmove
    have hsame : c.epoch = m.controller.epoch ∧ c.feed = m.controller.feed := by
      rw [← hc]
      exact ⟨rfl, rfl⟩
    have hheard : ¬ (¬ m.Owns k ∨ m.controller.status = .terminated) := by
      intro hunheard
      unfold Controller.move at hmove
      rw [hm.hear ht hepoch hunheard (c.setThread k t') hsame.1 hsame.2] at hmove
      exact hfeed ((congrArg Controller.feed hmove).trans hsame.2)
    rw [not_or, not_not] at hheard
    refine ⟨hheard.1, ?_, ?_⟩
    · have hne := hheard.2
      revert hne
      cases m.controller.status <;> decide
    · unfold Controller.move Controller.hear at hmove
      split at hmove
      · rw [hmove, Controller.status_advance, SessionStatus.advance_terminated]
      · exact absurd ((congrArg Controller.feed hmove).trans hsame.2) hfeed

end Midway

end DeskView
