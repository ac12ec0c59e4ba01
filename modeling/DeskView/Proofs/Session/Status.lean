import DeskView.Proofs.Session.Calls
import DeskView.Proofs.Session.Course
import DeskView.Surface.Canvas

/-!
# Status and session agree

Between two operations a controller is in one of three situations (`Controller.Settled`): no session was
ever announced; the last one has ended; or it is live, and its thread is the only one that can still
terminate it.  A stop and a start lead away from these, but what is stable while they go on is enough to
come back to one of them (`settled_perform`).

`status_follows_session` reads off what the status says about the session, and what was published about
each.
-/

namespace DeskView

/-- Every session can be terminated. -/
theorem SessionStatus.advance_terminated (s : SessionStatus) : s.advance .terminated = .terminated := by
  cases s <;> rfl

namespace Controller

variable {T : Type}

theorem status_advance (c : Controller T) (s : SessionStatus) :
    (c.advance s).status = c.status.advance s := by
  unfold Controller.status Controller.advance StatusFeed.advance SessionStatus.advance
  by_cases h : c.feed.current.rank < s.rank
  · rw [if_pos h, if_pos (by simpa [SessionStatus.advances] using h)]
    rfl
  · rw [if_neg h, if_neg (by simpa [SessionStatus.advances] using h)]

theorem thread?_eq_some_iff {c : Controller T} {t : Thread} :
    c.thread? = some t ↔ ∃ session k, c.session = some session ∧ session.thread = some k ∧
      c.threads[k]? = some t := by
  unfold thread?
  cases c.session with
  | none => simp
  | some session =>
    dsimp only
    cases hk : session.thread with
    | none => simp [hk]
    | some k => simp [hk]

/-! ### Between two operations -/

/-- The situations between two operations. -/
inductive Settled (c : Controller T) : Prop where
  /-- No session was announced yet. -/
  | fresh (status : c.status = .idle) (session : c.session = none) (threads : c.threads = #[])
  /-- The last session has terminated; if it still has a thread, that one has lost its link. -/
  | ended (status : c.status = .terminated) (epochs : c.EachEpoch (· ≤ c.epoch))
      (lost : ∀ t, c.thread? = some t → t.lostLink = true)
  /-- There is a session, and its thread has not lost its link; all other threads are older. -/
  | live {session : Session} {k : Nat} {t : Thread} (status : c.status = .active)
      (current : c.session = some session) (number : session.thread = some k)
      (thread : c.threads[k]? = some t) (lost : t.lostLink = false) (epoch : t.epoch = c.epoch)
      (others : ∀ (j : Nat) (t : Thread), j ≠ k → c.threads[j]? = some t → t.epoch < c.epoch)

theorem Settled.eachEpoch {c : Controller T} (h : c.Settled) : c.EachEpoch (· ≤ c.epoch) := by
  cases h with
  | fresh status session threads =>
    intro k t hthread
    rw [threads] at hthread
    simp at hthread
  | ended status epochs lost => exact epochs
  | @live session k t status current number thread lost epoch others =>
    intro j tj hj
    by_cases hjk : j = k
    · subst hjk
      rw [thread] at hj
      cases hj
      exact Nat.le_of_eq epoch
    · exact Nat.le_of_lt (others j tj hjk hj)

/-- While there is a session, the status is active or terminated. -/
theorem Settled.status_of_session {c : Controller T} (h : c.Settled) {session : Session}
    (hsession : c.session = some session) : c.status = .active ∨ c.status = .terminated := by
  cases h with
  | fresh status none threads =>
    rw [none] at hsession
    cases hsession
  | ended status epochs lost => exact .inr status
  | live status current number thread lost epoch others => exact .inl status

theorem Settled.status_of_no_session {c : Controller T} (h : c.Settled) (hnone : c.session = none) :
    c.status = .idle ∨ c.status = .terminated := by
  cases h with
  | fresh status session threads => exact .inl status
  | ended status epochs lost => exact .inr status
  | live status current number thread lost epoch others =>
    rw [hnone] at current
    cases current

/-- The status is active exactly while the session has a thread that has not lost its link. -/
theorem Settled.status_eq_active_iff {c : Controller T} (h : c.Settled) :
    c.status = .active ↔ ∃ t, c.thread? = some t ∧ t.lostLink = false := by
  cases h with
  | fresh status session threads =>
    rw [status]
    refine ⟨fun hactive => (by cases hactive), ?_⟩
    rintro ⟨t, hthread, -⟩
    obtain ⟨session', k, hsession, -⟩ := thread?_eq_some_iff.mp hthread
    rw [session] at hsession
    cases hsession
  | ended status epochs lost =>
    rw [status]
    refine ⟨fun hactive => (by cases hactive), ?_⟩
    rintro ⟨t, hthread, hlost⟩
    rw [lost t hthread] at hlost
    cases hlost
  | @live session k t status current number thread lost epoch others =>
    exact ⟨fun _ => ⟨t, thread?_eq_some_iff.mpr ⟨session, k, current, number, thread⟩, lost⟩,
      fun _ => status⟩

/-- The situation stays the same when a thread changes that has nothing new to tell about the link, or
that is not the session's. -/
theorem Settled.setThread {c : Controller T} (h : c.Settled) {k : Nat} {t t' : Thread}
    (hthread : c.threads[k]? = some t) (hepoch : t'.epoch = t.epoch)
    (hnews : t'.lostLink = t.lostLink ∨
      ∀ session, c.session = some session → session.thread ≠ some k) :
    (c.setThread k t').Settled := by
  cases h with
  | fresh status session threads =>
    rw [threads] at hthread
    simp at hthread
  | ended status epochs lost =>
    refine .ended status (epochs.setThread hthread hepoch) ?_
    intro tj htj
    obtain ⟨session, j, hsession, hnumber, hj⟩ := thread?_eq_some_iff.mp htj
    rw [getElem?_setThread hthread] at hj
    split at hj
    · rename_i hjk
      subst hjk
      cases hj
      rw [hnews.resolve_right fun hother => hother session hsession hnumber]
      exact lost t (thread?_eq_some_iff.mpr ⟨session, j, hsession, hnumber, hthread⟩)
    · exact lost tj (thread?_eq_some_iff.mpr ⟨session, j, hsession, hnumber, hj⟩)
  | @live session k' tk status current number thread lost epoch others =>
    have hothers : ∀ (j : Nat) (tj : Thread), j ≠ k' →
        (c.setThread k t').threads[j]? = some tj → tj.epoch < c.epoch := by
      intro j tj hjk hj
      rw [getElem?_setThread hthread] at hj
      split at hj
      · rename_i hj'
        subst hj'
        cases hj
        exact hepoch ▸ others j t hjk hthread
      · exact others j tj hjk hj
    by_cases hk : k' = k
    · subst hk
      rw [thread] at hthread
      cases hthread
      have hlost : t'.lostLink = false := by
        rw [hnews.resolve_right fun hother => hother session current number, lost]
      exact .live status current number (by rw [getElem?_setThread thread, if_pos rfl]) hlost
        (hepoch.trans epoch) hothers
    · exact .live status current number (by rw [getElem?_setThread hthread, if_neg hk, thread]) lost
        epoch hothers

/-- A thread that moves leads from live to ended if it is the session's and loses its link, else
nowhere. -/
theorem Settled.move {c : Controller T} (h : c.Settled) {k : Nat} {t t' : Thread}
    (hthread : c.threads[k]? = some t) (hlost : t.lostLink = false) (hepoch : t'.epoch = t.epoch) :
    (c.move k t').Settled := by
  unfold Controller.move hear
  split
  · -- a lost link is heard of only from the session's thread, or when the session has ended already
    rename_i hheard
    refine .ended ?_ (h.eachEpoch.setThread hthread hepoch) ?_
    · rw [status_advance, SessionStatus.advance_terminated]
    · intro tj htj
      obtain ⟨session, j, hsession, hnumber, hj⟩ := thread?_eq_some_iff.mp htj
      rw [show ((c.setThread k t').advance .terminated).threads[j]? = (c.setThread k t').threads[j]?
        from rfl, getElem?_setThread hthread] at hj
      split at hj
      · cases hj
        exact hheard.1
      · rename_i hjk
        cases h with
        | fresh status none threads =>
          rw [threads] at hthread
          simp at hthread
        | ended status epochs lost =>
          exact lost tj (thread?_eq_some_iff.mpr ⟨session, j, hsession, hnumber, hj⟩)
        | @live session' k' tk status current number thread lost epoch others =>
          rw [show c.session = some session from hsession, Option.some.injEq] at current
          rw [← current, hnumber, Option.some.injEq] at number
          -- the thread that moves is older than the session's, so it would not have been heard
          have hold := others k t (fun hk => hjk (number.trans hk.symm)) hthread
          have hcurrent : t'.epoch = c.epoch := hheard.2
          omega
  · rename_i hunheard
    refine h.setThread hthread hepoch ?_
    cases hlost' : t'.lostLink with
    | false => exact .inl hlost.symm
    | true =>
      refine .inr ?_
      intro session hsession hnumber
      cases h with
      | fresh status none threads =>
        rw [none] at hsession
        cases hsession
      | ended status epochs lost =>
        rw [lost t (thread?_eq_some_iff.mpr ⟨session, k, hsession, hnumber, hthread⟩)] at hlost
        cases hlost
      | @live session' k' tk status current number thread lost epoch others =>
        rw [hsession, Option.some.injEq] at current
        rw [← current, hnumber, Option.some.injEq] at number
        rw [← number, hthread, Option.some.injEq] at thread
        exact hunheard ⟨hlost', hepoch.trans (thread ▸ epoch)⟩

theorem stable_settled : Stable fun c : Controller T => c.Settled where
  surface c surface h := by
    cases h with
    | fresh status session threads => exact .fresh status session threads
    | ended status epochs lost => exact .ended status epochs lost
    | live status current number thread lost epoch others =>
      exact .live status current number thread lost epoch others
  move _ _ _ _ h hthread hlost hepoch := h.move hthread hlost hepoch
  tell _ _ _ h hthread := h.setThread hthread rfl (.inl rfl)

/-- A controller whose session has no thread, or that has none, is settled as soon as the status says
that it has ended. -/
theorem settled_of_threadless {c : Controller T} (hepochs : c.EachEpoch (· ≤ c.epoch))
    (hthread : c.thread? = none) : (c.advance .terminated).Settled := by
  refine .ended ?_ hepochs ?_
  · rw [status_advance, SessionStatus.advance_terminated]
  · intro t ht
    rw [show (c.advance .terminated).thread? = c.thread? from rfl, hthread] at ht
    cases ht

/-! ### During a start -/

/-- A session has been announced with this number, and no thread can speak for it yet. -/
structure IsOpening (epoch : Nat) (c : Controller T) : Prop where
  session : c.session = none
  status : c.status = .connecting
  epoch_eq : c.epoch = epoch
  epochs : c.EachEpoch (· < epoch)

theorem stable_isOpening (epoch : Nat) : Stable fun c : Controller T => c.IsOpening epoch where
  surface _ _ h := ⟨h.session, h.status, h.epoch_eq, h.epochs⟩
  move c k t t' h hthread _ hepoch := by
    have hold := h.epochs k t hthread
    have hnumber := h.epoch_eq
    unfold Controller.move
    rw [hear_of_epoch_ne (c.setThread k t') (show t'.epoch ≠ c.epoch by omega)]
    exact ⟨h.session, h.status, hnumber, h.epochs.setThread hthread hepoch⟩
  tell _ _ _ h hthread := ⟨h.session, h.status, h.epoch_eq, h.epochs.setThread hthread rfl⟩

theorem Settled.opening {c : Controller T} (h : c.Settled) (hsession : c.session = none) :
    c.opening.IsOpening (c.epoch + 1) :=
  ⟨hsession, rfl, rfl, fun k t hthread => Nat.lt_succ_of_le (h.eachEpoch k t hthread)⟩

/-- A session that was refused, or got no thread, has ended. -/
theorem IsOpening.settled_of_failed {epoch : Nat} {c : Controller T} (h : c.IsOpening epoch)
    (id : String) (mode : SessionMode) :
    ({ c with session := some ⟨id, mode, none⟩ }.advance .terminated).Settled ∧
    (({ c with session := some ⟨id, mode, none⟩ }.advance .active).advance .terminated).Settled := by
  have hepochs : c.EachEpoch (· ≤ c.epoch) := by
    intro k t hthread
    rw [h.epoch_eq]
    exact Nat.le_of_lt (h.epochs k t hthread)
  exact ⟨settled_of_threadless hepochs rfl, settled_of_threadless hepochs rfl⟩

/-- A session that got a thread is live. -/
theorem IsOpening.settled_of_opened {epoch : Nat} {c : Controller T} (h : c.IsOpening epoch)
    (id : String) (mode : SessionMode) (pump : Pump) :
    ({ c with
      session := some ⟨id, mode, some c.threads.size⟩
      threads := c.threads.push ⟨epoch, pump, .waiting⟩ }.advance .active).Settled := by
  refine .live (t := ⟨epoch, pump, .waiting⟩) ?_ rfl rfl ?_ rfl h.epoch_eq.symm ?_
  · rw [status_advance]
    exact congrArg (SessionStatus.advance · .active) h.status
  · exact Array.getElem?_push_size
  · intro j t hj hthread
    have hthread' : c.threads[j]? = some t := by
      rw [← hthread]
      exact (Array.getElem?_push.trans (if_neg hj)).symm
    exact h.epoch_eq.symm ▸ h.epochs j t hthread'

/-! ### Whole operations -/

/-- A session that is taken goes on with its course. -/
theorem Announced.closing {c : Controller T} (h : c.Announced) (hpos : 0 < c.epoch)
    (hstatus : c.status ≠ .connecting) : c.closing.Announced := by
  have htaken : ({ c with session := none } : Controller T).Announced :=
    ⟨h.courses, h.current, h.epochs⟩
  exact htaken.advance hpos (fun hconnecting => absurd hconnecting hstatus)

variable [Drawable T]

theorem settled_stop {c : Controller T} (h : c.Settled) (ha : c.Announced) (s : Stopping T) :
    (c.stop s).controller.Settled ∧ (c.stop s).controller.Announced ∧
      (c.stop s).controller.epoch = c.epoch := by
  cases hsession : c.session with
  | none =>
    rw [stop_of_none hsession]
    exact ⟨h, ha, rfl⟩
  | some session =>
    -- a session that can be stopped was announced, and is not connecting any more
    have hstatus := h.status_of_session hsession
    have hpos : 0 < c.epoch := by
      refine Nat.pos_of_ne_zero fun hzero => ?_
      rw [ha.status_eq_idle_iff.mpr hzero] at hstatus
      rcases hstatus with hstatus | hstatus <;> cases hstatus
    have hconnecting : c.status ≠ .connecting := by
      rcases hstatus with hstatus | hstatus <;> rw [hstatus] <;> simp
    have hstable := (stable_session none).and ((stable_eachEpoch (T := T) (· ≤ c.epoch)).and
      ((stable_epoch c.epoch).and stable_announced))
    obtain ⟨c', ⟨hnone, hepochs, hepoch, hannounced⟩, hc⟩ :=
      hstable.stop hsession ⟨rfl, h.eachEpoch, rfl, ha.closing hpos hconnecting⟩ s
    have hthread : c'.thread? = none := by
      unfold thread?
      rw [hnone]
    rw [hc]
    refine ⟨settled_of_threadless ?_ hthread, hannounced.advance (hepoch ▸ hpos) (fun _ => by simp),
      hepoch⟩
    rwa [hepoch]

theorem settled_openSession {c : Controller T} (h : c.Settled) (ha : c.Announced)
    (hsession : c.session = none) (id : String) (credentials : Credentials) (mode : SessionMode)
    (replies : Replies T) :
    (c.openSession id credentials mode replies).controller.Settled ∧
      (c.openSession id credentials mode replies).controller.Announced ∧
      (c.openSession id credentials mode replies).controller.epoch = c.epoch + 1 := by
  have hstable := (stable_isOpening (T := T) (c.epoch + 1)).and stable_announced
  obtain ⟨c', ⟨hopening, hannounced⟩, hc⟩ :=
    hstable.openSession ⟨h.opening hsession, ha.opening⟩ id credentials mode replies
  have hpos : 0 < c'.epoch := by
    rw [hopening.epoch_eq]
    exact Nat.succ_pos c.epoch
  have hkept : ({ c' with session := some ⟨id, mode, none⟩ } : Controller T).Announced :=
    ⟨hannounced.courses, hannounced.current, hannounced.epochs⟩
  have hactive : ({ c' with session := some ⟨id, mode, none⟩ }.advance .active).Announced :=
    hkept.advance hpos (fun _ => by simp)
  have hpushed : ({ c' with
      session := some ⟨id, mode, some c'.threads.size⟩
      threads := c'.threads.push ⟨c.epoch + 1, .new id c'.config, .waiting⟩ } :
        Controller T).Announced := by
    refine ⟨hannounced.courses, hannounced.current, ?_⟩
    intro k t hthread
    rw [Array.getElem?_push] at hthread
    split at hthread
    · cases hthread
      exact Nat.succ_pos c.epoch
    · exact hannounced.epochs k t hthread
  rcases hc with hc | hc | hc <;> rw [hc]
  · exact ⟨(hopening.settled_of_failed id mode).1, hkept.advance hpos (fun _ => by simp),
      hopening.epoch_eq⟩
  · exact ⟨(hopening.settled_of_failed id mode).2, hactive.advance hpos (fun _ => by simp),
      hopening.epoch_eq⟩
  · exact ⟨hopening.settled_of_opened id mode _, hpushed.advance hpos (fun _ => by simp),
      hopening.epoch_eq⟩

/-- A stop opens no session. -/
theorem countP_isStart_stop (c : Controller T) (s : Stopping T) :
    (Noted.sessionCalls (c.stop s).noted).countP Rehearsal.isStart = 0 := by
  cases hsession : c.session with
  | none =>
    rw [stop_of_none hsession]
    rfl
  | some session =>
    rw [sessionCalls_stop hsession]
    rfl

/-- A start counts as one when the engine is asked, and once an id has passed the check one has. -/
theorem settled_start {c : Controller T} (h : c.Settled) (ha : c.Announced) (id : String)
    (credentials : Credentials) (mode : SessionMode) (replies : Replies T) :
    (c.start id credentials mode replies).controller.Settled ∧
    (c.start id credentials mode replies).controller.Announced ∧
    (c.start id credentials mode replies).controller.epoch = c.epoch +
      (Noted.sessionCalls (c.start id credentials mode replies).noted).countP Rehearsal.isStart ∧
    ((c.start id credentials mode replies).controller.epoch = 0 ↔ c.epoch = 0 ∧ id = "") := by
  rcases c.start_cases id credentials mode replies with ⟨hsame, hcalls, hrefused⟩ |
    ⟨hid, hsession, hstart⟩ | ⟨hid, session, hsession, -, hcontroller, hnoted⟩
  · rw [hsame, hcalls]
    refine ⟨h, ha, rfl, ⟨fun hzero => ⟨hzero, ?_⟩, And.left⟩⟩
    rcases hrefused with hid | hlive
    · exact hid
    · rw [ha.status_eq_idle_iff.mpr hzero] at hlive
      cases hlive
  · obtain ⟨hsettled, hannounced, hepoch⟩ :=
      settled_openSession h ha hsession id credentials mode replies
    rw [hstart, sessionCalls_openSession]
    exact ⟨hsettled, hannounced, hepoch, by simp [hepoch, hid]⟩
  · obtain ⟨hsettled, hannounced, hepoch⟩ := settled_stop h ha replies.stopping
    obtain ⟨hsettled', hannounced', hepoch'⟩ := settled_openSession hsettled hannounced
      (session_stop c replies.stopping) id credentials mode replies
    rw [hcontroller, hnoted, Noted.sessionCalls_append, sessionCalls_openSession, List.countP_append,
      countP_isStart_stop, Nat.zero_add]
    exact ⟨hsettled', hannounced', by rw [hepoch', hepoch]; rfl, by simp [hepoch', hid]⟩

/-- Whether an operation is a start that passes the check of its id. -/
def Operation.isNamedStart : Operation T → Bool
  | .start id _ _ _ => id ≠ ""
  | _ => false

/-- **What every operation keeps**: a controller that is settled stays so, and it has announced one
session for each that the engine was asked to open, the first when a start passed the check of its
id. -/
theorem settled_perform {c : Controller T} (h : c.Settled) (ha : c.Announced)
    (operation : Operation T) :
    (c.perform operation).controller.Settled ∧ (c.perform operation).controller.Announced ∧
    (c.perform operation).controller.epoch =
      c.epoch + (Noted.sessionCalls (c.perform operation).noted).countP Rehearsal.isStart ∧
    ((c.perform operation).controller.epoch = 0 ↔
      c.epoch = 0 ∧ operation.isNamedStart = false) := by
  -- a drop is a stop whose answer nobody sees
  have hstop : ∀ s, (c.stop s).controller.Settled ∧ (c.stop s).controller.Announced ∧
      (c.stop s).controller.epoch =
        c.epoch + (Noted.sessionCalls (c.stop s).noted).countP Rehearsal.isStart ∧
      ((c.stop s).controller.epoch = 0 ↔ c.epoch = 0 ∧ false = false) := by
    intro s
    obtain ⟨hsettled, hannounced, hepoch⟩ := settled_stop h ha s
    exact ⟨hsettled, hannounced, by rw [hepoch, countP_isStart_stop, Nat.add_zero], by simp [hepoch]⟩
  cases operation with
  | start id credentials mode replies =>
    have hstart := settled_start h ha id credentials mode replies
    simpa only [perform, Operation.isNamedStart, ne_eq, decide_eq_false_iff_not,
      Classical.not_not] using hstart
  | stop s => exact hstop s
  | drop s => exact hstop s
  | event event =>
    have hstable := stable_settled.and (stable_announced.and (stable_epoch (T := T) c.epoch))
    obtain ⟨hsettled, hannounced, hepoch⟩ := hstable.happen ⟨h, ha, rfl⟩ event
    refine ⟨hsettled, hannounced, ?_, by simp [perform, Operation.isNamedStart, hepoch]⟩
    unfold perform
    dsimp only
    rw [(c.happen_cases event).1, hepoch]
    rfl

/-- The starts among the session calls are all there are. -/
theorem countP_isStart_sessionCalls (noted : List Noted) :
    (Noted.sessionCalls noted).countP Rehearsal.isStart =
      (Noted.engineCalls noted).countP Rehearsal.isStart := by
  unfold Noted.sessionCalls
  rw [List.countP_filter]
  congr 1
  funext call
  cases call <;> rfl

/-- **Status and session agree.**  After every history of a new controller, whatever happened during its
operations:

* everything published is one course after the other, one for each session that the engine was asked
  to open, and each of them is strictly increasing;
* the status is the last one published, and it is idle, active or terminated;
* it is idle exactly until a start passes the check of its id;
* without a session it is idle or terminated;
* it is active exactly while there is a session whose pump has a thread that has not lost its link. -/
theorem status_follows_session (config : PumpSettings) (surface : Surface T)
    (operations : List (Operation T)) :
    let run := (new config surface).performAll operations
    let c := run.controller
    (∃ courses : List (List SessionStatus), c.feed.published = courses.flatten ∧
      courses.length = (Noted.engineCalls run.noted).countP Rehearsal.isStart ∧
      ∀ course ∈ courses, SessionStatus.IsCourse course ∧ course.Pairwise (·.rank < ·.rank)) ∧
    c.status = c.feed.published.getLast?.getD .idle ∧
    (c.status = .idle ∨ c.status = .active ∨ c.status = .terminated) ∧
    (c.status = .idle ↔ ∀ operation ∈ operations, operation.isNamedStart = false) ∧
    (c.session = none → c.status = .idle ∨ c.status = .terminated) ∧
    (c.status = .active ↔ ∃ t, c.thread? = some t ∧ t.lostLink = false) := by
  intro run c
  obtain ⟨hsettled, hannounced, hepoch, hnamed⟩ : c.Settled ∧ c.Announced ∧
      c.epoch = (Noted.sessionCalls run.noted).countP Rehearsal.isStart ∧
      (c.epoch = 0 ↔ ∀ operation ∈ operations, operation.isNamedStart = false) := by
    refine performAll_induction (c := new config surface) (P := fun operations c noted =>
      c.Settled ∧ c.Announced ∧ c.epoch = (Noted.sessionCalls noted).countP Rehearsal.isStart ∧
      (c.epoch = 0 ↔ ∀ operation ∈ operations, operation.isNamedStart = false))
      ⟨.fresh rfl rfl rfl, announced_new config surface, rfl, by simp [new]⟩ ?_ operations
    rintro earlier operation c noted ⟨hsettled, hannounced, hepoch, hnamed⟩
    obtain ⟨hsettled', hannounced', hepoch', hnamed'⟩ := settled_perform hsettled hannounced operation
    refine ⟨hsettled', hannounced', ?_, ?_⟩
    · rw [hepoch', hepoch, Noted.sessionCalls_append, List.countP_append]
    · rw [hnamed', hnamed]
      simp [or_imp, forall_and]
  refine ⟨?_, hannounced.current, ?_, hannounced.status_eq_idle_iff.trans hnamed,
    hsettled.status_of_no_session, hsettled.status_eq_active_iff⟩
  · obtain ⟨courses, hpublished, hlength, hcourses⟩ := hannounced.courses
    refine ⟨courses, hpublished, ?_, fun course hmem => ?_⟩
    · rw [hlength, hepoch, countP_isStart_sessionCalls]
    · exact ⟨hcourses course hmem, (hcourses course hmem).pairwise⟩
  · cases hsession : c.session with
    | none => exact (hsettled.status_of_no_session hsession).imp_right .inr
    | some session => exact .inr (hsettled.status_of_session hsession)

/-- A lost link ends the course of its session; the next start releases that session and begins another
course. -/
example :
    let lost : Engine.Answers := ⟨.error (.linkMissing "frame"), .ok 0, .ok 0, .untouched⟩
    let run := (new {} : Controller MemoryTarget).performAll
      [.start "7" {} .interactive {}, .event (.wake 0 lost), .start "8" {} .interactive {}]
    run.controller.feed.published = [.connecting, .active, .terminated, .connecting, .active] ∧
      Noted.sessionCalls run.noted = [.start "7" "", .stop "7", .start "8" ""] := by
  decide

end Controller

end DeskView
