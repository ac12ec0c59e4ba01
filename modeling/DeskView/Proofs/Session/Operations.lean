import DeskView.Proofs.Session.Threads
import Mathlib.Data.List.Induction

/-!
# What an operation does

The operations of a controller, followed through whatever happens meanwhile.  `Stable.stop` and
`Stable.openSession` say where a stable property leads: it has to hold when the operation has begun, it
then holds up to the operation's last step, and that step is given.  `start_cases` lists the ways through
a start, and `performAll_induction` turns what one operation keeps into what every history keeps.
-/

namespace DeskView.Controller

variable {T : Type} [Drawable T]

/-! ### Stopping -/

omit [Drawable T] in
/-- The calls of a release: the session is released once. -/
theorem sessionCalls_release (id : String) {during : List Noted}
    (h : Noted.sessionCalls during = []) (reply : Except EngineError Unit) :
    Noted.sessionCalls (release id during reply) = [.stop id] := by
  unfold release
  cases reply <;> simp [calls, notes, h]

/-- The session that is being stopped is taken first. -/
def closing (c : Controller T) : Controller T := { c with session := none }.advance .terminating

theorem stop_of_none {c : Controller T} (h : c.session = none) (s : Stopping T) :
    c.stop s = ⟨.noSession, c, [notes (Log.debug "stop: no session")]⟩ := by
  unfold stop
  rw [h]

/-- **What a stop does**: the session is taken, whatever is stable then holds until the status becomes
terminated at the end. -/
theorem Stable.stop {P : Controller T → Prop} (hP : Stable P) {c : Controller T} {session : Session}
    (h : c.session = some session) (hc : P c.closing) (s : Stopping T) :
    ∃ c', P c' ∧ (c.stop s).controller = c'.advance .terminated := by
  unfold Controller.stop
  rw [h]
  dsimp only
  have hbefore := hP.happenAll hc s.before
  have hawaited := hP.awaitPump hbefore session s.meanwhile s.due
  exact ⟨_, hP.happenAll hawaited s.releasing, rfl⟩

/-- A session that is stopped is released once. -/
theorem sessionCalls_stop {c : Controller T} {session : Session} (h : c.session = some session)
    (s : Stopping T) : Noted.sessionCalls (c.stop s).noted = [.stop session.id] := by
  unfold stop
  rw [h]
  simp [notes, sessionCalls_release]

/-! ### Starting -/

/-- The session that is being opened has been announced, and is counted. -/
def opening (c : Controller T) : Controller T :=
  { c with epoch := c.epoch + 1, feed := c.feed.publish .connecting }

/-- **What opening a session does**: whatever is stable holds until the engine has answered, and then
there is a session, which has a thread of its own unless the engine refused it or the thread could not
be created. -/
theorem Stable.openSession {P : Controller T → Prop} (hP : Stable P) {c : Controller T}
    (hc : P c.opening) (id : String) (credentials : Credentials) (mode : SessionMode)
    (replies : Replies T) :
    ∃ c', P c' ∧
      ((c.openSession id credentials mode replies).controller =
          { c' with session := some ⟨id, mode, none⟩ }.advance .terminated ∨
        (c.openSession id credentials mode replies).controller =
          ({ c' with session := some ⟨id, mode, none⟩ }.advance .active).advance .terminated ∨
        (c.openSession id credentials mode replies).controller =
          { c' with
            session := some ⟨id, mode, some c'.threads.size⟩
            threads := c'.threads.push ⟨c.epoch + 1, .new id c'.config, .waiting⟩ }.advance
              .active) := by
  have hopening := hP.happenAll hc replies.opening
  unfold Controller.openSession
  dsimp only
  cases replies.start with
  | error e => exact ⟨_, hopening, .inl rfl⟩
  | ok accepted =>
    cases replies.spawn with
    | error reason => exact ⟨_, hopening, .inr (.inl rfl)⟩
    | ok spawned => exact ⟨_, hopening, .inr (.inr rfl)⟩

/-- The engine is asked once to open a session, and is not asked to release one if that fails. -/
theorem sessionCalls_openSession (c : Controller T) (id : String) (credentials : Credentials)
    (mode : SessionMode) (replies : Replies T) :
    Noted.sessionCalls (c.openSession id credentials mode replies).noted =
      [.start id credentials.secret] := by
  unfold openSession
  dsimp only
  cases replies.start with
  | error e => simp [notes, calls]
  | ok accepted => cases replies.spawn <;> simp [notes, calls]

/-- The ways through a start: it is refused and does nothing, it opens a session where there is none,
or it first stops the one that has died. -/
theorem start_cases (c : Controller T) (id : String) (credentials : Credentials) (mode : SessionMode)
    (replies : Replies T) :
    ((c.start id credentials mode replies).controller = c ∧
      Noted.sessionCalls (c.start id credentials mode replies).noted = [] ∧
      (id = "" ∨ c.status.isLive = true)) ∨
    (id ≠ "" ∧ c.session = none ∧
      c.start id credentials mode replies = c.openSession id credentials mode replies) ∨
    (id ≠ "" ∧ ∃ session, c.session = some session ∧ c.status.isLive = false ∧
      (c.start id credentials mode replies).controller =
        ((c.stop replies.stopping).controller.openSession id credentials mode replies).controller ∧
      (c.start id credentials mode replies).noted = (c.stop replies.stopping).noted ++
        ((c.stop replies.stopping).controller.openSession id credentials mode replies).noted) := by
  unfold start
  by_cases hid : id = ""
  · rw [if_pos (by simp [hid])]
    exact .inl ⟨rfl, rfl, .inl hid⟩
  · rw [if_neg (by simpa using hid)]
    cases hsession : c.session with
    | none => exact .inr (.inl ⟨hid, rfl, rfl⟩)
    | some session =>
      dsimp only
      cases hlive : c.status.isLive with
      | true => exact .inl ⟨rfl, rfl, .inr rfl⟩
      | false => exact .inr (.inr ⟨hid, session, rfl, rfl, rfl, rfl⟩)

/-! ### Histories -/

theorem performAll_concat (c : Controller T) (operations : List (Operation T))
    (operation : Operation T) :
    (c.performAll (operations ++ [operation])).controller =
      ((c.performAll operations).controller.perform operation).controller ∧
    (c.performAll (operations ++ [operation])).noted =
      (c.performAll operations).noted ++
        ((c.performAll operations).controller.perform operation).noted := by
  induction operations generalizing c with
  | nil => exact ⟨rfl, List.append_nil _⟩
  | cons first rest ih =>
    obtain ⟨hcontroller, hnoted⟩ := ih (c.perform first).controller
    refine ⟨hcontroller, ?_⟩
    simp only [List.cons_append, performAll, hnoted, List.append_assoc]

/-- What holds at the beginning and is kept by every operation holds after every history. -/
theorem performAll_induction {P : List (Operation T) → Controller T → List Noted → Prop}
    {c : Controller T} (hc : P [] c [])
    (hstep : ∀ operations operation c' noted, P operations c' noted →
      P (operations ++ [operation]) (c'.perform operation).controller
        (noted ++ (c'.perform operation).noted))
    (operations : List (Operation T)) :
    P operations (c.performAll operations).controller (c.performAll operations).noted := by
  induction operations using List.reverseRecOn with
  | nil => exact hc
  | append_singleton operations operation ih =>
    obtain ⟨hcontroller, hnoted⟩ := c.performAll_concat operations operation
    rw [hcontroller, hnoted]
    exact hstep operations operation _ _ ih

end DeskView.Controller
