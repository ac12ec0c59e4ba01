import DeskView.Proofs.Session.Operations

/-!
# Every session is opened and released once

The calls by which sessions are opened and released alternate over every history
(`sessions_alternate`): no session is opened before the one before it was released, none is released
twice, and the one that is still to be released is the controller's current session.  This does not
depend on what the engine answers or on how the pumps end.
-/

namespace DeskView

/-- Sessions are opened and released in turn, each release naming the session that was opened before;
second, the session that is still open. -/
inductive Alternating : List Engine.Call → Option String → Prop where
  | nil : Alternating [] none
  | start {calls : List Engine.Call} (id password : String) (h : Alternating calls none) :
      Alternating (calls ++ [.start id password]) (some id)
  | stop {calls : List Engine.Call} {id : String} (h : Alternating calls (some id)) :
      Alternating (calls ++ [.stop id]) none

namespace Controller

variable {T : Type}

/-- The id of the current session. -/
def sessionId? (c : Controller T) : Option String := c.session.map Session.id

variable [Drawable T]

/-- After a stop there is no session. -/
theorem session_stop (c : Controller T) (s : Stopping T) :
    (c.stop s).controller.session = none := by
  cases hsession : c.session with
  | none => rw [stop_of_none hsession, hsession]
  | some session =>
    obtain ⟨c', hnone, hcontroller⟩ := (stable_session none).stop hsession rfl s
    rw [hcontroller]
    exact hnone

theorem sessionId?_openSession (c : Controller T) (id : String) (credentials : Credentials)
    (mode : SessionMode) (replies : Replies T) :
    (c.openSession id credentials mode replies).controller.sessionId? = some id := by
  obtain ⟨c', -, h | h | h⟩ :=
    (stable_session c.session).openSession (c := c) rfl id credentials mode replies <;> rw [h] <;> rfl

/-- A stop releases the session, if there is one. -/
theorem alternating_stop {calls : List Engine.Call} {c : Controller T}
    (h : Alternating calls c.sessionId?) (s : Stopping T) :
    Alternating (calls ++ Noted.sessionCalls (c.stop s).noted) none := by
  unfold sessionId? at h
  cases hsession : c.session with
  | none =>
    rw [hsession] at h
    rw [stop_of_none hsession]
    simpa [notes] using h
  | some session =>
    rw [hsession] at h
    rw [sessionCalls_stop hsession]
    exact .stop h

/-- Opening a session where there is none keeps the turns. -/
theorem alternating_openSession {calls : List Engine.Call} (c : Controller T)
    (h : Alternating calls none) (id : String) (credentials : Credentials) (mode : SessionMode)
    (replies : Replies T) :
    Alternating
      (calls ++ Noted.sessionCalls (c.openSession id credentials mode replies).noted)
      (c.openSession id credentials mode replies).controller.sessionId? := by
  rw [sessionId?_openSession, sessionCalls_openSession]
  exact .start id credentials.secret h

/-- Every operation keeps the turns. -/
theorem alternating_perform {calls : List Engine.Call} {c : Controller T}
    (h : Alternating calls c.sessionId?) (operation : Operation T) :
    Alternating (calls ++ Noted.sessionCalls (c.perform operation).noted)
      (c.perform operation).controller.sessionId? := by
  -- a stop and a drop do the same
  have hstop : ∀ s, Alternating (calls ++ Noted.sessionCalls (c.stop s).noted)
      (c.stop s).controller.sessionId? := by
    intro s
    unfold sessionId?
    rw [session_stop]
    exact alternating_stop h s
  cases operation with
  | start id credentials mode replies =>
    unfold perform
    rcases c.start_cases id credentials mode replies with ⟨hsame, hcalls, -⟩ | ⟨-, hnone, hopen⟩ |
      ⟨-, session, hsession, -, hcontroller, hnoted⟩
    · dsimp only
      rw [hsame, hcalls, List.append_nil]
      exact h
    · dsimp only
      rw [hopen]
      refine c.alternating_openSession ?_ id credentials mode replies
      unfold sessionId? at h
      rwa [hnone] at h
    · dsimp only
      rw [hcontroller, hnoted, Noted.sessionCalls_append, ← List.append_assoc]
      exact alternating_openSession _ (alternating_stop h replies.stopping) id credentials mode replies
  | stop s => exact hstop s
  | drop s => exact hstop s
  | event event =>
    unfold perform sessionId?
    dsimp only
    rw [(c.happen_cases event).1, List.append_nil,
      (stable_session c.session).happen (c := c) rfl event]
    exact h

/-- **Every session is opened and released once.**  Whatever is done with a new controller, whatever the
engine answers and whatever becomes of the pumps: the sessions are opened and released in turn, and the
one that is still open is the controller's.  A stop where there is no session says so and does not call
the engine at all, and when the controller is dropped every session has been released. -/
theorem sessions_alternate (config : PumpSettings) (surface : Surface T)
    (operations : List (Operation T)) :
    let run := (new config surface).performAll operations
    Alternating (Noted.sessionCalls run.noted) run.controller.sessionId? ∧
    (∀ s, run.controller.session = none →
      (run.controller.stop s).reply = .noSession ∧
      Noted.engineCalls (run.controller.stop s).noted = []) ∧
    (∀ s, (run.controller.perform (.drop s)).controller.session = none ∧
      Alternating
        (Noted.sessionCalls (run.noted ++ (run.controller.perform (.drop s)).noted)) none) := by
  intro run
  have h : Alternating (Noted.sessionCalls run.noted) run.controller.sessionId? := by
    refine performAll_induction (c := new config surface)
      (P := fun _ c noted => Alternating (Noted.sessionCalls noted) c.sessionId?) .nil ?_ operations
    intro _ operation c noted hc
    rw [Noted.sessionCalls_append]
    exact alternating_perform hc operation
  refine ⟨h, ?_, ?_⟩
  · intro s hnone
    rw [stop_of_none hnone]
    exact ⟨rfl, rfl⟩
  · intro s
    refine ⟨run.controller.session_stop s, ?_⟩
    rw [Noted.sessionCalls_append]
    exact alternating_stop h s

end Controller

end DeskView
