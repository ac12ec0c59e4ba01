import DeskView.Proofs.Pump.Freshness
import DeskView.Proofs.Session.Unwinding
import DeskView.Surface.Canvas

/-!
# A stopped session goes quiet

Any operation that stops a session comes in two parts, before and after the session is given back to the
engine.  In the second part the thread of the session does no more than unwind, and so it does in all that
comes later (`stopped_session_goes_quiet`).
-/

namespace DeskView.Controller

variable {T : Type} [Drawable T]

/-! ### The session's thread -/

/-- If the session has a thread, it is one of those that were created. -/
def HasThread (c : Controller T) : Prop :=
  ∀ session k, c.session = some session → session.thread = some k → k < c.threads.size

omit [Drawable T] in
theorem stable_hasThread : Stable fun c : Controller T => c.HasThread where
  surface _ _ h := h
  move c j t t' h ht hlost hepoch session k hsession hk := by
    rw [(stable_size c.threads.size).move c j t t' rfl ht hlost hepoch]
    exact h session k ((session_hear (c.setThread j t') t').symm.trans hsession) hk
  tell c j t h ht session k hsession hk := by
    rw [(stable_size c.threads.size).tell c j t rfl ht]
    exact h session k hsession hk

theorem hasThread_openSession {c : Controller T} (id : String) (credentials : Credentials)
    (mode : SessionMode) (replies : Replies T) :
    (c.openSession id credentials mode replies).controller.HasThread := by
  obtain ⟨c', -, h | h | h⟩ := (stable_epoch (T := T) (c.epoch + 1)).openSession (c := c) rfl id
    credentials mode replies <;> rw [h] <;> intro session k hsession hk <;> cases hsession <;>
    cases hk
  exact (Array.size_push _).symm ▸ Nat.lt_succ_self c'.threads.size

theorem hasThread_perform {c : Controller T} (h : c.HasThread) (operation : Operation T) :
    (c.perform operation).controller.HasThread := by
  have hstop : ∀ s, (c.stop s).controller.HasThread := by
    intro s session k hsession
    rw [session_stop] at hsession
    cases hsession
  cases operation with
  | start id credentials mode replies =>
    rcases c.start_cases id credentials mode replies with ⟨hsame, -⟩ | ⟨-, -, hopen⟩ |
      ⟨-, -, -, -, hopen, -⟩
    · exact (congrArg HasThread hsame).mpr h
    · exact (congrArg HasThread (congrArg Step.controller hopen)).mpr
        (hasThread_openSession id credentials mode replies)
    · exact (congrArg HasThread hopen).mpr (hasThread_openSession id credentials mode replies)
  | stop s => exact hstop s
  | drop s => exact hstop s
  | event event => exact stable_hasThread.happen h event

/-- How an operation stops the session that the controller has, if it does: a start stops the one that
has died. -/
def stopping? (c : Controller T) : Operation T → Option (Stopping T)
  | .start id _ _ replies =>
    if id = "" then none else if c.status.isLive then none else some replies.stopping
  | .stop s => some s
  | .drop s => some s
  | .event _ => none

/-- An operation that stops the session may have more to do after that. -/
theorem perform_of_stopping? {c : Controller T} {session : Session} (h : c.session = some session)
    {operation : Operation T} {s : Stopping T} (hs : c.stopping? operation = some s) :
    ∃ more, (c.perform operation).noted = (c.stop s).noted ++ more ∧
      ∀ k, (c.stop s).controller.Unwinding k more (c.perform operation).controller := by
  cases operation with
  | start id credentials mode replies =>
    have hid : id ≠ "" := by
      rintro rfl
      simp [stopping?] at hs
    have hlive : ¬ c.status.isLive = true := by
      intro hlive
      simp [stopping?, hlive] at hs
    have hreplies : replies.stopping = s := by
      simpa [stopping?, hid, hlive] using hs
    subst hreplies
    rcases c.start_cases id credentials mode replies with ⟨-, -, hrefused⟩ | ⟨-, hnone, -⟩ |
      ⟨-, -, -, -, hcontroller, hnoted⟩
    · exact absurd hrefused (not_or.mpr ⟨hid, hlive⟩)
    · rw [h] at hnone
      cases hnone
    · refine ⟨_, hnoted, fun k => ?_⟩
      unfold perform
      dsimp only
      rw [hcontroller]
      exact unwinding_openSession k _ id credentials mode replies
  | stop s' =>
    cases hs
    exact ⟨[], (List.append_nil _).symm, fun k => .of_kept fun _ ht => ⟨ht, rfl⟩⟩
  | drop s' =>
    cases hs
    exact ⟨[], (List.append_nil _).symm, fun k => .of_kept fun _ ht => ⟨ht, rfl⟩⟩
  | event event => cases hs

/-- **A stopped session goes quiet.**  Let an operation stop the session of a controller, whatever was
done with it before, and let anything happen after that, other sessions, the surface and the thread of
the session included.  Once the session has been given back to the engine:

* its thread makes no call into the engine any more;
* if the stop answers that the thread has ended, it does nothing at all any more;
* if the stop gives up waiting, the thread still makes one transaction on a target at most;
* as soon as it has done anything it has ended, and it ends when it wakes up or its fetch comes back. -/
theorem stopped_session_goes_quiet (config : PumpSettings) (surface : Surface T)
    (earlier : List (Operation T)) (operation : Operation T) (later : List (Operation T)) :
    let c := ((new config surface).performAll earlier).controller
    let done := c.performAll (operation :: later)
    ∀ session s k, c.session = some session → c.stopping? operation = some s →
      session.thread = some k →
      ∃ before rest, done.noted = before ++ calls (.stop session.id) :: rest ∧
        Noted.sessionCalls before = [] ∧
        Effect.engineCalls (Noted.effectsOf (.pump k) rest) = [] ∧
        ((c.stop s).reply = .stopped → Noted.effectsOf (.pump k) rest = []) ∧
        (∀ waited, (c.stop s).reply = .terminationTimeout waited →
          Surface.IsTransaction (Effect.targetCalls (Noted.effectsOf (.pump k) rest))) ∧
        (Noted.effectsOf (.pump k) rest ≠ [] → done.controller.hasEnded k = true) ∧
        ∀ a, (done.controller.happenAll [.wake k a, .resume k]).1.hasEnded k = true := by
  intro c done session s k hsession hs hk
  have hthread : c.HasThread := by
    refine performAll_induction (c := new config surface) (P := fun _ c _ => c.HasThread) ?_ ?_ earlier
    · intro session k hnone
      cases hnone
    · exact fun _ operation c' _ h => hasThread_perform h operation
  obtain ⟨more, hnoted, hmore⟩ := perform_of_stopping? hsession hs
  obtain ⟨c', before, rest, hstop, hcalls, hparts, hstate⟩ := stop_spec hsession s
  obtain ⟨t, ht, htold, hended⟩ := hstate k hk (hthread session k hsession hk)
  -- all that comes after the release, from the state in which it finds the thread
  have hrest : c'.Unwinding k (rest ++ more ++ ((c.perform operation).controller.performAll later).noted)
      done.controller :=
    ((hparts k).2.trans (hmore k)).trans (unwinding_performAll k _ later)
  obtain ⟨t', ht', hunwinds⟩ := hrest t ht htold
  refine ⟨before, _, ?_, hcalls, hunwinds.engineCalls,
    fun hreply => (hunwinds.eq_of_hasEnded (hended hreply)).1, fun _ _ => hunwinds.isTransaction, ?_, ?_⟩
  · change (c.perform operation).noted ++ _ = _
    rw [hnoted, hstop]
    simp only [List.append_assoc, List.cons_append]
  · intro hne
    unfold hasEnded
    rw [ht']
    exact hunwinds.hasEnded_of_ne_nil hne
  · exact hasEnded_of_told ht' (hunwinds.told htold)

/-- A thread hangs in a fetch while its session is stopped; the fetch comes back in the middle of the next
session, and its frame is still shown. -/
theorem stopped_session_goes_quiet_after_hanging :
    let answers := Engine.Answers.onePixel 7 (.ok ())
    let hung := { answers with fetch := { answers.fetch with blocks := true } }
    let c := ((new {} : Controller MemoryTarget).performAll
      [.event (.surface (.created (.new 1 1))), .start "7" {} .interactive {},
        .event (.wake 0 hung)]).controller
    let done := c.performAll [.stop {}, .start "8" {} .interactive {}, .event (.resume 0)]
    (c.stop {}).reply = .terminationTimeout 1000 ∧
    (Noted.targetCalls done.noted).length = 3 ∧
    ∃ before rest, done.noted = before ++ calls (.stop "7") :: rest ∧
      Noted.sessionCalls before = [] ∧
      Effect.engineCalls (Noted.effectsOf (.pump 0) rest) = [] ∧
      Surface.IsTransaction (Effect.targetCalls (Noted.effectsOf (.pump 0) rest)) := by
  intro answers hung c done
  have hreply : (c.stop {}).reply = .terminationTimeout 1000 := by decide
  have hsession : c.session = some ⟨"7", .interactive, some 0⟩ := by rfl
  obtain ⟨before, rest, hnoted, hcalls, hengine, -, htarget, -, -⟩ :=
    stopped_session_goes_quiet (T := MemoryTarget) {} { scale := .stretch }
      [.event (.surface (.created (.new 1 1))), .start "7" {} .interactive {}, .event (.wake 0 hung)]
      (.stop {}) [.start "8" {} .interactive {}, .event (.resume 0)] ⟨"7", .interactive, some 0⟩ {} 0
      hsession rfl rfl
  exact ⟨hreply, by decide, before, rest, hnoted, hcalls, hengine, htarget 1000 hreply⟩

end DeskView.Controller
