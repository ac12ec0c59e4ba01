import DeskView.Session.Controller
import DeskView.Surface.Canvas
import Mathlib.Data.List.Forall2

/-!
# A password gives nothing away but its length

Two histories that differ in passwords only are followed side by side.  A start hands the password to the
engine and writes its length to the log, and that is all it does with it: of two starts with passwords of
one length, the answers and the controllers afterwards are equal, and all that was done is equal as soon as
the password is struck out of the engine call (`Noted.redacted`).  No other operation sees a password, so
this carries over to whole histories (`password_stays_secret`).
-/

namespace DeskView

/-- The call with its password struck out, if it has one. -/
def Engine.Call.redacted : Engine.Call → Engine.Call
  | .start id _ => .start id ""
  | call => call

/-- What was noted, with the password struck out if it is the call that opens a session. -/
def Noted.redacted : Noted → Noted
  | ⟨actor, .engine call⟩ => ⟨actor, .engine call.redacted⟩
  | n => n

variable {T : Type}

/-- Two steps with the same answer, that lead to the same controller and do the same but for a
password. -/
structure Step.Alike {α : Type} (s s' : Step T α) : Prop where
  reply : s.reply = s'.reply
  controller : s.controller = s'.controller
  noted : s.noted.map Noted.redacted = s'.noted.map Noted.redacted

theorem Step.Alike.refl {α : Type} (s : Step T α) : s.Alike s := ⟨rfl, rfl, rfl⟩

namespace Controller

/-- Two operations that are the same, or that start the same session with passwords of one length. -/
inductive Operation.Alike : Operation T → Operation T → Prop
  | same (operation : Operation T) : Alike operation operation
  | start {x y : Credentials} (length : x.length = y.length) (id : String) (mode : SessionMode)
      (replies : Replies T) : Alike (.start id x mode replies) (.start id y mode replies)

variable [Drawable T]

theorem alike_openSession (c : Controller T) (id : String) {x y : Credentials}
    (h : x.length = y.length) (mode : SessionMode) (replies : Replies T) :
    (c.openSession id x mode replies).Alike (c.openSession id y mode replies) := by
  -- the two log the same length, and hand a password over in one and the same call
  have hbegun : ∀ noted, (notes (Log.info "starting session" [("id", id),
        ("password_len", toString x.length), ("mode", mode.label)]) ::
          calls (.start id x.secret) :: noted).map Noted.redacted =
      (notes (Log.info "starting session" [("id", id),
        ("password_len", toString y.length), ("mode", mode.label)]) ::
          calls (.start id y.secret) :: noted).map Noted.redacted := by
    intro noted
    rw [h]
    rfl
  unfold openSession
  dsimp only
  cases replies.start with
  | error e => exact ⟨rfl, rfl, hbegun _⟩
  | ok accepted =>
    cases replies.spawn with
    | error reason => exact ⟨rfl, rfl, hbegun _⟩
    | ok spawned => exact ⟨rfl, rfl, hbegun _⟩

theorem alike_start (c : Controller T) (id : String) {x y : Credentials} (h : x.length = y.length)
    (mode : SessionMode) (replies : Replies T) :
    (c.start id x mode replies).Alike (c.start id y mode replies) := by
  unfold start
  by_cases hid : id.isEmpty = true
  · rw [if_pos hid, if_pos hid]
    exact .refl _
  · rw [if_neg hid, if_neg hid]
    cases c.session with
    | none => exact c.alike_openSession id h mode replies
    | some current =>
      dsimp only
      by_cases hlive : c.status.isLive = true
      · rw [if_pos hlive, if_pos hlive]
        exact .refl _
      · rw [if_neg hlive, if_neg hlive]
        -- the session that has died is stopped without a password
        have hopened := (c.stop replies.stopping).controller.alike_openSession id h mode replies
        refine ⟨hopened.reply, hopened.controller, ?_⟩
        rw [List.map_append, List.map_append, hopened.noted]

theorem alike_perform (c : Controller T) {x y : Operation T} (h : x.Alike y) :
    (c.perform x).Alike (c.perform y) := by
  cases h with
  | same => exact .refl _
  | start length id mode replies =>
    have hstarted := c.alike_start id length mode replies
    exact ⟨congrArg Reply.started hstarted.reply, hstarted.controller, hstarted.noted⟩

/-- **A password gives nothing away but its length.**  Let two histories of a controller be the same except
that the passwords in the one are others than in the other, of the same length each, and let the engine
answer the same in both.  Then all operations answer the same, error texts included, the controllers are
the same in the end, with all that was published, and so is all that was logged, drawn and asked of the
engine, but for the password itself in the call that opens a session. -/
theorem password_stays_secret (c : Controller T) (xs ys : List (Operation T))
    (h : List.Forall₂ Operation.Alike xs ys) :
    (c.performAll xs).reply = (c.performAll ys).reply ∧
      (c.performAll xs).controller = (c.performAll ys).controller ∧
      (c.performAll xs).noted.map Noted.redacted = (c.performAll ys).noted.map Noted.redacted := by
  induction h generalizing c with
  | nil => exact ⟨rfl, rfl, rfl⟩
  | @cons x y xs ys hxy hrest ih =>
    obtain ⟨hreply, hcontroller, hnoted⟩ := c.alike_perform hxy
    obtain ⟨hreplies, hend, hlater⟩ := ih (c.perform y).controller
    unfold performAll
    dsimp only
    rw [hreply, hcontroller, List.map_append, List.map_append, hnoted]
    exact ⟨congrArg _ hreplies, hend, congrArg _ hlater⟩

/-- A session that is opened, one that is refused, and one that fails, all with the same password. -/
def threeStarts (password : String) : List (Operation MemoryTarget) :=
  [.start "7" ⟨password⟩ .interactive {}, .start "8" ⟨password⟩ .fileTransfer {}, .stop {},
    .start "8" ⟨password⟩ .fileTransfer { start := .error (.rejected "wrong password") }]

/-- Two passwords of four bytes, one of them with a letter that has two.  What the engine is called with
differs, and nothing else does. -/
theorem password_stays_secret_of_failure :
    ((new {}).performAll (threeStarts "hush")).noted ≠ ((new {}).performAll (threeStarts "née")).noted ∧
    ((new {}).performAll (threeStarts "hush")).noted.map Noted.redacted =
      ((new {}).performAll (threeStarts "née")).noted.map Noted.redacted := by
  have hlength : (⟨"hush"⟩ : Credentials).length = (⟨"née"⟩ : Credentials).length := by decide
  have halike : List.Forall₂ Operation.Alike (threeStarts "hush") (threeStarts "née") :=
    .cons (.start hlength ..) (.cons (.start hlength ..) (.cons (.same _)
      (.cons (.start hlength ..) .nil)))
  obtain ⟨-, -, hnoted⟩ := password_stays_secret (T := MemoryTarget) (new {}) _ _ halike
  exact ⟨by decide, hnoted⟩

end Controller

end DeskView
