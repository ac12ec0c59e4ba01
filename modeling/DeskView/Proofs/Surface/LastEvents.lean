import DeskView.Proofs.Surface.Transactions

/-!
# A surface and its last events

What a surface is now is told by the last events alone: whether it is valid and which target is bound by
the last one that bound a target or let one go, and its size by the last one that reported a size
(`surface_follows_last_events`).  The events of the two kinds do not touch each other's part, so they can
be exchanged (`apply_changed_comm`); and a frame that is presented touches neither, whatever becomes of it
(`standing_present`).

A bound target is not merely the number of an event.  It is the target that came with it, after the calls
that were made on it since, which are all the calls that were made at all (`bound?_run_of_kept`).
-/

namespace DeskView

namespace Surface

variable {T : Type}

/-! ### What the window system decides -/

/-- What a surface has from the window system: whether it is valid, the number of the bound target, and
the size. -/
def standing (s : Surface T) : Bool × Option Nat × UInt32 × UInt32 :=
  (s.valid, s.handle, s.width, s.height)

/-- A surface is valid exactly if a target was bound last and not let go. -/
theorem Follows.valid_eq_true_iff {s : Surface T} {events : List (SurfaceEvent T)}
    (h : s.Follows events) :
    s.valid = true ↔ (events.filterMap SurfaceEvent.binds?).getLast? = some true := by
  rw [h.valid, h.handle]
  unfold SurfaceEvent.bound?
  split <;> simp_all

/-- A valid surface has a target, and one with a target is valid. -/
theorem Follows.valid_eq_isSome_bound? {s : Surface T} {events : List (SurfaceEvent T)}
    (h : s.Follows events) : s.valid = s.bound?.isSome := by
  have hnone := h.bound?_eq_none_iff
  rw [h.valid, h.handle]
  cases hbound : SurfaceEvent.bound? events with
  | none =>
    rw [hnone.mpr hbound]
    rfl
  | some id =>
    have hsome : s.bound? ≠ none := by
      rw [Ne, hnone, hbound]
      simp
    rw [Option.isSome_iff_ne_none.mpr hsome]
    rfl

/-- The standing of a surface is a function of the events. -/
theorem Follows.standing_eq {s s' : Surface T} {events : List (SurfaceEvent T)}
    (h : s.Follows events) (h' : s'.Follows events) : s.standing = s'.standing := by
  have hvalid : s.valid = s'.valid := by rw [h.valid, h'.valid, h.handle, h'.handle]
  have hhandle : s.handle = s'.handle := h.handle.trans h'.handle.symm
  have hsize : (s.width, s.height) = (s'.width, s'.height) := h.size.trans h'.size.symm
  unfold standing
  rw [hvalid, hhandle, hsize]

/-- A change of the size and an event that binds a target or lets one go can be exchanged. -/
theorem apply_changed_comm (s : Surface T) (width height : UInt32) (format : PixelFormat)
    {event : SurfaceEvent T} (h : event.binds? ≠ none) :
    (s.apply (.changed width height format)).apply event =
      (s.apply event).apply (.changed width height format) := by
  cases event with
  | created target => rfl
  | changed width' height' format' => exact absurd rfl h
  | destroyed => rfl

theorem bound?_apply_created (s : Surface T) (target : T) :
    (s.apply (.created target)).bound? = some (s.targets.size, target) := by
  rw [bound?_eq_some_iff]
  exact ⟨rfl, Array.getElem?_push_size⟩

/-! ### What the frames do -/

variable [Drawable T]

/-- A frame that is presented leaves the standing alone, be it drawn or dropped, or let it fail or
panic. -/
theorem standing_present (s : Surface T) (image : Image) :
    (s.present image).surface.standing = s.standing := by
  rcases present_cases s image with ⟨-, hp⟩ | ⟨id, target, -, -, hsurface, -⟩
  · rw [hp]
  · rw [hsurface]
    rfl

theorem run_append (s : Surface T) (xs ys : List (Use T)) : s.run (xs ++ ys) = (s.run xs).run ys :=
  List.foldl_append

/-- The calls that are made on targets in some uses. -/
def trace (s : Surface T) : List (Use T) → List (Nat × TargetCall)
  | [] => []
  | u :: rest => (s.use u).2 ++ trace (s.use u).1 rest

/-- A frame leaves the bound target bound, in the state that the calls of the frame leave it in. -/
theorem bound?_present {s : Surface T} {id : Nat} {target : T} (hvalid : s.valid = true)
    (hbound : s.bound? = some (id, target)) (image : Image) :
    ∃ calls, (s.present image).calls = calls.map (id, ·) ∧ (s.present image).surface.valid = true ∧
      (s.present image).surface.bound? = some (id, Drawable.after target calls) := by
  obtain ⟨hcalls, htarget, -⟩ := present_of_bound hvalid hbound image
  rw [(Drawable.obeyed_transact target image (s.place image)).2] at htarget
  have hkept := s.standing_present image
  unfold standing at hkept
  rw [Prod.mk.injEq, Prod.mk.injEq] at hkept
  have hhandle : (s.present image).surface.handle = some id :=
    hkept.2.1.trans (bound?_eq_some_iff.mp hbound).1
  exact ⟨_, hcalls, hkept.1.trans hvalid, bound?_eq_some_iff.mpr ⟨hhandle, htarget⟩⟩

/-- As long as no target is bound and none let go, the one that is bound remains, and all calls are made on
it. -/
theorem bound?_run_of_kept {s : Surface T} {id : Nat} {target : T} (hvalid : s.valid = true)
    (hbound : s.bound? = some (id, target)) {later : List (Use T)}
    (hlater : ∀ event ∈ Use.events later, event.binds? = none) :
    ∃ calls, s.trace later = calls.map (id, ·) ∧ (s.run later).valid = true ∧
      (s.run later).bound? = some (id, Drawable.after target calls) := by
  -- each use leaves the target bound in a next state, so the induction is for all of them
  induction later generalizing s target with
  | nil => exact ⟨[], rfl, hvalid, hbound⟩
  | cons u later ih =>
    have hrest : ∀ event ∈ Use.events later, event.binds? = none := by
      intro event hmem
      apply hlater
      rw [← List.singleton_append, Use.events_append]
      exact List.mem_append_right _ hmem
    cases u with
    | present image =>
      obtain ⟨first, hfirst, hvalid', hbound'⟩ := bound?_present hvalid hbound image
      obtain ⟨calls, hcalls, hend⟩ := ih hvalid' hbound' hrest
      refine ⟨first ++ calls, ?_, ?_⟩
      · rw [List.map_append, ← hfirst, ← hcalls]
        rfl
      · rw [Drawable.after_append]
        exact hend
    | surface event =>
      have hkept : event.binds? = none := hlater event (by simp [Use.events, Use.event?])
      cases event with
      | created target' => cases hkept
      | changed width height format =>
        exact ih (s := s.apply (.changed width height format)) hvalid hbound hrest
      | destroyed => cases hkept

/-- **What a surface is now is told by its last events.**  Let anything be done with a surface: events in
any order, and frames that are drawn, dropped, fail or panic.

* It is valid exactly if the last event that bound a target or let one go bound one.  Then it holds the
  target of just that event, in the state in which the calls made since have left it; and else none.
* It is valid exactly if it has a target, so a valid surface never drops a frame for want of one.
* Its size is the one reported last, or `0` by `0`.
* No frame changes any of this.  To exchange a size with an event next to it that binds a target or lets
  one go makes no difference at all, and to leave out a frame makes none to any of this. -/
theorem surface_follows_last_events (scale : ScaleMode) (uses : List (Use T)) :
    let start : Surface T := { scale }
    let s := start.run uses
    let last := ((Use.events uses).filterMap SurfaceEvent.binds?).getLast?
    (s.valid = true ↔ last = some true) ∧
    (last = some true → ∃ earlier target later calls,
      uses = earlier ++ .surface (.created target) :: later ∧
      (∀ event ∈ Use.events later, event.binds? = none) ∧
      let id := (Use.events earlier).countP SurfaceEvent.isCreated
      (start.run (earlier ++ [.surface (.created target)])).trace later = calls.map (id, ·) ∧
      s.handle = some id ∧ s.bound? = some (id, Drawable.after target calls)) ∧
    (last ≠ some true → s.handle = none) ∧
    s.valid = s.handle.isSome ∧ s.valid = s.bound?.isSome ∧
    (s.width, s.height) = SurfaceEvent.lastSize (Use.events uses) ∧
    (∀ image, (s.present image).surface.standing = s.standing) ∧
    (∀ earlier later width height format event, event.binds? ≠ none →
      uses = earlier ++ .surface (.changed width height format) :: .surface event :: later →
      s = start.run (earlier ++ .surface event :: .surface (.changed width height format) :: later)) ∧
    (∀ earlier image later, uses = earlier ++ .present image :: later →
      s.standing = (start.run (earlier ++ later)).standing) := by
  intro start s last
  have hfollows : s.Follows (Use.events uses) := (follows_run scale uses).1
  have hvalid := hfollows.valid_eq_true_iff
  refine ⟨hvalid, ?_, ?_, hfollows.valid, hfollows.valid_eq_isSome_bound?, hfollows.size,
    s.standing_present, ?_, ?_⟩
  · intro hlast
    have hbound : SurfaceEvent.bound? (Use.events uses) =
        some ((Use.events uses).countP SurfaceEvent.isCreated - 1) := if_pos hlast
    obtain ⟨earlier, target, later, huses, hid, hlater⟩ := exists_created_of_bound? hbound
    -- the event leaves its target bound, and it remains so
    have hcreated : (start.run earlier).Follows (Use.events earlier) := (follows_run scale earlier).1
    have htarget := bound?_apply_created (start.run earlier) target
    rw [hcreated.targets] at htarget
    have hrun : start.run (earlier ++ [.surface (.created target)]) =
        (start.run earlier).apply (.created target) := run_concat _ _ _
    obtain ⟨calls, hcalls, -, hend⟩ :=
      bound?_run_of_kept (s := (start.run earlier).apply (.created target)) rfl htarget hlater
    have hs : s = ((start.run earlier).apply (.created target)).run later := by
      rw [← hrun, ← run_append, List.append_assoc, List.singleton_append, ← huses]
    rw [← hs] at hend
    exact ⟨earlier, target, later, calls, huses, hlater, hrun ▸ hcalls,
      (bound?_eq_some_iff.mp hend).1, hend⟩
  · intro hlast
    rw [hfollows.handle]
    exact if_neg hlast
  · rintro earlier later width height format event hevent rfl
    have hboth : (start.run earlier).run
        [.surface (.changed width height format), .surface event] =
        (start.run earlier).run [.surface event, .surface (.changed width height format)] :=
      apply_changed_comm _ width height format hevent
    calc s = ((start.run earlier).run
          [.surface (.changed width height format), .surface event]).run later := by
            rw [← run_append, ← run_append]
            rfl
      _ = ((start.run earlier).run
          [.surface event, .surface (.changed width height format)]).run later := by rw [hboth]
      _ = start.run
          (earlier ++ .surface event :: .surface (.changed width height format) :: later) := by
            rw [← run_append, ← run_append]
            rfl
  · rintro earlier image later rfl
    have hevents : Use.events (earlier ++ .present image :: later) = Use.events (earlier ++ later) := by
      rw [Use.events_append, Use.events_append]
      rfl
    have hwithout := (follows_run (T := T) scale (earlier ++ later)).1
    rw [hevents] at hfollows
    exact hfollows.standing_eq hwithout

/-- Events in an unusual order, and a frame that panics: the second of two targets is held, and the size is
that of before. -/
example :
    let s := run { scale := .stretch }
      [.surface .destroyed, .surface (.changed 5 4 .rgba8), .surface (.created (⟨1, 1, none⟩ : Recorder)),
        .surface (.created ⟨2, 2, some ⟨.draw, none, some 1⟩⟩), .present (.blank 1 1 .rgba8)]
    s.standing = (true, some 1, 5, 4) ∧ s.bound? = some (1, ⟨2, 2, none⟩) := by
  decide

end Surface

end DeskView
