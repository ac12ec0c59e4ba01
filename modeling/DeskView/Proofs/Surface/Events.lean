import DeskView.Proofs.Surface.Present

/-!
# What the window system said last

The surface remembers of the window system's events only what the last ones said: the size of the last
change (`SurfaceEvent.lastSize`), and the target that was created last unless the surface was destroyed
since (`SurfaceEvent.bound?`).  `Surface.Follows` relates a surface to the events it saw; every event
keeps it, and so does every frame that is presented, whatever its target does.
-/

namespace DeskView

variable {T : Type}

namespace SurfaceEvent

/-- The size that an event reports. -/
def size? : SurfaceEvent T → Option (UInt32 × UInt32)
  | .created _ => none
  | .changed width height _ => some (width, height)
  | .destroyed => none

/-- Whether an event binds a target or lets it go. -/
def binds? : SurfaceEvent T → Option Bool
  | .created _ => some true
  | .changed .. => none
  | .destroyed => some false

/-- Whether there is a new target. -/
def isCreated : SurfaceEvent T → Bool
  | .created _ => true
  | .changed .. => false
  | .destroyed => false

/-- The size that was reported last, `0` by `0` before the first. -/
def lastSize (events : List (SurfaceEvent T)) : UInt32 × UInt32 :=
  (events.filterMap size?).getLast?.getD (0, 0)

/-- The number of the target that is bound after some events: that of the last one created, unless the
surface was destroyed since. -/
def bound? (events : List (SurfaceEvent T)) : Option Nat :=
  if (events.filterMap binds?).getLast? = some true then some (events.countP isCreated - 1) else none

/-- The size that frames are scaled to after some events: the one reported last if both its sides are
positive, else that of the canvas. -/
def extent (events : List (SurfaceEvent T)) (canvas : UInt32 × UInt32) : UInt32 × UInt32 :=
  if 0 < (lastSize events).1 ∧ 0 < (lastSize events).2 then lastSize events else canvas

/-- A bound target is one of those that were created. -/
theorem bound?_lt {events : List (SurfaceEvent T)} {id : Nat} (h : bound? events = some id) :
    id < events.countP isCreated := by
  unfold bound? at h
  split at h
  · rename_i hlast
    have hmem : true ∈ events.filterMap binds? := List.mem_of_getLast? hlast
    obtain ⟨event, hevent, hbinds⟩ := List.mem_filterMap.mp hmem
    have hcreated : event.isCreated = true := by
      cases event <;> simp_all [binds?, isCreated]
    have hpos : 0 < events.countP isCreated := List.countP_pos_iff.mpr ⟨event, hevent, hcreated⟩
    cases h
    omega
  · cases h

end SurfaceEvent

namespace Surface

open SurfaceEvent

/-- The surface is where these events lead from the beginning. -/
structure Follows (s : Surface T) (events : List (SurfaceEvent T)) : Prop where
  targets : s.targets.size = events.countP isCreated
  valid : s.valid = s.handle.isSome
  handle : s.handle = SurfaceEvent.bound? events
  size : (s.width, s.height) = lastSize events

theorem follows_nil (scale : ScaleMode) : Follows ({ scale } : Surface T) [] := ⟨rfl, rfl, rfl, rfl⟩

/-- An event leads from what the earlier ones said to what they say with it. -/
theorem Follows.apply {s : Surface T} {events : List (SurfaceEvent T)} (h : s.Follows events)
    (event : SurfaceEvent T) : (s.apply event).Follows (events ++ [event]) := by
  obtain ⟨htargets, hvalid, hhandle, hsize⟩ := h
  cases event with
  | created target =>
    constructor
    · simp [Surface.apply, isCreated, htargets]
    · rfl
    · simp [Surface.apply, SurfaceEvent.bound?, binds?, isCreated, htargets]
    · simpa [Surface.apply, lastSize, SurfaceEvent.size?] using hsize
  | changed width height format =>
    constructor
    · simpa [Surface.apply, isCreated] using htargets
    · exact hvalid
    · simpa [Surface.apply, SurfaceEvent.bound?, binds?, isCreated] using hhandle
    · simp [Surface.apply, lastSize, SurfaceEvent.size?]
  | destroyed =>
    constructor
    · simpa [Surface.apply, isCreated] using htargets
    · rfl
    · simp [Surface.apply, SurfaceEvent.bound?, binds?]
    · simpa [Surface.apply, lastSize, SurfaceEvent.size?] using hsize

/-- Presenting a frame changes nothing about what the window system said. -/
theorem Follows.present [Drawable T] {s : Surface T} {events : List (SurfaceEvent T)}
    (h : s.Follows events) (image : Image) : (s.present image).surface.Follows events := by
  obtain ⟨htargets, hvalid, hhandle, hsize⟩ := h
  rcases present_cases s image with ⟨-, hp⟩ | ⟨id, target, -, -, hsurface, -, -⟩
  · rw [hp]
    exact ⟨htargets, hvalid, hhandle, hsize⟩
  · rw [hsurface]
    exact ⟨by rw [Array.size_setIfInBounds, htargets], hvalid, hhandle, hsize⟩

/-- The part of the surface that a frame covers depends on the scale mode and the events only. -/
theorem Follows.place {s : Surface T} {events : List (SurfaceEvent T)} (h : s.Follows events)
    (image : Image) (canvas : UInt32 × UInt32) :
    s.place image canvas = s.scale.destination image.width image.height
      (SurfaceEvent.extent events canvas).1 (SurfaceEvent.extent events canvas).2 := by
  unfold Surface.place Surface.extent SurfaceEvent.extent
  rw [← h.size]

/-- A frame is dropped exactly when no target is bound. -/
theorem Follows.bound?_eq_none_iff {s : Surface T} {events : List (SurfaceEvent T)}
    (h : s.Follows events) : s.bound? = none ↔ SurfaceEvent.bound? events = none := by
  unfold Surface.bound?
  rw [h.handle]
  cases hbound : SurfaceEvent.bound? events with
  | none => simp
  | some id =>
    -- a target is never taken out of the list, so the one that is bound is still there
    have hid : id < s.targets.size := h.targets ▸ bound?_lt hbound
    simp [hid]

end Surface

end DeskView
