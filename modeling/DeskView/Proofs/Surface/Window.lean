import DeskView.Window
import DeskView.Proofs.Surface.Transactions
import Mathlib.Data.List.Chain

/-!
# The window and its surface

A window knows for itself whether it has a surface (`WindowSurface.bound`), and the surface knows
whether there is something to draw on (`Surface.valid`).  Nothing but the steps that the window's events
ask for keeps the two together.

`WindowSurface.onEvent_cases` lists what an event can ask for, and everything else follows from it.
`SurfaceStep.InOrder` says what it means that steps are in order, and `WindowView.InStep` relates a
window and its surface to the events that were reported; both are kept by every event, and by every
frame that is presented in between.

Where an event asks for two steps, a new target and then its size, the surface has the target before it
has the size.  So what is said here of a bound surface is said of it between two events.
-/

namespace DeskView

/-- What an event asks for: nothing, and then a size is only reported to a window without a surface; to
let the target go; or to give the target a positive size, which is a new one if none was bound. -/
theorem WindowSurface.onEvent_cases (l : WindowSurface) (event : WindowEvent) :
    (l.onEvent event = ([], l) ∧ (l.bound = true → event.size? = none)) ∨
    (l.bound = true ∧ l.onEvent event = ([.destroy], ⟨false⟩)) ∨
    (∃ width height, event.size? = some (width, height) ∧ 0 < width ∧ 0 < height ∧
      l.onEvent event =
        ((if l.bound then [] else [.create]) ++ [.resize width height], ⟨true⟩)) := by
  have hlose : l.lose = ([], l) ∧ l.bound = false ∨
      l.bound = true ∧ l.lose = ([.destroy], ⟨false⟩) := by
    unfold lose
    cases l.bound <;> simp
  have hlost : l.onEvent event = l.lose → (l.onEvent event = ([], l) ∧
      (l.bound = true → event.size? = none)) ∨
      (l.bound = true ∧ l.onEvent event = ([.destroy], ⟨false⟩)) := by
    intro h
    rw [h]
    rcases hlose with ⟨hkept, hbound⟩ | hlost
    · exact .inl ⟨hkept, by simp [hbound]⟩
    · exact .inr hlost
  cases event with
  | resize width height =>
    by_cases hpos : 0 < width ∧ 0 < height
    · refine .inr (.inr ⟨width, height, rfl, hpos.1, hpos.2, ?_⟩)
      dsimp only [onEvent]
      rw [if_pos hpos]
      cases l.bound <;> rfl
    · exact (hlost (if_neg hpos)).imp_right .inl
  | minimized => exact (hlost rfl).imp_right .inl
  | close => exact (hlost rfl).imp_right .inl
  | move x y => exact .inl ⟨rfl, fun _ => rfl⟩
  | button which pressed x y => exact .inl ⟨rfl, fun _ => rfl⟩
  | wheel delta => exact .inl ⟨rfl, fun _ => rfl⟩
  | captureLost => exact .inl ⟨rfl, fun _ => rfl⟩

namespace SurfaceStep

/-! ### Steps in order -/

/-- Whether a step binds a target or lets it go. -/
def binds? : SurfaceStep → Option Bool
  | .create => some true
  | .resize .. => none
  | .destroy => some false

/-- The size that a step gives to the target. -/
def size? : SurfaceStep → Option (UInt32 × UInt32)
  | .resize width height => some (width, height)
  | _ => none

/-- Steps that are in order; after them a target is bound or not. -/
structure InOrder (steps : List SurfaceStep) (bound : Bool) : Prop where
  /-- The first target is bound before one is let go. -/
  first : ∀ b ∈ (steps.filterMap binds?).head?, b = true
  /-- To bind a target and to let it go take turns. -/
  alternate : (steps.filterMap binds?).IsChain (· ≠ ·)
  /-- A target is bound if that came last. -/
  last : bound = true ↔ (steps.filterMap binds?).getLast? = some true
  /-- A size is given only after a target was bound and before it is let go. -/
  sized : ∀ earlier width height, earlier ++ [.resize width height] <+: steps →
    (earlier.filterMap binds?).getLast? = some true

theorem inOrder_nil : InOrder [] false := by
  constructor
  · simp
  · exact .nil
  · simp
  · intro earlier width height hprefix
    simp at hprefix

/-- What was not bound can be bound next, and what was bound can be let go. -/
theorem InOrder.bind {steps : List SurfaceStep} {step : SurfaceStep} {b : Bool}
    (h : InOrder steps !b) (hstep : step.binds? = some b) : InOrder (steps ++ [step]) b := by
  have hbinds : (steps ++ [step]).filterMap binds? = steps.filterMap binds? ++ [b] := by
    simp [List.filterMap_append, hstep]
  have hlast := h.last
  constructor
  · intro b' hb'
    rw [hbinds, List.head?_append, Option.mem_def] at hb'
    cases hhead : (steps.filterMap binds?).head? with
    | some b'' =>
      rw [hhead] at hb'
      cases hb'
      exact h.first b' hhead
    | none =>
      -- nothing was bound so far, so there is nothing to let go
      rw [List.head?_eq_none_iff] at hhead
      rw [hhead] at hb' hlast
      cases b <;> simp_all
  · -- what came last is what is bound, and that is not `b`
    rw [hbinds]
    refine h.alternate.append (List.isChain_singleton b) ?_
    intro x hx y hy
    obtain rfl : b = y := by simpa using hy
    cases x <;> cases b <;> simp_all
  · rw [hbinds, List.getLast?_concat]
    simp
  · intro earlier width height hprefix
    rcases List.prefix_concat_iff.mp hprefix with heq | hprefix
    · obtain ⟨-, rfl⟩ := List.append_inj' heq rfl |>.imp_right List.cons.inj |>.imp_right And.left
      cases hstep
    · exact h.sized earlier width height hprefix

/-- A size binds nothing and lets nothing go. -/
theorem filterMap_binds?_resize (steps : List SurfaceStep) (width height : UInt32) :
    (steps ++ [resize width height]).filterMap binds? = steps.filterMap binds? := by
  simp [List.filterMap_append, binds?]

/-- A target that is bound can be given a size next. -/
theorem InOrder.resize {steps : List SurfaceStep} (h : InOrder steps true) (width height : UInt32) :
    InOrder (steps ++ [.resize width height]) true := by
  have hbinds := filterMap_binds?_resize steps width height
  constructor
  · rw [hbinds]
    exact h.first
  · rw [hbinds]
    exact h.alternate
  · rw [hbinds]
    exact h.last
  · intro earlier width' height' hprefix
    rcases List.prefix_concat_iff.mp hprefix with heq | hprefix
    · -- it is this size, and the target is bound
      obtain ⟨rfl, -⟩ := List.append_inj' heq rfl
      exact h.last.mp rfl
    · exact h.sized earlier width' height' hprefix

/-- To bind a target if there is none is in order. -/
theorem InOrder.creating {steps : List SurfaceStep} {bound : Bool} (h : InOrder steps bound) :
    InOrder (steps ++ if bound then [] else [.create]) true := by
  cases bound with
  | true => simpa using h
  | false => exact h.bind rfl

/-- The window's events ask for their steps in order. -/
theorem InOrder.onEvent {steps : List SurfaceStep} {l : WindowSurface} (h : InOrder steps l.bound)
    (event : WindowEvent) : InOrder (steps ++ (l.onEvent event).1) (l.onEvent event).2.bound := by
  rcases l.onEvent_cases event with ⟨heq, -⟩ | ⟨hbound, heq⟩ | ⟨width, height, -, -, -, heq⟩
  · rw [heq, List.append_nil]
    exact h
  · rw [heq]
    rw [hbound] at h
    exact h.bind rfl
  · rw [heq, ← List.append_assoc]
    exact h.creating.resize width height

/-- A target has this size: it was given to it last, since it was bound. -/
def SizedTo (steps : List SurfaceStep) (size : UInt32 × UInt32) : Prop :=
  ∃ earlier later, steps = earlier ++ .create :: later ∧
    (∀ step ∈ later, step.binds? = none) ∧ (later.filterMap size?).getLast? = some size

/-- The target that is bound in the end was bound by a step after which sizes are all that was given. -/
theorem exists_create_of_getLast? {steps : List SurfaceStep}
    (h : (steps.filterMap binds?).getLast? = some true) :
    ∃ earlier later, steps = earlier ++ .create :: later ∧ ∀ step ∈ later, step.binds? = none := by
  induction steps using List.reverseRecOn with
  | nil => cases h
  | append_singleton steps step ih =>
    cases step with
    | create => exact ⟨steps, [], rfl, by simp⟩
    | destroy => simp [List.filterMap_append, binds?] at h
    | resize width height =>
      rw [filterMap_binds?_resize] at h
      obtain ⟨earlier, later, rfl, hlater⟩ := ih h
      refine ⟨earlier, later ++ [.resize width height], by simp, ?_⟩
      exact List.forall_mem_append.mpr ⟨hlater, by simp [binds?]⟩

/-- A size that is given to a bound target is its size. -/
theorem InOrder.sizedTo {steps : List SurfaceStep} (h : InOrder steps true) (width height : UInt32) :
    SizedTo (steps ++ [.resize width height]) (width, height) := by
  obtain ⟨earlier, later, rfl, hlater⟩ := exists_create_of_getLast? (h.last.mp rfl)
  refine ⟨earlier, later ++ [.resize width height], by simp, ?_, by simp [size?]⟩
  exact List.forall_mem_append.mpr ⟨hlater, by simp [binds?]⟩

end SurfaceStep

/-! ### A window in which frames are shown -/

variable {T : Type}

/-- What the window system tells the surface for a step; a new target is `fresh`, and a size is
reported together with `format`. -/
def SurfaceStep.event (fresh : T) (format : PixelFormat) : SurfaceStep → SurfaceEvent T
  | .create => .created fresh
  | .resize width height => .changed width height format
  | .destroy => .destroyed

/-- Something that is done with a window in which frames are shown. -/
inductive WindowUse (T : Type) where
  /-- The window reports an event.  If a target has to be created for it, it is `fresh`. -/
  | window (event : WindowEvent) (fresh : T) (format : PixelFormat)
  /-- A frame is presented. -/
  | present (image : Image)

namespace WindowUse

/-- The window's event, if the use is one. -/
def event? : WindowUse T → Option WindowEvent
  | .window event _ _ => some event
  | .present _ => none

/-- The size that the window reported last. -/
def lastSize? (uses : List (WindowUse T)) : Option (UInt32 × UInt32) :=
  ((uses.filterMap event?).filterMap WindowEvent.size?).getLast?

theorem lastSize?_window (uses : List (WindowUse T)) (event : WindowEvent) (fresh : T)
    (format : PixelFormat) :
    lastSize? (uses ++ [.window event fresh format]) = event.size?.or (lastSize? uses) := by
  have hevents : (uses ++ [window event fresh format]).filterMap event? =
      uses.filterMap event? ++ [event] := List.filterMap_append
  unfold lastSize?
  rw [hevents, List.filterMap_append]
  cases hsize : event.size? <;> simp [hsize]

theorem lastSize?_present (uses : List (WindowUse T)) (image : Image) :
    lastSize? (uses ++ [.present image]) = lastSize? uses := by
  have hevents : (uses ++ [present image]).filterMap event? = uses.filterMap event? ++ [] :=
    List.filterMap_append
  unfold lastSize?
  rw [hevents, List.append_nil]

end WindowUse

/-- A window, its surface, and the steps that were taken so far, batch by batch: one for each event. -/
structure WindowView (T : Type) where
  window : WindowSurface := {}
  surface : Surface T
  batches : List (List SurfaceStep) := []

namespace WindowView

variable [Drawable T]

/-- The window and its surface after a use: every step that an event asks for is taken. -/
def use (v : WindowView T) : WindowUse T → WindowView T
  | .window event fresh format =>
    let (steps, window) := v.window.onEvent event
    { window,
      surface := (steps.map (SurfaceStep.event fresh format)).foldl Surface.apply v.surface,
      batches := v.batches ++ [steps] }
  | .present image => { v with surface := (v.surface.present image).surface }

/-- The window and its surface after some uses. -/
def run (v : WindowView T) (uses : List (WindowUse T)) : WindowView T := uses.foldl use v

theorem run_concat (v : WindowView T) (uses : List (WindowUse T)) (u : WindowUse T) :
    v.run (uses ++ [u]) = (v.run uses).use u := by
  unfold run
  rw [List.foldl_append, List.foldl_cons, List.foldl_nil]

/-- What a window with a new surface has become is in step with what was done. -/
structure InStep (v : WindowView T) (scale : ScaleMode) (uses : List (WindowUse T)) : Prop where
  /-- Window and surface agree on whether a target is bound. -/
  valid : v.surface.valid = v.window.bound
  /-- The surface was only changed by the window system's events and by frames. -/
  reached : ∃ uses, v.surface = Surface.run { scale } uses
  order : SurfaceStep.InOrder v.batches.flatten v.window.bound
  /-- A new target is given its size at once. -/
  created : ∀ batch ∈ v.batches, .create ∈ batch →
    ∃ width height, batch = [.create, .resize width height]
  /-- The surface has the size that was reported last, and the bound target was given that size. -/
  size : v.window.bound = true →
    0 < v.surface.width ∧ 0 < v.surface.height ∧
    WindowUse.lastSize? uses = some (v.surface.width, v.surface.height) ∧
    SurfaceStep.SizedTo v.batches.flatten (v.surface.width, v.surface.height)

theorem inStep_nil (scale : ScaleMode) : InStep ({ surface := { scale } } : WindowView T) scale [] :=
  ⟨rfl, ⟨[], rfl⟩, SurfaceStep.inOrder_nil, by simp, by simp⟩

/-- The events of a batch of steps are uses of the surface. -/
theorem exists_uses_foldl {s : Surface T} {scale : ScaleMode}
    (h : ∃ uses, s = Surface.run { scale } uses) (events : List (SurfaceEvent T)) :
    ∃ uses, events.foldl Surface.apply s = Surface.run { scale } uses := by
  obtain ⟨uses, rfl⟩ := h
  refine ⟨uses ++ events.map .surface, ?_⟩
  unfold Surface.run
  rw [List.foldl_append, List.foldl_map]
  rfl

omit [Drawable T] in
/-- A surface that is given a size has it, and something to draw on. -/
theorem foldl_apply_sizing {s : Surface T} {bound : Bool} (h : s.valid = bound) (fresh : T)
    (format : PixelFormat) (width height : UInt32) :
    let steps := (if bound then [] else [.create]) ++ [.resize width height]
    let sized := (steps.map (SurfaceStep.event fresh format)).foldl Surface.apply s
    sized.valid = true ∧ sized.width = width ∧ sized.height = height := by
  cases bound with
  | false => exact ⟨rfl, rfl, rfl⟩
  | true => exact ⟨h, rfl, rfl⟩

/-- **An event keeps window and surface in step.** -/
theorem InStep.event {v : WindowView T} {scale : ScaleMode} {uses : List (WindowUse T)}
    (h : v.InStep scale uses) (event : WindowEvent) (fresh : T) (format : PixelFormat) :
    (v.use (.window event fresh format)).InStep scale (uses ++ [.window event fresh format]) := by
  obtain ⟨hvalid, hreached, horder, hcreated, hsize⟩ := h
  have horder' : SurfaceStep.InOrder (v.use (.window event fresh format)).batches.flatten
      (v.use (.window event fresh format)).window.bound := by
    simpa [use] using horder.onEvent event
  have hreached' := exists_uses_foldl hreached
    ((v.window.onEvent event).1.map (SurfaceStep.event fresh format))
  have hcreated' : (.create ∈ (v.window.onEvent event).1 →
      ∃ width height, (v.window.onEvent event).1 = [.create, .resize width height]) →
      ∀ batch ∈ v.batches ++ [(v.window.onEvent event).1], .create ∈ batch →
        ∃ width height, batch = [.create, .resize width height] := by
    intro hlast
    exact List.forall_mem_append.mpr ⟨hcreated, List.forall_mem_singleton.mpr hlast⟩
  rcases v.window.onEvent_cases event with ⟨heq, hnone⟩ | ⟨hbound, heq⟩ |
    ⟨width, height, hreported, hw, hh, heq⟩
  · -- nothing is asked for, and a bound target keeps its size
    refine ⟨?_, hreached', horder', hcreated' (by simp [heq]), ?_⟩
    · simpa [use, heq] using hvalid
    · intro hbound
      have hbound' : v.window.bound = true := by simpa [use, heq] using hbound
      rw [WindowUse.lastSize?_window, hnone hbound']
      simpa [use, heq] using hsize hbound'
  · -- the target is let go
    refine ⟨?_, hreached', horder', hcreated' (by simp [heq]), ?_⟩
    · simp [use, heq, SurfaceStep.event, Surface.apply]
    · intro hbound'
      simp [use, heq] at hbound'
  · -- a target, bound before or now, is given the size that was reported
    have hshown := foldl_apply_sizing hvalid fresh format width height
    have hkept : (v.use (.window event fresh format)).window.bound = true ∧
        (v.use (.window event fresh format)).surface.valid = true ∧
        (v.use (.window event fresh format)).surface.width = width ∧
        (v.use (.window event fresh format)).surface.height = height := by
      simpa [use, heq] using hshown
    obtain ⟨hbound', hvalid', hwidth', hheight'⟩ := hkept
    refine ⟨hvalid'.trans hbound'.symm, hreached', horder', hcreated' ?_, fun _ => ?_⟩
    · rw [heq]
      cases hbound : v.window.bound <;> simp
    · rw [hwidth', hheight', WindowUse.lastSize?_window, hreported]
      refine ⟨hw, hh, rfl, ?_⟩
      have hflatten : (v.use (.window event fresh format)).batches.flatten =
          (v.batches.flatten ++ if v.window.bound then [] else [.create]) ++ [.resize width height] := by
        simp [use, heq]
      rw [hflatten]
      exact (horder.creating).sizedTo width height

/-- A frame keeps window and surface in step. -/
theorem InStep.present {v : WindowView T} {scale : ScaleMode} {uses : List (WindowUse T)}
    (h : v.InStep scale uses) (image : Image) :
    (v.use (.present image)).InStep scale (uses ++ [.present image]) := by
  obtain ⟨hvalid, ⟨surfaceUses, hreached⟩, horder, hcreated, hsize⟩ := h
  have hkept : (v.surface.present image).surface.valid = v.surface.valid ∧
      (v.surface.present image).surface.width = v.surface.width ∧
      (v.surface.present image).surface.height = v.surface.height := by
    rcases Surface.present_cases v.surface image with ⟨-, hp⟩ | ⟨id, target, -, -, hsurface, -, -⟩
    · simp [hp]
    · simp [hsurface]
  obtain ⟨hvalid', hwidth, hheight⟩ := hkept
  refine ⟨hvalid'.trans hvalid, ⟨surfaceUses ++ [.present image], ?_⟩, horder, hcreated, ?_⟩
  · rw [Surface.run_concat, ← hreached]
    rfl
  · rw [WindowUse.lastSize?_present]
    simpa [use, hwidth, hheight] using hsize

/-- Window and surface are in step after everything that can be done. -/
theorem inStep_run (scale : ScaleMode) (uses : List (WindowUse T)) :
    (run { surface := { scale } } uses).InStep scale uses := by
  induction uses using List.reverseRecOn with
  | nil => exact inStep_nil scale
  | append_singleton uses u ih =>
    rw [run_concat]
    cases u with
    | window event fresh format => exact ih.event event fresh format
    | present image => exact ih.present image

/-- A frame is dropped exactly while the window has no surface. -/
theorem InStep.outcome_eq_dropped_iff {v : WindowView T} {scale : ScaleMode}
    {uses : List (WindowUse T)} (h : v.InStep scale uses) (image : Image) :
    (v.surface.present image).outcome = .ok .dropped ↔ v.window.bound = false := by
  obtain ⟨surfaceUses, hreached⟩ := h.reached
  have hfollows := (Surface.follows_run scale surfaceUses).1
  rw [← hreached] at hfollows
  rw [← h.valid]
  rcases Surface.present_cases v.surface image with ⟨hnone, hp⟩ |
    ⟨id, target, hvalid, hbound, -, -, -⟩
  · -- a surface that can be drawn on has a target, so either reason means that it cannot
    have hinvalid : v.surface.valid = false := by
      refine hnone.elim id fun hnone => ?_
      rw [hfollows.valid, hfollows.handle, hfollows.bound?_eq_none_iff.mp hnone]
      rfl
    simp [hp, hinvalid]
  · have hkept := (Surface.present_of_bound hvalid hbound image).2.2.2
    simp [hvalid, hkept]

/-- A frame is drawn where the scale mode places it on a surface of the size that was reported last. -/
theorem InStep.eq_destination_of_mem_calls {v : WindowView T} {scale : ScaleMode}
    {uses : List (WindowUse T)} (h : v.InStep scale uses) {image image' : Image} {id : Nat}
    {src dst : Rect} (hcall : (id, .draw image' src dst) ∈ (v.surface.present image).calls) :
    v.window.bound = true ∧
      dst = scale.destination image.width image.height v.surface.width v.surface.height := by
  obtain ⟨surfaceUses, hreached⟩ := h.reached
  have hscale : v.surface.scale = scale := by
    rw [hreached]
    exact (Surface.follows_run scale surfaceUses).2
  rcases Surface.present_cases v.surface image with ⟨-, hp⟩ | ⟨id', target, hvalid, -, -, hcalls, -⟩
  · rw [hp] at hcall
    cases hcall
  · have hbound : v.window.bound = true := h.valid.symm.trans hvalid
    obtain ⟨hw, hh, -, -⟩ := h.size hbound
    rw [hcalls, List.mem_map] at hcall
    obtain ⟨call, hmem, heq⟩ := hcall
    cases heq
    obtain ⟨-, -, canvas, -, hdst⟩ := Drawable.eq_of_draw_mem_calls hmem
    refine ⟨hbound, ?_⟩
    rw [hdst]
    unfold Surface.place Surface.extent
    rw [if_pos ⟨hw, hh⟩, hscale]

/-- **The window and its surface stay in step.**  For every history of window events and presented
frames, whatever targets are created for the window and however these answer:

* the window has a surface exactly if the surface can be drawn on;
* targets are bound and let go in turn, the first step being to bind one, and a size is only given to a
  target that is bound;
* a new target is given a size by the very next step of the same event;
* the size of a bound surface is positive, it is the one that the window reported last, and it was given
  to the target that is bound now;
* a frame is dropped exactly while the window has no surface, and is otherwise drawn where it belongs on
  a surface of the size that the window reported last. -/
theorem surface_in_step_with_window (scale : ScaleMode) (uses : List (WindowUse T)) :
    let v : WindowView T := run { surface := { scale } } uses
    v.window.bound = v.surface.valid ∧
    SurfaceStep.InOrder v.batches.flatten v.window.bound ∧
    (∀ batch ∈ v.batches, ∀ earlier later, batch = earlier ++ .create :: later →
      ∃ width height rest, later = .resize width height :: rest) ∧
    (v.window.bound = true →
      0 < v.surface.width ∧ 0 < v.surface.height ∧
      WindowUse.lastSize? uses = some (v.surface.width, v.surface.height) ∧
      SurfaceStep.SizedTo v.batches.flatten (v.surface.width, v.surface.height)) ∧
    ∀ image,
      ((v.surface.present image).outcome = .ok .dropped ↔ v.window.bound = false) ∧
      ∀ id image' src dst, (id, .draw image' src dst) ∈ (v.surface.present image).calls →
        ∃ width height, WindowUse.lastSize? uses = some (width, height) ∧
          SurfaceStep.SizedTo v.batches.flatten (width, height) ∧
          dst = scale.destination image.width image.height width height := by
  intro v
  have h : v.InStep scale uses := inStep_run scale uses
  refine ⟨h.valid.symm, h.order, ?_, h.size, fun image => ⟨h.outcome_eq_dropped_iff image, ?_⟩⟩
  · rintro batch hbatch earlier later rfl
    obtain ⟨width, height, heq⟩ := h.created _ hbatch (by simp)
    -- a batch of a new target and its size has nothing before the one or between the two
    cases earlier with
    | nil => exact ⟨width, height, [], List.cons.inj heq |>.2⟩
    | cons step earlier => simp [List.append_eq_cons_iff] at heq
  · intro id image' src dst hcall
    obtain ⟨hbound, hdst⟩ := h.eq_destination_of_mem_calls hcall
    obtain ⟨-, -, hlast, hsized⟩ := h.size hbound
    exact ⟨_, _, hlast, hsized, hdst⟩

/-- A window that is minimised and comes back at another size has a new target of that size. -/
example :
    let v := run { surface := { scale := .letterbox } }
      [.window (.resize 800 600) (⟨800, 600, none⟩ : Recorder) .bgra8,
        .window .minimized ⟨0, 0, none⟩ .bgra8, .window (.move 3 4) ⟨0, 0, none⟩ .bgra8,
        .window (.resize 640 480) ⟨640, 480, none⟩ .bgra8]
    v.batches = [[.create, .resize 800 600], [.destroy], [], [.create, .resize 640 480]] ∧
      v.surface.handle = some 1 ∧ (v.surface.width, v.surface.height) = (640, 480) := by
  decide

end WindowView

end DeskView
