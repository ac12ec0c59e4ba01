import DeskView.Proofs.Surface.Events
import DeskView.Surface.StandIn
import Mathlib.Data.List.Induction

/-!
# A target is used while it is bound

A surface calls its targets in transactions only, and each target only from the event that creates it
to the next one that creates another or destroys the surface (`target_used_while_bound`).

Two things are kept apart.  Which target a frame goes to depends on what was done with the surface
before, and not on any target (`exists_created_of_bound?`).  How far the transaction gets depends on
what that target answers and on nothing else: `Drawable.answers` lets a target answer any calls in any
order, and `Drawable.Obeyed` says which calls a transaction makes in view of the answers.
-/

namespace DeskView

/-- Whether a call answered, failed or panicked, whatever its value. -/
def Outcome.discard {ε α : Type} : Outcome ε α → Outcome ε Unit
  | .ok _ => .ok ()
  | .error e => .error e
  | .panic => .panic

namespace Drawable

variable {T : Type} [Drawable T]

/-! ### One transaction -/

/-- A call on a target: what it answers, and the target after it. -/
def call (target : T) : TargetCall → Outcome FrameError Unit × T
  | .begin => ((begin target).1.discard, (begin target).2)
  | .draw image src dst => draw target image src dst
  | .commit => commit target

/-- What a target answers to some calls, made one after the other. -/
def answers (target : T) : List TargetCall → List (Outcome FrameError Unit)
  | [] => []
  | c :: rest => (call target c).1 :: answers (call target c).2 rest

/-- The target after some calls. -/
def after (target : T) : List TargetCall → T
  | [] => target
  | c :: rest => after (call target c).2 rest

/-- Calls that are made one after the other. -/
theorem after_append (target : T) (xs ys : List TargetCall) :
    after target (xs ++ ys) = after (after target xs) ys := by
  induction xs generalizing target with
  | nil => rfl
  | cons x xs ih => exact ih _

/-- The calls that show the whole of an image on the part `dst` of a canvas. -/
def showing (image : Image) (dst : Rect) : List TargetCall :=
  [.begin, .draw image (.sized image.width image.height) dst, .commit]

/-- Calls that show an image on a target were made as long as they were answered, and no longer; what
they came to is `outcome`. -/
structure Obeyed (target : T) (image : Image) (calls : List TargetCall)
    (outcome : Outcome FrameError Unit) : Prop where
  /-- The calls are the first of begin, draw and commit. -/
  order : ∃ dst, calls <+: showing image dst
  /-- Every call but the last one succeeded, and the last one's answer is the outcome. -/
  answered : answers target calls = List.replicate (calls.length - 1) (.ok ()) ++ [outcome]
  /-- Nothing but the whole of them succeeds. -/
  complete : outcome = .ok () → calls.length = 3

/-- Every transaction goes on as long as its calls are answered, and no longer. -/
theorem obeyed_transact (target : T) (image : Image) (place : UInt32 × UInt32 → Rect) :
    Obeyed target image (transact target image place).calls (transact target image place).outcome ∧
      (transact target image place).target = after target (transact target image place).calls := by
  unfold transact
  rcases hbegin : begin target with ⟨canvas | e | _, begun⟩
  · dsimp only
    rcases hdraw : draw begun image (.sized image.width image.height) (place canvas) with
      ⟨u | e | _, drawn⟩
    · -- all three calls are made, and the last one decides
      refine ⟨⟨⟨place canvas, List.prefix_rfl⟩, ?_, fun _ => rfl⟩, ?_⟩
      · simp [answers, call, hbegin, hdraw, Outcome.discard, List.replicate]
      · simp [after, call, hbegin, hdraw]
    · refine ⟨⟨⟨place canvas, [.commit], rfl⟩, ?_, by simp⟩, ?_⟩
      · simp [answers, call, hbegin, hdraw, Outcome.discard]
      · simp [after, call, hbegin, hdraw]
    · refine ⟨⟨⟨place canvas, [.commit], rfl⟩, ?_, by simp⟩, ?_⟩
      · simp [answers, call, hbegin, hdraw, Outcome.discard]
      · simp [after, call, hbegin, hdraw]
  · refine ⟨⟨⟨default, _, rfl⟩, ?_, by simp⟩, ?_⟩
    · simp [answers, call, hbegin, Outcome.discard]
    · simp [after, call, hbegin]
  · refine ⟨⟨⟨default, _, rfl⟩, ?_, by simp⟩, ?_⟩
    · simp [answers, call, hbegin, Outcome.discard]
    · simp [after, call, hbegin]

section

variable {target : T} {image : Image} {calls : List TargetCall} {outcome : Outcome FrameError Unit}

/-- A call is made only if the one before it succeeded. -/
theorem Obeyed.succeeded_of_lt (h : Obeyed target image calls outcome) {n : Nat}
    (hn : n + 1 < calls.length) : (answers target calls)[n]? = some (.ok ()) := by
  rw [h.answered, List.getElem?_append_left (by rw [List.length_replicate]; omega),
    List.getElem?_replicate, if_pos (by omega)]

/-- What the last call answered is what all of them come to. -/
theorem Obeyed.getLast?_answers (h : Obeyed target image calls outcome) :
    (answers target calls).getLast? = some outcome := by
  rw [h.answered, List.getLast?_concat]

/-- The calls come to a success exactly if all three were made and answered. -/
theorem Obeyed.eq_ok_iff (h : Obeyed target image calls outcome) :
    outcome = .ok () ↔ answers target calls = [.ok (), .ok (), .ok ()] := by
  rw [h.answered]
  constructor
  · intro hok
    rw [h.complete hok, hok]
    rfl
  · intro hall
    have hmem : outcome ∈ [Outcome.ok (), .ok (), .ok ()] :=
      hall ▸ List.mem_append_right _ (List.mem_singleton_self _)
    simpa using hmem

end

end Drawable

namespace Surface

variable {T : Type}

/-! ### Which target is used -/

/-- Something that is done with a surface. -/
inductive Use (T : Type) where
  /-- The window system reports a change. -/
  | surface (event : SurfaceEvent T)
  /-- A frame is presented. -/
  | present (image : Image)

namespace Use

/-- The window system's event, if the use is one. -/
def event? : Use T → Option (SurfaceEvent T)
  | surface event => some event
  | present _ => none

/-- The window system's events among some uses. -/
def events (uses : List (Use T)) : List (SurfaceEvent T) := uses.filterMap event?

theorem events_append (xs ys : List (Use T)) : events (xs ++ ys) = events xs ++ events ys :=
  List.filterMap_append

@[simp]
theorem events_nil : events ([] : List (Use T)) = [] := rfl

@[simp]
theorem events_surface (event : SurfaceEvent T) : events [.surface event] = [event] := rfl

@[simp]
theorem events_present (image : Image) : events ([.present image] : List (Use T)) = [] := rfl

end Use

/-- The target that is bound was created by the last event that bound a target or let one go. -/
theorem exists_created_of_bound? {uses : List (Use T)} {id : Nat}
    (h : SurfaceEvent.bound? (Use.events uses) = some id) :
    ∃ earlier target later, uses = earlier ++ .surface (.created target) :: later ∧
      id = (Use.events earlier).countP SurfaceEvent.isCreated ∧
      ∀ event ∈ Use.events later, event.binds? = none := by
  induction uses using List.reverseRecOn with
  | nil => cases h
  | append_singleton uses use ih =>
    -- a use that binds nothing and lets nothing go can be put to the later ones
    have hlater : SurfaceEvent.bound? (Use.events uses) = some id →
        (∀ event ∈ Use.events [use], event.binds? = none) →
        ∃ earlier target later, uses ++ [use] = earlier ++ .surface (.created target) :: later ∧
          id = (Use.events earlier).countP SurfaceEvent.isCreated ∧
          ∀ event ∈ Use.events later, event.binds? = none := by
      intro hbound hnone
      obtain ⟨earlier, target, later, huses, hid, hkept⟩ := ih hbound
      refine ⟨earlier, target, later ++ [use], by simp [huses], hid, fun event hmem => ?_⟩
      rw [Use.events_append, List.mem_append] at hmem
      exact hmem.elim (hkept event) (hnone event)
    rw [Use.events_append] at h
    cases use with
    | present image => exact hlater (by simpa using h) (by simp)
    | surface event =>
      cases event with
      | created target =>
        refine ⟨uses, target, [], rfl, ?_, by simp⟩
        simpa [SurfaceEvent.bound?, SurfaceEvent.binds?, SurfaceEvent.isCreated] using h.symm
      | changed width height format =>
        refine hlater ?_ (by simp [SurfaceEvent.binds?])
        simpa [SurfaceEvent.bound?, SurfaceEvent.binds?, SurfaceEvent.isCreated] using h
      | destroyed => simp [SurfaceEvent.bound?, SurfaceEvent.binds?] at h

variable [Drawable T]

/-- The surface after a use, and the calls that it makes on targets. -/
def use (s : Surface T) : Use T → Surface T × List (Nat × TargetCall)
  | .surface event => (s.apply event, [])
  | .present image => ((s.present image).surface, (s.present image).calls)

/-- The surface after some uses. -/
def run (s : Surface T) (uses : List (Use T)) : Surface T := uses.foldl (fun s u => (s.use u).1) s

theorem run_concat (s : Surface T) (uses : List (Use T)) (u : Use T) :
    s.run (uses ++ [u]) = ((s.run uses).use u).1 := by
  unfold run
  rw [List.foldl_append, List.foldl_cons, List.foldl_nil]

/-- The scale mode is chosen once. -/
theorem scale_use (s : Surface T) (u : Use T) : (s.use u).1.scale = s.scale := by
  cases u with
  | surface event => cases event <;> rfl
  | present image =>
    rcases present_cases s image with ⟨-, hp⟩ | ⟨id, target, -, -, hsurface, -, -⟩
    · exact congrArg (·.surface.scale) hp
    · exact (congrArg Surface.scale hsurface).trans rfl

/-- Whatever is done with a surface, it is where the window system's events lead. -/
theorem follows_run (scale : ScaleMode) (uses : List (Use T)) :
    (run { scale } uses).Follows (Use.events uses) ∧
      (run ({ scale } : Surface T) uses).scale = scale := by
  induction uses using List.reverseRecOn with
  | nil => exact ⟨follows_nil scale, rfl⟩
  | append_singleton uses u ih =>
    obtain ⟨hfollows, hscale⟩ := ih
    rw [run_concat, Use.events_append, scale_use]
    refine ⟨?_, hscale⟩
    cases u with
    | surface event => exact hfollows.apply event
    | present image =>
      rw [Use.events_present, List.append_nil]
      exact hfollows.present image

/-- A frame that is presented while a target is bound is one transaction on that target. -/
theorem present_of_bound {s : Surface T} {id : Nat} {target : T} (hvalid : s.valid = true)
    (hbound : s.bound? = some (id, target)) (image : Image) :
    (s.present image).calls =
        (Drawable.transact target image (s.place image)).calls.map (id, ·) ∧
      (s.present image).surface.targets[id]? =
        some (Drawable.transact target image (s.place image)).target ∧
      (s.present image).outcome.discard =
        (Drawable.transact target image (s.place image)).outcome ∧
      (s.present image).outcome ≠ .ok .dropped := by
  have hid : id < s.targets.size :=
    (Array.getElem?_eq_some_iff.mp (bound?_eq_some_iff.mp hbound).2).1
  unfold present
  rw [if_neg (by simp [hvalid]), hbound]
  dsimp only
  cases (Drawable.transact target image (s.place image)).outcome with
  | ok u => exact ⟨rfl, Array.getElem?_setIfInBounds_self_of_lt hid, rfl, by simp⟩
  | error e => exact ⟨rfl, Array.getElem?_setIfInBounds_self_of_lt hid, rfl, by simp⟩
  | panic => exact ⟨rfl, Array.getElem?_setIfInBounds_self_of_lt hid, rfl, by simp⟩

/-- Calls on targets that are the first ones of a single transaction. -/
def IsTransaction (calls : List (Nat × TargetCall)) : Prop :=
  ∃ id image dst, calls <+: (Drawable.showing image dst).map (id, ·)

omit [Drawable T] in
theorem isTransaction_nil : IsTransaction [] := ⟨0, .blank 0 0 .rgba8, default, List.nil_prefix⟩

/-- A frame that is presented takes one transaction, or none. -/
theorem isTransaction_present (s : Surface T) (image : Image) :
    IsTransaction (s.present image).calls := by
  rcases present_cases s image with ⟨-, hp⟩ | ⟨id, target, -, -, -, hcalls, -⟩
  · rw [hp]
    exact isTransaction_nil
  · obtain ⟨⟨dst, horder⟩, -, -⟩ := (Drawable.obeyed_transact target image (s.place image)).1
    rw [hcalls]
    exact ⟨id, image, dst, horder.map (id, ·)⟩

/-- What is not dropped is drawn exactly if it succeeds. -/
theorem outcome_eq_drawn_iff {outcome : Outcome FrameError Presentation}
    (h : outcome ≠ .ok .dropped) : outcome = .ok .drawn ↔ outcome.discard = .ok () := by
  cases outcome with
  | ok presentation => cases presentation <;> simp_all [Outcome.discard]
  | error e => simp [Outcome.discard]
  | panic => simp [Outcome.discard]

/-- **A target is used while it is bound, and in transactions.**  For every surface, whatever was done
with it before and however its targets answer:

* a call is made only when a frame is presented, on the target that was created last, and only if no
  other was created and the surface was not destroyed since;
* the frame is dropped exactly if no target is bound, and then no call is made at all;
* else the calls are the first of begin, draw and commit, each made only if the one before it was
  answered; the frame is drawn exactly if all three were, and otherwise it ends as the last call did;
* a draw is of the whole image, and goes where the scale mode places it on a surface of the size that
  was reported last, or of the size that `begin` reported if none was. -/
theorem target_used_while_bound (scale : ScaleMode) (uses : List (Use T)) :
    let s := run ({ scale } : Surface T) uses
    let bound := SurfaceEvent.bound? (Use.events uses)
    let extent := SurfaceEvent.extent (Use.events uses)
    (∀ u id call, (id, call) ∈ (s.use u).2 →
      (∃ image, u = .present image) ∧
      ∃ earlier target later, uses = earlier ++ .surface (.created target) :: later ∧
        id = (Use.events earlier).countP SurfaceEvent.isCreated ∧
        ∀ event ∈ Use.events later, event.binds? = none) ∧
    ∀ image,
      ((s.present image).outcome = .ok .dropped ↔ bound = none) ∧
      (bound = none → (s.present image).calls = []) ∧
      ∀ id, bound = some id → ∃ target calls, s.targets[id]? = some target ∧
        (s.present image).calls = calls.map (id, ·) ∧
        (s.present image).surface.targets[id]? = some (Drawable.after target calls) ∧
        (∃ dst, calls <+: Drawable.showing image dst) ∧
        (∀ n, n + 1 < calls.length → (Drawable.answers target calls)[n]? = some (.ok ())) ∧
        ((s.present image).outcome = .ok .drawn ↔
          Drawable.answers target calls = [.ok (), .ok (), .ok ()]) ∧
        (Drawable.answers target calls).getLast? = some (s.present image).outcome.discard ∧
        ∀ image' src dst, .draw image' src dst ∈ calls →
          image' = image ∧ src = ⟨0, 0, image.width, image.height⟩ ∧
          ∃ canvas, (Drawable.begin target).1 = .ok canvas ∧
            dst = scale.destination image.width image.height (extent canvas).1 (extent canvas).2 := by
  intro s bound extent
  obtain ⟨hfollows, hscale⟩ := follows_run (T := T) scale uses
  have hdropped : bound = none → s.present = fun _ => ⟨.ok .dropped, s, []⟩ := by
    intro hnone
    funext image
    rcases present_cases s image with ⟨-, hp⟩ | ⟨id, target, -, hbound, -⟩
    · exact hp
    · rw [hfollows.bound?_eq_none_iff.mpr hnone] at hbound
      cases hbound
  have hbound : ∀ id, bound = some id →
      s.valid = true ∧ ∃ target, s.bound? = some (id, target) ∧ s.targets[id]? = some target := by
    intro id hid
    have hhandle : s.handle = some id := hfollows.handle.trans hid
    have hlt : id < s.targets.size := hfollows.targets ▸ SurfaceEvent.bound?_lt hid
    have htarget : s.targets[id]? = some s.targets[id] := Array.getElem?_eq_getElem hlt
    exact ⟨by rw [hfollows.valid, hhandle]; rfl, s.targets[id],
      bound?_eq_some_iff.mpr ⟨hhandle, htarget⟩, htarget⟩
  refine ⟨?_, fun image => ⟨?_, ?_, ?_⟩⟩
  · intro u id call hmem
    cases u with
    | surface event => cases hmem
    | present image =>
      have hhandle := (mem_calls_present (s := s) hmem).1
      exact ⟨⟨image, rfl⟩, exists_created_of_bound? (hfollows.handle.symm.trans hhandle)⟩
  · constructor
    · intro houtcome
      cases hid : bound with
      | none => rfl
      | some id =>
        obtain ⟨hvalid, target, hbound, -⟩ := hbound id hid
        exact absurd houtcome (present_of_bound hvalid hbound image).2.2.2
    · intro hnone
      rw [hdropped hnone]
  · intro hnone
    rw [hdropped hnone]
  · intro id hid
    obtain ⟨hvalid, target, hbound, htarget⟩ := hbound id hid
    obtain ⟨hcalls, hafter, houtcome, hkept⟩ := present_of_bound hvalid hbound image
    obtain ⟨hobeyed, hleft⟩ := Drawable.obeyed_transact target image (s.place image)
    rw [← houtcome] at hobeyed
    refine ⟨target, _, htarget, hcalls, hafter.trans (congrArg some hleft), hobeyed.order,
      fun n => hobeyed.succeeded_of_lt, (outcome_eq_drawn_iff hkept).trans hobeyed.eq_ok_iff,
      hobeyed.getLast?_answers, ?_⟩
    intro image' src dst hmem
    obtain ⟨himage, hsrc, canvas, hbegin, hdst⟩ := Drawable.eq_of_draw_mem_calls hmem
    refine ⟨himage, hsrc, canvas, hbegin, ?_⟩
    rw [hdst, hfollows.place, hscale]

/-- A target that fails to draw once: its transaction is given up, and the next one is whole. -/
example :
    let s := run { scale := .stretch }
      [.surface (.created (⟨4, 2, some ⟨.draw, some (.draw "lost"), some 1⟩⟩ : Recorder)),
        .present (.blank 1 1 .rgba8)]
    s.targets[0]? = some ⟨4, 2, none⟩ ∧
      (s.present (.blank 1 1 .rgba8)).calls =
        (Drawable.showing (.blank 1 1 .rgba8) (.sized 4 2)).map (0, ·) ∧
      (s.present (.blank 1 1 .rgba8)).outcome = .ok .drawn := by
  decide

end Surface

end DeskView
