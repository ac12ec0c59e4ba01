import DeskView.Proofs.Pump.Tick
import Mathlib.Data.List.Induction

/-!
# A pump and its surface through a history

A `Playback` is a pump together with the surface it draws on.  Its history is a list of `Moment`s:
ticks, each with whatever the engine answers to it, and events of the window system between them.
`Playback.run` is where a history leads and `Playback.ticks` lists what its ticks came to.

`Playback.run_induction` turns what one moment keeps into what every history keeps.  The first use of
it: the frame buffer stays sound and in its format (`sound_frames_run`).
-/

namespace DeskView

/-- Something that happens to a pump and its surface. -/
inductive Moment (T : Type) where
  /-- A tick, with the engine's answers to it. -/
  | tick (answers : Engine.Answers)
  /-- The window system reports a change of the surface. -/
  | surface (event : SurfaceEvent T)

namespace Moment

variable {T : Type}

/-- The surface event, if the moment is one. -/
def event? : Moment T → Option (SurfaceEvent T)
  | .tick _ => none
  | .surface event => some event

/-- The surface events of a history. -/
def events (history : List (Moment T)) : List (SurfaceEvent T) := history.filterMap event?

@[simp]
theorem events_append (xs ys : List (Moment T)) : events (xs ++ ys) = events xs ++ events ys :=
  List.filterMap_append

theorem mem_events {history : List (Moment T)} {event : SurfaceEvent T} :
    event ∈ events history ↔ .surface event ∈ history := by
  unfold events
  rw [List.mem_filterMap]
  constructor
  · rintro ⟨moment, hmem, hevent⟩
    cases moment with
    | tick answers => cases hevent
    | surface event' =>
      cases hevent
      exact hmem
  · intro hmem
    exact ⟨.surface event, hmem, rfl⟩

end Moment

/-- A pump and the surface it draws on. -/
structure Playback (T : Type) where
  pump : Pump
  surface : Surface T

namespace Playback

variable {T : Type} [Drawable T]

/-- The tick to which the engine gives these answers. -/
def tick (p : Playback T) (a : Engine.Answers) : Ticked T := p.pump.tick p.surface a

/-- The pump and the surface after a moment. -/
def step (p : Playback T) : Moment T → Playback T
  | .tick a => ⟨(p.tick a).pump, (p.tick a).surface⟩
  | .surface event => { p with surface := p.surface.apply event }

/-- The pump and the surface after a history. -/
def run (p : Playback T) (history : List (Moment T)) : Playback T := history.foldl step p

/-- The ticks of a history, in order. -/
def ticks (p : Playback T) : List (Moment T) → List (Ticked T)
  | [] => []
  | .tick a :: rest => p.tick a :: (p.step (.tick a)).ticks rest
  | .surface event :: rest => (p.step (.surface event)).ticks rest

@[simp]
theorem run_nil (p : Playback T) : p.run [] = p := rfl

@[simp]
theorem run_cons (p : Playback T) (m : Moment T) (rest : List (Moment T)) :
    p.run (m :: rest) = (p.step m).run rest := rfl

theorem run_concat (p : Playback T) (history : List (Moment T)) (m : Moment T) :
    p.run (history ++ [m]) = (p.run history).step m := by
  unfold run
  rw [List.foldl_append, List.foldl_cons, List.foldl_nil]

theorem run_append (p : Playback T) (xs ys : List (Moment T)) : p.run (xs ++ ys) = (p.run xs).run ys :=
  List.foldl_append

theorem ticks_append (p : Playback T) (xs ys : List (Moment T)) :
    p.ticks (xs ++ ys) = p.ticks xs ++ (p.run xs).ticks ys := by
  -- the pump at the later moments is reached through the first, so the induction is for all pumps
  induction xs generalizing p with
  | nil => rfl
  | cons first rest ih =>
    rw [run_cons]
    cases first with
    | tick a => exact congrArg (p.tick a :: ·) (ih _)
    | surface event => exact ih _

theorem ticks_concat (p : Playback T) (history : List (Moment T)) (m : Moment T) :
    p.ticks (history ++ [m]) = p.ticks history ++ (p.run history).ticks [m] :=
  p.ticks_append history [m]

/-- What holds at the beginning and is kept by every moment, whatever came before it, holds after
every history. -/
theorem run_induction {P : List (Moment T) → Playback T → Prop} {p : Playback T} (hp : P [] p)
    (hstep : ∀ history m, P history (p.run history) →
      P (history ++ [m]) ((p.run history).step m))
    (history : List (Moment T)) : P history (p.run history) := by
  induction history using List.reverseRecOn with
  | nil => exact hp
  | append_singleton history m ih =>
    rw [run_concat]
    exact hstep history m ih

/-! ### What every history keeps -/

/-- The frame buffer stays sound, and its format is never changed. -/
theorem sound_frames_run {p : Playback T} (hp : p.pump.frames.Sound) (history : List (Moment T)) :
    (p.run history).pump.frames.Sound ∧ (p.run history).pump.frames.format = p.pump.frames.format := by
  refine run_induction (P := fun _ q =>
    q.pump.frames.Sound ∧ q.pump.frames.format = p.pump.frames.format) ⟨hp, rfl⟩ ?_ history
  rintro earlier (a | event) ⟨hsound, hformat⟩
  · obtain ⟨hsound', hformat'⟩ :=
      Pump.sound_frames_tick (p.run earlier).surface a hsound
    exact ⟨hsound', hformat'.trans hformat⟩
  · exact ⟨hsound, hformat⟩

/-- A pump counts its ticks. -/
theorem ticks_pump_run (p : Playback T) (history : List (Moment T)) :
    (p.run history).pump.ticks = p.pump.ticks + (p.ticks history).length := by
  refine run_induction (P := fun earlier q =>
    q.pump.ticks = p.pump.ticks + (p.ticks earlier).length) rfl ?_ history
  rintro earlier (a | event) hticks
  · rw [ticks_concat, List.length_append, ← Nat.add_assoc, ← hticks]
    exact Pump.ticks_tick _ _ a
  · rw [ticks_concat, List.length_append, ← Nat.add_assoc, ← hticks]
    rfl

end Playback

end DeskView
