import DeskView.Proofs.Pump.Pulls

/-!
# Pumps that draw alike

Two surfaces are alike if every frame gets as far on the one as on the other (`Surface.Alike`); what they
are surfaces of, and what was done with them before, does not matter.  Two pumps that pull the same and
have counted the same frames (`Pump.Matches`) then call the engine alike and draw the same images, tick by
tick, and go on to count the same (`Matches.tick`, `Matches.pullAll`).

What a pump has pulled at some moment is a `Pulling`: the ticks that are done, and one that may be held up
in its fetch.
-/

namespace DeskView

/-! ### What is drawn -/

/-- The image that is drawn, if the call draws one. -/
def TargetCall.image? : TargetCall → Option Image
  | .draw image _ _ => some image
  | .begin => none
  | .commit => none

namespace Effect

/-- The images that are drawn, on whatever target. -/
def images (effects : List Effect) : List Image := (targetCalls effects).filterMap (·.2.image?)

@[simp]
theorem images_append (xs ys : List Effect) : images (xs ++ ys) = images xs ++ images ys := by
  unfold images
  rw [targetCalls_append, List.filterMap_append]

/-- The same calls into the engine, and the same images drawn. -/
structure Agree (xs ys : List Effect) : Prop where
  engine : engineCalls xs = engineCalls ys
  images : images xs = images ys

section

variable {xs xs' ys ys' zs : List Effect}

theorem Agree.refl (xs : List Effect) : Agree xs xs := ⟨rfl, rfl⟩

theorem Agree.symm (h : Agree xs ys) : Agree ys xs := ⟨h.engine.symm, h.images.symm⟩

theorem Agree.trans (h : Agree xs ys) (h' : Agree ys zs) : Agree xs zs :=
  ⟨h.engine.trans h'.engine, h.images.trans h'.images⟩

theorem Agree.append (h : Agree xs ys) (h' : Agree xs' ys') : Agree (xs ++ xs') (ys ++ ys') := by
  constructor
  · rw [engineCalls_append, engineCalls_append, h.engine, h'.engine]
  · rw [images_append, images_append, h.images, h'.images]

/-- Logging is neither of the two. -/
theorem agree_append_map_log (xs : List Effect) (records : List Log.Record) :
    Agree (xs ++ records.map .log) xs := by
  constructor
  · rw [engineCalls_append, engineCalls_map_log, List.append_nil]
  · unfold Effect.images
    rw [targetCalls_append, targetCalls_map_log, List.append_nil]

end

end Effect

variable {T T' : Type} [Drawable T] [Drawable T']

/-- Every frame gets as far on the one surface as on the other, and comes to the same. -/
def Surface.Alike (s : Surface T) (s' : Surface T') : Prop :=
  ∀ image, (s.present image).outcome = (s'.present image).outcome ∧
    (s.present image).calls.length = (s'.present image).calls.length

theorem Surface.Alike.refl (s : Surface T) : s.Alike s := fun _ => ⟨rfl, rfl⟩

/-- Two pulls with the same answers and alike surfaces. -/
structure Pull.Alike (x : Pull T) (y : Pull T') : Prop where
  answers : x.answers = y.answers
  surface : x.surface.Alike y.surface

/-- Whether a presented frame is drawn at all can be told from the number of calls. -/
theorem Surface.images_present (s : Surface T) (image : Image) :
    (s.present image).calls.filterMap (·.2.image?) =
      if 2 ≤ (s.present image).calls.length then [image] else [] := by
  rcases s.present_cases image with ⟨-, hp⟩ | ⟨id, target, -, -, -, hcalls, -⟩
  · rw [hp]
    rfl
  · rw [hcalls, List.length_map]
    rcases Drawable.transact_cases target image (s.place image) with ⟨h, -⟩ | ⟨canvas, -, h, -⟩ |
      ⟨canvas, -, h⟩ <;> rw [h] <;> rfl

namespace Pump

omit [Drawable T] in
theorem images_conclude (p : Pump) (done : Presented T) :
    Effect.images (p.conclude done).effects = done.calls.filterMap (·.2.image?) := by
  unfold Effect.images
  rw [targetCalls_conclude]

theorem images_prepare (p : Pump) (a : Engine.Answers) : Effect.images (p.prepare a).effects = [] := by
  unfold Effect.images
  rw [targetCalls_prepare]
  rfl

theorem frameCount_prepare (p : Pump) (a : Engine.Answers) :
    (p.prepare a).pump.frameCount = p.frameCount := by
  rcases prepare_cases p a with ⟨e, -, h⟩ | ⟨r, -, -, h⟩ | ⟨r, g, e, -, -, -, h⟩ |
    ⟨r, g, replaced, frames, -, -, -, h⟩ <;> rw [h] <;> rfl

/-! ### Two pumps, tick by tick -/

/-- Two pumps that pull the same and have drawn as many frames. -/
structure Matches (p q : Pump) : Prop extends p.SameSource q where
  frameCount : p.frameCount = q.frameCount

variable {p q : Pump}

theorem Matches.refl (p : Pump) : p.Matches p := ⟨⟨rfl, rfl, rfl⟩, rfl⟩

theorem Matches.prepare (h : p.Matches q) (a : Engine.Answers) :
    (p.prepare a).verdict = (q.prepare a).verdict ∧
      Effect.Agree (p.prepare a).effects (q.prepare a).effects ∧
      (p.prepare a).pump.Matches (q.prepare a).pump := by
  obtain ⟨hverdict, hsource, hcalls⟩ := h.toSameSource.prepare a
  refine ⟨hverdict, ⟨hcalls, ?_⟩, hsource, ?_⟩
  · rw [images_prepare, images_prepare]
  · rw [frameCount_prepare, frameCount_prepare, h.frameCount]

/-- On alike surfaces the second half of a tick draws the same and counts the same. -/
theorem Matches.deliver (h : p.Matches q) {s : Surface T} {s' : Surface T'} (hs : s.Alike s')
    (f : Engine.Fetch) :
    Effect.Agree (p.deliver s f).effects (q.deliver s' f).effects ∧
      (p.deliver s f).pump.Matches (q.deliver s' f).pump := by
  have hsource := h.toSameSource.deliver s s' f
  have hengine : Effect.engineCalls (p.deliver s f).effects =
      Effect.engineCalls (q.deliver s' f).effects := by
    rw [engineCalls_deliver, engineCalls_deliver]
  have hframes := h.frames
  rcases p.deliver_eq_load s f with ⟨hp, hpump, heffects⟩ | ⟨image, hp, hdeliver⟩ <;>
    rcases q.deliver_eq_load s' f with ⟨hq, hpump', heffects'⟩ | ⟨image', hq, hdeliver'⟩ <;>
    rw [hframes, hq] at hp
  · refine ⟨⟨hengine, ?_⟩, hsource, ?_⟩
    · rw [heffects, heffects']
    · rw [hpump, hpump']
      exact h.frameCount
  · cases hp
  · cases hp
  · -- an image was loaded, and it is the same one
    cases hp
    obtain ⟨houtcome, hlength⟩ := hs image
    refine ⟨⟨hengine, ?_⟩, hsource, ?_⟩
    · rw [hdeliver, hdeliver', images_conclude, images_conclude, s.images_present, s'.images_present,
        hlength]
    · have hpresented : (p.deliver s f).outcome = .ok .presented ↔
          (q.deliver s' f).outcome = .ok .presented := by
        rw [hdeliver, hdeliver', outcome_conclude_eq_presented_iff, outcome_conclude_eq_presented_iff,
          houtcome]
      rw [hdeliver, hdeliver', frameCount_conclude, frameCount_conclude, ← hdeliver, ← hdeliver']
      simp only [hpresented]
      exact congrArg (· + _) h.frameCount

/-- **On alike surfaces a tick draws the same and counts the same.** -/
theorem Matches.tick (h : p.Matches q) {s : Surface T} {s' : Surface T'} (hs : s.Alike s')
    (a : Engine.Answers) :
    Effect.Agree (p.tick s a).effects (q.tick s' a).effects ∧
      (p.tick s a).pump.Matches (q.tick s' a).pump := by
  obtain ⟨hverdict, hasked, hprepared⟩ := h.prepare a
  by_cases hv : (p.prepare a).verdict = .ok .ready
  · obtain ⟨hdrawn, hmatches⟩ := hprepared.deliver hs a.fetch
    rw [tick_of_ready s hv, tick_of_ready s' (hverdict ▸ hv)]
    exact ⟨hasked.append hdrawn, hmatches⟩
  · obtain ⟨hpump, -, heffects, -⟩ := tick_of_not_ready s hv
    obtain ⟨hpump', -, heffects', -⟩ := tick_of_not_ready s' (hverdict ▸ hv)
    rw [hpump, hpump', heffects, heffects']
    exact ⟨hasked, ⟨h.session, h.display, h.frames⟩, h.frameCount⟩

/-- The pump after some pulls. -/
def after (p : Pump) (xs : List (Pull T)) : Pump :=
  xs.foldl (fun p x => (p.tick x.surface x.answers).pump) p

theorem after_concat (p : Pump) (xs : List (Pull T)) (x : Pull T) :
    p.after (xs ++ [x]) = ((p.after xs).tick x.surface x.answers).pump := by
  unfold after
  rw [List.foldl_append, List.foldl_cons, List.foldl_nil]

theorem pullAll_concat (p : Pump) (xs : List (Pull T)) (x : Pull T) :
    p.pullAll (xs ++ [x]) = p.pullAll xs ++ [(p.after xs).tick x.surface x.answers] := by
  induction xs generalizing p with
  | nil => rfl
  | cons y ys ih => exact congrArg (_ :: ·) (ih _)

/-- A tick that is under way with these answers, if there is one. -/
def underWay (p : Pump) : Option Engine.Answers → Prepared
  | none => ⟨.ok .idle, p, []⟩
  | some a => p.prepare a

theorem frameCount_underWay (p : Pump) (held : Option Engine.Answers) :
    (p.underWay held).pump.frameCount = p.frameCount := by
  cases held with
  | none => rfl
  | some a => exact p.frameCount_prepare a

theorem Matches.underWay (h : p.Matches q) (held : Option Engine.Answers) :
    Effect.Agree (p.underWay held).effects (q.underWay held).effects ∧
      (p.underWay held).pump.Matches (q.underWay held).pump := by
  cases held with
  | none => exact ⟨.refl _, h⟩
  | some a => exact (h.prepare a).2

end Pump

/-- What a pump has pulled: the ticks that are done, and the answers to one that is held up in its
fetch. -/
structure Pulling (T : Type) where
  done : List (Pull T) := []
  held : Option Engine.Answers := none

namespace Pulling

/-- What a pump does in all that it pulls. -/
def effects (x : Pulling T) (p : Pump) : List Effect :=
  (p.pullAll x.done).flatMap Ticked.effects ++ ((p.after x.done).underWay x.held).effects

/-- The pump when it has pulled all of this. -/
def pump (x : Pulling T) (p : Pump) : Pump := ((p.after x.done).underWay x.held).pump

end Pulling

/-- Two pumps that match do the same on alike surfaces, and match again when it is done. -/
theorem Pump.Matches.pullAll {p q : Pump} (h : p.Matches q) {xs : List (Pull T)} {ys : List (Pull T')}
    (hxs : List.Forall₂ Pull.Alike xs ys) :
    Effect.Agree ((p.pullAll xs).flatMap Ticked.effects) ((q.pullAll ys).flatMap Ticked.effects) ∧
      (p.after xs).Matches (q.after ys) := by
  induction hxs generalizing p q with
  | nil => exact ⟨.refl _, h⟩
  | @cons x y xs ys hxy hrest ih =>
    obtain ⟨a, s⟩ := x
    obtain ⟨a', s'⟩ := y
    obtain ⟨rfl, hs⟩ : a = a' ∧ s.Alike s' := ⟨hxy.answers, hxy.surface⟩
    obtain ⟨hfirst, hmatches⟩ := h.tick hs a
    obtain ⟨hlater, hend⟩ := ih hmatches
    exact ⟨hfirst.append hlater, hend⟩

theorem Playback.pump_run (p : Playback T) (history : List (Moment T)) :
    (p.run history).pump = p.pump.after (p.pulls history) := by
  induction history generalizing p with
  | nil => rfl
  | cons m rest ih =>
    rw [run_cons]
    cases m with
    | tick a => exact ih _
    | surface event => exact ih _

end DeskView
