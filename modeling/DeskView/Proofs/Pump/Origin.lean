import DeskView.Proofs.Pump.Alike

/-!
# Where the bytes of a buffer come from

A pump keeps its buffer from one fetch to the next, and an engine may leave any part of it as it was.  So
what a fetch finds in the buffer matters: `Pump.fetches` lists the fetches of some pulls, each with the
buffer that it was handed.  Nothing else ever writes into the buffer, hence a fetch finds zeros or just
what the one before it left (`Pump.isFrom_of_fetches_eq`).
-/

namespace DeskView

/-- A fetch that was called for, and the buffer that it was handed. -/
structure FetchCall where
  buffer : Array UInt8
  fetch : Engine.Fetch

/-- The buffer as the fetch leaves it. -/
def FetchCall.left (x : FetchCall) : Array UInt8 := x.fetch.paint x.buffer

/-- These bytes are zeros, or they are all what the last of some fetches left. -/
def FetchCall.IsFrom (earlier : List FetchCall) (bytes : Array UInt8) : Prop :=
  bytes = Array.replicate bytes.size 0 ∨ ∃ last ∈ earlier.getLast?, bytes = last.left

theorem FrameBuffer.bytes_load (b : FrameBuffer) (f : Engine.Fetch) :
    (b.load f).2.bytes = f.paint b.bytes := by
  have hfill := b.bytes_fill f
  unfold load
  generalize b.fill f = done at hfill
  rcases done with ⟨u | e | _, filled⟩
  · dsimp only
    cases hstage : filled.stage with
    | error e => exact hfill
    | ok staged =>
      -- staging copies the bytes and leaves them where they are
      dsimp only
      rw [FrameBuffer.eq_of_stage hstage]
      exact hfill
  · exact hfill
  · exact hfill

namespace Pump

variable {T : Type} [Drawable T]

/-- What a tick fetches, if it gets that far. -/
def fetch? (p : Pump) (a : Engine.Answers) : Option FetchCall :=
  match (p.prepare a).verdict with
  | .ok .ready => some ⟨(p.prepare a).pump.frames.bytes, a.fetch⟩
  | _ => none

/-- What is fetched in some pulls. -/
def fetches (p : Pump) : List (Pull T) → List FetchCall
  | [] => []
  | x :: rest =>
    (p.fetch? x.answers).toList ++ (p.tick x.surface x.answers).pump.fetches rest

omit [Drawable T] in
/-- Making room for a frame writes nothing but zeros. -/
theorem isFrom_fetch? {p : Pump} {earlier : List FetchCall} (h : FetchCall.IsFrom earlier p.frames.bytes)
    {a : Engine.Answers} {x : FetchCall} (hx : p.fetch? a = some x) : FetchCall.IsFrom earlier x.buffer := by
  unfold fetch? at hx
  split at hx
  · rename_i hready
    cases hx
    obtain ⟨r, g, replaced, frames, -, -, hfit, hpump, -⟩ := prepare_of_ready hready
    obtain ⟨-, -, rfl⟩ := FrameBuffer.fit_eq_ok_iff.mp hfit
    have hbytes : (p.prepare a).pump.frames.bytes = (p.frames.resize g.size).bytes := by
      rw [hpump]
      rfl
    rw [hbytes]
    unfold FrameBuffer.resize
    split
    · exact h
    · exact .inl (by simp)
  · cases hx

/-- What a tick fetched is all that it leaves in the buffer. -/
theorem isFrom_tick {p : Pump} {earlier : List FetchCall} (h : FetchCall.IsFrom earlier p.frames.bytes)
    (s : Surface T) (a : Engine.Answers) :
    FetchCall.IsFrom (earlier ++ (p.fetch? a).toList) (p.tick s a).pump.frames.bytes := by
  unfold fetch?
  by_cases hv : (p.prepare a).verdict = .ok .ready
  · simp only [hv, tick_of_ready s hv]
    rw [pump_deliver]
    refine .inr ⟨_, List.getLast?_concat .., ?_⟩
    exact FrameBuffer.bytes_load _ _
  · obtain ⟨hpump, -⟩ := tick_of_not_ready s hv
    rw [hpump]
    split
    · exact absurd ‹_› hv
    · rw [Option.toList_none, List.append_nil]
      exact h

/-- After some pulls the buffer holds zeros or what was fetched last. -/
theorem isFrom_after {p : Pump} {before : List FetchCall} (h : FetchCall.IsFrom before p.frames.bytes)
    (xs : List (Pull T)) : FetchCall.IsFrom (before ++ p.fetches xs) (p.after xs).frames.bytes := by
  induction xs generalizing p before with
  | nil =>
    rw [fetches, List.append_nil]
    exact h
  | cons y ys ih =>
    have hnext := ih (isFrom_tick h y.surface y.answers)
    rw [List.append_assoc] at hnext
    exact hnext

/-- **Every fetch finds zeros or what the one before it left.**  Nothing that is in the buffer comes from
anywhere else. -/
theorem isFrom_of_fetches_eq {p : Pump} {before : List FetchCall}
    (h : FetchCall.IsFrom before p.frames.bytes) {xs : List (Pull T)} {earlier later : List FetchCall}
    {x : FetchCall} (hxs : p.fetches xs = earlier ++ x :: later) :
    FetchCall.IsFrom (before ++ earlier) x.buffer := by
  induction xs generalizing p before earlier with
  | nil => simp [fetches] at hxs
  | cons y ys ih =>
    have hnext := isFrom_tick h y.surface y.answers
    unfold fetches at hxs
    cases hy : p.fetch? y.answers with
    | none =>
      rw [hy, Option.toList_none, List.append_nil] at hnext
      rw [hy] at hxs
      exact ih hnext hxs
    | some first =>
      rw [hy, Option.toList_some] at hnext hxs
      cases earlier with
      | nil =>
        obtain ⟨rfl, -⟩ := List.cons.inj hxs
        rw [List.append_nil]
        exact isFrom_fetch? h hy
      | cons second earlier =>
        obtain ⟨rfl, hrest⟩ := List.cons.inj hxs
        rw [List.append_cons]
        exact ih hnext hrest

end Pump

end DeskView
