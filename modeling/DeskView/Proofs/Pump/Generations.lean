import DeskView.Proofs.Frame.Room
import DeskView.Proofs.Pump.Playback

/-!
# When the bytes are replaced

A pump keeps its bytes from frame to frame and replaces them when the size that is reported changes.  The
sizes that count are those of the accepted ticks (`Engine.Answers.acceptedSize?`); what the fetch and the
surface make of a frame after that has no part in it.

`Pump.frames_tick` says what one tick does to the bytes, and `generation_counts_changes` what a history
comes to: as many replacements as the list of accepted sizes has changes.
-/

namespace DeskView

/-- How often the elements of a list change: the places whose element is not the one before it, the
first place included. -/
def changes (xs : List Nat) : Nat :=
  (List.range xs.length).countP fun i => i = 0 ∨ xs[i]? ≠ xs[i - 1]?

/-- One more element is one more change, unless it is the last over again. -/
theorem changes_concat (xs : List Nat) (x : Nat) :
    changes (xs ++ [x]) = changes xs + if xs.getLast? = some x then 0 else 1 := by
  have hearlier : (List.range xs.length).countP
        (fun i => i = 0 ∨ (xs ++ [x])[i]? ≠ (xs ++ [x])[i - 1]?) = changes xs := by
    apply List.countP_congr
    intro i hi
    have hi : i < xs.length := List.mem_range.mp hi
    rw [List.getElem?_append_left hi, List.getElem?_append_left (by omega)]
  have hlast : (xs ++ [x])[xs.length]? = some x := List.getElem?_concat_length
  have hplace : (xs.length = 0 ∨ (xs ++ [x])[xs.length]? ≠ (xs ++ [x])[xs.length - 1]?) ↔
      ¬ xs.getLast? = some x := by
    rw [hlast, List.getLast?_eq_getElem?]
    by_cases hnil : xs = []
    · simp [hnil]
    · have hpos : 0 < xs.length := List.length_pos_iff.mpr hnil
      rw [List.getElem?_append_left (by omega)]
      constructor
      · rintro (hzero | hne) heq
        · omega
        · exact hne heq.symm
      · intro hne
        exact .inr fun heq => hne heq.symm
  unfold changes at hearlier ⊢
  rw [List.length_append, List.length_singleton, List.range_succ, List.countP_append, hearlier,
    List.countP_singleton]
  by_cases h : xs.getLast? = some x
  · rw [if_pos h, if_neg (by simpa using fun hp => hplace.mp hp h)]
  · rw [if_neg h, if_pos (decide_eq_true (hplace.mpr h))]

example : changes [16, 8, 8, 16] = 3 := by decide

/-! ### Accepted ticks -/

namespace Engine.Answers

/-- The reported size of a frame that is accepted: all three questions are answered with a positive
number, and the size is enough for the width and the height. -/
def acceptedSize? (a : Answers) (format : PixelFormat) : Option Nat :=
  match a.size, a.width, a.height with
  | .ok size, .ok width, .ok height =>
    if 0 < size ∧ 0 < width ∧ 0 < height ∧
        width.toInt * height.toInt * format.bytesPerPixel ≤ size.toInt then
      some size.toInt.toNat
    else none
  | _, _, _ => none

/-- A size is accepted exactly if a geometry of that size is reported and has room for its pixels. -/
theorem acceptedSize?_eq_some_iff {a : Answers} {format : PixelFormat} {n : Nat} (id : String) :
    a.acceptedSize? format = some n ↔
      ∃ r g, (a.query id).result = .ok r ∧ r.geometry? = some g ∧
        Image.byteLength g.width g.height format ≤ g.size ∧ g.size = n := by
  constructor
  · intro h
    unfold acceptedSize? at h
    split at h
    · rename_i size width height hsize hwidth hheight
      split at h
      · rename_i haccepted
        obtain ⟨hpositive, hroom⟩ : (0 < size ∧ 0 < width ∧ 0 < height) ∧ _ := by
          simpa only [and_assoc] using haccepted
        have hgeometry : Reported.geometry? ⟨size, width, height⟩ =
            some ⟨size.toInt.toNat, width.toUInt32, height.toUInt32⟩ := if_pos hpositive
        obtain ⟨-, hgsize, hgwidth, hgheight⟩ := Reported.geometry?_eq_some_iff.mp hgeometry
        refine ⟨_, _, query_eq_ok_iff.mpr ⟨hsize, hwidth, hheight⟩, hgeometry, ?_,
          Option.some.inj h⟩
        dsimp only at hgsize hgwidth hgheight
        rw [← hgsize, ← hgwidth, ← hgheight] at hroom
        exact_mod_cast hroom
      · cases h
    · cases h
  · rintro ⟨r, g, hquery, hgeometry, hroom, rfl⟩
    obtain ⟨hsize, hwidth, hheight⟩ := query_eq_ok_iff.mp hquery
    obtain ⟨⟨hpsize, hpwidth, hpheight⟩, hgsize, hgwidth, hgheight⟩ :=
      Reported.geometry?_eq_some_iff.mp hgeometry
    have henough : r.width.toInt * r.height.toInt * format.bytesPerPixel ≤ r.size.toInt := by
      rw [← hgsize, ← hgwidth, ← hgheight]
      exact_mod_cast hroom
    unfold acceptedSize?
    rw [hsize, hwidth, hheight]
    dsimp only
    rw [if_pos ⟨hpsize, hpwidth, hpheight, henough⟩, ← hgsize]
    rfl

theorem acceptedSize?_pos {a : Answers} {format : PixelFormat} {n : Nat}
    (h : a.acceptedSize? format = some n) : 0 < n := by
  obtain ⟨r, g, -, hgeometry, -, rfl⟩ := (acceptedSize?_eq_some_iff "").mp h
  obtain ⟨⟨hpositive, -⟩, hsize, -⟩ := Reported.geometry?_eq_some_iff.mp hgeometry
  have hzero : (0 : Int32).toInt = 0 := rfl
  rw [Int32.lt_iff_toInt_lt, ← hsize] at hpositive
  omega

end Engine.Answers

namespace Pump

variable {T : Type} [Drawable T]

/-- Neither the fetch nor the surface has a part in how many bytes there are, or how often they were
replaced. -/
theorem frames_deliver (p : Pump) (s : Surface T) (f : Engine.Fetch) :
    (p.deliver s f).pump.frames.bytes.size = p.frames.bytes.size ∧
      (p.deliver s f).pump.frames.generation = p.frames.generation := by
  rcases deliver_cases p s f with ⟨e, -, hd⟩ | ⟨-, hd⟩ |
    ⟨-, ⟨e, -, hd⟩ | ⟨image, frames, hstage, hd⟩⟩ <;> rw [hd]
  · simp
  · simp
  · simp
  · rw [frames_conclude, FrameBuffer.eq_of_stage hstage]
    simp

/-- What a tick does to the bytes: nothing if its frame is not accepted; else there are as many as was
reported, and they were replaced if there were more or fewer before. -/
theorem frames_tick (p : Pump) (s : Surface T) (a : Engine.Answers) :
    (a.acceptedSize? p.frames.format = none ∧
      (p.tick s a).pump.frames.bytes.size = p.frames.bytes.size ∧
      (p.tick s a).pump.frames.generation = p.frames.generation) ∨
    ∃ n, a.acceptedSize? p.frames.format = some n ∧
      (p.tick s a).pump.frames.bytes.size = n ∧
      (p.tick s a).pump.frames.generation =
        p.frames.generation + if p.frames.bytes.size = n then 0 else 1 := by
  by_cases hv : (p.prepare a).verdict = .ok .ready
  · obtain ⟨r, g, replaced, frames, hquery, hgeometry, hfit, hpump, -⟩ := prepare_of_ready hv
    have hrefitted := FrameBuffer.refitted_of_fit hfit
    have hroom := (FrameBuffer.fit_eq_ok_iff.mp hfit).1
    obtain ⟨hsize, hgeneration⟩ := frames_deliver (p.prepare a).pump s a.fetch
    refine .inr ⟨g.size, (Engine.Answers.acceptedSize?_eq_some_iff p.session).mpr
      ⟨r, g, hquery, hgeometry, hroom, rfl⟩, ?_, ?_⟩
    · rw [tick_of_ready s hv]
      dsimp only
      rw [hsize, hpump]
      exact hrefitted.capacity
    · rw [tick_of_ready s hv]
      dsimp only
      rw [hgeneration, hpump]
      by_cases hsame : p.frames.bytes.size = g.size
      · have hkept : replaced.bytes = false := by
          rw [← Bool.not_eq_true, hrefitted.bytes]
          exact not_not.mpr hsame
        rw [if_pos hsame]
        exact (hrefitted.bytes_kept hkept).2.2
      · rw [if_neg hsame]
        exact (hrefitted.bytes_new (hrefitted.bytes.mpr hsame)).2.2
  · refine .inl ⟨?_, ?_⟩
    · rw [Option.eq_none_iff_forall_ne_some]
      intro n hn
      obtain ⟨r, g, hquery, hgeometry, hroom, -⟩ :=
        (Engine.Answers.acceptedSize?_eq_some_iff p.session).mp hn
      apply hv
      unfold prepare
      dsimp only
      rw [hquery]
      dsimp only
      rw [hgeometry]
      dsimp only
      rw [FrameBuffer.fit_of_le hroom]
    · rw [(tick_of_not_ready s hv).1]
      exact ⟨rfl, rfl⟩

end Pump

/-- The size that is accepted at a moment, if there is a tick and its frame is accepted. -/
def Moment.acceptedSize? {T : Type} (format : PixelFormat) : Moment T → Option Nat
  | .tick a => a.acceptedSize? format
  | .surface _ => none

/-- The sizes of the accepted ticks of a history. -/
def Moment.acceptedSizes {T : Type} (format : PixelFormat) (history : List (Moment T)) : List Nat :=
  history.filterMap (acceptedSize? format)

theorem Moment.acceptedSizes_concat {T : Type} (format : PixelFormat) (history : List (Moment T))
    (m : Moment T) : acceptedSizes format (history ++ [m]) =
      acceptedSizes format history ++ (m.acceptedSize? format).toList := by
  unfold acceptedSizes
  rw [List.filterMap_append]
  cases h : m.acceptedSize? format <;> simp [h]

namespace Playback

variable {T : Type} [Drawable T]

/-- The bytes are those of the last of some sizes, and were replaced as often as the sizes changed. -/
structure Counted (p : Playback T) (sizes : List Nat) : Prop where
  generation : p.pump.frames.generation = changes sizes
  capacity : p.pump.frames.bytes.size = sizes.getLast?.getD 0

/-- A moment goes on counting: an accepted tick adds its size, and everything else adds nothing. -/
theorem Counted.step {p : Playback T} {sizes : List Nat} (h : p.Counted sizes) (m : Moment T) :
    (p.step m).Counted (sizes ++ (m.acceptedSize? p.pump.frames.format).toList) := by
  cases m with
  | surface event =>
    rw [Moment.acceptedSize?, Option.toList_none, List.append_nil]
    exact ⟨h.generation, h.capacity⟩
  | tick a =>
    rw [Moment.acceptedSize?]
    rcases p.pump.frames_tick p.surface a with ⟨hnone, hkept, hold⟩ | ⟨n, hsome, hnew, hcounted⟩
    · rw [hnone, Option.toList_none, List.append_nil]
      exact ⟨hold.trans h.generation, hkept.trans h.capacity⟩
    · -- an accepted size is positive, so it is never that of the buffer before the first one
      have hpositive := Engine.Answers.acceptedSize?_pos hsome
      have hsame : p.pump.frames.bytes.size = n ↔ sizes.getLast? = some n := by
        rw [h.capacity]
        cases sizes.getLast? with
        | none => simp [Nat.ne_of_lt hpositive]
        | some last => simp
      rw [hsome, Option.toList_some]
      constructor
      · rw [changes_concat, ← h.generation, ← if_congr hsame rfl rfl]
        exact hcounted
      · rw [List.getLast?_concat]
        exact hnew

/-- **The replacements of the bytes are the changes of the accepted size.**  Let a pump tick with any
answers of the engine and on any surface, whatever becomes of a frame that is accepted.  The generation
of its frame buffer is the number of accepted ticks whose size is not that of the accepted tick before,
the first included; and the buffer has as many bytes as the last accepted tick reported, none if there
was no such tick. -/
theorem generation_counts_changes (session : String) (config : PumpSettings) (surface : Surface T)
    (history : List (Moment T)) :
    let p : Playback T := run ⟨.new session config, surface⟩ history
    let sizes := Moment.acceptedSizes config.format history
    p.pump.frames.generation = changes sizes ∧
      p.pump.frames.bytes.size = sizes.getLast?.getD 0 := by
  have hformat : ∀ earlier, (run ⟨.new session config, surface⟩ earlier).pump.frames.format =
      config.format := fun earlier =>
    (sound_frames_run (p := ⟨.new session config, surface⟩)
      (FrameBuffer.sound_new config.format) earlier).2
  have hcounted : (run ⟨.new session config, surface⟩ history).Counted
      (Moment.acceptedSizes config.format history) := by
    refine run_induction (P := fun earlier q => q.Counted (Moment.acceptedSizes config.format earlier))
      ⟨rfl, rfl⟩ ?_ history
    intro earlier m h
    have hstep := h.step m
    rw [hformat earlier, ← Moment.acceptedSizes_concat] at hstep
    exact hstep
  exact ⟨hcounted.generation, hcounted.capacity⟩

end Playback

end DeskView
