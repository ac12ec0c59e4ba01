import DeskView.Proofs.Surface.Commits

/-!
# What an abandoned transaction leaves behind

A begin opens a transaction and does nothing else.  What was drawn in an earlier one, which a begin and
not a commit brought to its end, is still on the back canvas, and the next commit posts it with the rest
(`MemoryTarget.abandoned_draws_are_posted`), wherever the later draws do not cover it.

`TargetCall.lastDrawn` says of each pixel what some calls make of it: the last draw that reaches it
decides, whatever was drawn there before.
-/

namespace DeskView

/-- The bytes that a call draws at the pixel `(x, y)` of a canvas, if it draws there. -/
def TargetCall.bytes? (x y : Nat) : TargetCall → Option (Array UInt8)
  | .draw image src dst =>
    if src.isEmpty || dst.isEmpty then none
    else
      (Canvas.sample image src dst x y).map fun s =>
        image.pixels.extract s (s + Canvas.bytesPerPixel)
  | .begin => none
  | .commit => none

/-- The bytes that the last one of some calls draws at a pixel, of those that draw there. -/
def TargetCall.lastDrawn (calls : List TargetCall) (x y : UInt32) : Option (Array UInt8) :=
  (calls.filterMap (bytes? x.toNat y.toNat)).getLast?

theorem TargetCall.lastDrawn_concat (calls : List TargetCall) (call : TargetCall) (x y : UInt32) :
    lastDrawn (calls ++ [call]) x y = (call.bytes? x.toNat y.toNat).or (lastDrawn calls x y) := by
  unfold lastDrawn
  rw [List.filterMap_append]
  cases hbytes : call.bytes? x.toNat y.toNat with
  | none => simp [hbytes]
  | some bytes => simp [hbytes]

/-- Once a transaction was begun, the calls since the last commit are those before the last begin, that
begin, and those after it. -/
theorem TargetCall.exists_abandoned {calls : List TargetCall}
    (h : .begin ∈ TargetCall.commit.sinceLast calls) :
    ∃ abandoned, TargetCall.commit.sinceLast calls =
      abandoned ++ .begin :: TargetCall.begin.sinceLast calls := by
  induction calls using List.reverseRecOn with
  | nil => simp at h
  | append_singleton calls call ih =>
    rw [sinceLast_concat] at h
    rw [sinceLast_concat, sinceLast_concat]
    cases call with
    | begin => exact ⟨TargetCall.commit.sinceLast calls, by simp⟩
    | commit => simp at h
    | draw image src dst =>
      obtain ⟨abandoned, hsplit⟩ := ih (by simpa using h)
      exact ⟨abandoned, by simp [hsplit]⟩

namespace Canvas

theorem pixel?_laid {c : Canvas} (hc : c.WellFormed) (call : TargetCall) {x y : UInt32}
    (hx : x < c.width) (hy : y < c.height) :
    (c.laid call).pixel? x y = (call.bytes? x.toNat y.toNat).or (c.pixel? x y) := by
  cases call with
  | begin => rfl
  | commit => rfl
  | draw image src dst =>
    simp only [laid, TargetCall.bytes?]
    split
    · rfl
    · rw [pixel?_overlay hc image src dst hx hy]
      cases sample image src dst x.toNat y.toNat <;> rfl

/-- **Pixels under several draws.**  A pixel has the bytes of the last draw that reaches it, and what it
had before if none does. -/
theorem pixel?_overlaid {c : Canvas} (hc : c.WellFormed) (calls : List TargetCall) {x y : UInt32}
    (hx : x < c.width) (hy : y < c.height) :
    (c.overlaid calls).pixel? x y = (TargetCall.lastDrawn calls x y).or (c.pixel? x y) := by
  induction calls using List.reverseRecOn with
  | nil => rfl
  | append_singleton calls call ih =>
    obtain ⟨hw, hh, -, hwf⟩ := c.overlaid_size calls
    rw [overlaid_concat, pixel?_laid (hwf hc) call (hw ▸ hx) (hh ▸ hy), ih]
    rw [TargetCall.lastDrawn_concat, Option.or_assoc]

/-- Some draws after others: the later ones decide where they reach. -/
theorem pixel?_overlaid_overlaid {c : Canvas} (hc : c.WellFormed) (first second : List TargetCall)
    {x y : UInt32} (hx : x < c.width) (hy : y < c.height) :
    ((c.overlaid first).overlaid second).pixel? x y =
      (TargetCall.lastDrawn second x y).or
        ((TargetCall.lastDrawn first x y).or (c.pixel? x y)) := by
  obtain ⟨hw, hh, -, hwf⟩ := c.overlaid_size first
  rw [pixel?_overlaid (hwf hc) second (hw ▸ hx) (hh ▸ hy), pixel?_overlaid hc first hx hy]

/-- Some draws leave no trace under others exactly if they change no pixel beside them. -/
theorem pixels_overlaid_eq_iff {c : Canvas} (hc : c.WellFormed) (first second : List TargetCall) :
    ((c.overlaid first).overlaid second).pixels = (c.overlaid second).pixels ↔
      ∀ x y : UInt32, x < c.width → y < c.height → TargetCall.lastDrawn second x y = none →
        (TargetCall.lastDrawn first x y).or (c.pixel? x y) = c.pixel? x y := by
  obtain ⟨hw, hh, -, hwf⟩ := c.overlaid_size (first ++ second)
  obtain ⟨hw', hh', -, hwf'⟩ := c.overlaid_size second
  rw [← overlaid_append, pixels_eq_iff (hwf hc) (hwf' hc) (hw.trans hw'.symm) (hh.trans hh'.symm),
    hw, hh]
  refine forall₂_congr fun x y => forall₂_congr fun hx hy => ?_
  rw [overlaid_append, pixel?_overlaid_overlaid hc first second hx hy, pixel?_overlaid hc second hx hy]
  cases TargetCall.lastDrawn second x y <;> simp

end Canvas

namespace MemoryTarget

open Drawable TargetCall

/-- On the back canvas the draws of the current transaction lie over those of abandoned ones. -/
theorem Recorded.exists_abandoned {width height : UInt32} {done : List (MemoryTarget × TargetCall)}
    {t : MemoryTarget} (h : Recorded width height done t) (hopen : t.inTransaction = true) :
    let current := TargetCall.begin.sinceLast (done.map Prod.snd)
    ∃ abandoned,
      TargetCall.commit.sinceLast (done.map Prod.snd) = abandoned ++ .begin :: current ∧
        t.back = (t.front.overlaid abandoned).overlaid current := by
  intro current
  obtain ⟨abandoned, hsplit⟩ := TargetCall.exists_abandoned (h.isOpen.mp hopen)
  refine ⟨abandoned, hsplit, ?_⟩
  rw [h.drawn, hsplit, Canvas.overlaid_append]
  -- the begin between them draws nothing
  rfl

/-- **Abandoned draws are posted.**  A commit that succeeds posts all that was drawn since the one before
it, also in transactions that were given up: a begin discards nothing.  Each pixel has the bytes of the
last draw that reached it in the current transaction, else those of the last one before, else what was
posted before.

So what is posted is what the current transaction alone would post exactly if the draws before it left
what was posted wherever the current ones do not reach. -/
theorem abandoned_draws_are_posted {width height : UInt32} {fresh : MemoryTarget}
    (hfresh : new? width height = some fresh) (calls : List TargetCall)
    (hcommit : (after fresh calls).commit.1 = .ok ()) :
    let t := after fresh calls
    let done := (journal fresh calls).map Prod.snd
    let current := TargetCall.begin.sinceLast done
    let posted := t.commit.2.front
    ∃ abandoned, TargetCall.commit.sinceLast done = abandoned ++ .begin :: current ∧
      posted.pixels = ((t.front.overlaid abandoned).overlaid current).pixels ∧
      (∀ x y : UInt32, x < width → y < height →
        posted.pixel? x y =
          (lastDrawn current x y).or ((lastDrawn abandoned x y).or (t.front.pixel? x y))) ∧
      (posted.pixels = (t.front.overlaid current).pixels ↔
        ∀ x y : UInt32, x < width → y < height → lastDrawn current x y = none →
          (lastDrawn abandoned x y).or (t.front.pixel? x y) = t.front.pixel? x y) := by
  intro t done current posted
  obtain ⟨-, rfl⟩ := new?_eq_some_iff.mp hfresh
  have h : Recorded width height (journal (new width height) calls) t :=
    recorded_after width height calls
  obtain ⟨hopen, hposted⟩ : t.inTransaction = true ∧
      posted = { t.back with posted := t.back.posted + 1 } := by
    rcases h.commit_spec with ⟨hopen, hspec⟩ | ⟨-, hspec⟩
    · exact ⟨hopen, congrArg (·.2.front) hspec⟩
    · rw [hspec] at hcommit
      cases hcommit
  obtain ⟨abandoned, hsplit, hback⟩ := h.exists_abandoned hopen
  have hpixels : posted.pixels = ((t.front.overlaid abandoned).overlaid current).pixels := by
    rw [hposted, hback]
  refine ⟨abandoned, hsplit, hpixels, fun x y hx hy => ?_, ?_⟩
  · -- that the commit is counted does not show in the pixels
    rw [hposted]
    change t.back.pixel? x y = _
    rw [hback]
    exact Canvas.pixel?_overlaid_overlaid h.wellFormed abandoned current (h.width ▸ hx) (h.height ▸ hy)
  · rw [hpixels, Canvas.pixels_overlaid_eq_iff h.wellFormed, h.width, h.height]

/-- Two pixels are drawn, and then a draw is refused.  The next transaction draws the left one again, and
the right one is posted as it was drawn before. -/
theorem abandoned_draws_are_posted_beside :
    let image : Image := ⟨2, 1, .rgba8, #[1, 2, 3, 4, 5, 6, 7, 8]⟩
    let later : Image := ⟨1, 1, .rgba8, #[9, 9, 9, 9]⟩
    let t := after (new 2 1) [.begin, .draw image (.sized 2 1) (.sized 2 1),
      .draw ⟨1, 1, .rgb565, #[0, 0]⟩ (.sized 1 1) (.sized 1 1), .begin,
      .draw later (.sized 1 1) (.sized 1 1)]
    new? 2 1 = some (new 2 1) ∧ t.commit.1 = .ok () ∧ t.commit.2.front.pixel? 0 0 = some #[9, 9, 9, 9] ∧
      t.commit.2.front.pixel? 1 0 = some #[5, 6, 7, 8] := by
  intro image later t
  have hfresh : new? 2 1 = some (new 2 1) := rfl
  have hcommit : t.commit.1 = .ok () := by decide
  obtain ⟨abandoned, hsplit, -, hpixel, -⟩ := abandoned_draws_are_posted hfresh
    [.begin, .draw image (.sized 2 1) (.sized 2 1),
      .draw ⟨1, 1, .rgb565, #[0, 0]⟩ (.sized 1 1) (.sized 1 1), .begin,
      .draw later (.sized 1 1) (.sized 1 1)] hcommit
  have habandoned : [.begin, .draw image (.sized 2 1) (.sized 2 1)] = abandoned :=
    List.append_cancel_right hsplit
  subst habandoned
  refine ⟨hfresh, hcommit, ?_, ?_⟩
  · rw [hpixel 0 0 (by decide) (by decide)]
    decide
  · rw [hpixel 1 0 (by decide) (by decide)]
    decide

/-- A begin discards nothing: the pixel that was drawn before it is posted with none drawn after it. -/
theorem not_begin_discards :
    ¬ ∀ (width height : UInt32) (fresh : MemoryTarget) (calls : List TargetCall),
      let t := after fresh calls
      let done := (journal fresh calls).map Prod.snd
      new? width height = some fresh → t.commit.1 = .ok () →
      t.commit.2.front.pixels = (t.front.overlaid (TargetCall.begin.sinceLast done)).pixels := by
  intro h
  have hpixels := h 1 1 (new 1 1) [.begin, .draw ⟨1, 1, .rgba8, #[1, 2, 3, 4]⟩ (.sized 1 1) (.sized 1 1),
    .draw ⟨1, 1, .rgb565, #[0, 0]⟩ (.sized 1 1) (.sized 1 1), .begin] rfl (by decide)
  revert hpixels
  decide

end MemoryTarget

end DeskView
