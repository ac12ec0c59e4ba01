import DeskView.Proofs.Surface.Memory
import DeskView.Proofs.Surface.Transactions

/-!
# What earlier frames leave behind

An in-memory target keeps its canvas, and each frame is laid over what is there.  So a frame decides
what is shown only where it reaches (`Image.reaches`): beside a letterboxed frame, and everywhere if the
frame has no pixels, the earlier ones show.

Of the history no more is needed than that every in-memory target stays at rest
(`Surface.canvasesAtRest_run`), whatever frames it is handed, and whatever other targets are bound
before and after.
-/

namespace DeskView

/-! ### Where a frame reaches -/

/-- Whether an image that is drawn whole on `dst` has a pixel for the place `(x, y)`. -/
def Image.reaches (image : Image) (dst : Rect) (x y : Nat) : Bool :=
  !(Rect.sized image.width image.height).isEmpty && dst.contains x y

namespace Canvas

variable {image : Image} {dst : Rect}

theorem sample_of_reaches (hformat : image.format.bytesPerPixel = bytesPerPixel)
    (himage : image.WellFormed) (dst : Rect) (x y : Nat) :
    sample image (.sized image.width image.height) dst x y =
      if image.reaches dst x y then some (nearest image.width.toNat image.height.toNat dst x y)
      else none := by
  cases hempty : (Rect.sized image.width image.height).isEmpty with
  | true =>
    rw [sample_eq_none_of_isEmpty hformat himage (by rw [hempty, Bool.true_or])]
    simp [Image.reaches, hempty]
  | false =>
    obtain ⟨hw, hh⟩ := Rect.isEmpty_eq_false_iff.mp hempty
    rw [sample_whole hformat himage hw hh]
    simp [Image.reaches, hempty]

/-- What a posted frame does to a pixel: it shows where it reaches, and nothing changes elsewhere. -/
theorem pixel?_posting {c : Canvas} (hc : c.WellFormed)
    (hformat : image.format.bytesPerPixel = bytesPerPixel) (himage : image.WellFormed) (dst : Rect)
    {x y : UInt32} (hx : x < c.width) (hy : y < c.height) :
    (c.posting image dst).pixel? x y =
      if image.reaches dst x.toNat y.toNat then
        let s := nearest image.width.toNat image.height.toNat dst x.toNat y.toNat
        some (image.pixels.extract s (s + bytesPerPixel))
      else c.pixel? x y := by
  -- that the frame is counted does not show in the pixels
  change (c.overlay image (.sized image.width image.height) dst).pixel? x y = _
  rw [pixel?_overlay hc _ _ _ hx hy, sample_of_reaches hformat himage]
  cases image.reaches dst x.toNat y.toNat <;> rfl

theorem WellFormed.posting {c : Canvas} (hc : c.WellFormed) (image : Image) (dst : Rect) :
    (c.posting image dst).WellFormed := hc.overlay image (.sized image.width image.height) dst

/-- A blank canvas has the colour of zeros everywhere. -/
theorem pixel?_blank {width height x y : UInt32} (hx : x < width) (hy : y < height) :
    (blank width height).pixel? x y = some #[0, 0, 0, 0] := by
  have hroom := offset_add_le (UInt32.lt_iff_toNat_lt.mp hx) (UInt32.lt_iff_toNat_lt.mp hy)
  rw [pixel?_eq_some (wellFormed_blank width height) hx hy]
  unfold blank
  rw [Array.extract_replicate, Nat.min_eq_left hroom, Nat.add_sub_cancel_left]
  rfl

/-- A frame on a canvas shows what it shows on a blank one exactly if the canvas is blank wherever the
frame does not reach. -/
theorem pixels_posting_eq_iff {c : Canvas} (hc : c.WellFormed)
    (hformat : image.format.bytesPerPixel = bytesPerPixel) (himage : image.WellFormed) (dst : Rect) :
    (c.posting image dst).pixels = ((blank c.width c.height).posting image dst).pixels ↔
      ∀ x y, x < c.width → y < c.height → image.reaches dst x.toNat y.toNat = false →
        c.pixel? x y = some #[0, 0, 0, 0] := by
  have hblank := wellFormed_blank c.width c.height
  rw [pixels_eq_iff (hc.posting image dst) (hblank.posting image dst) rfl rfl]
  refine forall₂_congr fun x y => forall₂_congr fun (hx : x < c.width) (hy : y < c.height) => ?_
  rw [pixel?_posting hc hformat himage dst hx hy, pixel?_posting hblank hformat himage dst hx hy,
    pixel?_blank hx hy]
  cases image.reaches dst x.toNat y.toNat <;> simp

end Canvas

/-! ### Targets at rest -/

namespace MemoryTarget

/-- A commit of a target whose canvases have as many bytes shows what was drawn. -/
theorem commit_of_size {t : MemoryTarget} (ht : t.inTransaction = true)
    (hsize : t.front.pixels.size = t.back.pixels.size) :
    t.commit = (.ok (), ⟨{ t.back with posted := t.back.posted + 1 },
      { t.back with posted := t.back.posted + 1 }, false⟩) := by
  unfold commit
  rw [if_neg (by simp [ht])]
  dsimp only
  rw [if_pos hsize]

/-- A target stays at rest through a transaction with any image, also one that cannot be drawn or has
not all of its bytes. -/
theorem AtRest.transact {t : MemoryTarget} (ht : t.AtRest) (image : Image)
    (place : UInt32 × UInt32 → Rect) : (Drawable.transact t image place).target.AtRest := by
  obtain ⟨back, front, inTransaction⟩ := t
  obtain ⟨hshown, hwf, hexists⟩ := ht
  dsimp only at hshown hwf hexists
  subst hshown
  unfold Drawable.transact
  dsimp only [Drawable.begin, Drawable.draw, Drawable.commit, begin]
  generalize place (front.width, front.height) = dst
  rcases hdraw : draw ⟨front, front, true⟩ image (.sized image.width image.height) dst with
    ⟨u | e | _, drawn⟩
  · -- what is committed is the old canvas, or the image laid over it
    have hdrawn : drawn.inTransaction = true ∧ drawn.front.pixels.size = drawn.back.pixels.size ∧
        drawn.back.WellFormed ∧ Canvas.canExist drawn.back.width drawn.back.height = true := by
      rcases draw_cases ⟨front, front, true⟩ image (.sized image.width image.height) dst with
        hkept | hover
      · rw [hdraw] at hkept
        rw [show drawn = _ from hkept]
        exact ⟨rfl, rfl, hwf, hexists⟩
      · rw [hdraw] at hover
        rw [show drawn = _ from congrArg Prod.snd hover]
        exact ⟨rfl, by simp [Canvas.overlay], hwf.overlay image _ dst, hexists⟩
    obtain ⟨hopen, hsize, hback, hexists'⟩ := hdrawn
    dsimp only
    rw [commit_of_size hopen hsize]
    exact ⟨rfl, hback, hexists'⟩
  all_goals
    -- a draw that fails leaves both canvases alone
    rcases draw_cases ⟨front, front, true⟩ image (.sized image.width image.height) dst with
      hkept | hover
    · rw [hdraw] at hkept
      rw [show drawn = _ from hkept]
      exact ⟨rfl, hwf, hexists⟩
    · rw [hdraw] at hover
      cases hover

end MemoryTarget

/-- A target that answers as another one does runs the same transactions. -/
theorem Drawable.transact_of_answers {T U : Type} [Drawable T] [Drawable U] (f : T → U)
    (hbegin : ∀ t, begin (f t) = (begin t).map id f)
    (hdraw : ∀ t image src dst, draw (f t) image src dst = (draw t image src dst).map id f)
    (hcommit : ∀ t, commit (f t) = (commit t).map id f) (t : T) (image : Image)
    (place : UInt32 × UInt32 → Rect) :
    transact (f t) image place =
      ⟨(transact t image place).outcome, f (transact t image place).target,
        (transact t image place).calls⟩ := by
  unfold transact
  rw [hbegin]
  rcases begin t with ⟨canvas | e | _, begun⟩
  · dsimp only [Prod.map, id_eq]
    rw [hdraw]
    rcases draw begun image (.sized image.width image.height) (place canvas) with ⟨u | e | _, drawn⟩
    · dsimp only [Prod.map, id_eq]
      rw [hcommit]
      rfl
    · rfl
    · rfl
  · rfl
  · rfl

namespace StandIn

theorem transact_memory (t : MemoryTarget) (image : Image) (place : UInt32 × UInt32 → Rect) :
    Drawable.transact (memory t) image place =
      ⟨(Drawable.transact t image place).outcome, .memory (Drawable.transact t image place).target,
        (Drawable.transact t image place).calls⟩ :=
  Drawable.transact_of_answers memory (fun _ => rfl) (fun _ _ _ _ => rfl) (fun _ => rfl) t image place

theorem transact_recorder (r : Recorder) (image : Image) (place : UInt32 × UInt32 → Rect) :
    Drawable.transact (recorder r) image place =
      ⟨(Drawable.transact r image place).outcome, .recorder (Drawable.transact r image place).target,
        (Drawable.transact r image place).calls⟩ :=
  Drawable.transact_of_answers recorder (fun _ => rfl) (fun _ _ _ _ => rfl) (fun _ => rfl) r image place

end StandIn

namespace Surface

/-- Every in-memory target that was ever bound is at rest. -/
def CanvasesAtRest (s : Surface StandIn) : Prop :=
  ∀ (id : Nat) (t : MemoryTarget), s.targets[id]? = some (.memory t) → t.AtRest

/-- The canvas that a target shows, if it is one in memory. -/
def shown? (s : Surface StandIn) (id : Nat) : Option Canvas := (s.targets[id]?).bind StandIn.front?

theorem CanvasesAtRest.apply {s : Surface StandIn} (hs : s.CanvasesAtRest)
    {event : SurfaceEvent StandIn}
    (hnew : ∀ t, event = .created (.memory t) → t.IsNew) : (s.apply event).CanvasesAtRest := by
  cases event with
  | created target =>
    intro id t ht
    change (s.targets.push target)[id]? = some (.memory t) at ht
    rw [Array.getElem?_push] at ht
    split at ht
    · cases ht
      exact (hnew _ rfl).atRest
    · exact hs id t ht
  | changed width height format => exact hs
  | destroyed => exact hs

theorem CanvasesAtRest.present {s : Surface StandIn} (hs : s.CanvasesAtRest) (image : Image) :
    (s.present image).surface.CanvasesAtRest := by
  rcases present_cases s image with ⟨-, hp⟩ | ⟨id, target, -, hbound, hsurface, -, -⟩
  · rw [hp]
    exact hs
  · rw [hsurface]
    intro id' t ht
    dsimp only at ht
    by_cases hid : id = id'
    · subst hid
      have hlt : id < s.targets.size :=
        (Array.getElem?_eq_some_iff.mp (bound?_eq_some_iff.mp hbound).2).1
      rw [Array.getElem?_setIfInBounds_self_of_lt hlt, Option.some.injEq] at ht
      cases target with
      | memory old =>
        rw [StandIn.transact_memory] at ht
        cases ht
        exact (hs id old (bound?_eq_some_iff.mp hbound).2).transact image _
      | recorder r =>
        rw [StandIn.transact_recorder] at ht
        cases ht
    · rw [Array.getElem?_setIfInBounds_ne hid] at ht
      exact hs id' t ht

/-- Whatever is done with a surface, its in-memory targets stay at rest, provided that they are new when
they are bound. -/
theorem canvasesAtRest_run (scale : ScaleMode) (uses : List (Use StandIn))
    (hnew : ∀ t, .surface (.created (.memory t)) ∈ uses → t.IsNew) :
    (run { scale } uses).CanvasesAtRest := by
  induction uses using List.reverseRecOn with
  | nil =>
    intro id t ht
    cases ht
  | append_singleton uses u ih =>
    have hrest := ih fun t ht => hnew t (List.mem_append_left _ ht)
    rw [run_concat]
    cases u with
    | surface event =>
      refine hrest.apply fun t ht => hnew t ?_
      rw [ht]
      exact List.mem_append_right _ (List.mem_singleton_self _)
    | present image => exact hrest.present image

/-- **What a frame posts.**  A 32-bit frame that is presented while an in-memory target at rest is bound
is drawn, and the canvas that is posted is the one that was, with the frame laid over it. -/
theorem shown?_present {s : Surface StandIn} {id : Nat} {t : MemoryTarget} (hvalid : s.valid = true)
    (hbound : s.bound? = some (id, .memory t)) (ht : t.AtRest) {image : Image}
    (hformat : image.format.bytesPerPixel = Canvas.bytesPerPixel) (himage : image.WellFormed) :
    (s.present image).outcome = .ok .drawn ∧
      (s.present image).surface.shown? id =
        some (t.front.posting image (s.place image (t.front.width, t.front.height))) := by
  obtain ⟨-, htarget, houtcome, hkept⟩ := present_of_bound hvalid hbound image
  rw [StandIn.transact_memory, MemoryTarget.transact_of_atRest ht hformat himage] at htarget houtcome
  constructor
  · exact (outcome_eq_drawn_iff hkept).mpr houtcome
  · rw [shown?, htarget]
    rfl

/-- A target that is bound can be drawn on. -/
theorem Follows.valid_of_bound? {T : Type} {s : Surface T} {events : List (SurfaceEvent T)}
    (h : s.Follows events) {id : Nat} {target : T} (hbound : s.bound? = some (id, target)) :
    s.valid = true := by
  rw [h.valid, (bound?_eq_some_iff.mp hbound).1]
  rfl

/-- **Earlier frames show wherever the last one does not reach.**  Whatever was done with a surface, a
32-bit frame that is presented while an in-memory target is bound is drawn, as it is on a surface of the
same scale mode and the same size with a new target as large as that one, which there can be.

Where the frame reaches, both canvases show the same.  Elsewhere the new one is blank, and the other one
shows what it showed before.  So the two canvases are the same exactly if the old one was blank wherever
the frame does not reach. -/
theorem earlier_frames_remain (scale : ScaleMode) (uses : List (Use StandIn))
    (hnew : ∀ t, .surface (.created (.memory t)) ∈ uses → t.IsNew)
    {id : Nat} {t : MemoryTarget} (hbound : (run { scale } uses).bound? = some (id, .memory t))
    {image : Image} (hformat : image.format.bytesPerPixel = Canvas.bytesPerPixel)
    (himage : image.WellFormed) (format : PixelFormat) :
    let s := run { scale } uses
    let fresh := run { scale }
      [.surface (.created (.memory (.new t.front.width t.front.height))),
        .surface (.changed s.width s.height format)]
    let reached x y := image.reaches (s.place image (t.front.width, t.front.height))
      (UInt32.toNat x) (UInt32.toNat y)
    MemoryTarget.IsNew (.new t.front.width t.front.height) ∧
    (s.present image).outcome = .ok .drawn ∧ (fresh.present image).outcome = .ok .drawn ∧
    ∃ shown clean, (s.present image).surface.shown? id = some shown ∧
      (fresh.present image).surface.shown? 0 = some clean ∧
      (shown.width, shown.height) = (clean.width, clean.height) ∧
      (∀ x y, x < t.front.width → y < t.front.height →
        (reached x y = true → shown.pixel? x y = clean.pixel? x y) ∧
        (reached x y = false → shown.pixel? x y = t.front.pixel? x y ∧
          clean.pixel? x y = some #[0, 0, 0, 0])) ∧
      (shown.pixels = clean.pixels ↔
        ∀ x y, x < t.front.width → y < t.front.height → reached x y = false →
          t.front.pixel? x y = some #[0, 0, 0, 0]) := by
  intro s fresh reached
  have hrest : t.AtRest :=
    canvasesAtRest_run scale uses hnew id t (bound?_eq_some_iff.mp hbound).2
  have hwf := hrest.wellFormed
  have hfresh : MemoryTarget.IsNew (.new t.front.width t.front.height) :=
    ⟨_, _, MemoryTarget.new?_eq_some_iff.mpr ⟨hrest.canExist, rfl⟩⟩
  have hblank := Canvas.wellFormed_blank t.front.width t.front.height
  obtain ⟨hfollows, hscale⟩ := follows_run (T := StandIn) scale uses
  obtain ⟨hdrawn, hshown⟩ :=
    shown?_present (hfollows.valid_of_bound? hbound) hbound hrest hformat himage
  obtain ⟨hdrawn', hclean⟩ := shown?_present (s := fresh) rfl rfl hfresh.atRest hformat himage
  -- the destination depends on the scale mode and the two sizes, which are the same
  have hplace : fresh.place image (t.front.width, t.front.height) =
      s.place image (t.front.width, t.front.height) := by
    unfold place extent
    rw [show s.scale = scale from hscale]
    rfl
  change _ = some ((Canvas.blank t.front.width t.front.height).posting image
    (fresh.place image (t.front.width, t.front.height))) at hclean
  rw [hplace] at hclean
  refine ⟨hfresh, hdrawn, hdrawn', _, _, hshown, hclean, rfl, fun x y hx hy => ?_,
    Canvas.pixels_posting_eq_iff hwf hformat himage _⟩
  rw [Canvas.pixel?_posting hwf hformat himage _ hx hy,
    Canvas.pixel?_posting hblank hformat himage _ hx hy, Canvas.pixel?_blank hx hy]
  constructor
  · intro hreached
    rw [if_pos hreached, if_pos hreached]
  · intro hreached
    have hmissed : ¬ reached x y = true := by simp [hreached]
    exact ⟨if_neg hmissed, if_neg hmissed⟩

/-- A frame that is stretched over all of the target shows nothing of the one before it. -/
theorem earlier_frames_remain_stretched :
    let uses : List (Use StandIn) := [.surface (.created (.memory (.new 2 2))),
      .present ⟨2, 2, .rgba8, Array.replicate 16 9⟩]
    let image : Image := ⟨2, 1, .rgba8, Array.replicate 8 7⟩
    let s := run { scale := .stretch } uses
    let fresh := run { scale := .stretch }
      [.surface (.created (.memory (.new 2 2))), .surface (.changed s.width s.height .rgba8)]
    ∃ shown clean, (s.present image).surface.shown? 0 = some shown ∧
      (fresh.present image).surface.shown? 0 = some clean ∧ shown.pixels = clean.pixels := by
  intro uses image s fresh
  have hnew : ∀ t, .surface (.created (.memory t)) ∈ uses → t.IsNew := by
    intro t ht
    simp only [uses, List.mem_cons, Use.surface.injEq, SurfaceEvent.created.injEq, StandIn.memory.injEq,
      reduceCtorEq, List.not_mem_nil, or_false] at ht
    exact ⟨2, 2, congrArg some ht.symm⟩
  have hbound : s.bound? = some (0, .memory
      ⟨⟨2, 2, Array.replicate 16 9, 1⟩, ⟨2, 2, Array.replicate 16 9, 1⟩, false⟩) := by decide
  obtain ⟨-, -, -, shown, clean, hshown, hclean, -, -, hsame⟩ :=
    earlier_frames_remain .stretch uses hnew hbound (show image.format.bytesPerPixel = 4 from rfl)
      (show image.WellFormed from rfl) .rgba8
  refine ⟨shown, clean, hshown, hclean, hsame.mpr fun x y hx hy hmissed => ?_⟩
  -- the frame reaches all four pixels
  change image.reaches (s.place image (2, 2)) x.toNat y.toNat = false at hmissed
  change x < 2 at hx
  change y < 2 at hy
  rw [UInt32.lt_iff_toNat_lt, show (2 : UInt32).toNat = 2 from rfl] at hx hy
  obtain hx | hx : x.toNat = 0 ∨ x.toNat = 1 := by omega
  all_goals
    obtain hy | hy : y.toNat = 0 ∨ y.toNat = 1 := by omega
    all_goals
      rw [hx, hy] at hmissed
      exact absurd hmissed (by decide)

/-- What is posted need not depend on the current frame only: a letterboxed frame that is wider than the
target leaves a row of the one before it below. -/
theorem not_posted_depends_on_frame_only :
    ¬ ∀ (scale : ScaleMode) (uses : List (Use StandIn)) (id : Nat) (t : MemoryTarget) (image : Image)
      (format : PixelFormat),
      (∀ t, .surface (.created (.memory t)) ∈ uses → t.IsNew) →
      (run { scale } uses).bound? = some (id, .memory t) →
      image.format.bytesPerPixel = Canvas.bytesPerPixel → image.WellFormed →
      let s := run { scale } uses
      let fresh := run { scale }
        [.surface (.created (.memory (.new t.front.width t.front.height))),
          .surface (.changed s.width s.height format)]
      (s.present image).outcome = .ok .drawn →
      ((s.present image).surface.shown? id).map (·.pixels) =
        ((fresh.present image).surface.shown? 0).map (·.pixels) := by
  intro h
  have hsame := h .letterbox [.surface (.created (.memory (.new 2 2))),
      .present ⟨2, 2, .rgba8, Array.replicate 16 9⟩] 0
    ⟨⟨2, 2, Array.replicate 16 9, 1⟩, ⟨2, 2, Array.replicate 16 9, 1⟩, false⟩
    ⟨2, 1, .rgba8, Array.replicate 8 7⟩ .rgba8
    (by simpa using ⟨2, 2, rfl⟩) (by decide) rfl rfl (by decide)
  revert hsame
  decide

end Surface

end DeskView
